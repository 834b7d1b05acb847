import DeskCalc.Proofs.Binary64.Floats
import DeskCalc.Proofs.Decimal.Literal
import DeskCalc.Proofs.Token.Blanks
import DeskCalc.Proofs.Token.Names

/-!
# Nothing is lost in reading

A text that is read as tokens falls into pieces, one for each token in their order, and blanks after
the last one. A piece without its blanks is the name of its token: blanks stand in front of a token,
and between a minus sign and the numeral that it belongs to, but nowhere else in what a token is
read from (`visible_lexeme`). So no character that is no blank is lost, and none counts twice
(`scan_lossless`).
-/

namespace DeskCalc.Token

open DeskCalc.Text DeskCalc.Decimal DeskCalc.Binary64

/-- The pieces of a text that its tokens are read from, in their order, and the blanks after them.
A piece without its blanks is the name of its token. -/
structure Pieces (tokens : List Token) (s : List Char) (pieces : List (List Char))
    (gap : List Char) : Prop where
  text_eq : s = pieces.flatten ++ gap
  blank : gap.all isBlank = true
  names : List.Forall₂ (fun t piece => t.name.toList = visible piece) tokens pieces

/-- What tokens keep of the text that they are read from. -/
structure Lossless (tokens : List Token) (s : List Char) : Prop where
  /-- The names, one after the other, are the text without its blanks. -/
  names : tokens.flatMap (·.name.toList) = visible s
  /-- Every token has a piece of the text to itself. -/
  pieces : ∃ pieces gap, Pieces tokens s pieces gap
  /-- A number has the value that its name writes. -/
  value : ∀ value text, .number value text ∈ tokens →
    ∃ b, literal? text.toList = some b ∧ value = b.toFloat
  /-- No value is missing. -/
  isNaN : ∀ value text, .number value text ∈ tokens → value.isNaN = false

section
variable {folds : Bool} {t : Token} {tokens : List Token} {s gap lexeme : List Char}

/-! ## A token without its blanks -/

/-- **What a token is read from is its name and blanks.** -/
theorem visible_lexeme (h : Lexeme folds t lexeme) : visible lexeme = t.name.toList := by
  have hnumeral {run : List Char} (hrun : run.all isNumeral = true) : visible run = run :=
    visible_run (fun _ => isBlank_eq_false_of_isNumeral) hrun
  cases h with
  | numeral hrun =>
    rw [GenToken.name, String.toList_ofList]
    exact hnumeral hrun
  | @negative gap run _ _ hgap hrun =>
    have hsign : visible ['-'] = ['-'] := by decide
    have hlexeme : '-' :: gap ++ run = ['-'] ++ gap ++ run := rfl
    rw [GenToken.name, String.toList_ofList, hlexeme, visible_append, visible_append, hsign,
      visible_blanks hgap, hnumeral hrun]
    rfl
  | operator op => cases op <;> decide
  | func f => exact visible_run (fun _ => isBlank_eq_false_of_isLetter) (all_isLetter_name f)
  | paren opening => cases opening <;> decide

/-! ## A text in pieces -/

/-- A text that is read falls into the pieces of its tokens. -/
theorem exists_pieces_of_reads (h : Reads folds s tokens) :
    ∃ pieces gap, Pieces tokens s pieces gap := by
  induction h with
  | @done _ s h => exact ⟨[], s, rfl, first?_eq_none_iff.1 h, .nil⟩
  | @token _ s rest t tokens h _ ih =>
    obtain ⟨gap, lexeme, rfl, hgap, hlexeme, -⟩ := first?_eq_ok_iff.1 h
    obtain ⟨pieces, last, rfl, hlast, hnames⟩ := ih
    refine ⟨(gap ++ lexeme) :: pieces, last, ?_, hlast, .cons ?_ hnames⟩
    · rw [List.flatten_cons, List.append_assoc, List.append_assoc]
    · rw [visible_append, visible_blanks hgap, List.nil_append, visible_lexeme hlexeme]

/-- The names of the tokens are what is visible of their pieces. -/
theorem flatMap_name_eq {pieces : List (List Char)} (h : Pieces tokens s pieces gap) :
    tokens.flatMap (·.name.toList) = visible s := by
  obtain ⟨rfl, hblank, hnames⟩ := h
  rw [visible_append, visible_blanks hblank, List.append_nil, visible_flatten]
  induction hnames with
  | nil => rfl
  | cons hname _ ih => rw [List.flatMap_cons, List.flatMap_cons, hname, ih]

/-- A number that is read has the value of its name. -/
theorem exists_literal?_of_reads (h : Reads folds s tokens) {value : Float} {text : String}
    (hmem : .number value text ∈ tokens) :
    ∃ b, literal? text.toList = some b ∧ value = b.toFloat := by
  obtain ⟨_, b, -, -, hvalue⟩ := (signedFrom_iff.1 (signedFrom_of_reads h)).1 _ hmem
  exact ⟨b, hvalue⟩

/-- **Reading loses nothing but blanks.** -/
theorem scan_lossless {s : String} (h : scan s.toList = .ok tokens) :
    Lossless tokens s.toList := by
  have hreads := scanFrom_eq_ok_iff.1 h
  obtain ⟨pieces, gap, hpieces⟩ := exists_pieces_of_reads hreads
  refine ⟨flatMap_name_eq hpieces, ⟨pieces, gap, hpieces⟩, fun _ _ => ?_, fun value text hmem => ?_⟩
  · exact exists_literal?_of_reads hreads
  · obtain ⟨b, hb, rfl⟩ := exists_literal?_of_reads hreads hmem
    exact isNaN_toFloat (isNumber_of_literal? hb)

/-- Signs with blanks after them, two numerals side by side, and a minus sign that is an
operator. -/
theorem scan_lossless_signs :
    ∃ tokens, scan " - 3\t4-( - 5".toList = .ok tokens ∧
      tokens.map GenToken.name = ["-3", "4", "-", "(", "-5"] ∧
      Lossless tokens " - 3\t4-( - 5".toList := by
  obtain ⟨three, hthree⟩ := Option.isSome_iff_exists.1 (show (literal? ['-', '3']).isSome from rfl)
  obtain ⟨four, hfour⟩ := Option.isSome_iff_exists.1 (show (literal? ['4']).isSome from rfl)
  obtain ⟨five, hfive⟩ := Option.isSome_iff_exists.1 (show (literal? ['-', '5']).isSome from rfl)
  -- the text from its end
  have last : Reads true " - 5".toList _ := .token (first?_of_literal? hfive rfl) (.done rfl)
  have group : Reads true "( - 5".toList _ := .token rfl last
  have minus : Reads false "-( - 5".toList _ := .token rfl group
  have second : Reads false "\t4-( - 5".toList _ := .token (first?_of_literal? hfour rfl) minus
  have first : Reads true " - 3\t4-( - 5".toList _ := .token (first?_of_literal? hthree rfl) second
  have hscan := scanFrom_eq_ok_iff.2 first
  exact ⟨_, hscan, rfl, scan_lossless hscan⟩

end

end DeskCalc.Token
