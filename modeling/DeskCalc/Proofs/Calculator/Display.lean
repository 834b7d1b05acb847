import DeskCalc.Proofs.Calculator.Composition
import DeskCalc.Proofs.Postfix.Order
import DeskCalc.Proofs.Token.Names

/-!
# The displayed postfix form

A postfix form is shown as the names of its tokens with single blanks between them. What is shown
says which form it was (`ofText?_text`): no name is empty or holds a blank, and no name of an
operator or a function is a numeral, not even the minus sign, so a name tells the token
(`ofName?_name`). All this holds of every token that is read from a text, numerals with digits of
any script included, and the stack passes tokens on as they are.

So expressions that are shown alike have the same outcome (`postfixForm_shown`).
-/

namespace DeskCalc

open Text Decimal

namespace Token

/-- The token that a name shows: an operator or a function if a table lists the name, and a number
otherwise. -/
def ofName? (name : String) : Option Token :=
  ((Operator.ofName? name).map .operator).or <|
    ((Func.ofName? name).map .func).or <|
      (literal? name.toList).map fun v => .number v.toFloat name

section
variable {t : Token} {name : String} {v : Binary64}

/-- The name of an operator is no numeral. -/
theorem literal?_operator (op : Operator) : literal? op.name.toList = none := by
  cases op <;> rfl

/-- The name of a function is no numeral. -/
theorem literal?_func (f : Func) : literal? f.name.toList = none := by
  cases f <;> rfl

/-- A numeral is listed by no table. -/
theorem ofName?_of_literal? (h : literal? name.toList = some v) :
    ofName? name = some (.number v.toFloat name) := by
  have hoperator : Operator.ofName? name = none := by
    cases hname : Operator.ofName? name with
    | none => rfl
    | some op =>
      rw [← Operator.ofName?_eq_some_iff.1 hname, literal?_operator] at h
      cases h
  have hfunc : Func.ofName? name = none := by
    cases hname : Func.ofName? name with
    | none => rfl
    | some f =>
      rw [← Func.ofName?_eq_some_iff.1 hname, literal?_func] at h
      cases h
  rw [ofName?, hoperator, hfunc, h]
  rfl

/-- A token that is no parenthesis is told by its name. -/
theorem ofName?_name (hparen : t.isParen = false) (h : WritesNumber t) :
    ofName? t.name = some t := by
  cases t with
  | number value text =>
    obtain ⟨run, v, -, -, hvalue, rfl⟩ := h
    exact ofName?_of_literal? hvalue
  | operator op => rw [ofName?, GenToken.name, Operator.ofName?_name]; rfl
  | func f =>
    have hoperator : Operator.ofName? f.name = none := by cases f <;> rfl
    rw [ofName?, GenToken.name, hoperator, Func.ofName?_name]
    rfl
  | paren opening => cases hparen
  | unlisted kind name isBare => exact isBare.elim

/-- No name is empty. -/
theorem name_ne_empty (h : ofName? t.name = some t) : t.name ≠ "" := by
  intro hempty
  rw [hempty] at h
  cases h

/-- No name holds a blank. -/
theorem space_notMem_name (h : WritesNumber t) : ' ' ∉ t.name.toList := by
  cases t with
  | number value text =>
    obtain ⟨run, v, hrun, htext, -, -⟩ := h
    have hnone : ' ' ∉ run := fun hmem =>
      absurd (List.all_eq_true.1 hrun ' ' hmem) (by decide)
    rcases htext with htext | htext
    · rwa [GenToken.name, htext]
    · rw [GenToken.name, htext]
      intro hmem
      rcases List.mem_cons.1 hmem with hminus | hmem
      · cases hminus
      · exact hnone hmem
  | operator op => cases op <;> decide
  | func f => cases f <;> decide
  | paren opening => cases opening <;> decide
  | unlisted kind name isBare => exact isBare.elim

end

end Token

namespace Postfix

open Token

/-- The tokens of a form that is shown as the text. The empty text shows none. -/
def ofText? (text : String) : Option (List Token) :=
  if text = "" then some []
  else (text.toList.splitOn ' ').mapM fun name => ofName? (.ofList name)

section
variable {tokens form : List Token}

/-- What is shown is not empty, unless the form is. -/
theorem text_ne_empty (hne : form ≠ []) (hname : ∀ t ∈ form, t.name ≠ "") : text form ≠ "" := by
  intro hempty
  have htext : (text form).toList = [] := by rw [hempty]; rfl
  cases form with
  | nil => exact hne rfl
  | cons t rest =>
    have hfirst : t.name.toList = [] := by
      cases rest with
      | nil => simpa [text] using htext
      | cons u rest =>
        rw [toList_text_cons_cons, List.append_eq_nil_iff] at htext
        exact htext.1
    exact hname t (.head rest) (String.toList_eq_nil_iff.1 hfirst)

/-- Tokens that are told by their names are told by the list of these. -/
theorem mapM_ofName? (hname : ∀ t ∈ form, ofName? t.name = some t) :
    (form.map fun t => t.name.toList).mapM (fun name => ofName? (.ofList name)) = some form := by
  induction form with
  | nil => rfl
  | cons t rest ih =>
    obtain ⟨hfirst, hrest⟩ := List.forall_mem_cons.1 hname
    rw [List.map_cons, List.mapM_cons, String.ofList_toList, hfirst, ih hrest]
    rfl

/-- Tokens that are told by their names are told by what is shown of them. -/
theorem ofText?_text (hname : ∀ t ∈ form, ofName? t.name = some t)
    (hspace : ∀ t ∈ form, ' ' ∉ t.name.toList) : ofText? (text form) = some form := by
  by_cases hnil : form = []
  · rw [hnil]
    rfl
  have hsplit : (text form).toList.splitOn ' ' = form.map fun t => t.name.toList := by
    have hnames : ∀ name ∈ form.map fun t => t.name.toList, ' ' ∉ name := by simpa using hspace
    rw [text, String.toList_intercalate, List.map_map]
    exact List.splitOn_intercalate ' ' hnames (mt List.map_eq_nil_iff.1 hnil)
  rw [ofText?, if_neg (text_ne_empty hnil fun t ht => name_ne_empty (hname t ht)), hsplit]
  exact mapM_ofName? hname

end

end Postfix

namespace Calculator

open Token

section
variable {c : Calculator} {s : String} {form : List Token}

/-- The tokens of a form have the values that their names write. -/
theorem writesNumber_of_postfixForm (h : c.postfixForm s = .ok form) :
    ∀ t ∈ form, WritesNumber t := by
  obtain ⟨tokens, hscan, -, hform⟩ := postfixForm_eq_ok_iff.1 h
  have hsigned := signedFrom_of_reads (scanFrom_eq_ok_iff.1 hscan)
  intro t ht
  exact (signedFrom_iff.1 hsigned).1 t ((Postfix.defers_of_run hform).mem ht)

/-- The form of an expression is told by what is shown of it. -/
theorem ofText?_of_postfixForm (h : c.postfixForm s = .ok form) :
    Postfix.ofText? (Postfix.text form) = some form := by
  have hwrites := writesNumber_of_postfixForm h
  obtain ⟨tokens, -, -, hform⟩ := postfixForm_eq_ok_iff.1 h
  have hparen := (Postfix.defers_of_run hform).isParen_eq_false
  exact Postfix.ofText?_text (fun t ht => ofName?_name (hparen t ht) (hwrites t ht))
    fun t ht => space_notMem_name (hwrites t ht)

/-- **What is shown of a form tells the form**, and with it the outcome, whatever the options. -/
theorem postfixForm_shown (c : Calculator) :
    (∀ s form, c.postfixForm s = .ok form →
      Postfix.ofText? (Postfix.text form) = some form) ∧
    ∀ s₁ s₂ form₁ form₂, c.postfixForm s₁ = .ok form₁ → c.postfixForm s₂ = .ok form₂ →
      Postfix.text form₁ = Postfix.text form₂ →
      ∀ d : Calculator, d.evaluate s₁ = d.evaluate s₂ := by
  refine ⟨fun s form h => ofText?_of_postfixForm h, fun s₁ s₂ form₁ form₂ h₁ h₂ htext d => ?_⟩
  have hform : form₁ = form₂ := by
    have htold := ofText?_of_postfixForm h₁
    rw [htext, ofText?_of_postfixForm h₂] at htold
    exact (Option.some.inj htold).symm
  subst hform
  -- a form does not depend on the options
  have hd₁ : d.postfixForm s₁ = .ok form₁ := postfixForm_eq_ok_iff.2 (postfixForm_eq_ok_iff.1 h₁)
  have hd₂ : d.postfixForm s₂ = .ok form₁ := postfixForm_eq_ok_iff.2 (postfixForm_eq_ok_iff.1 h₂)
  rw [evaluate_of_postfixForm hd₁, evaluate_of_postfixForm hd₂]

/-- Two minus signs, of which one is an operator, and an expression that is shown alike. -/
theorem postfixForm_shown_signs :
    ∃ form₁ form₂, standard.postfixForm "(- 1 - 2)" = .ok form₁ ∧
      standard.postfixForm "-1-2" = .ok form₂ ∧ Postfix.text form₁ = "-1 2 -" ∧
      Postfix.text form₁ = Postfix.text form₂ ∧
      Postfix.ofText? (Postfix.text form₁) = some form₁ ∧
      standard.evaluate "(- 1 - 2)" = standard.evaluate "-1-2" := by
  obtain ⟨one, hone⟩ :=
    Option.isSome_iff_exists.1 (show (literal? ['-', '1']).isSome from rfl)
  obtain ⟨two, htwo⟩ := Option.isSome_iff_exists.1 (show (literal? ['2']).isSome from rfl)
  have tail : Reads false " - 2)".toList _ :=
    .token rfl (.token (first?_of_literal? htwo rfl) (.token rfl (.done rfl)))
  have grouped : Reads true "(- 1 - 2)".toList _ :=
    .token rfl (.token (first?_of_literal? hone rfl) tail)
  have plain : Reads true "-1-2".toList _ :=
    .token (first?_of_literal? hone rfl)
      (.token rfl (.token (first?_of_literal? htwo rfl) (.done rfl)))
  let form : List Token := [.number one.toFloat (.ofList ['-', '1']),
    .number two.toFloat (.ofList ['2']), .operator .sub]
  have hgrouped : standard.postfixForm "(- 1 - 2)" = .ok form :=
    postfixForm_of_reads grouped (List.cons_ne_nil _ _) rfl
  have hplain : standard.postfixForm "-1-2" = .ok form :=
    postfixForm_of_reads plain (List.cons_ne_nil _ _) rfl
  obtain ⟨htold, hsame⟩ := postfixForm_shown standard
  exact ⟨form, form, hgrouped, hplain, rfl, rfl, htold _ _ hgrouped,
    hsame _ _ _ _ hgrouped hplain rfl standard⟩

end

end Calculator

end DeskCalc
