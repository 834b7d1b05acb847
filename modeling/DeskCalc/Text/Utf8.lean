import DeskCalc.Text.Quoted

/-!
# Reading bytes as text

`decode` reads UTF-8. Where the bytes are none, it says where the first fault is and of which of
three kinds: a byte that starts no sequence, a sequence cut by a byte that does not continue it, or
a sequence cut by the end. A lead byte fixes the range of each byte after it, so overlong forms,
surrogates and code points past the last one are faults of the first or second kind. The bytes of a
text have no fault (`decode_toUTF8`).
-/

namespace DeskCalc.Text

namespace Utf8

/-- What is wrong with a sequence of bytes. -/
inductive Reason
  /-- The byte starts no sequence. -/
  | start
  /-- The sequence is cut by a byte that does not continue it. -/
  | continuation
  /-- The sequence is cut by the end of the data. -/
  | truncated

/-- The first fault: the bytes of the sequence up to where it breaks. -/
structure Fault where
  /-- Position of the lead byte. -/
  position : Nat
  /-- The lead byte. -/
  lead : UInt8
  /-- Number of bytes in the broken sequence, the lead byte included. -/
  width : Nat
  /-- What breaks it. -/
  reason : Reason

/-- The reason in words. -/
def Reason.text : Reason → String
  | .start => "invalid start byte"
  | .continuation => "invalid continuation byte"
  | .truncated => "unexpected end of data"

/-- The fault in words: a single byte is shown, of several the positions are. -/
def Fault.message (f : Fault) : String :=
  let place :=
    if f.width = 1 then
      "byte 0x" ++ .ofList (hexDigits 2 f.lead.toNat) ++ s!" in position {f.position}"
    else
      s!"bytes in position {f.position}-{f.position + f.width - 1}"
  s!"'utf-8' codec can't decode {place}: {f.reason.text}"

/-- The ranges of the bytes that follow a lead byte, none for a byte that leads nothing. -/
def continuations? (lead : UInt8) : Option (List (UInt8 × UInt8)) :=
  if lead < 0x80 then some []
  else if lead < 0xC2 then none
  else if lead < 0xE0 then some [(0x80, 0xBF)]
  else if lead = 0xE0 then some [(0xA0, 0xBF), (0x80, 0xBF)]
  else if lead = 0xED then some [(0x80, 0x9F), (0x80, 0xBF)]
  else if lead < 0xF0 then some [(0x80, 0xBF), (0x80, 0xBF)]
  else if lead = 0xF0 then some [(0x90, 0xBF), (0x80, 0xBF), (0x80, 0xBF)]
  else if lead < 0xF4 then some [(0x80, 0xBF), (0x80, 0xBF), (0x80, 0xBF)]
  else if lead = 0xF4 then some [(0x80, 0x8F), (0x80, 0xBF), (0x80, 0xBF)]
  else none

/-- The first fault of bytes that are not UTF-8, so that a sequence is open where they end.
`opened` holds the position and the lead byte of the current sequence, `seen` counts its bytes and
`expected` gives the ranges of those that are missing. -/
def faultFrom (opened : Nat × UInt8) (seen : Nat) (expected : List (UInt8 × UInt8)) :
    List UInt8 → Fault
  | [] => ⟨opened.1, opened.2, seen, .truncated⟩
  | b :: rest =>
    match expected with
    | (least, greatest) :: more =>
      if least ≤ b ∧ b ≤ greatest then faultFrom opened (seen + 1) more rest
      else ⟨opened.1, opened.2, seen, .continuation⟩
    | [] =>
      match continuations? b with
      | some ranges => faultFrom (opened.1 + seen, b) 1 ranges rest
      | none => ⟨opened.1 + seen, b, 1, .start⟩

/-- Reads UTF-8, or finds the first fault. -/
def decode (bytes : ByteArray) : Except Fault String :=
  match String.fromUTF8? bytes with
  | some s => .ok s
  | none => .error (faultFrom (0, 0) 0 [] bytes.toList)

/-- Reads UTF-8, with a replacement character in place of each fault, of which there are at most
`faults`. -/
def decodeLossyFrom : Nat → List UInt8 → List Char
  | 0, _ => []
  | faults + 1, bytes =>
    match decode bytes.toByteArray with
    | .ok s => s.toList
    | .error f =>
      let before := (String.fromUTF8? (bytes.take f.position).toByteArray).getD ""
      before.toList ++ '\ufffd' :: decodeLossyFrom faults (bytes.drop (f.position + f.width))

/-- Reads UTF-8, with a replacement character in place of each fault. -/
def decodeLossy (bytes : List UInt8) : String :=
  .ofList (decodeLossyFrom (bytes.length + 1) bytes)

/-- The bytes of a text read back as the text. -/
theorem decode_toUTF8 (s : String) : decode s.toUTF8 = .ok s := by
  have h : String.fromUTF8? s.toUTF8 = some s := dif_pos s.isValidUTF8
  simp only [decode, h]

end Utf8

end DeskCalc.Text
