import CaseChart.Text.Quoted

namespace CaseChart.Text.Utf8

inductive Cause
  | startByte
  | continuationByte
  | endOfData
  deriving DecidableEq, Repr

/-- The first ill-formed stretch: its offsets, both inclusive, its first byte and its cause. -/
structure Flaw where
  first : Nat
  last : Nat
  byte : UInt8
  cause : Cause
  deriving DecidableEq, Repr

/-- What a first byte announces: the continuation bytes that follow, the range of the second
byte, and the bits that the first one contributes. -/
structure Lead where
  size : Nat
  lo : Nat
  hi : Nat
  bits : Nat

def Lead.ofByte? (b : UInt8) : Option Lead :=
  let n := b.toNat
  if n < 0x80 then some ⟨0, 0, 0, n⟩
  else if n < 0xC2 then none
  else if n < 0xE0 then some ⟨1, 0x80, 0xBF, n - 0xC0⟩
  else if n < 0xF0 then
    some ⟨2, if n = 0xE0 then 0xA0 else 0x80, if n = 0xED then 0x9F else 0xBF, n - 0xE0⟩
  else if n < 0xF5 then
    some ⟨3, if n = 0xF0 then 0x90 else 0x80, if n = 0xF4 then 0x8F else 0xBF, n - 0xF0⟩
  else none

/-- The code after `size` continuation bytes, or how many were in place before the fault. -/
def continueCode : (size lo hi code : Nat) → List UInt8 → Except (Nat × Cause) Nat
  | 0, _, _, code, _ => .ok code
  | _ + 1, _, _, _, [] => .error (0, .endOfData)
  | size + 1, lo, hi, code, b :: bs =>
    if lo ≤ b.toNat && b.toNat ≤ hi then
      (continueCode size 0x80 0xBF (code * 64 + (b.toNat - 0x80)) bs).mapError
        fun e => (e.1 + 1, e.2)
    else .error (0, .continuationByte)

def decodeFrom (start : Nat) : List UInt8 → Except Flaw Text
  | [] => .ok []
  | b :: bs =>
    match Lead.ofByte? b with
    | none => .error ⟨start, start, b, .startByte⟩
    | some lead =>
      match continueCode lead.size lead.lo lead.hi lead.bits bs with
      | .error (k, cause) => .error ⟨start, start + k, b, cause⟩
      | .ok code =>
        (decodeFrom (start + lead.size + 1) (bs.drop lead.size)).map (Char.ofNat code :: ·)
  termination_by bs => bs.length
  decreasing_by simp only [List.length_drop, List.length_cons]; omega

def decode (bs : List UInt8) : Except Flaw Text := decodeFrom 0 bs

/-- Decodes bytes, with one replacement character for every sequence that is not well formed. -/
def decodeLenient : List UInt8 → Text
  | [] => []
  | b :: bs =>
    match Lead.ofByte? b with
    | none => '\ufffd' :: decodeLenient bs
    | some lead =>
      match continueCode lead.size lead.lo lead.hi lead.bits bs with
      | .error (k, _) => '\ufffd' :: decodeLenient (bs.drop k)
      | .ok code => Char.ofNat code :: decodeLenient (bs.drop lead.size)
  termination_by bs => bs.length
  decreasing_by all_goals simp only [List.length_drop, List.length_cons]; omega

def encode (t : Text) : List UInt8 := t.flatMap String.utf8EncodeChar

def Cause.message : Cause → String
  | .startByte => "invalid start byte"
  | .continuationByte => "invalid continuation byte"
  | .endOfData => "unexpected end of data"

/-- The flaw in words: one byte is shown, several are located only. -/
def Flaw.message (f : Flaw) : String :=
  let place := if f.first = f.last
    then s!"byte 0x{String.ofList (hex 2 f.byte.toNat)} in position {f.first}"
    else s!"bytes in position {f.first}-{f.last}"
  s!"'utf-8' codec can't decode {place}: {f.cause.message}"

end CaseChart.Text.Utf8
