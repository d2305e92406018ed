import CaseChart.Text.Basic

namespace CaseChart.Text

inductive ByteOrder where
  | bigEndian
  | littleEndian
  deriving DecidableEq, Repr

def ByteOrder.number : ByteOrder → List UInt8 → Nat
  | bigEndian, bs => bs.foldl (fun n b => 256 * n + b.toNat) 0
  | littleEndian, bs => bs.foldr (fun b n => 256 * n + b.toNat) 0

/-- The private characters that hold the halves of surrogate pairs in a text, from `first` on. There
are as many of them as there are halves. -/
structure Halves where
  first : Nat := 0x10F800
  deriving DecidableEq, Repr

namespace Halves

def choices : List Halves := (List.range 64).map fun k => ⟨0x10F800 - 0x800 * k⟩

/-- The character of a code, or the one that holds it if it is half of a surrogate pair. -/
def char (h : Halves) (n : Nat) : Char :=
  if n.isValidChar then Char.ofNat n else Char.ofNat (h.first + (n - 0xD800))

def holds (h : Halves) (c : Char) : Bool := h.first ≤ c.toNat && c.toNat < h.first + 0x800

end Halves

def joinSurrogates? (hi lo : Nat) : Option Nat :=
  if 0xD800 ≤ hi ∧ hi < 0xDC00 ∧ 0xDC00 ≤ lo ∧ lo < 0xE000 then
    some (0x10000 + (hi - 0xD800) * 0x400 + (lo - 0xDC00))
  else none

namespace Utf16

/-- The units of two bytes each, if no byte is left over. -/
def units? (o : ByteOrder) : List UInt8 → Option (List Nat)
  | [] => some []
  | [_] => none
  | a :: b :: bs => (units? o bs).map (o.number [a, b] :: ·)

def ofUnits (h : Halves) : List Nat → Text
  | [] => []
  | [u] => [h.char u]
  | u :: v :: us =>
    match joinSurrogates? u v with
    | some code => h.char code :: ofUnits h us
    | none => h.char u :: ofUnits h (v :: us)

def decode? (h : Halves) (o : ByteOrder) (bs : List UInt8) : Option Text :=
  (units? o bs).map (ofUnits h)

end Utf16

namespace Utf32

/-- The text that bytes encode, four for each character; codes past U+10FFFF are none. -/
def decode? (h : Halves) (o : ByteOrder) : List UInt8 → Option Text
  | [] => some []
  | a :: b :: c :: d :: bs =>
    if o.number [a, b, c, d] < 0x110000 then
      (decode? h o bs).map (h.char (o.number [a, b, c, d]) :: ·)
    else none
  | _ => none

end Utf32
end CaseChart.Text
