import CaseChart.Text.Utf8
import CaseChart.Proofs.Text.Word
import Mathlib.Algebra.Ring.Nat

namespace CaseChart.Text.Utf8

/-- The last `size` bytes of a character with the code `v`, each with six bits of it. -/
def tails : (size v : Nat) → List UInt8
  | 0, _ => []
  | size + 1, v => UInt8.ofNat (v / 64 ^ size % 64 + 0x80) :: tails size v

/-- That a code has the bits of a first byte in front, and a second byte in its range. -/
def Lead.Fits (lead : Lead) (v : Nat) : Prop :=
  v / 64 ^ lead.size = lead.bits ∧
    (0 < lead.size → lead.lo ≤ v / 64 ^ (lead.size - 1) % 64 + 0x80 ∧
      v / 64 ^ (lead.size - 1) % 64 + 0x80 ≤ lead.hi)

theorem length_tails (size v : Nat) : (tails size v).length = size := by
  induction size with
  | zero => rfl
  | succ size ih => rw [tails, List.length_cons, ih]

theorem eq_ofNat_iff {b : UInt8} {n : Nat} (hn : n < 256) : b = UInt8.ofNat n ↔ b.toNat = n := by
  rw [← UInt8.toNat_inj, UInt8.toNat_ofNat_of_lt' hn]

theorem mapError_eq_ok_iff {ε ε' α : Type} {f : ε → ε'} {r : Except ε α} {a : α} :
    r.mapError f = .ok a ↔ r = .ok a := by
  cases r <;> simp [Except.mapError]

/-- Continuation bytes give a code exactly if they are its tails, after the bits in front. -/
theorem continueCode_eq_ok_iff {size lo hi bits v : Nat} {bs : List UInt8}
    (hlo : 0 < size → 0x80 ≤ lo) (hhi : hi ≤ 0xBF) :
    continueCode size lo hi bits bs = .ok v ↔
      bs.take size = tails size v ∧ Lead.Fits ⟨size, lo, hi, bits⟩ v := by
  induction size generalizing lo hi bits bs with
  | zero => simp [continueCode, tails, Lead.Fits, eq_comm]
  | succ size ih =>
    cases bs with
    | nil => simp [continueCode, tails]
    | cons b bs =>
      -- the bits down to the next tail are those in front and its own six
      have hv : v / 64 ^ (size + 1) = v / 64 ^ size / 64 := by
        rw [Nat.pow_succ, Nat.div_div_eq_div_mul]
      have hrange : 0 < size → 0x80 ≤ v / 64 ^ (size - 1) % 64 + 0x80 ∧
          v / 64 ^ (size - 1) % 64 + 0x80 ≤ 0xBF := by
        omega
      rw [continueCode, List.take_succ_cons, tails, List.cons.injEq, eq_ofNat_iff (by omega)]
      simp only [Lead.Fits, hv, Nat.add_sub_cancel, Nat.zero_lt_succ, true_imp_iff,
        Bool.and_eq_true, decide_eq_true_eq]
      split
      · rw [mapError_eq_ok_iff, ih (fun _ => Nat.le_refl _) (Nat.le_refl _), Lead.Fits]
        generalize v / 64 ^ size = w at *
        constructor
        · rintro ⟨hbs, hw, -⟩
          dsimp only at hw
          exact ⟨⟨by omega, hbs⟩, by omega, by omega⟩
        · rintro ⟨⟨hb, hbs⟩, hw, -⟩
          exact ⟨hbs, by dsimp only; omega, hrange⟩
      · simp only [reduceCtorEq, false_iff]
        omega

/-- The first bytes: one for each number of tails, with what keeps out overlong forms, surrogates
and codes that are too large. -/
theorem Lead.ofByte?_eq_some_iff {b : UInt8} {lead : Lead} : Lead.ofByte? b = some lead ↔
    (b.toNat < 0x80 ∧ lead = ⟨0, 0, 0, b.toNat⟩) ∨
    ((0xC2 ≤ b.toNat ∧ b.toNat < 0xE0) ∧ lead = ⟨1, 0x80, 0xBF, b.toNat - 0xC0⟩) ∨
    ((0xE0 ≤ b.toNat ∧ b.toNat < 0xF0) ∧ lead = ⟨2, if b.toNat = 0xE0 then 0xA0 else 0x80,
      if b.toNat = 0xED then 0x9F else 0xBF, b.toNat - 0xE0⟩) ∨
    ((0xF0 ≤ b.toNat ∧ b.toNat < 0xF5) ∧ lead = ⟨3, if b.toNat = 0xF0 then 0x90 else 0x80,
      if b.toNat = 0xF4 then 0x8F else 0xBF, b.toNat - 0xF0⟩) := by
  grind [Lead.ofByte?]

theorem Lead.bounds {b : UInt8} {lead : Lead} (h : Lead.ofByte? b = some lead) :
    (0 < lead.size → 0x80 ≤ lead.lo) ∧ lead.hi ≤ 0xBF := by
  rcases Lead.ofByte?_eq_some_iff.1 h with ⟨hb, rfl⟩ | ⟨hb, rfl⟩ | ⟨hb, rfl⟩ | ⟨hb, rfl⟩
  · simp
  · simp
  · dsimp only
    split <;> split <;> omega
  · dsimp only
    split <;> split <;> omega

def leadOf (v : Nat) : Nat × Nat :=
  if v < 0x80 then (v, 0)
  else if v < 0x800 then (v / 64 + 0xC0, 1)
  else if v < 0x10000 then (v / 4096 + 0xE0, 2)
  else (v / 262144 + 0xF0, 3)

theorem utf8EncodeChar_eq (c : Char) : String.utf8EncodeChar c =
    UInt8.ofNat (leadOf c.toNat).1 :: tails (leadOf c.toNat).2 c.toNat := by
  have hc : c.toNat < 0xD800 ∨ 0xDFFF < c.toNat ∧ c.toNat < 0x110000 := c.valid
  have hv : c.val.toNat = c.toNat := rfl
  simp only [String.utf8EncodeChar, hv, leadOf]
  generalize c.toNat = v at hc
  -- the library cuts the first bits to their number, which they never exceed
  split
  · rw [if_pos (by omega)]
    rfl
  split
  · rw [if_neg (by omega), if_pos (by omega), Nat.mod_eq_of_lt (by omega)]
    simp [tails]
  split
  · rw [if_neg (by omega), if_neg (by omega), if_pos (by omega),
      Nat.mod_eq_of_lt (by omega : v / 4096 < 16)]
    simp [tails]
  · rw [if_neg (by omega), if_neg (by omega), if_neg (by omega),
      Nat.mod_eq_of_lt (by omega : v / 262144 < 8)]
    simp [tails]

theorem ite_le_iff {p : Prop} [Decidable p] {a b x : Nat} :
    (if p then a else b) ≤ x ↔ (p → a ≤ x) ∧ (¬p → b ≤ x) := by
  split <;> simp [*]

theorem le_ite_iff {p : Prop} [Decidable p] {a b x : Nat} :
    x ≤ (if p then a else b) ↔ (p → x ≤ a) ∧ (¬p → x ≤ b) := by
  split <;> simp [*]

/-- Codes that fit a first byte are those of the characters that begin with it. -/
theorem Lead.exists_fits_iff {b : UInt8} {size v : Nat} :
    (∃ lead, Lead.ofByte? b = some lead ∧ lead.size = size ∧ lead.Fits v) ↔
      v.isValidChar ∧ leadOf v = (b.toNat, size) := by
  have hvalid : v.isValidChar ↔ v < 0xD800 ∨ 0xDFFF < v ∧ v < 0x110000 := Iff.rfl
  simp only [hvalid, Lead.ofByte?_eq_some_iff, or_and_right, exists_or, and_assoc, exists_eq_left,
    exists_and_left, Lead.Fits, leadOf, ite_le_iff, le_ite_iff, Nat.reducePow, Nat.reduceSub]
  -- what is left is about numbers: each range of codes against the first bytes of its length
  split
  · rw [Prod.mk.injEq]
    omega
  split
  · rw [Prod.mk.injEq]
    omega
  split
  · rw [Prod.mk.injEq]
    omega
  · rw [Prod.mk.injEq]
    omega

theorem toNat_leadOf {v : Nat} (hv : v.isValidChar) :
    (UInt8.ofNat (leadOf v).1).toNat = (leadOf v).1 := by
  have hv : v < 0xD800 ∨ 0xDFFF < v ∧ v < 0x110000 := hv
  apply UInt8.toNat_ofNat_of_lt'
  simp only [UInt8.size, leadOf]
  split
  · dsimp only
    omega
  split
  · dsimp only
    omega
  split <;> dsimp only <;> omega

/-- One step of decoding reads one encoded character. -/
theorem decodeFrom_encodeChar_append (start : Nat) (c : Char) (rest : List UInt8) :
    decodeFrom start (String.utf8EncodeChar c ++ rest) =
      (decodeFrom (start + (leadOf c.toNat).2 + 1) rest).map (c :: ·) := by
  have hv : c.toNat.isValidChar := c.valid
  have hb : leadOf c.toNat = ((UInt8.ofNat (leadOf c.toNat).1).toNat, (leadOf c.toNat).2) := by
    rw [toNat_leadOf hv]
  obtain ⟨lead, hlead, hsize, hfits⟩ := Lead.exists_fits_iff.2 ⟨hv, hb⟩
  have hlen : (tails lead.size c.toNat).length = lead.size := length_tails _ _
  have hcode : continueCode lead.size lead.lo lead.hi lead.bits (tails lead.size c.toNat ++ rest) =
      .ok c.toNat :=
    (continueCode_eq_ok_iff (Lead.bounds hlead).1 (Lead.bounds hlead).2).2
      ⟨List.take_left' hlen, hfits⟩
  rw [utf8EncodeChar_eq, ← hsize, List.cons_append, decodeFrom, hlead]
  simp only [hcode, Char.ofNat_toNat, List.drop_left' hlen]

theorem encode_of_decodeFrom {start : Nat} {bs : List UInt8} {t : Text}
    (h : decodeFrom start bs = .ok t) : encode t = bs := by
  induction start, bs using decodeFrom.induct generalizing t with
  | case1 start =>
    rw [decodeFrom] at h
    cases h
    rfl
  | case2 start b bs hlead => simp [decodeFrom, hlead] at h
  | case3 start b bs lead hlead k cause hcode => simp [decodeFrom, hlead, hcode] at h
  | case4 start b bs lead hlead code hcode ih =>
    obtain ⟨htails, hfits⟩ :=
      (continueCode_eq_ok_iff (Lead.bounds hlead).1 (Lead.bounds hlead).2).1 hcode
    obtain ⟨hv, hb⟩ := Lead.exists_fits_iff.1 ⟨lead, hlead, rfl, hfits⟩
    simp only [decodeFrom, hlead, hcode] at h
    cases hrest : decodeFrom (start + lead.size + 1) (bs.drop lead.size) with
    | error flaw => simp [hrest, Except.map] at h
    | ok rest =>
      rw [hrest] at h
      cases h
      have hc : String.utf8EncodeChar (Char.ofNat code) = b :: bs.take lead.size := by
        rw [utf8EncodeChar_eq, toNat_ofNat hv, hb, UInt8.ofNat_toNat, htails]
      rw [encode, List.flatMap_cons, hc, List.cons_append, ← encode, ih hrest,
        List.take_append_drop]

theorem decodeFrom_encode (start : Nat) (t : Text) : decodeFrom start (encode t) = .ok t := by
  induction t generalizing start with
  | nil => rw [encode, List.flatMap_nil, decodeFrom]
  | cons c t ih => rw [encode, List.flatMap_cons, decodeFrom_encodeChar_append, ← encode, ih]; rfl

/-- Bytes are decoded exactly if they encode a text, which is then the one that is read. -/
theorem decode_eq_ok_iff {bs : List UInt8} {t : Text} : decode bs = .ok t ↔ encode t = bs :=
  ⟨encode_of_decodeFrom, fun h => h ▸ decodeFrom_encode 0 t⟩

end CaseChart.Text.Utf8
