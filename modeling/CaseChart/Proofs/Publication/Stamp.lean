import CaseChart.Proofs.Publication.Calendar
import CaseChart.Proofs.Publication.Path
import Mathlib.Data.Nat.Digits.Defs

namespace CaseChart
open Text

namespace Moment

theorem append_lt_append_iff {a b s t : Text} (h : a.length = b.length) :
    a ++ s < b ++ t ↔ a < b ∨ a = b ∧ s < t := by
  induction a generalizing b with
  | nil =>
    rw [List.eq_nil_of_length_eq_zero h.symm]
    simp
  | cons c a ih =>
    obtain ⟨d, b, rfl⟩ := List.exists_cons_of_length_pos (l := b) (by rw [← h]; simp)
    rw [List.cons_append, List.cons_append, List.cons_lt_cons_iff, List.cons_lt_cons_iff,
      ih (Nat.succ.inj h), List.cons.injEq]
    tauto

def IsNumeral (t : Text) : Prop := ∀ c ∈ t, c.isDigit = true

def number (t : Text) : Nat := Nat.ofDigitChars 10 t 0

theorem number_cons (c : Char) (t : Text) :
    number (c :: t) = 10 ^ t.length * (c.toNat - 48) + number t := by
  have hzero : '0'.toNat = 48 := rfl
  rw [number, Nat.ofDigitChars_cons, Nat.ofDigitChars_eq_ofDigitChars_zero, Nat.mul_zero,
    Nat.zero_add, hzero, number]

theorem number_lt {t : Text} (h : IsNumeral t) : number t < 10 ^ t.length := by
  induction t with
  | nil => decide
  | cons c t ih =>
    have hc := isDigit_iff.1 (h c List.mem_cons_self)
    have ht := ih fun d hd => h d (List.mem_cons_of_mem c hd)
    have hdigit := Nat.mul_le_mul_left (10 ^ t.length) (by omega : c.toNat - 48 ≤ 9)
    rw [number_cons, List.length_cons, Nat.pow_succ]
    omega

/-- Numerals of one length stand in the order of their numbers. -/
theorem lt_iff_number_lt {s t : Text} (h : s.length = t.length) (hs : IsNumeral s)
    (ht : IsNumeral t) : s < t ↔ number s < number t := by
  induction s generalizing t with
  | nil =>
    rw [List.eq_nil_of_length_eq_zero h.symm]
    simp
  | cons c s ih =>
    obtain ⟨d, t, rfl⟩ := List.exists_cons_of_length_pos (l := t) (by rw [← h]; simp)
    have hlen : s.length = t.length := Nat.succ.inj h
    have hs' : IsNumeral s := fun x hx => hs x (List.mem_cons_of_mem c hx)
    have ht' : IsNumeral t := fun x hx => ht x (List.mem_cons_of_mem d hx)
    have hc := isDigit_iff.1 (hs c List.mem_cons_self)
    have hd := isDigit_iff.1 (ht d List.mem_cons_self)
    have hsbound := number_lt hs'
    have htbound := number_lt ht'
    have hlt : c < d ↔ c.toNat < d.toNat := UInt32.lt_iff_toNat_lt
    have heq : c = d ↔ c.toNat = d.toNat := Char.toNat_inj.symm
    rw [List.cons_lt_cons_iff, ih hlen hs' ht', number_cons, number_cons, hlt, heq, hlen]
    rw [hlen] at hsbound
    -- the first digits decide unless they are equal
    rcases Nat.lt_trichotomy c.toNat d.toNat with h | h | h
    · have hstep := Nat.mul_le_mul_left (10 ^ t.length)
        (by omega : c.toNat - 48 + 1 ≤ d.toNat - 48)
      rw [Nat.mul_succ] at hstep
      omega
    · rw [h]
      omega
    · have hstep := Nat.mul_le_mul_left (10 ^ t.length)
        (by omega : d.toNat - 48 + 1 ≤ c.toNat - 48)
      rw [Nat.mul_succ] at hstep
      omega

theorem number_padded (w n : Nat) : number (padded w n) = n := by
  rw [number, padded, Nat.ofDigitChars_append, Nat.ofDigitChars_replicate_zero, Nat.mul_zero,
    Nat.ofDigitChars_ten_toDigits]

theorem isNumeral_padded (w n : Nat) : IsNumeral (padded w n) := fun _ => isDigit_of_mem_padded

section Width
variable {w m n : Nat} (hw : 0 < w) (hn : n < 10 ^ w)
include hw hn

theorem length_padded : (padded w n).length = w := by
  have hle : (Nat.toDigits 10 n).length ≤ w := Nat.toDigits_length 10 n w hw hn
  rw [padded, List.length_append, List.length_replicate]
  omega

/-- Fields are compared before what comes after them. -/
theorem padded_append_lt_iff (hm : m < 10 ^ w) (c : Char) (s t : Text) :
    padded w m ++ c :: s < padded w n ++ c :: t ↔ m < n ∨ m = n ∧ s < t := by
  have hlen : (padded w m).length = (padded w n).length := by
    rw [length_padded hw hm, length_padded hw hn]
  have hfields : padded w m < padded w n ↔ m < n := by
    rw [lt_iff_number_lt hlen (isNumeral_padded w m) (isNumeral_padded w n), number_padded,
      number_padded]
  have hinj : padded w m = padded w n ↔ m = n := by
    constructor
    · intro h
      rw [← number_padded w m, h, number_padded]
    · rintro rfl
      rfl
  rw [append_lt_append_iff hlen, hfields, hinj, List.cons_lt_cons_self]

end Width

/-- The form of stamps, where `0` stands for a digit. -/
def form : Text := "0000-00-00T00-00-00-000Z".toList

def Fits (place c : Char) : Prop := if place = '0' then c.isDigit = true else c = place

def HasForm (t : Text) : Prop := List.Forall₂ Fits form t

theorem HasForm.length_eq {t : Text} (h : HasForm t) : t.length = 24 :=
  (List.Forall₂.length_eq h).symm

theorem forall₂_fits_padded {w n : Nat} (hw : 0 < w) (hn : n < 10 ^ w) :
    List.Forall₂ Fits (List.replicate w '0') (padded w n) := by
  rw [List.forall₂_iff_get]
  refine ⟨by rw [List.length_replicate, length_padded hw hn], ?_⟩
  intro i h h'
  rw [List.get_eq_getElem, List.getElem_replicate, Fits, if_pos rfl]
  exact isNumeral_padded w n _ (List.get_mem _ _)

/-- The number of the first `w` characters, and what comes after one character more. -/
def field (w : Nat) (t : Text) : Nat × Text := (number (t.take w), t.drop (w + 1))

theorem field_padded_append {w n : Nat} (hw : 0 < w) (hn : n < 10 ^ w) (c : Char) (t : Text) :
    field w (padded w n ++ c :: t) = (n, t) := by
  have hlen := length_padded hw hn
  have htake : (padded w n ++ c :: t).take w = padded w n := by
    rw [List.take_append_of_le_length hlen.ge, List.take_of_length_le hlen.le]
  have hdrop : (padded w n ++ c :: t).drop (w + 1) = t := by
    rw [List.drop_append, List.drop_of_length_le (by omega), hlen]
    simp
  rw [field, htake, hdrop, number_padded]

def ofStamp (t : Text) : Moment :=
  let (year, t) := field 4 t
  let (month, t) := field 2 t
  let (day, t) := field 2 t
  let (hour, t) := field 2 t
  let (minute, t) := field 2 t
  let (second, t) := field 2 t
  let (millisecond, _) := field 3 t
  ⟨⟨year, month, day⟩, hour, minute, second, millisecond * 1000, 0⟩

theorem slug_eq (i : Nat) :
    let date := Date.ofDays (i / dayLength)
    let ms := i % dayLength / 1000
    slug i = padded 4 date.year ++ '-' :: (padded 2 date.month ++ '-' :: (padded 2 date.day ++
      'T' :: (padded 2 (ms / 3600000) ++ '-' :: (padded 2 (ms / 60000 % 60) ++
      '-' :: (padded 2 (ms / 1000 % 60) ++ '-' :: (padded 3 (ms % 1000) ++ 'Z' :: [])))))) := by
  simp [slug]

end Moment

/-- No month and no day of the calendar has more than two digits. -/
theorem Date.Proper.lt_hundred {d : Date} (h : d.Proper) : d.month < 10 ^ 2 ∧ d.day < 10 ^ 2 := by
  obtain ⟨l, hl, hday⟩ := h.day_le
  have hmonth := (List.getElem?_eq_some_iff.1 hl).1
  have hlen : (monthLengths d.year).length = 12 := rfl
  have hlengths : ∀ l ∈ monthLengths d.year, l ≤ 31 := by
    rw [monthLengths]
    split <;> decide
  have hle := hlengths l (List.mem_of_getElem? hl)
  constructor
  · omega
  · omega

theorem Date.ofDays_before_iff {a b : Nat} : (ofDays a).Before (ofDays b) ↔ a < b := by
  rw [← (ofDays_spec a).1.toDays_lt_iff (ofDays_spec b).1, (ofDays_spec a).2, (ofDays_spec b).2]

theorem Date.ofDays_inj {a b : Nat} : ofDays a = ofDays b ↔ a = b := by
  refine ⟨fun h => ?_, congrArg ofDays⟩
  rw [← (ofDays_spec a).2, h, (ofDays_spec b).2]

theorem Date.before_or_iff {d e : Date} {p : Prop} : d.Before e ∨ d = e ∧ p ↔
    d.year < e.year ∨ d.year = e.year ∧ (d.month < e.month ∨ d.month = e.month ∧
      (d.day < e.day ∨ d.day = e.day ∧ p)) := by
  rcases d with ⟨y, m, n⟩
  rcases e with ⟨y', m', n'⟩
  rw [Before, mk.injEq]
  tauto

namespace Moment

/-- The milliseconds of a day, and the whole days in front of them. -/
theorem milliseconds_spec (i : Nat) : i % dayLength / 1000 < 86400000 ∧
    i / 1000 = i / dayLength * 86400000 + i % dayLength / 1000 := by
  rw [dayLength]
  omega

theorem clock_bounds {t : Nat} (h : t < 86400000) : t / 3600000 < 10 ^ 2 ∧
    t / 60000 % 60 < 10 ^ 2 ∧ t / 1000 % 60 < 10 ^ 2 ∧ t % 1000 < 10 ^ 3 := by
  omega

/-- Times of day are compared by hours, minutes, seconds and milliseconds. -/
theorem clock_lt_iff (s t : Nat) : s < t ↔ s / 3600000 < t / 3600000 ∨
    s / 3600000 = t / 3600000 ∧ (s / 60000 % 60 < t / 60000 % 60 ∨
      s / 60000 % 60 = t / 60000 % 60 ∧ (s / 1000 % 60 < t / 1000 % 60 ∨
        s / 1000 % 60 = t / 1000 % 60 ∧ s % 1000 < t % 1000)) := by
  omega

section Range
variable {i : Nat} (hi : i < endOfTime)
include hi

theorem year_lt : (Date.ofDays (i / dayLength)).year < 10 ^ 4 := by
  obtain ⟨hproper, hdays⟩ := Date.ofDays_spec (i / dayLength)
  have hle := hproper.year_le_iff 9999
  have hend : endOfTime = 3652059 * 86400000000 := rfl
  have hyears : Date.daysBeforeYear (9999 + 1) = 3652059 := rfl
  rw [hdays, hyears, dayLength] at hle
  rw [dayLength]
  omega

theorem hasForm_slug : HasForm (slug i) := by
  obtain ⟨hmonth, hday⟩ := (Date.ofDays_spec (i / dayLength)).1.lt_hundred
  obtain ⟨hhour, hminute, hsecond, hms⟩ := clock_bounds (milliseconds_spec i).1
  have hform : form = List.replicate 4 '0' ++ '-' :: (List.replicate 2 '0' ++ '-' ::
    (List.replicate 2 '0' ++ 'T' :: (List.replicate 2 '0' ++ '-' :: (List.replicate 2 '0' ++
      '-' :: (List.replicate 2 '0' ++ '-' :: (List.replicate 3 '0' ++ 'Z' :: [])))))) := rfl
  have happ : ∀ {w n : Nat} (c : Char) {a t : Text}, 0 < w → n < 10 ^ w → c ≠ '0' →
      List.Forall₂ Fits a t → List.Forall₂ Fits (List.replicate w '0' ++ c :: a)
        (padded w n ++ c :: t) := by
    intro w n c a t hw hn hc h
    exact List.rel_append (forall₂_fits_padded hw hn) (.cons (by rw [Fits, if_neg hc]) h)
  rw [HasForm, slug_eq, hform]
  refine happ '-' (by decide) (year_lt hi) (by decide) ?_
  refine happ '-' (by decide) hmonth (by decide) ?_
  refine happ 'T' (by decide) hday (by decide) ?_
  refine happ '-' (by decide) hhour (by decide) ?_
  refine happ '-' (by decide) hminute (by decide) ?_
  refine happ '-' (by decide) hsecond (by decide) ?_
  exact happ 'Z' (by decide) hms (by decide) .nil

/-- A stamp is read back as its instant, down to whole milliseconds. -/
theorem ofStamp_slug : ofStamp (slug i) = ofInstant (i / 1000 * 1000) := by
  obtain ⟨hmonth, hday⟩ := (Date.ofDays_spec (i / dayLength)).1.lt_hundred
  obtain ⟨hhour, hminute, hsecond, hms⟩ := clock_bounds (milliseconds_spec i).1
  have hyear := year_lt hi
  rw [ofStamp, slug_eq]
  simp only [field_padded_append (by decide : 0 < 4) hyear,
    field_padded_append (by decide : 0 < 2) hmonth, field_padded_append (by decide : 0 < 2) hday,
    field_padded_append (by decide : 0 < 2) hhour, field_padded_append (by decide : 0 < 2) hminute,
    field_padded_append (by decide : 0 < 2) hsecond, field_padded_append (by decide : 0 < 3) hms]
  have hdays : i / 1000 * 1000 / dayLength = i / dayLength := by
    rw [dayLength]
    omega
  rw [ofInstant, hdays, dayLength]
  simp only [Moment.mk.injEq, true_and, and_true]
  omega

/-- Stamps stand in the order of their instants, down to whole milliseconds. -/
theorem slug_lt_iff {j : Nat} (hj : j < endOfTime) : slug i < slug j ↔ i / 1000 < j / 1000 := by
  obtain ⟨himonth, hiday⟩ := (Date.ofDays_spec (i / dayLength)).1.lt_hundred
  obtain ⟨hjmonth, hjday⟩ := (Date.ofDays_spec (j / dayLength)).1.lt_hundred
  obtain ⟨hi', hi1000⟩ := milliseconds_spec i
  obtain ⟨hj', hj1000⟩ := milliseconds_spec j
  obtain ⟨hihour, himinute, hisecond, hims⟩ := clock_bounds hi'
  obtain ⟨hjhour, hjminute, hjsecond, hjms⟩ := clock_bounds hj'
  have hfields : slug i < slug j ↔
      (Date.ofDays (i / dayLength)).Before (Date.ofDays (j / dayLength)) ∨
        Date.ofDays (i / dayLength) = Date.ofDays (j / dayLength) ∧
          i % dayLength / 1000 < j % dayLength / 1000 := by
    rw [slug_eq, slug_eq, padded_append_lt_iff (by decide) (year_lt hj) (year_lt hi),
      padded_append_lt_iff (by decide) hjmonth himonth,
      padded_append_lt_iff (by decide) hjday hiday, padded_append_lt_iff (by decide) hjhour hihour,
      padded_append_lt_iff (by decide) hjminute himinute,
      padded_append_lt_iff (by decide) hjsecond hisecond,
      padded_append_lt_iff (by decide) hjms hims, Date.before_or_iff,
      clock_lt_iff (i % dayLength / 1000)]
    simp only [List.lt_irrefl, and_false, or_false]
  rw [hfields, Date.ofDays_before_iff, Date.ofDays_inj, hi1000, hj1000]
  omega

theorem slug_eq_iff {j : Nat} (hj : j < endOfTime) : slug i = slug j ↔ i / 1000 = j / 1000 := by
  have hlt := slug_lt_iff hi hj
  have hgt := slug_lt_iff hj hi
  constructor
  · intro h
    rw [h] at hlt hgt
    have hnlt : ¬ i / 1000 < j / 1000 := fun hc => List.lt_irrefl _ (hlt.2 hc)
    have hngt : ¬ j / 1000 < i / 1000 := fun hc => List.lt_irrefl _ (hgt.2 hc)
    omega
  · intro h
    have hnlt : ¬ slug i < slug j := fun hc => (hlt.1 hc).ne h
    have hngt : ¬ slug j < slug i := fun hc => (hgt.1 hc).ne h.symm
    exact List.le_antisymm (List.not_lt.1 hngt) (List.not_lt.1 hnlt)

end Range

theorem instant?_eq_some_iff {m : Moment} {i : Nat} :
    m.instant? = some i ↔ m.instant = i ∧ i < endOfTime := by
  rw [instant?]
  split
  · next h =>
    rw [Option.some.injEq]
    omega
  · next h =>
    simp only [reduceCtorEq, false_iff]
    omega

end Moment

namespace Payload

/-- A text is what stands behind the name in the path of every file made at a moment. -/
def Stamps (m : Moment) (s : Text) : Prop := ∀ chart n, Named (some n) →
  ∃ p, build chart (some n) m = .ok p ∧
    p.path = "diagrams/".toList ++ joinWords (trim n) ++ '_' :: s ++ ".md".toList

theorem stamp_inj {w s t : Text} (h : "diagrams/".toList ++ w ++ '_' :: s ++ ".md".toList =
    "diagrams/".toList ++ w ++ '_' :: t ++ ".md".toList) : s = t := by
  have hmiddle := List.append_cancel_left (List.append_cancel_right h)
  exact (List.cons.inj hmiddle).2

theorem stamps_iff {m : Moment} {s : Text} :
    Stamps m s ↔ ∃ i, m.instant? = some i ∧ s = Moment.slug i := by
  constructor
  · intro h
    obtain ⟨p, hp, hpath⟩ := h [] "x".toList ⟨_, rfl, 'x', by decide, by decide⟩
    obtain ⟨n, i, hn, -, hi, rfl⟩ := build_eq_ok_iff.1 hp
    rw [← Option.some.inj hn] at hpath
    exact ⟨i, hi, (stamp_inj hpath).symm⟩
  · rintro ⟨i, hi, rfl⟩ chart n ⟨x, hx, hn⟩
    obtain rfl := Option.some.inj hx
    exact ⟨_, build_eq_ok_iff.2 ⟨n, i, rfl, isBlankText_eq_false_iff.2 hn, hi, rfl⟩, rfl⟩

/-- The path of a file holds a stamp of 24 characters, from which its instant is read back down to
whole milliseconds. Moments of one instant have one stamp, and stamps stand in the order of their
instants. A moment that the calendar does not have in UTC gives no file. -/
theorem path_tells_instant (m n : Moment) :
    let dated := ∃ u, Moment.IsUtcOf u m ∧ u.date.year ≤ 9999
    (dated → ∃ s, Stamps m s ∧ s.length = 24 ∧ Moment.HasForm s ∧ (Moment.ofStamp s).Proper ∧
      (Moment.ofStamp s).offset = 0 ∧ (Moment.ofStamp s).instant = m.instant / 1000 * 1000) ∧
    (∀ s t, Stamps m s → Stamps n t → (m.instant = n.instant → s = t) ∧
      (s < t ↔ m.instant / 1000 < n.instant / 1000) ∧
      (s = t ↔ m.instant / 1000 = n.instant / 1000)) ∧
    (¬ dated → ∀ chart name, (∀ p, build chart name m ≠ .ok p) ∧
      (Named name → ∃ f, build chart name m = .error f ∧ f = .momentOutOfRange ∧
        f.name = "OverflowError")) := by
  intro dated
  have hdated : dated ↔ m.instant?.isSome = true := (Moment.isSome_instant?_iff m).symm
  refine ⟨?_, ?_, ?_⟩
  · intro h
    obtain ⟨i, hi⟩ := Option.isSome_iff_exists.1 (hdated.1 h)
    obtain ⟨hinstant, hrange⟩ := Moment.instant?_eq_some_iff.1 hi
    have hform := Moment.hasForm_slug hrange
    refine ⟨Moment.slug i, stamps_iff.2 ⟨i, hi, rfl⟩, hform.length_eq, hform, ?_⟩
    rw [Moment.ofStamp_slug hrange, Moment.instant_ofInstant, hinstant]
    exact ⟨Moment.proper_ofInstant _, rfl, by omega⟩
  · intro s t hs ht
    obtain ⟨i, hi, rfl⟩ := stamps_iff.1 hs
    obtain ⟨j, hj, rfl⟩ := stamps_iff.1 ht
    obtain ⟨hi, hirange⟩ := Moment.instant?_eq_some_iff.1 hi
    obtain ⟨hj, hjrange⟩ := Moment.instant?_eq_some_iff.1 hj
    rw [Moment.slug_lt_iff hirange hjrange, Moment.slug_eq_iff hirange hjrange, hi, hj]
    refine ⟨?_, ?_, ?_⟩ <;> omega
  · intro h chart name
    have hnone : m.instant? = none := by
      rwa [hdated, Option.isSome_iff_ne_none, not_ne_iff] at h
    constructor
    · intro p hp
      obtain ⟨-, i, -, -, hi, -⟩ := build_eq_ok_iff.1 hp
      rw [hnone] at hi
      cases hi
    · intro hname
      exact ⟨_, build_of_instant?_eq_none hname hnone chart, rfl, rfl⟩

/-- The evening before in another zone has the stamp of the new year in UTC, although it is less
than a millisecond later. The first hour of the calendar is before it in a zone that is an hour
ahead. -/
theorem path_tells_instant_new_year :
    let m : Moment := ⟨⟨2023, 12, 31⟩, 20, 0, 0, 1999, -18000000000⟩
    let n : Moment := ⟨⟨2024, 1, 1⟩, 1, 0, 0, 1000, 0⟩
    let early : Moment := ⟨⟨1, 1, 1⟩, 0, 59, 59, 999999, 3600000000⟩
    (∃ s, Stamps m s ∧ Stamps n s ∧ (Moment.ofStamp s).instant = n.instant) ∧
      ∃ f, build [] (some "x".toList) early = .error f ∧ f.name = "OverflowError" := by
  intro m n early
  have hm : m.instant?.isSome = true := by decide +kernel
  have hn : n.instant?.isSome = true := by decide +kernel
  have hearly : ¬ early.instant?.isSome = true := by decide +kernel
  rw [Moment.isSome_instant?_iff] at hm hn hearly
  obtain ⟨hstamp, horder, -⟩ := path_tells_instant m n
  obtain ⟨s, hs, -⟩ := hstamp hm
  obtain ⟨t, ht, -, -, -, -, hread⟩ := (path_tells_instant n m).1 hn
  obtain rfl := (horder s t hs ht).2.2.2 (by decide +kernel)
  obtain ⟨f, hf, -, hname⟩ := ((path_tells_instant early m).2.2 hearly [] (some "x".toList)).2
    ⟨_, rfl, 'x', by decide, by decide⟩
  exact ⟨⟨s, hs, ht, hread.trans (by decide +kernel)⟩, f, hf, hname⟩

end Payload
end CaseChart
