import CaseChart.Publication.Moment
import Mathlib.Algebra.Ring.Nat

namespace CaseChart

namespace Date

def yearLength (y : Nat) : Nat := if isLeap y then 366 else 365

structure Proper (d : Date) : Prop where
  year : 1 ≤ d.year
  month : 1 ≤ d.month
  day : 1 ≤ d.day
  day_le : ∃ l, (monthLengths d.year)[d.month - 1]? = some l ∧ d.day ≤ l

theorem isLeap_iff {y : Nat} : isLeap y = true ↔ y % 4 = 0 ∧ (y % 100 ≠ 0 ∨ y % 400 = 0) := by
  simp [isLeap]

theorem daysBeforeYear_succ {y : Nat} (hy : 1 ≤ y) :
    daysBeforeYear (y + 1) = daysBeforeYear y + yearLength y := by
  obtain ⟨k, rfl⟩ : ∃ k, y = k + 1 := ⟨y - 1, by omega⟩
  have h4 := Nat.succ_div (a := k) (b := 4)
  have h100 := Nat.succ_div (a := k) (b := 100)
  have h400 := Nat.succ_div (a := k) (b := 400)
  have hle : k / 100 ≤ k / 4 := Nat.div_le_div_left (by decide) (by decide)
  simp only [Nat.dvd_iff_mod_eq_zero] at h4 h100 h400
  simp only [daysBeforeYear, yearLength, isLeap_iff, Nat.add_sub_cancel, h4, h100, h400]
  by_cases d4 : (k + 1) % 4 = 0
  · by_cases d100 : (k + 1) % 100 = 0
    · by_cases d400 : (k + 1) % 400 = 0
      · simp only [d4, d100, d400, ne_eq, not_true, or_true, and_self, if_true]
        omega
      · simp only [d4, d100, d400, ne_eq, not_true, or_self, and_false, if_true, if_false]
        omega
    · have d400 : (k + 1) % 400 ≠ 0 := by omega
      simp only [d4, d100, d400, ne_eq, not_false_eq_true, true_or, and_self, if_true, if_false]
      omega
  · have d100 : (k + 1) % 100 ≠ 0 := by omega
    have d400 : (k + 1) % 400 ≠ 0 := by omega
    simp only [d4, d100, d400, false_and, if_false]
    omega

theorem sum_monthLengths (y : Nat) : (monthLengths y).sum = yearLength y := by
  rw [monthLengths, yearLength]
  split <;> rfl

/-- The days before a year, from its four centuries, centuries, leap cycles and years. -/
theorem daysBeforeYear_parts {a c l y : Nat} (hc : c ≤ 3) (hl : l ≤ 24) (hy : y ≤ 3) :
    daysBeforeYear (400 * a + 100 * c + 4 * l + y + 1) =
      146097 * a + 36524 * c + 1461 * l + 365 * y := by
  have h4 : (400 * a + 100 * c + 4 * l + y) / 4 = 100 * a + 25 * c + l := by omega
  have h100 : (400 * a + 100 * c + 4 * l + y) / 100 = 4 * a + c := by omega
  have h400 : (400 * a + 100 * c + 4 * l + y) / 400 = a := by omega
  rw [daysBeforeYear, Nat.add_sub_cancel, h4, h100, h400]
  omega

/-- The last year of a leap cycle is a leap year, the last of a century only after four of them. -/
theorem isLeap_parts {a c l : Nat} (hl : l ≤ 24) (h : l = 24 → c = 3) :
    isLeap (400 * a + 100 * c + 4 * l + 3 + 1) = true := by
  rw [isLeap_iff]
  omega

/-- A day is in the year that is told for it, and comes after as many days of that year. -/
theorem yearOf_spec (n : Nat) : 1 ≤ (yearOf n).1 ∧
    daysBeforeYear (yearOf n).1 + (yearOf n).2 = n ∧ (yearOf n).2 < yearLength (yearOf n).1 := by
  let r := n % 146097
  let c := min 3 (r / 36524)
  let s := r - 36524 * c
  let l := s / 1461
  let y := min 3 (s % 1461 / 365)
  let d := s % 1461 - 365 * y
  have hn : n = 146097 * (n / 146097) + r := (Nat.div_add_mod n 146097).symm
  have hr : r < 146097 := Nat.mod_lt n (by decide)
  have hc : c ≤ 3 := Nat.min_le_left _ _
  have hs : r = 36524 * c + s ∧ (s < 36524 ∨ c = 3 ∧ s = 36524) := by omega
  have hl : s = 1461 * l + s % 1461 ∧ l ≤ 24 := by omega
  have hy : y ≤ 3 := Nat.min_le_left _ _
  have hd : s % 1461 = 365 * y + d ∧ (d < 365 ∨ y = 3 ∧ d = 365) := by omega
  have hyear : yearOf n = (400 * (n / 146097) + 100 * c + 4 * l + y + 1, d) := rfl
  rw [hyear]
  refine ⟨Nat.succ_pos _, ?_, ?_⟩
  · rw [daysBeforeYear_parts hc hl.2 hy]
    omega
  · rcases hd.2 with hd | ⟨hy3, hd⟩
    · rw [yearLength]
      split <;> omega
    · rw [hy3, yearLength, isLeap_parts hl.2 (by omega), if_pos rfl]
      omega

theorem daysBeforeYear_mono {y z : Nat} (hy : 1 ≤ y) (h : y ≤ z) :
    daysBeforeYear y ≤ daysBeforeYear z := by
  induction h with
  | refl => exact Nat.le_refl _
  | @step z hz ih =>
    rw [daysBeforeYear_succ (Nat.le_trans hy hz)]
    exact Nat.le_trans ih (Nat.le_add_right _ _)

theorem monthOf_spec {ls : List Nat} {n : Nat} (h : n < ls.sum) (m : Nat) :
    ∃ k l d, monthOf m ls n = (m + k, d + 1) ∧ ls[k]? = some l ∧ d < l ∧
      (ls.take k).sum + d = n := by
  induction ls generalizing m n with
  | nil => exact absurd h (Nat.not_lt_zero n)
  | cons l ls ih =>
    rw [List.sum_cons] at h
    rw [monthOf]
    split
    · next hn => exact ⟨0, l, n, rfl, rfl, hn, Nat.zero_add n⟩
    · obtain ⟨k, l', d, hk, hl, hd, hsum⟩ := ih (n := n - l) (by omega) (m + 1)
      refine ⟨k + 1, l', d, ?_, hl, hd, ?_⟩
      · rw [hk, Nat.add_assoc, Nat.add_comm 1 k]
      · rw [List.take_succ_cons, List.sum_cons]
        omega

/-- Counting days back from a number of them gives a day of the calendar with that number. -/
theorem ofDays_spec (n : Nat) : (ofDays n).Proper ∧ (ofDays n).toDays = n := by
  have hspec := yearOf_spec n
  rcases hyear : yearOf n with ⟨y, r⟩
  rw [hyear, ← sum_monthLengths] at hspec
  obtain ⟨hy, hn, hr⟩ := hspec
  obtain ⟨k, l, d, hmonth, hl, hd, hsum⟩ := monthOf_spec hr 1
  have hk : 1 + k - 1 = k := Nat.add_sub_cancel_left 1 k
  have hdate : ofDays n = ⟨y, 1 + k, d + 1⟩ := by simp only [ofDays, hyear, hmonth]
  rw [hdate]
  constructor
  · exact ⟨hy, Nat.le_add_right 1 k, Nat.succ_pos d, l, by rw [hk]; exact hl, hd⟩
  · rw [toDays, hk, ← List.sum_eq_foldr]
    dsimp only at hn hsum ⊢
    omega

theorem sum_take_add_le {ls : List Nat} {k l : Nat} (h : ls[k]? = some l) :
    (ls.take k).sum + l ≤ ls.sum := by
  induction ls generalizing k with
  | nil => cases h
  | cons m ls ih =>
    cases k with
    | zero =>
      obtain rfl := Option.some.inj h
      rw [List.take_zero, List.sum_nil, List.sum_cons]
      omega
    | succ k =>
      have := ih h
      rw [List.take_succ_cons, List.sum_cons, List.sum_cons]
      omega

/-- A day comes after the years before its own, and before the years behind it. -/
theorem Proper.toDays_mem {d : Date} (h : d.Proper) :
    daysBeforeYear d.year ≤ d.toDays ∧ d.toDays < daysBeforeYear (d.year + 1) := by
  obtain ⟨l, hl, hday⟩ := h.day_le
  have hsum := sum_take_add_le hl
  have hpos := h.day
  rw [sum_monthLengths] at hsum
  rw [daysBeforeYear_succ h.year, toDays, ← List.sum_eq_foldr]
  omega

theorem Proper.year_le_iff {d : Date} (h : d.Proper) (y : Nat) :
    d.year ≤ y ↔ d.toDays < daysBeforeYear (y + 1) := by
  obtain ⟨hle, hlt⟩ := h.toDays_mem
  constructor
  · intro hy
    exact Nat.lt_of_lt_of_le hlt (daysBeforeYear_mono (Nat.succ_pos _) (Nat.succ_le_succ hy))
  · intro hd
    by_contra hy
    have hge : daysBeforeYear (y + 1) ≤ daysBeforeYear d.year :=
      daysBeforeYear_mono (Nat.succ_pos y) (Nat.lt_of_not_le hy)
    omega

def Before (d e : Date) : Prop := d.year < e.year ∨
  d.year = e.year ∧ (d.month < e.month ∨ d.month = e.month ∧ d.day < e.day)

theorem sum_take_add_le_sum_take {ls : List Nat} {k j l : Nat} (h : ls[k]? = some l) (hj : k < j) :
    (ls.take k).sum + l ≤ (ls.take j).sum := by
  have htake : (ls.take j).take k = ls.take k := by
    rw [List.take_take, Nat.min_eq_left (Nat.le_of_lt hj)]
  have hget : (ls.take j)[k]? = some l := by rw [List.getElem?_take_of_lt hj, h]
  have hsum := sum_take_add_le hget
  rwa [htake] at hsum

theorem Before.toDays_lt {d e : Date} (hd : d.Proper) (he : e.Proper) (h : d.Before e) :
    d.toDays < e.toDays := by
  rcases h with hyear | ⟨hyear, hmonth | ⟨hmonth, hday⟩⟩
  · have hle : daysBeforeYear (d.year + 1) ≤ daysBeforeYear e.year :=
      daysBeforeYear_mono (Nat.succ_pos d.year) hyear
    have hlt := hd.toDays_mem.2
    have hge := he.toDays_mem.1
    omega
  · obtain ⟨l, hl, hday⟩ := hd.day_le
    have hmonths : d.month - 1 < e.month - 1 := by
      have := hd.month
      omega
    have hsum := sum_take_add_le_sum_take hl hmonths
    have hpos := hd.day
    rw [toDays, toDays, ← hyear, ← List.sum_eq_foldr, ← List.sum_eq_foldr]
    omega
  · have hpos := hd.day
    rw [toDays, toDays, ← hyear, ← hmonth]
    omega

/-- Days are numbered in the order of the calendar. -/
theorem Proper.toDays_lt_iff {d e : Date} (hd : d.Proper) (he : e.Proper) :
    d.toDays < e.toDays ↔ d.Before e := by
  constructor
  · intro hlt
    by_contra hbefore
    have hrest : d = e ∨ e.Before d := by
      rcases d with ⟨y, m, n⟩
      rcases e with ⟨y', m', n'⟩
      simp only [Before, Date.mk.injEq] at hbefore ⊢
      omega
    rcases hrest with rfl | hafter
    · exact Nat.lt_irrefl _ hlt
    · exact Nat.lt_asymm hlt (hafter.toDays_lt he hd)
  · exact Before.toDays_lt hd he

end Date

namespace Moment

structure Proper (m : Moment) : Prop where
  date : m.date.Proper
  hour : m.hour < 24
  minute : m.minute < 60
  second : m.second < 60
  microsecond : m.microsecond < 1000000

/-- A moment in UTC, at the same instant as `m`. -/
structure IsUtcOf (u m : Moment) : Prop where
  proper : u.Proper
  offset : u.offset = 0
  instant : u.instant = m.instant

def ofInstant (n : Nat) : Moment :=
  let t := n % dayLength
  ⟨Date.ofDays (n / dayLength), t / 3600000000, t / 60000000 % 60, t / 1000000 % 60, t % 1000000, 0⟩

theorem instant_ofInstant (n : Nat) : (ofInstant n).instant = n := by
  have hdays := (Date.ofDays_spec (n / dayLength)).2
  simp only [instant, ofInstant, hdays]
  simp only [dayLength]
  omega

theorem proper_ofInstant (n : Nat) : (ofInstant n).Proper where
  date := (Date.ofDays_spec (n / dayLength)).1
  hour := by
    show n % 86400000000 / 3600000000 < 24
    omega
  minute := Nat.mod_lt _ (by decide)
  second := Nat.mod_lt _ (by decide)
  microsecond := Nat.mod_lt _ (by decide)

/-- The instants that are kept are those of the moments which the calendar has in UTC up to the
year 9999. -/
theorem isSome_instant?_iff (m : Moment) :
    m.instant?.isSome = true ↔ ∃ u, IsUtcOf u m ∧ u.date.year ≤ 9999 := by
  have hrange : m.instant?.isSome = true ↔ 0 ≤ m.instant ∧ m.instant < endOfTime := by
    rw [instant?]
    split <;> simp [*]
  have hend : endOfTime = 3652059 * 86400000000 := rfl
  have hyears : Date.daysBeforeYear (9999 + 1) = 3652059 := rfl
  rw [hrange, hend]
  constructor
  · intro h
    have hm : m.instant = (m.instant.toNat : Int) := by omega
    refine ⟨ofInstant m.instant.toNat, ⟨proper_ofInstant _, rfl, ?_⟩, ?_⟩
    · rw [instant_ofInstant, ← hm]
    · rw [(proper_ofInstant _).date.year_le_iff, ofInstant, (Date.ofDays_spec _).2, hyears,
        dayLength]
      omega
  · rintro ⟨u, ⟨hproper, hoffset, hinstant⟩, hyear⟩
    rw [hproper.date.year_le_iff, hyears] at hyear
    obtain ⟨-, hh, hmin, hs, hmicro⟩ := hproper
    rw [← hinstant, instant, hoffset]
    omega

end Moment
end CaseChart
