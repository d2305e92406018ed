import CaseChart.Proofs.Text.Word

namespace CaseChart.Text

/-- A place in front of a character: the text before it, and the text from it on. -/
structure Place where
  before : Text
  after : Text
  deriving DecidableEq

def places (t : Text) : List Place := (List.range t.length).map fun i => ⟨t.take i, t.drop i⟩

theorem mem_places_iff {t : Text} {x : Place} :
    x ∈ places t ↔ x.before ++ x.after = t ∧ x.after ≠ [] := by
  rw [places, List.mem_map]
  constructor
  · rintro ⟨i, hi, rfl⟩
    refine ⟨List.take_append_drop i t, ?_⟩
    rw [ne_eq, List.drop_eq_nil_iff, Nat.not_le]
    exact List.mem_range.1 hi
  · rintro ⟨rfl, hne⟩
    refine ⟨x.before.length, ?_, by rw [List.take_left, List.drop_left]⟩
    have := List.length_pos_of_ne_nil hne
    rw [List.mem_range, List.length_append]
    omega

namespace Place

def startsRun (p : Char → Bool) (x : Place) : Bool :=
  x.after.head?.any p && !x.before.getLast?.any p

def run (p : Char → Bool) (x : Place) : Text := x.after.takeWhile p

def rest (p : Char → Bool) (x : Place) : Text := x.after.dropWhile p

end Place

/-- Where the maximal runs of characters with `p` start. -/
def runs (p : Char → Bool) (t : Text) : List Place := (places t).filter (Place.startsRun p)

/-- The text before a maximal run, the run, and what follows it. -/
theorem mem_runs_iff {p : Char → Bool} {t : Text} {x : Place} :
    x ∈ runs p t ↔ x.before ++ (x.run p ++ x.rest p) = t ∧ x.run p ≠ [] ∧
      ∀ c ∈ x.before.getLast?, p c = false := by
  have hr : x.after.head?.any p = true ↔ x.run p ≠ [] := by
    cases h : x.after with
    | nil => simp [Place.run, h]
    | cons c s => simp [Place.run, h, List.takeWhile_cons]
  have hl : x.before.getLast?.any p = false ↔ ∀ c ∈ x.before.getLast?, p c = false := by
    cases x.before.getLast? with
    | none => simp
    | some c => simp
  rw [runs, List.mem_filter, mem_places_iff, Place.startsRun, Bool.and_eq_true, hr,
    Bool.not_eq_true', hl, Place.run, Place.rest, List.takeWhile_append_dropWhile]
  constructor
  · rintro ⟨⟨ht, -⟩, h⟩
    exact ⟨ht, h⟩
  · rintro ⟨ht, hne, h⟩
    refine ⟨⟨ht, ?_⟩, hne, h⟩
    rintro h0
    exact hne (by rw [h0]; rfl)

/-- The places of `t` in a text that begins with `b` and goes on with `t`. -/
def placesAfter (b t : Text) : List Place := (places t).map fun x => ⟨b ++ x.before, x.after⟩

theorem placesAfter_nil (t : Text) : placesAfter [] t = places t := List.map_id' (places t)

theorem placesAfter_cons (b : Text) (c : Char) (t : Text) :
    placesAfter b (c :: t) = ⟨b, c :: t⟩ :: placesAfter (b ++ [c]) t := by
  simp [placesAfter, places, List.range_succ_eq_map, Function.comp_def]

def runsAfter (p : Char → Bool) (b t : Text) : List Place :=
  (placesAfter b t).filter (Place.startsRun p)

section
variable {p : Char → Bool}

theorem runs_eq_runsAfter (t : Text) : runs p t = runsAfter p [] t := by
  rw [runs, runsAfter, placesAfter_nil]

theorem runsAfter_cons_of_start {c : Char} (hc : p c = true) {b : Text}
    (hb : b.getLast?.any p = false) (t : Text) :
    runsAfter p b (c :: t) = ⟨b, c :: t⟩ :: runsAfter p (b ++ [c]) t := by
  rw [runsAfter, placesAfter_cons, List.filter_cons_of_pos, runsAfter]
  simp [Place.startsRun, hc, hb]

theorem runsAfter_cons_of_inside {b : Text} (hb : b.getLast?.any p = true) (c : Char) (t : Text) :
    runsAfter p b (c :: t) = runsAfter p (b ++ [c]) t := by
  rw [runsAfter, placesAfter_cons, List.filter_cons_of_neg, runsAfter]
  simp [Place.startsRun, hb]

theorem runsAfter_cons_of_outside {c : Char} (hc : p c = false) (b t : Text) :
    runsAfter p b (c :: t) = runsAfter p (b ++ [c]) t := by
  rw [runsAfter, placesAfter_cons, List.filter_cons_of_neg, runsAfter]
  simp [Place.startsRun, hc]

theorem runsAfter_append_of_outside {w : Text} (hw : ∀ c ∈ w, p c = false) (b t : Text) :
    runsAfter p b (w ++ t) = runsAfter p (b ++ w) t := by
  induction w generalizing b with
  | nil => rw [List.nil_append, List.append_nil]
  | cons c w ih =>
    rw [List.cons_append, runsAfter_cons_of_outside (hw c List.mem_cons_self),
      ih fun d hd => hw d (List.mem_cons_of_mem c hd), List.append_assoc, List.singleton_append]

theorem runsAfter_append_of_inside {w : Text} (hw : ∀ c ∈ w, p c = true) {b : Text}
    (hb : b.getLast?.any p = true) (t : Text) :
    runsAfter p b (w ++ t) = runsAfter p (b ++ w) t := by
  induction w generalizing b with
  | nil => rw [List.nil_append, List.append_nil]
  | cons c w ih =>
    have hc : (b ++ [c]).getLast?.any p = true := by simp [hw c List.mem_cons_self]
    rw [List.cons_append, runsAfter_cons_of_inside hb,
      ih (fun d hd => hw d (List.mem_cons_of_mem c hd)) hc, List.append_assoc,
      List.singleton_append]

/-- A run has one start. -/
theorem runsAfter_append_run {w : Text} (hne : w ≠ []) (hw : ∀ c ∈ w, p c = true) {b : Text}
    (hb : b.getLast?.any p = false) (t : Text) :
    runsAfter p b (w ++ t) = ⟨b, w ++ t⟩ :: runsAfter p (b ++ w) t := by
  obtain ⟨c, w, rfl⟩ := List.exists_cons_of_ne_nil hne
  have hc : p c = true := hw c List.mem_cons_self
  have hl : (b ++ [c]).getLast?.any p = true := by simp [hc]
  rw [List.cons_append, runsAfter_cons_of_start hc hb,
    runsAfter_append_of_inside (fun d hd => hw d (List.mem_cons_of_mem c hd)) hl, List.append_assoc,
    List.singleton_append]

/-- Of the text before only its last character counts, and this only if a run would go on. -/
theorem map_after_runsAfter_congr {b b' t : Text}
    (h : ∀ c ∈ t.head?, p c = true → b.getLast?.any p = b'.getLast?.any p) :
    (runsAfter p b t).map Place.after = (runsAfter p b' t).map Place.after := by
  induction t generalizing b b' with
  | nil => rfl
  | cons c t ih =>
    have ht : (runsAfter p (b ++ [c]) t).map Place.after =
        (runsAfter p (b' ++ [c]) t).map Place.after := ih (by simp)
    -- behind `c` the two texts before end alike
    cases hc : p c with
    | false => rw [runsAfter_cons_of_outside hc, runsAfter_cons_of_outside hc, ht]
    | true =>
      have hbb := h c rfl hc
      cases hb : b.getLast?.any p with
      | true =>
        rw [runsAfter_cons_of_inside hb, runsAfter_cons_of_inside (hbb ▸ hb), ht]
      | false =>
        rw [runsAfter_cons_of_start hc hb, runsAfter_cons_of_start hc (hbb ▸ hb), List.map_cons,
          List.map_cons, ht]

/-- What starts with no character of a run is not touched by what stands before it. -/
theorem map_after_runsAfter_of_head {t : Text} (h : ∀ c ∈ t.head?, p c = false) (b : Text) :
    (runsAfter p b t).map Place.after = (runs p t).map Place.after := by
  rw [runs_eq_runsAfter]
  apply map_after_runsAfter_congr
  intro c hc hp
  exact absurd hp (by simp [h c hc])

end

theorem Place.run_append {p : Char → Bool} {w r : Text} (hw : ∀ c ∈ w, p c = true)
    (hr : ∀ c ∈ r.head?, p c = false) (b : Text) : (Place.mk b (w ++ r)).run p = w :=
  takeWhile_append_of_head hw hr

theorem Place.rest_append {p : Char → Bool} {w r : Text} (hw : ∀ c ∈ w, p c = true)
    (hr : ∀ c ∈ r.head?, p c = false) (b : Text) : (Place.mk b (w ++ r)).rest p = r :=
  dropWhile_append_of_head hw hr

end CaseChart.Text
