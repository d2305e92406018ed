import CaseChart.Journal.Correlation

namespace CaseChart.Journal

theorem bind_given (j : Journal) {id : String} (h : id ≠ "") :
    j.bind (some id) = (.given id, { j with bound := some (.given id) }) := if_neg h

/-- Without an id, and with an empty one, the next one is made. -/
theorem bind_made (j : Journal) {id : Option String} (h : id.getD "" = "") :
    j.bind id =
      (.made j.made, { j with bound := some (.made j.made), made := j.made + 1 }) := by
  cases id with
  | none => rfl
  | some s => exact if_pos h

theorem bind_cases (j : Journal) (id : Option String) :
    (∃ s, id = some s ∧ s ≠ "" ∧
        j.bind id = (.given s, { j with bound := some (.given s) })) ∨
      (id.getD "" = "" ∧ j.bind id =
        (.made j.made, { j with bound := some (.made j.made), made := j.made + 1 })) := by
  by_cases h : id.getD "" = ""
  · exact .inr ⟨h, bind_made j h⟩
  · cases id with
    | none => exact absurd rfl h
    | some s => exact .inl ⟨s, rfl, h, bind_given j h⟩

theorem bound_bind (j : Journal) (id : Option String) :
    (j.bind id).2.bound = some (j.bind id).1 := by
  rcases bind_cases j id with ⟨s, -, -, h⟩ | ⟨-, h⟩ <;> rw [h]

theorem written_bind (j : Journal) (id : Option String) : (j.bind id).2.written = j.written := by
  rcases bind_cases j id with ⟨s, -, -, h⟩ | ⟨-, h⟩ <;> rw [h]

theorem made_le_made_bind (j : Journal) (id : Option String) : j.made ≤ (j.bind id).2.made := by
  rcases bind_cases j id with ⟨s, -, -, h⟩ | ⟨-, h⟩
  · have hmade : (j.bind id).2.made = j.made := by rw [h]
    exact Nat.le_of_eq hmade.symm
  · have hmade : (j.bind id).2.made = j.made + 1 := by rw [h]
    exact hmade ▸ Nat.le_succ j.made

/-- The ids made are numbered: the next one has the next number. -/
theorem eq_made_of_bind {j : Journal} {id : Option String} {n : Nat} (h : (j.bind id).1 = .made n) :
    n = j.made ∧ (j.bind id).2.made = n + 1 := by
  rcases bind_cases j id with ⟨s, -, -, hbind⟩ | ⟨-, hbind⟩
  · rw [hbind] at h
    cases h
  · rw [hbind] at h ⊢
    cases h
    exact ⟨rfl, rfl⟩

theorem write_write (j : Journal) (rs rs' : List Record) :
    (j.write rs).write rs' = j.write (rs ++ rs') := by
  simp only [write, List.map_append, List.append_assoc]

def under (j : Journal) (id : Option String) (rs : List Record) : Journal :=
  ((j.bind id).2.write rs).clear

theorem written_under (j : Journal) (id : Option String) (rs : List Record) :
    (j.under id rs).written = j.written ++ rs.map fun r => ⟨some (j.bind id).1, r⟩ := by
  show (j.bind id).2.written ++ rs.map (fun r => ⟨(j.bind id).2.bound, r⟩) = _
  rw [written_bind, bound_bind]

/-- No id is bound, and all ids on what was written that were made have been counted. -/
structure Idle (j : Journal) : Prop where
  bound_eq : j.bound = none
  made_lt : ∀ w ∈ j.written, ∀ n, w.id = some (.made n) → n < j.made

theorem idle_empty : Idle {} := ⟨rfl, nofun⟩

theorem written_write_of_bound {j : Journal} (h : j.bound = none) (rs : List Record) :
    (j.write rs).written = j.written ++ rs.map fun r => ⟨none, r⟩ := by rw [write, h]

/-- What is written in between carries no id. -/
theorem Idle.write {j : Journal} (h : j.Idle) (rs : List Record) : (j.write rs).Idle := by
  refine ⟨h.bound_eq, fun w hw n hn => ?_⟩
  rw [written_write_of_bound h.bound_eq] at hw
  rcases List.mem_append.1 hw with hw | hw
  · exact h.made_lt w hw n hn
  · obtain ⟨r, -, rfl⟩ := List.mem_map.1 hw
    cases hn

theorem Idle.under {j : Journal} (h : j.Idle) (id : Option String) (rs : List Record) :
    (j.under id rs).Idle := by
  refine ⟨rfl, fun w hw n hn => ?_⟩
  rw [written_under] at hw
  rcases List.mem_append.1 hw with hw | hw
  · exact Nat.lt_of_lt_of_le (h.made_lt w hw n hn) (made_le_made_bind j id)
  · obtain ⟨r, -, rfl⟩ := List.mem_map.1 hw
    have hnext := (eq_made_of_bind (Option.some.inj hn)).2
    exact Nat.lt_of_lt_of_eq (Nat.lt_succ_self n) hnext.symm

/-- An id that is made now stands on nothing that was written before. -/
theorem Idle.not_carried {j : Journal} (h : j.Idle) {w : Stamped} (hw : w ∈ j.written) :
    w.id ≠ some (.made j.made) := fun hid => Nat.lt_irrefl _ (h.made_lt w hw _ hid)

end CaseChart.Journal
