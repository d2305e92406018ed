import CaseChart.Document.Extraction
import Mathlib.Algebra.Ring.Nat

namespace CaseChart.Extraction

/-- The replies of a model to documents that are sent alone, the first as request number `n`. -/
def replies (model : Model) (n : Nat) (ds : List Document) : List ModelReply :=
  ds.mapIdx fun i d => model (n + i) [d]

def AllSucceed (rs : List ModelReply) : Prop := ∀ r ∈ rs, r.success = true

def total (ds : List Document) : Nat := (ds.map (·.text.length)).sum

variable {l : Limits} {model : Model} {n : Nat} {d : Document} {ds : List Document}

theorem replies_nil (model : Model) (n : Nat) : replies model n [] = [] := rfl

theorem replies_cons (model : Model) (n : Nat) (d : Document) (ds : List Document) :
    replies model n (d :: ds) = model n [d] :: replies model (n + 1) ds := by
  simp only [replies, List.mapIdx_cons, Nat.add_zero, Nat.add_assoc, Nat.add_comm 1]

theorem length_replies (model : Model) (n : Nat) (ds : List Document) :
    (replies model n ds).length = ds.length := List.length_mapIdx

theorem allSucceed_cons {r : ModelReply} {rs : List ModelReply} :
    AllSucceed (r :: rs) ↔ r.success = true ∧ AllSucceed rs := List.forall_mem_cons

theorem size_eq_total (ds : List Document) : size ds = total ds := by
  rw [size, total, List.sum_eq_foldr, List.foldr_map]

theorem ask_cons_of_success (h : (model n [d]).success = true) :
    ask model n (d :: ds) =
      ⟨[d] :: (ask model (n + 1) ds).asked,
        (ask model (n + 1) ds).charts.map ((model n [d]).chart :: ·)⟩ := if_pos h

theorem ask_cons_of_failure (h : (model n [d]).success = false) :
    ask model n (d :: ds) = ⟨[[d]], .error (d, (model n [d]).error)⟩ :=
  if_neg (by rw [h]; exact Bool.false_ne_true)

theorem asked_cons_ne_nil (model : Model) (n : Nat) (d : Document) (ds : List Document) :
    (ask model n (d :: ds)).asked ≠ [] := by
  cases h : (model n [d]).success with
  | true =>
    rw [ask_cons_of_success h]
    exact List.cons_ne_nil _ _
  | false =>
    rw [ask_cons_of_failure h]
    exact List.cons_ne_nil _ _

/-- A model that never fails is asked for every document. -/
theorem ask_of_allSucceed (h : AllSucceed (replies model n ds)) :
    ask model n ds = ⟨ds.map fun d => [d], .ok ((replies model n ds).map (·.chart))⟩ := by
  induction ds generalizing n with
  | nil => rfl
  | cons d ds ih =>
    rw [replies_cons, allSucceed_cons] at h
    rw [ask_cons_of_success h.1, ih h.2, replies_cons]
    rfl

/-- No request follows the first one that fails. -/
theorem ask_of_failure {before : List Document} (h : AllSucceed (replies model n before))
    (hd : (model (n + before.length) [d]).success = false) (later : List Document) :
    ask model n (before ++ d :: later) =
      ⟨(before ++ [d]).map fun d => [d], .error (d, (model (n + before.length) [d]).error)⟩ := by
  induction before generalizing n with
  | nil => exact ask_cons_of_failure hd
  | cons b before ih =>
    rw [replies_cons, allSucceed_cons] at h
    have hplace : n + (b :: before).length = n + 1 + before.length := by
      rw [List.length_cons]
      omega
    rw [hplace] at hd ⊢
    rw [List.cons_append, ask_cons_of_success h.1, ih h.2 hd]
    rfl

def Refused (l : Limits) (ds : List Document) : Prop := ds = [] ∨ l.textLength < total ds

theorem run_nil (l : Limits) (model : Model) : run l model [] = ⟨[], .error .noDocuments⟩ := rfl

theorem run_of_long (hne : ds ≠ []) (h : l.textLength < total ds) :
    run l model ds = ⟨[], .error (.longText (.textLength l.textLength))⟩ := by
  rw [run, if_neg (by rwa [List.isEmpty_iff]), Guard.textLength, size_eq_total, if_pos h]

theorem run_of_not_refused (h : ¬Refused l ds) :
    run l model ds =
      ⟨(ask model 0 ds).asked,
        match (ask model 0 ds).charts with
        | .ok charts => .ok (Chart.analyze charts)
        | .error (d, error) => .error (.requestFailed d.name error)⟩ := by
  obtain ⟨hne, hlong⟩ := not_or.1 h
  have hsome : ¬ds.isEmpty = true := by rwa [List.isEmpty_iff]
  have hguard : Guard.textLength l (size ds) = none := by
    rw [Guard.textLength, size_eq_total, if_neg hlong]
  exact (if_neg hsome).trans (hguard ▸ rfl)

/-- A refusal blames the documents, and says what is wrong with them. -/
theorem exists_of_refused (h : Refused l ds) (model : Model) :
    ∃ c, run l model ds = ⟨[], .error c⟩ ∧
      c.refusal = .ofArgument
        (if ds = [] then "No documents provided"
          else s!"Text exceeds maximum length of {l.textLength} characters")
        (some "documents") [] := by
  by_cases hne : ds = []
  · subst hne
    exact ⟨_, run_nil l model, rfl⟩
  · rw [if_neg hne]
    exact ⟨_, run_of_long hne (h.resolve_left hne), rfl⟩

theorem asked_ne_nil_of_not_refused (h : ¬Refused l ds) (model : Model) :
    (run l model ds).asked ≠ [] := by
  rw [run_of_not_refused h]
  cases ds with
  | nil => exact absurd (.inl rfl) h
  | cons d ds => exact asked_cons_ne_nil model 0 d ds

/-- Documents that are not refused are not blamed for what becomes of them. -/
theorem kind_of_not_refused (h : ¬Refused l ds) {c : Cause}
    (hc : (run l model ds).result = .error c) : c.refusal.kind = .extraction := by
  rw [run_of_not_refused h] at hc
  dsimp only at hc
  split at hc
  · cases hc
  · cases hc
    rfl

theorem asked_eq_nil_iff (l : Limits) (model : Model) (ds : List Document) :
    (run l model ds).asked = [] ↔ Refused l ds := by
  constructor
  · intro hasked
    by_contra h
    exact asked_ne_nil_of_not_refused h model hasked
  · intro h
    obtain ⟨c, hrun, -⟩ := exists_of_refused h model
    rw [hrun]

theorem exists_argument_iff (l : Limits) (model : Model) (ds : List Document) :
    (∃ c, (run l model ds).result = .error c ∧ c.refusal.kind = .argument) ↔ Refused l ds := by
  constructor
  · rintro ⟨c, hc, hkind⟩
    by_contra h
    rw [kind_of_not_refused h hc] at hkind
    cases hkind
  · intro h
    obtain ⟨c, hrun, hc⟩ := exists_of_refused h model
    exact ⟨c, by rw [hrun], by rw [hc]; rfl⟩

/-- The message about a request that failed: the model's own, unless it is missing or empty. -/
theorem requestMessage_eq (error : Option String) :
    Cause.requestMessage error =
      if error.getD "" = "" then "Entity extraction failed" else error.getD "" := by
  cases error <;> rfl

/-- Nothing is sent exactly if there are no documents or too many characters, and exactly then the
documents are to blame. Otherwise they are sent one by one, in order: up to and with the first that
fails, which is then named with the model's reason, or all of them, and the report is on the charts
of the replies. -/
theorem run_asks_in_order (l : Limits) (model : Model) (ds : List Document) :
    ((run l model ds).asked = [] ↔ ds = [] ∨ l.textLength < total ds) ∧
    ((∃ c, (run l model ds).result = .error c ∧ c.refusal.kind = .argument) ↔
      ds = [] ∨ l.textLength < total ds) ∧
    (ds ≠ [] → total ds ≤ l.textLength →
      (∀ before d later, ds = before ++ d :: later → AllSucceed (replies model 0 before) →
        (model before.length [d]).success = false →
          let told := (model before.length [d]).error.getD ""
          ∃ c, run l model ds = ⟨(before ++ [d]).map fun d => [d], .error c⟩ ∧
            c.refusal = .ofExtraction (if told = "" then "Entity extraction failed" else told)
              [("file_name", .text d.name)]) ∧
      (AllSucceed (replies model 0 ds) →
        let charts := (replies model 0 ds).map (·.chart)
        run l model ds = ⟨ds.map fun d => [d], .ok (Chart.analyze charts)⟩ ∧
          (Chart.analyze charts).verdict = Chart.validate (Chart.merge charts) ∧
          (Chart.analyze charts).tally = Chart.tally (Chart.merge charts) ∧
          (Chart.analyze charts).sources = ds.length)) := by
  refine ⟨asked_eq_nil_iff l model ds, exists_argument_iff l model ds, fun hne hshort => ?_⟩
  have hrun : ¬Refused l ds := not_or.2 ⟨hne, Int.not_lt.2 hshort⟩
  constructor
  · rintro before d later rfl hbefore hd
    have hask := ask_of_failure (n := 0) hbefore (by rwa [Nat.zero_add]) later
    rw [Nat.zero_add] at hask
    refine ⟨.requestFailed d.name (model before.length [d]).error, ?_, ?_⟩
    · rw [run_of_not_refused hrun, hask]
    · rw [Cause.refusal, requestMessage_eq]
  · intro h
    refine ⟨?_, rfl, rfl, ?_⟩
    · rw [run_of_not_refused hrun, ask_of_allSucceed h]
    · rw [Chart.analyze, List.length_map, length_replies]

/-- The second of three documents fails for no reason told, and the third is not sent. -/
theorem run_asks_in_order_second_fails :
    let l : Limits := { textLength := 4 }
    let model : Model := fun n _ => ⟨n != 1, "graph TD".toList, some ""⟩
    let a : Document := ⟨"a.txt", "ab".toList⟩
    let b : Document := ⟨"b.txt", "c".toList⟩
    let c : Document := ⟨"c.txt", "d".toList⟩
    ([a, b, c] ≠ [] ∧ total [a, b, c] ≤ l.textLength ∧ AllSucceed (replies model 0 [a]) ∧
        (model 1 [b]).success = false) ∧
      ∃ cause, run l model [a, b, c] = ⟨[[a], [b]], .error cause⟩ ∧
        cause.refusal =
          .ofExtraction "Entity extraction failed" [("file_name", .text "b.txt")] := by
  intro l model a b c
  have hne : [a, b, c] ≠ [] := List.cons_ne_nil _ _
  have hshort : total [a, b, c] ≤ l.textLength := by decide
  have hfirst : AllSucceed (replies model 0 [a]) := by
    rw [replies_cons, allSucceed_cons, replies_nil]
    exact ⟨rfl, List.forall_mem_nil _⟩
  obtain ⟨-, -, h⟩ := run_asks_in_order l model [a, b, c]
  exact ⟨⟨hne, hshort, hfirst, rfl⟩, (h hne hshort).1 [a] b [c] rfl hfirst rfl⟩

end CaseChart.Extraction
