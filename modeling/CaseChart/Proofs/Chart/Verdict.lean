import CaseChart.Chart.Verdict
import CaseChart.Proofs.Chart.Keywords
import CaseChart.Proofs.Firsts
import Mathlib.Data.List.Count
import Mathlib.Data.List.Nodup

namespace CaseChart
open Text

namespace Category

def names : List Text := all.map fun c => c.name.toList

theorem ofName?_eq_some_iff {n : Text} {c : Category} :
    ofName? (String.ofList n) = some c ↔ n = c.name.toList := by
  constructor
  · intro h
    have hn := List.find?_some h
    rw [beq_iff_eq.1 hn, String.toList_ofList]
  · rintro rfl
    rw [String.ofList_toList, ofName?_name]

theorem ofName?_eq_none_iff {n : Text} : ofName? (String.ofList n) = none ↔ n ∉ names := by
  rw [Option.eq_none_iff_forall_ne_some, names, List.mem_map, not_exists]
  refine forall_congr' fun c => ?_
  rw [ne_eq, ofName?_eq_some_iff, not_and, eq_comm]
  exact ⟨fun h _ => h, fun h => h (mem_all c)⟩

end Category

namespace Facts
open Lexeme

theorem tags_ofText (t : Text) : (ofText t).tags = (content t).filterMap tagName? := by
  rw [content, List.filterMap_filter]
  apply List.filterMap_congr
  intro l _
  cases l with
  | tag n => rfl
  | marker c => rfl
  | word w => rfl
  | mark c => exact (ite_self none).symm

theorem countP_content {p : Lexeme → Bool} (hp : ∀ l, p l = true → l.isContent = true) (t : Text) :
    (content t).countP p = (Lexeme.ofText t).countP p := by
  rw [content, List.countP_filter]
  apply List.countP_congr
  intro l _
  rw [Bool.and_eq_true]
  exact ⟨fun h => h.1, fun h => ⟨h, hp l h⟩⟩

theorem markers_ofText (t : Text) : (ofText t).markers = (content t).countP isMarker := by
  rw [countP_content]
  · rfl
  · intro l h
    cases l with
    | marker c => rfl
    | tag n => rfl
    | word w => exact absurd h (by simp [isMarker])
    | mark c => exact absurd h (by simp [isMarker])

theorem opens_ofText (t : Text) : (ofText t).opens = (content t).count (.mark '[') := by
  rw [content, List.count_filter (by decide)]
  rfl

theorem closes_ofText (t : Text) : (ofText t).closes = (content t).count (.mark ']') := by
  rw [content, List.count_filter (by decide)]
  rfl

/-- White space does not matter to labels, except that a blank label counts as none. -/
theorem countLabels_filter (label : Option Bool) (ls : List Lexeme) :
    countLabels label (ls.filter (!·.isBlank)) = countLabels label ls := by
  induction ls generalizing label with
  | nil => rfl
  | cons l ls ih =>
    cases hb : l.isBlank with
    | false => rw [List.filter_cons_of_pos (by simp [hb]), countLabels, countLabels, ih, ih, ih]
    | true =>
      have ho : l ≠ mark '[' := by
        rintro rfl
        exact absurd hb (by decide)
      have hc : l ≠ mark ']' := by
        rintro rfl
        exact absurd hb (by decide)
      have hl : (label.map (· || !l.isBlank)) = label := by simp [hb]
      rw [List.filter_cons_of_neg (by simp [hb]), countLabels, if_neg ho, if_neg hc, hl, ih]

theorem labels_ofText (t : Text) : (ofText t).labels = countLabels none (visible t) :=
  (countLabels_filter none _).symm

/-- White space around a text, even where it follows an open label, a keyword or a pair of hyphens,
changes none of its facts. -/
theorem ofText_trim (t : Text) : ofText (trim t) = ofText t := by
  have hvisible : visible (trim t) = visible t := visible_trim t
  have hcontent : content (trim t) = content t := content_congr hvisible
  have htags : (ofText (trim t)).tags = (ofText t).tags := by
    rw [tags_ofText, tags_ofText, hcontent]
  have hmarkers : (ofText (trim t)).markers = (ofText t).markers := by
    rw [markers_ofText, markers_ofText, hcontent]
  have hopens : (ofText (trim t)).opens = (ofText t).opens := by
    rw [opens_ofText, opens_ofText, hcontent]
  have hcloses : (ofText (trim t)).closes = (ofText t).closes := by
    rw [closes_ofText, closes_ofText, hcontent]
  have hlabels : (ofText (trim t)).labels = (ofText t).labels := by
    rw [labels_ofText, labels_ofText, hvisible]
  have hgroups : (ofText (trim t)).groups = (ofText t).groups := named_trim _ t
  have hstyles : (ofText (trim t)).styles = (ofText t).styles := named_trim _ t
  rw [ofText, ofText, ofLexemes, ofLexemes, Facts.mk.injEq]
  exact ⟨htags, hmarkers, hopens, hcloses, hlabels, hgroups, hstyles⟩

end Facts

namespace Flaw

theorem toList_message_unknownCategory (n : Text) : (unknownCategory n).message.toList =
    "Invalid entity class: ".toList ++ (n ++ (". Allowed: " ++
      ", ".intercalate (Category.all.map Category.name)).toList) := by
  show (("Invalid entity class: " ++ String.ofList n ++ ". Allowed: ") ++
    ", ".intercalate (Category.all.map Category.name)).toList = _
  simp only [String.toList_append, String.toList_ofList, List.append_assoc]

/-- The first letter tells whether a message reports a tag. -/
theorem head?_message {f : Flaw} :
    f.message.toList.head? = some 'I' ↔ ∃ n, f = unknownCategory n := by
  constructor
  · intro h
    cases f with
    | unknownCategory n => exact ⟨n, rfl⟩
    | empty => exact absurd h (by decide)
    | noHeader => exact absurd h (by decide)
    | noEntities => exact absurd h (by decide)
    | unbalanced => exact absurd h (by decide)
  · rintro ⟨n, rfl⟩
    rw [toList_message_unknownCategory]
    rfl

/-- The flaws that come in one form only. -/
def plain : List Flaw := [empty, noHeader, noEntities, unbalanced]

theorem nodup_message_plain : (plain.map message).Nodup := by decide

theorem mem_plain {f : Flaw} (h : ¬ ∃ n, f = unknownCategory n) : f ∈ plain := by
  cases f with
  | unknownCategory n => exact absurd ⟨n, rfl⟩ h
  | empty => decide
  | noHeader => decide
  | noEntities => decide
  | unbalanced => decide

theorem message_injective : Function.Injective message := by
  intro a b h
  have hab : (∃ n, a = unknownCategory n) ↔ ∃ n, b = unknownCategory n := by
    rw [← head?_message, ← head?_message, h]
  by_cases ha : ∃ n, a = unknownCategory n
  · obtain ⟨m, rfl⟩ := hab.1 ha
    obtain ⟨n, rfl⟩ := ha
    have hl := congrArg String.toList h
    rw [toList_message_unknownCategory, toList_message_unknownCategory] at hl
    exact congrArg unknownCategory (List.append_cancel_right (List.append_cancel_left hl))
  · have hb := mt hab.2 ha
    exact List.inj_on_of_nodup_map nodup_message_plain (mem_plain ha) (mem_plain hb) h

def In (t : Text) : Flaw → Prop
  | empty => isBlankText t = true
  | noHeader => isBlankText t = false ∧ Header.ofChart? (trim t) = none
  | unknownCategory n => n ∈ (Facts.ofText t).tags ∧ Category.ofName? (String.ofList n) = none
  | noEntities => isBlankText t = false ∧ (Facts.ofText t).labels = 0
  | unbalanced => (Facts.ofText t).opens ≠ (Facts.ofText t).closes

end Flaw

namespace Hint

theorem message_injective : Function.Injective message := by
  intro a b h
  have hinj : ∀ a ∈ [noGroups, noRelationships, noStyles],
      ∀ b ∈ [noGroups, noRelationships, noStyles], a.message = b.message → a = b := by decide
  exact hinj a (by cases a <;> decide) b (by cases b <;> decide) h

def In (t : Text) : Hint → Prop
  | noGroups => isBlankText t = false ∧ (Facts.ofText t).groups = 0
  | noRelationships => isBlankText t = false ∧ (Facts.ofText t).markers = 0
  | noStyles => isBlankText t = false ∧ (Facts.ofText t).styles = 0

end Hint

namespace Chart

theorem mem_hints_iff {t : Text} {h : Hint} : h ∈ hints t ↔ h.In t := by
  unfold hints
  split
  · next hb =>
    cases h with
    | noGroups => simp [Hint.In, hb]
    | noRelationships => simp [Hint.In, hb]
    | noStyles => simp [Hint.In, hb]
  · next hb =>
    dsimp only
    rw [Facts.ofText_trim]
    cases h with
    | noGroups => simp [Hint.In, hb]
    | noRelationships => simp [Hint.In, hb]
    | noStyles => simp [Hint.In, hb]

theorem mem_warnings_iff {t : Text} {h : Hint} : h.message ∈ (validate t).warnings ↔ h.In t :=
  (List.mem_map_of_injective Hint.message_injective).trans mem_hints_iff

theorem mem_unknownTags_iff {f : Facts} {n : Text} :
    n ∈ unknownTags f ↔ n ∈ f.tags ∧ Category.ofName? (String.ofList n) = none := by
  rw [unknownTags, mem_firsts_iff, List.mem_filter, Option.isNone_iff_eq_none]

theorem mem_flaws_iff {t : Text} {f : Flaw} : f ∈ flaws t ↔ f.In t := by
  unfold flaws
  split
  · next hb =>
    -- nothing can be wrong with tags and brackets where there are none
    have hc : Lexeme.content t = [] := by
      rw [← Lexeme.filter_visible, Lexeme.visible_of_isBlankText hb, List.filter_nil]
    cases f with
    | empty => simp [Flaw.In, hb]
    | noHeader => simp [Flaw.In, hb]
    | unknownCategory n => simp [Flaw.In, Facts.tags_ofText, hc]
    | noEntities => simp [Flaw.In, hb]
    | unbalanced => simp [Flaw.In, Facts.opens_ofText, Facts.closes_ofText, hc]
  · next hb =>
    dsimp only
    rw [Facts.ofText_trim]
    cases f with
    | empty => simp [Flaw.In, hb]
    | noHeader => simp [Flaw.In, hb]
    | unknownCategory n => simp [Flaw.In, mem_unknownTags_iff]
    | noEntities => simp [Flaw.In, hb]
    | unbalanced => simp [Flaw.In, Facts.balanced]

theorem mem_errors_iff {t : Text} {f : Flaw} : f.message ∈ (validate t).errors ↔ f.In t :=
  (List.mem_map_of_injective Flaw.message_injective).trans mem_flaws_iff

end Chart
end CaseChart
