import CaseChart.Journal.Attributes
import CaseChart.Proofs.Entries
import CaseChart.Proofs.Journal.Line

namespace CaseChart.Record

theorem prefixed_not_mem_reserved (key : String) : "ctx_" ++ key ∉ reserved := by
  have hfront : ∀ name ∈ reserved, name.toList.take 4 ≠ "ctx_".toList := by decide
  intro h
  refine hfront _ h ?_
  rw [String.toList_append]
  exact List.take_left' rfl

theorem extraName_of_reserved {key : String} (h : key ∈ reserved) :
    extraName key = "ctx_" ++ key := if_pos h

theorem extraName_of_free {key : String} (h : key ∉ reserved) : extraName key = key := if_neg h

theorem extraName_not_mem_reserved (key : String) : extraName key ∉ reserved := by
  by_cases h : key ∈ reserved
  · rw [extraName_of_reserved h]
    exact prefixed_not_mem_reserved key
  · rwa [extraName_of_free h]

/-- Two keys meet under one name only if one of them is the other in its prefixed form. -/
theorem extraName_eq_iff {key key' : String} : extraName key = extraName key' ↔
    key = key' ∨ (key ∈ reserved ∧ key' = "ctx_" ++ key) ∨
      (key' ∈ reserved ∧ key = "ctx_" ++ key') := by
  constructor
  · intro h
    by_cases hkey : key ∈ reserved
    · by_cases hkey' : key' ∈ reserved
      · rw [extraName_of_reserved hkey, extraName_of_reserved hkey'] at h
        exact .inl ((String.append_right_inj _).1 h)
      · rw [extraName_of_reserved hkey, extraName_of_free hkey'] at h
        exact .inr (.inl ⟨hkey, h.symm⟩)
    · by_cases hkey' : key' ∈ reserved
      · rw [extraName_of_free hkey, extraName_of_reserved hkey'] at h
        exact .inr (.inr ⟨hkey', h⟩)
      · rw [extraName_of_free hkey, extraName_of_free hkey'] at h
        exact .inl h
  · rintro (rfl | ⟨hkey, rfl⟩ | ⟨hkey', rfl⟩)
    · rfl
    · rw [extraName_of_reserved hkey, extraName_of_free (prefixed_not_mem_reserved key)]
    · rw [extraName_of_reserved hkey', extraName_of_free (prefixed_not_mem_reserved key')]

theorem exists_line_of_stored {e : String × Item} {p : String × Value} (h : stored e = .ok p) :
    ∃ line, e.2.line Item.usualBound = .ok line ∧
      p = (extraName e.1, .text (String.ofList line)) := by
  rw [stored] at h
  cases hline : e.2.line Item.usualBound with
  | ok line =>
    rw [hline] at h
    cases h
    exact ⟨line, rfl, rfl⟩
  | error flaw =>
    rw [hline] at h
    cases h

theorem fst_of_stored {e : String × Item} {p : String × Value} (h : stored e = .ok p) :
    p.1 = extraName e.1 := by
  obtain ⟨line, -, rfl⟩ := exists_line_of_stored h
  rfl

theorem stored_of_tooLong {e : String × Item} (h : e.2.TooLong) : stored e = .error .tooLong := by
  rw [stored, Item.line_of_tooLong h]
  rfl

theorem exists_stored {e : String × Item} (h : ¬e.2.TooLong) : ∃ p, stored e = .ok p := by
  obtain ⟨t, ht⟩ := Item.exists_text h
  have hbound : 0 ≤ Item.usualBound := by decide
  obtain ⟨l, hl, -⟩ := Item.exists_line hbound ht
  exact ⟨_, by rw [stored, hl]; rfl⟩

theorem exists_pairs {context : List (String × Item)} (h : ∀ e ∈ context, ¬e.2.TooLong) :
    ∃ pairs : Value.Fields, context.map stored = pairs.map .ok := by
  induction context with
  | nil => exact ⟨[], rfl⟩
  | cons e es ih =>
    obtain ⟨p, hp⟩ := exists_stored (h e List.mem_cons_self)
    obtain ⟨ps, hps⟩ := ih fun e' he' => h e' (List.mem_cons_of_mem e he')
    exact ⟨p :: ps, by rw [List.map_cons, hp, hps, List.map_cons]⟩

/-- One value that cannot be written is enough for the whole context, whatever the keys are. -/
theorem extraOf_of_tooLong {context : List (String × Item)} (h : ∃ e ∈ context, e.2.TooLong) :
    extraOf context = .error .tooLong := by
  have hfold (fs : Value.Fields) : context.foldlM
      (fun fs e => (stored e).map fun p => Entries.set p.1 p.2 fs) fs = .error .tooLong := by
    induction context generalizing fs with
    | nil =>
      obtain ⟨e, he, -⟩ := h
      cases he
    | cons e es ih =>
      rw [List.foldlM_cons]
      by_cases hlong : e.2.TooLong
      · rw [stored_of_tooLong hlong]
        rfl
      · obtain ⟨p, hp⟩ := exists_stored hlong
        obtain ⟨e', he', hlong'⟩ := h
        rcases List.mem_cons.1 he' with rfl | he'
        · exact absurd hlong' hlong
        · rw [hp]
          exact ih ⟨e', he', hlong'⟩ _
  exact hfold []

section
variable {context : List (String × Item)} {pairs : Value.Fields}
  (hpairs : context.map stored = pairs.map .ok)
include hpairs

theorem extraOf_eq : extraOf context = .ok (Entries.setAll [] pairs) := by
  have hfold (fs : Value.Fields) : context.foldlM
      (fun fs e => (stored e).map fun p => Entries.set p.1 p.2 fs) fs =
        .ok (Entries.setAll fs pairs) := by
    induction context generalizing pairs fs with
    | nil =>
      rw [List.map_eq_nil_iff.1 hpairs.symm]
      rfl
    | cons e es ih =>
      obtain ⟨p, ps, rfl, hp, hps⟩ := List.map_eq_cons_iff.1 hpairs.symm
      rw [List.foldlM_cons, ← hp, Entries.setAll_cons]
      exact ih hps.symm _
  exact hfold []

theorem names_pairs : pairs.map (·.1) = context.map fun e => extraName e.1 := by
  induction context generalizing pairs with
  | nil =>
    rw [List.map_eq_nil_iff.1 hpairs.symm]
    rfl
  | cons e es ih =>
    obtain ⟨p, ps, rfl, hp, hps⟩ := List.map_eq_cons_iff.1 hpairs.symm
    rw [List.map_cons, List.map_cons, ih hps.symm, fst_of_stored hp.symm]

theorem exists_of_mem_pairs {p : String × Value} (h : p ∈ pairs) :
    ∃ e ∈ context, stored e = .ok p := by
  have hmem : Except.ok p ∈ context.map stored := hpairs ▸ List.mem_map_of_mem h
  exact List.mem_map.1 hmem

theorem exists_of_mem_context {e : String × Item} (h : e ∈ context) :
    ∃ p ∈ pairs, stored e = .ok p := by
  have hmem : stored e ∈ pairs.map Except.ok := hpairs ▸ List.mem_map_of_mem h
  obtain ⟨p, hp, heq⟩ := List.mem_map.1 hmem
  exact ⟨p, hp, heq.symm⟩

theorem mem_names_iff {name : String} :
    name ∈ (Entries.setAll [] pairs).map (·.1) ↔ ∃ e ∈ context, extraName e.1 = name := by
  rw [Entries.mem_map_setAll_iff, names_pairs hpairs, List.map_nil,
    or_iff_right List.not_mem_nil, List.mem_map]

/-- A pair whose name no other one takes keeps its value. -/
theorem get?_of_forall {e : String × Item} (he : e ∈ context)
    (h : ∀ e' ∈ context, extraName e'.1 = extraName e.1 → e' = e) :
    ∃ p, stored e = .ok p ∧ Entries.get? (extraName e.1) (Entries.setAll [] pairs) = some p.2 := by
  obtain ⟨p, hp, hstored⟩ := exists_of_mem_context hpairs he
  refine ⟨p, hstored, ?_⟩
  have hlast : Entries.get? p.1 pairs.reverse = some p.2 := by
    refine Entries.get?_eq_some_of_forall (List.mem_reverse.2 hp) fun q hq hname => ?_
    obtain ⟨e', he', hstored'⟩ := exists_of_mem_pairs hpairs (List.mem_reverse.1 hq)
    rw [fst_of_stored hstored, fst_of_stored hstored'] at hname
    rw [h e' he' hname] at hstored'
    exact Except.ok.inj (hstored'.symm.trans hstored)
  rw [Entries.get?_setAll, ← fst_of_stored hstored, hlast]
  rfl

end

theorem get?_setAll_nil (pairs : Value.Fields) (name : String) :
    Entries.get? name (Entries.setAll [] pairs) = Entries.get? name pairs.reverse := by
  rw [Entries.get?_setAll]
  exact Option.or_none

/-- Whether a pair meets another one: its key is reserved, and the prefixed form is a key too. -/
def Clashes (context : List (String × Item)) (e : String × Item) : Prop :=
  e.1 ∈ reserved ∧ "ctx_" ++ e.1 ∈ context.map (·.1)

instance (context : List (String × Item)) (e : String × Item) : Decidable (Clashes context e) :=
  inferInstanceAs (Decidable (_ ∧ _))

def clashing (context : List (String × Item)) : List (String × Item) :=
  context.filter fun e => Clashes context e

section
variable {context : List (String × Item)} (hkeys : Entries.Distinct context)

include hkeys in
theorem eq_of_not_clashes {e e' : String × Item} (he : e ∈ context) (he' : e' ∈ context)
    (hclash : ¬Clashes context e) (hclash' : ¬Clashes context e')
    (h : extraName e.1 = extraName e'.1) : e = e' := by
  rcases extraName_eq_iff.1 h with hkey | ⟨hkey, hother⟩ | ⟨hkey, hother⟩
  · exact List.inj_on_of_nodup_map hkeys he he' hkey
  · exact absurd ⟨hkey, hother ▸ List.mem_map_of_mem he'⟩ hclash
  · exact absurd ⟨hkey, hother ▸ List.mem_map_of_mem he⟩ hclash'

/-- A pair that meets another one leaves its name to it. -/
theorem exists_not_clashes {e : String × Item} (he : e ∈ context) :
    ∃ e' ∈ context, ¬Clashes context e' ∧ extraName e'.1 = extraName e.1 := by
  by_cases h : Clashes context e
  · obtain ⟨e', he', hother⟩ := List.mem_map.1 h.2
    -- a prefixed form is never reserved, so the other pair does not clash in its turn
    have hfree : e'.1 ∉ reserved := by
      rw [hother]
      exact prefixed_not_mem_reserved e.1
    refine ⟨e', he', fun hclash => hfree hclash.1, ?_⟩
    rw [extraName_of_free hfree, extraName_of_reserved h.1, hother]
  · exact ⟨e, he, h, rfl⟩

variable {pairs : Value.Fields} (hpairs : context.map stored = pairs.map .ok)
include hkeys hpairs

theorem names_setAll_perm : ((Entries.setAll [] pairs).map (·.1)).Perm
    ((context.filter fun e => ¬Clashes context e).map fun e => extraName e.1) := by
  have hnodup : ((context.filter fun e => ¬Clashes context e).map
      fun e => extraName e.1).Nodup := by
    refine List.Nodup.map_on ?_ ((List.Nodup.of_map _ hkeys).filter _)
    intro e he e' he' hname
    obtain ⟨hmem, hclash⟩ := List.mem_filter.1 he
    obtain ⟨hmem', hclash'⟩ := List.mem_filter.1 he'
    exact eq_of_not_clashes hkeys hmem hmem' (of_decide_eq_true hclash)
      (of_decide_eq_true hclash') hname
  -- no name stands twice on either side, so that it is enough to have the same names
  refine (List.perm_ext_iff_of_nodup (Entries.distinct_nil.setAll pairs) hnodup).2 fun name => ?_
  rw [mem_names_iff hpairs, List.mem_map]
  constructor
  · rintro ⟨e, he, rfl⟩
    obtain ⟨e', he', hclash, hname⟩ := exists_not_clashes he
    exact ⟨e', List.mem_filter.2 ⟨he', decide_eq_true hclash⟩, hname⟩
  · rintro ⟨e, he, rfl⟩
    exact ⟨e, (List.mem_filter.1 he).1, rfl⟩

/-- As many pairs are lost as meet another one. -/
theorem length_setAll_add :
    (Entries.setAll [] pairs).length + (clashing context).length = context.length := by
  have hnames := (names_setAll_perm hkeys hpairs).length_eq
  rw [List.length_map, List.length_map] at hnames
  have hparts := List.length_eq_length_filter_add (l := context) fun e => Clashes context e
  simp only [decide_not] at hnames
  rw [hnames, clashing]
  omega

theorem setAll_of_clashing_eq_nil (h : clashing context = []) :
    Entries.setAll [] pairs = pairs := by
  have hclash (e) (he : e ∈ context) : ¬Clashes context e := fun hc =>
    List.ne_nil_of_mem (List.mem_filter.2 ⟨he, decide_eq_true hc⟩) h
  have hnames : Entries.Distinct pairs := by
    rw [Entries.Distinct, names_pairs hpairs]
    refine List.Nodup.map_on ?_ (List.Nodup.of_map _ hkeys)
    intro e he e' he' hname
    exact eq_of_not_clashes hkeys he he' (hclash e he) (hclash e' he') hname
  rw [Entries.setAll_of_distinct (by exact hnames), List.nil_append]

end

theorem mem_reserved_iff {name : String} :
    name ∈ reserved ↔ name ∈ shownNames ∨ name ∈ ownNames := by
  have hshown : ∀ name ∈ shownNames, name ∈ reserved := by decide
  constructor
  · intro h
    by_cases hname : name ∈ shownNames
    · exact .inl hname
    · exact .inr (List.mem_filter.2 ⟨h, decide_eq_true hname⟩)
  · rintro (h | h)
    · exact hshown name h
    · exact (List.mem_filter.1 h).1

/-- Values under names that are free are laid over one after the other, behind what is there. -/
theorem overlay_eq_append {fields extra : Value.Fields} (hdistinct : Entries.Distinct extra)
    (hfree : ∀ name ∈ extra.map (·.1), name ∉ shownNames ∧ name ∉ fields.map (·.1)) :
    overlay fields extra = .ok (fields ++ extra) := by
  induction extra generalizing fields with
  | nil => rw [overlay, List.append_nil]
  | cons e es ih =>
    obtain ⟨he, hes⟩ := Entries.distinct_cons.1 hdistinct
    obtain ⟨hshown, hfields⟩ := hfree e.1 List.mem_cons_self
    have hrest : ∀ name ∈ es.map (·.1),
        name ∉ shownNames ∧ name ∉ (fields ++ [e]).map (·.1) := by
      intro name hname
      obtain ⟨hnshown, hnfields⟩ := hfree name (List.mem_cons_of_mem _ hname)
      refine ⟨hnshown, ?_⟩
      rw [List.map_append, List.mem_append, not_or]
      refine ⟨hnfields, fun h => he ?_⟩
      rwa [List.mem_singleton.1 h] at hname
    rw [overlay, if_neg (not_or.2 ⟨hshown, hfields⟩), Entries.set_of_not_mem hfields]
    exact (ih hes hrest).trans (by rw [List.append_assoc]; rfl)

theorem Own.mem_names_iff (own : Own) {name : String} :
    name ∈ own.fields.map (·.1) ↔ name ∈ ownNames := by rw [own.names_eq]

theorem attributes_eq {r : Record} (hdistinct : Entries.Distinct r.extra)
    (hfree : ∀ name ∈ r.extra.map (·.1), name ∉ reserved) (own : Own) :
    r.attributes own = .ok (own.fields ++ r.extra) := by
  refine overlay_eq_append hdistinct fun name hname => ?_
  have h := hfree name hname
  rw [mem_reserved_iff, not_or] at h
  rwa [own.mem_names_iff]

theorem get?_own_append {own : Own} {extra : Value.Fields}
    (hfree : ∀ name ∈ extra.map (·.1), name ∉ reserved) {name : String} (h : name ∈ reserved) :
    Entries.get? name (own.fields ++ extra) = Entries.get? name own.fields := by
  rw [Entries.get?_append, Entries.get?_eq_none fun hname => hfree name hname h, Option.or_none]

theorem identify_own_append (id : Option String) (own : Own) (extra : Value.Fields) :
    identify id (own.fields ++ extra) = own.fields ++ identify id extra := by
  have hname : idName ∉ ownNames := by decide
  refine Entries.set_append_of_not_mem ?_ _ extra
  rwa [own.mem_names_iff]

theorem told_eq_ok_iff {r : Record} :
    r.told = .ok r.message ↔ tellName ∉ r.extra.map (·.1) := by
  rw [told]
  split
  · next h => exact iff_of_false nofun (not_not_intro h)
  · next h => exact iff_of_true rfl h

theorem tellName_mem_iff {context : List (String × Item)} {pairs : Value.Fields}
    (hpairs : context.map stored = pairs.map .ok) :
    tellName ∈ (Entries.setAll [] pairs).map (·.1) ↔ tellName ∈ context.map (·.1) := by
  have hfree : extraName tellName = tellName := by decide
  have hother : ∀ name ∈ reserved, tellName ≠ "ctx_" ++ name := by decide
  rw [mem_names_iff hpairs, List.mem_map]
  refine exists_congr fun e => and_congr_right fun _ => ?_
  rw [← hfree, extraName_eq_iff, hfree]
  constructor
  · rintro (hkey | ⟨hkey, heq⟩ | ⟨hkey, -⟩)
    · exact hkey
    · exact absurd heq (hother _ hkey)
    · exact absurd hkey (by decide)
  · exact .inl

/-- A context fails to be logged exactly if one of its values is an integer with too many digits. If
not, every pair has a line under its name, and the message gives one record if its level passes and
none otherwise. The record is made whatever the keys are: its own attributes stay as they are, and
the extra values stand behind them under names of their own. As many pairs are lost as have a
reserved key that meets its prefixed form; a pair whose name no other takes keeps its value, of two
pairs that meet the later one counts, and if none meet, every pair is stored under its name, in
order. A handler that adds the id changes no other value, and it is told the message unless one of
the keys is the name of the question. -/
theorem attributes_withContext (own : Own) (id : Option String) (threshold : Int)
    (origin : Origin) (level : Int) (message : String) {context : List (String × Item)}
    (hkeys : Entries.Distinct context) :
    ((∃ e ∈ context, e.2.TooLong) →
        withContext threshold origin level message context = .error .tooLong) ∧
      ((∀ e ∈ context, ¬e.2.TooLong) →
        ∃ pairs rs, context.map stored = pairs.map .ok ∧
          withContext threshold origin level message context = .ok rs ∧
          (rs.length = if Level.passes threshold level then 1 else 0) ∧
          ∀ r ∈ rs, (r.origin = origin ∧ r.level = level ∧ r.message = message) ∧
            (∃ fields, r.attributes own = .ok fields ∧ fields = own.fields ++ r.extra ∧
              (∀ name ∈ reserved, Entries.get? name fields = Entries.get? name own.fields) ∧
              identify id fields = own.fields ++ identify id r.extra) ∧
            Entries.Distinct r.extra ∧
            r.extra.length + (clashing context).length = context.length ∧
            (∀ e ∈ context, (∀ e' ∈ context, extraName e'.1 = extraName e.1 → e' = e) →
              ∃ line, e.2.line Item.usualBound = .ok line ∧
                Entries.get? (extraName e.1) r.extra = some (.text (String.ofList line))) ∧
            (∀ name, Entries.get? name r.extra = Entries.get? name pairs.reverse) ∧
            (clashing context = [] → r.extra = pairs) ∧
            (r.told = .ok message ↔ tellName ∉ context.map (·.1))) := by
  constructor
  · intro hlong
    rw [withContext, extraOf_of_tooLong hlong]
    rfl
  · intro hshort
    obtain ⟨pairs, hpairs⟩ := exists_pairs hshort
    refine ⟨pairs, _, hpairs, by rw [withContext, extraOf_eq hpairs]; rfl, ?_, ?_⟩
    · split <;> rfl
    · intro r hr
      have hrecord : r = ⟨origin, level, message, Entries.setAll [] pairs⟩ := by
        split at hr
        · exact List.mem_singleton.1 hr
        · cases hr
      rw [hrecord]
      have hdistinct : Entries.Distinct (Entries.setAll [] pairs) := Entries.distinct_nil.setAll _
      have hfree : ∀ name ∈ (Entries.setAll [] pairs).map (·.1), name ∉ reserved := by
        intro name hname
        obtain ⟨e, -, rfl⟩ := (mem_names_iff hpairs).1 hname
        exact extraName_not_mem_reserved e.1
      refine ⟨⟨rfl, rfl, rfl⟩, ?_, hdistinct, length_setAll_add hkeys hpairs, ?_,
        get?_setAll_nil pairs, setAll_of_clashing_eq_nil hkeys hpairs, ?_⟩
      · refine ⟨_, attributes_eq hdistinct hfree own, rfl, ?_, ?_⟩
        · exact fun name hname => get?_own_append hfree hname
        · exact identify_own_append id own _
      · intro e he hothers
        obtain ⟨p, hp, hvalue⟩ := get?_of_forall hpairs he hothers
        obtain ⟨line, hline, rfl⟩ := exists_line_of_stored hp
        exact ⟨line, hline, hvalue⟩
      · rw [← tellName_mem_iff hpairs]
        exact told_eq_ok_iff

def Own.unset : Own where
  fields := ownNames.map fun name => (name, .null)
  names_eq := by decide

/-- A key that is reserved, one that is not, and a second that is reserved and meets its prefixed
form: of four pairs three are stored. -/
theorem attributes_withContext_prefixed :
    let context : List (String × Item) :=
      [("name", .data (.text "persons")), ("errors", .data (.texts ["e1"])),
        ("module", .data (.text "merger")), ("ctx_name", .data .null)]
    Entries.Distinct context ∧ (∀ e ∈ context, ¬e.2.TooLong) ∧ ∃ r,
      withContext 0 .routes Level.info "Received" context = .ok [r] ∧
        r.attributes Own.unset = .ok (Own.unset.fields ++ r.extra) ∧
        r.extra.length = 3 ∧
        Entries.get? "ctx_module" r.extra = some (.text "merger") ∧
        Entries.get? "ctx_name" r.extra = some (.text "None") ∧
        r.told = .ok "Received" := by
  intro context
  have hkeys : Entries.Distinct context := by
    rw [Entries.Distinct]
    decide
  have hshort : ∀ e ∈ context, ¬e.2.TooLong := by simp [context, Item.TooLong, Value.texts]
  have hpass : Level.passes 0 Level.info = true := by decide
  obtain ⟨pairs, rs, hpairs, hrs, hlength, hrecords⟩ :=
    (attributes_withContext Own.unset none 0 .routes Level.info "Received" hkeys).2 hshort
  rw [if_pos hpass, List.length_eq_one_iff] at hlength
  obtain ⟨r, rfl⟩ := hlength
  obtain ⟨-, ⟨fields, hmade, rfl, -, -⟩, -, hcount, -, hvalue, -, htold⟩ :=
    hrecords r (List.mem_singleton_self r)
  have hclashing : (clashing context).length = 1 := by decide
  have hstored : context.map stored = [("ctx_name", .text "persons"), ("errors", .text "1 items"),
    ("ctx_module", .text "merger"), ("ctx_name", .text "None")].map Except.ok := rfl
  obtain rfl := List.map_injective_iff.2 (fun _ _ => Except.ok.inj) (hpairs.symm.trans hstored)
  refine ⟨hkeys, hshort, r, hrs, hmade, ?_, ?_, ?_, ?_⟩
  · rw [hclashing] at hcount
    exact Nat.succ.inj hcount
  · rw [hvalue]
    rfl
  · rw [hvalue]
    rfl
  · exact htold.2 (by decide)

/-- Two pairs with different keys and values, of which one is stored. -/
theorem withContext_loses_pair :
    let context : List (String × Item) :=
      [("name", .data (.text "a")), ("ctx_name", .data (.text "b"))]
    Entries.Distinct context ∧ context.length = 2 ∧
      (withContext 0 .routes Level.info "Received" context).map (·.map (·.extra)) =
        .ok [[("ctx_name", .text "b")]] := by
  refine ⟨?_, rfl, rfl⟩
  rw [Entries.Distinct]
  decide

end CaseChart.Record
