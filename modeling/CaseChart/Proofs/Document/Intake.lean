import CaseChart.Document.Intake
import CaseChart.Proofs.Document.Extension
import CaseChart.Proofs.Text.Utf8
import Mathlib.Data.List.Forall2

namespace CaseChart

def Upload.Supported (u : Upload) : Prop :=
  ∃ k ∈ FileType.supported, FileType.HasExtension k u.name.toList

def Upload.wrongType (u : Upload) : FileFailure := ⟨u.name, s!"Invalid file type: {u.name}"⟩

/-- The entry of an upload where documents have at most `most` bytes: one rule for each way out. -/
inductive Upload.Gives (l : Limits) (most : Int) (u : Upload) : Except FileFailure Document → Prop
  | wrongType : ¬u.Supported → Gives l most u (.error u.wrongType)
  | tooLarge : u.Supported → most < u.bytes.length →
    Gives l most u (.error ⟨u.name, (Breach.fileSize l.uploadMegabytes).message⟩)
  | notText {k : Text} : u.bytes.length ≤ most → k ∈ FileType.supported → k ≠ "txt".toList →
    FileType.HasExtension k u.name.toList →
    Gives l most u (.error ⟨u.name, (Unreadable.fileType k).message⟩)
  | illFormed {flaw : Text.Utf8.Flaw} : u.bytes.length ≤ most →
    FileType.HasExtension "txt".toList u.name.toList →
    (∀ t, Text.Utf8.encode t ≠ u.bytes) → Text.Utf8.decode u.bytes = .error flaw →
    Gives l most u (.error ⟨u.name, (Unreadable.encoding flaw).message⟩)
  | document {t : Text} : u.bytes.length ≤ most →
    FileType.HasExtension "txt".toList u.name.toList → Text.Utf8.encode t = u.bytes →
    Gives l most u (.ok ⟨u.name, t⟩)

variable {l : Limits} {most : Int} {u : Upload}

theorem Upload.supported_of_txt (h : FileType.HasExtension "txt".toList u.name.toList) :
    u.Supported := ⟨_, FileType.txt_mem_supported, h⟩

theorem Upload.text_of_ne_txt {k : Text} (hk : k ∈ FileType.supported) (hne : k ≠ "txt".toList)
    (h : FileType.HasExtension k u.name.toList) : u.text = .error (.fileType k) := by
  have he := (FileType.extension_eq_iff_of_mem_supported hk _).2 h
  rw [Upload.text, he]
  exact if_neg hne

theorem Upload.text_of_txt (h : FileType.HasExtension "txt".toList u.name.toList) :
    u.text = (Text.Utf8.decode u.bytes).mapError .encoding :=
  if_pos ((FileType.extension_eq_iff_of_mem_supported FileType.txt_mem_supported _).2 h)

theorem Upload.document_of_not_supported (l : Limits) (h : ¬u.Supported) :
    u.document l = .ok (.error u.wrongType) := by
  have hu : FileType.isSupported u.name.toList = false :=
    Bool.eq_false_iff.2 (mt (FileType.isSupported_iff _).1 h)
  rw [Upload.document, hu]
  rfl

theorem Upload.document_of_supported (h : u.Supported) :
    u.document l = (Guard.fileSize l u.bytes.length).map fun
      | some breach => .error ⟨u.name, breach.message⟩
      | none =>
        match u.text with
        | .error e => .error ⟨u.name, e.message⟩
        | .ok text => .ok ⟨u.name, text⟩ := by
  have hu : FileType.isSupported u.name.toList = true := (FileType.isSupported_iff _).2 h
  rw [Upload.document, hu]
  rfl

theorem Guard.fileSize_of_uploadBytes (hl : l.uploadBytes = .ok most) (bytes : Int) :
    Guard.fileSize l bytes =
      .ok (if most < bytes then some (.fileSize l.uploadMegabytes) else none) := by
  rw [Guard.fileSize, hl]
  rfl

theorem Upload.Gives.document_eq (hl : l.uploadBytes = .ok most) {e : Except FileFailure Document}
    (h : u.Gives l most e) : u.document l = .ok e := by
  cases h with
  | wrongType hu => exact Upload.document_of_not_supported l hu
  | tooLarge hu hsize =>
    rw [Upload.document_of_supported hu, Guard.fileSize_of_uploadBytes hl, if_pos hsize]
    rfl
  | notText hsize hk hne hext =>
    rw [Upload.document_of_supported ⟨_, hk, hext⟩, Guard.fileSize_of_uploadBytes hl,
      if_neg (by omega), Upload.text_of_ne_txt hk hne hext]
    rfl
  | illFormed hsize htxt _ hflaw =>
    rw [Upload.document_of_supported (Upload.supported_of_txt htxt),
      Guard.fileSize_of_uploadBytes hl, if_neg (by omega), Upload.text_of_txt htxt, hflaw]
    rfl
  | document hsize htxt ht =>
    rw [Upload.document_of_supported (Upload.supported_of_txt htxt),
      Guard.fileSize_of_uploadBytes hl, if_neg (by omega), Upload.text_of_txt htxt,
      Text.Utf8.decode_eq_ok_iff.2 ht]
    rfl

theorem Upload.exists_gives (l : Limits) (most : Int) (u : Upload) :
    ∃ e, u.Gives l most e := by
  by_cases hu : u.Supported
  · by_cases hsize : most < u.bytes.length
    · exact ⟨_, .tooLarge hu hsize⟩
    · obtain ⟨k, hk, hext⟩ := hu
      by_cases hne : k = "txt".toList
      · subst hne
        cases hd : Text.Utf8.decode u.bytes with
        | error flaw =>
          have hall : ∀ t, Text.Utf8.encode t ≠ u.bytes := by
            intro t ht
            rw [Text.Utf8.decode_eq_ok_iff.2 ht] at hd
            cases hd
          exact ⟨_, .illFormed (by omega) hext hall hd⟩
        | ok t => exact ⟨_, .document (by omega) hext (Text.Utf8.decode_eq_ok_iff.1 hd)⟩
      · exact ⟨_, .notText (by omega) hk hne hext⟩
  · exact ⟨_, .wrongType hu⟩

/-- Every upload gives exactly one entry, the one that intake makes of it. -/
theorem Upload.gives_iff (hl : l.uploadBytes = .ok most) {e : Except FileFailure Document} :
    u.Gives l most e ↔ u.document l = .ok e := by
  refine ⟨Upload.Gives.document_eq hl, fun h => ?_⟩
  obtain ⟨e', he'⟩ := u.exists_gives l most
  have := he'.document_eq hl
  rw [h] at this
  cases this
  exact he'

namespace Intake

def documentsOf (es : List (Except FileFailure Document)) : List Document :=
  es.filterMap Except.toOption

def failuresOf (es : List (Except FileFailure Document)) : List FileFailure :=
  es.filterMap fun
    | .error f => some f
    | .ok _ => none

theorem length_documentsOf_add (es : List (Except FileFailure Document)) :
    (documentsOf es).length + (failuresOf es).length = es.length := by
  induction es with
  | nil => rfl
  | cons e es ih =>
    cases e with
    | error f =>
      change (documentsOf es).length + (failuresOf es).length.succ = _
      rw [List.length_cons, ← ih]
      rfl
    | ok d =>
      change (documentsOf es).length.succ + (failuresOf es).length = _
      rw [List.length_cons, ← ih]
      omega

theorem sort_of_forall₂ {us : List Upload} {es : List (Except FileFailure Document)}
    (h : List.Forall₂ (fun u e => u.document l = .ok e) us es) :
    sort l us = .ok ⟨documentsOf es, failuresOf es⟩ := by
  induction h with
  | nil => rfl
  | @cons u e us es he _ ih =>
    rw [sort, he, ih]
    cases e <;> rfl

theorem sort_of_not_supported (l : Limits) {us : List Upload} (h : ∀ u ∈ us, ¬u.Supported) :
    sort l us = .ok ⟨[], us.map Upload.wrongType⟩ := by
  induction us with
  | nil => rfl
  | cons u us ih =>
    rw [sort, Upload.document_of_not_supported l (h u List.mem_cons_self),
      ih fun v hv => h v (List.mem_cons_of_mem u hv)]
    rfl

/-- Without a limit to compare sizes with, the first upload of a supported type ends the intake. -/
theorem sort_of_supported {n : Decimal.NonFinite} (hl : l.uploadBytes = .error n)
    {us : List Upload} (h : ∃ u ∈ us, u.Supported) : sort l us = .error n := by
  induction us with
  | nil => obtain ⟨u, hu, -⟩ := h; cases hu
  | cons u us ih =>
    by_cases hu : u.Supported
    · rw [sort, Upload.document_of_supported hu, Guard.fileSize, hl]
      rfl
    · have hus : ∃ v ∈ us, v.Supported := by
        obtain ⟨v, hv, hs⟩ := h
        rcases List.mem_cons.1 hv with rfl | hv
        · exact absurd hs hu
        · exact ⟨v, hv, hs⟩
      rw [sort, Upload.document_of_not_supported l hu, ih hus]
      rfl

theorem exists_breach_iff (l : Limits) (us : List Upload) :
    (∃ breach, Guard.fileCount l us.length = some breach) ↔
      us = [] ∨ l.filesPerUpload < us.length := by
  rw [Guard.fileCount]
  by_cases hmany : l.filesPerUpload < us.length
  · rw [if_pos hmany]
    exact iff_of_true ⟨_, rfl⟩ (.inr hmany)
  · rw [if_neg hmany]
    cases us with
    | nil => exact iff_of_true ⟨_, rfl⟩ (.inl rfl)
    | cons u us =>
      rw [if_neg (by rw [List.length_cons]; omega)]
      exact iff_of_false (by simp) (by simp only [reduceCtorEq, false_or]; exact hmany)

def countRefusal (breach : Breach) : Fault :=
  .refusal (.ofArgument breach.message (some "uploads") [])

def failureRefusal (fs : List FileFailure) : Fault :=
  .refusal (.ofArgument "Failed to extract text from any files" (some "uploads")
    [("failures", .list (fs.map FileFailure.toValue))])

theorem countRefusal_ne (breach : Breach) (fs : List FileFailure) :
    countRefusal breach ≠ failureRefusal fs := by
  intro h
  have hdetails := congrArg (fun d => (Refusal.details d).length) (Fault.refusal.inj h)
  exact absurd (show 1 = 2 from hdetails) (by decide)

theorem ofUploads_of_breach {us : List Upload} {breach : Breach}
    (h : Guard.fileCount l us.length = some breach) :
    ofUploads l us = .error (countRefusal breach) := by
  rw [ofUploads, h]
  rfl

theorem ofUploads_of_fileCount {us : List Upload} (h : Guard.fileCount l us.length = none) :
    ofUploads l us =
      match sort l us with
      | .error n => .error (.nonFinite n)
      | .ok intake =>
        if intake.documents = [] then .error (failureRefusal intake.failures) else .ok intake := by
  simp only [ofUploads, h, List.isEmpty_iff]
  rfl

theorem exists_countRefusal_iff (l : Limits) (us : List Upload) :
    (∃ breach, ofUploads l us = .error (countRefusal breach)) ↔
      us = [] ∨ l.filesPerUpload < us.length := by
  rw [← exists_breach_iff]
  refine ⟨?_, fun ⟨breach, h⟩ => ⟨breach, ofUploads_of_breach h⟩⟩
  rintro ⟨breach, h⟩
  cases hc : Guard.fileCount l us.length with
  | some breach => exact ⟨breach, rfl⟩
  | none =>
    rw [ofUploads_of_fileCount hc] at h
    split at h
    · cases h
    · split at h
      · exact absurd (Except.error.inj h).symm (countRefusal_ne _ _)
      · cases h

/-- A number of uploads that is refused is refused without regard to what they are. -/
theorem ofUploads_congr_length {us vs : List Upload}
    (h : us = [] ∨ l.filesPerUpload < us.length) (hlen : vs.length = us.length) :
    ofUploads l vs = ofUploads l us := by
  obtain ⟨breach, hc⟩ := (exists_breach_iff l us).2 h
  rw [ofUploads_of_breach hc, ofUploads_of_breach (hlen ▸ hc)]

/-- The entries of uploads are what their documents and failures are sorted from, and no other list
of entries fits the uploads. -/
theorem exists_entries (hl : l.uploadBytes = .ok most) (us : List Upload) :
    ∃ es, (∀ es', List.Forall₂ (Upload.Gives l most) us es' ↔ es' = es) ∧
      sort l us = .ok ⟨documentsOf es, failuresOf es⟩ := by
  choose entry hentry using fun u : Upload => u.exists_gives l most
  have hgives : ∀ u e, u.Gives l most e ↔ entry u = e := by
    intro u e
    rw [Upload.gives_iff hl, (hentry u).document_eq hl, Except.ok.injEq]
  have huniq : ∀ es, List.Forall₂ (Upload.Gives l most) us es ↔ es = us.map entry := by
    intro es
    have hrel : Upload.Gives l most = fun u e => entry u = e := by
      funext u e
      exact propext (hgives u e)
    rw [hrel, ← List.forall₂_map_left_iff, List.forall₂_eq_eq_eq, eq_comm]
  refine ⟨us.map entry, huniq, sort_of_forall₂ ?_⟩
  exact ((huniq _).2 rfl).imp fun _ _ he => he.document_eq hl

/-- A number of uploads that is refused is refused whatever they are. Otherwise every upload gives
one entry, the documents and the failures are those of the entries in order, and no document is a
refusal with all failures; but where the limit of a document's size is beyond the range of bytes,
the first upload of a supported type ends the intake with that fault. -/
theorem ofUploads_accounts (l : Limits) (us : List Upload) :
    ((∃ breach, ofUploads l us = .error (countRefusal breach)) ↔
      us = [] ∨ l.filesPerUpload < us.length) ∧
    (us = [] ∨ l.filesPerUpload < us.length →
      ∀ vs : List Upload, vs.length = us.length → ofUploads l vs = ofUploads l us) ∧
    (us ≠ [] → us.length ≤ l.filesPerUpload →
      (∀ most, l.uploadBytes = .ok most → ∃ es,
        (∀ es', List.Forall₂ (Upload.Gives l most) us es' ↔ es' = es) ∧
        (documentsOf es).length + (failuresOf es).length = us.length ∧
        ofUploads l us =
          if documentsOf es = [] then .error (failureRefusal (failuresOf es))
          else .ok ⟨documentsOf es, failuresOf es⟩) ∧
      (∀ n, l.uploadBytes = .error n →
        ((∃ u ∈ us, u.Supported) → ofUploads l us = .error (.nonFinite n)) ∧
        ((∀ u ∈ us, ¬u.Supported) →
          ofUploads l us = .error (failureRefusal (us.map Upload.wrongType))))) := by
  refine ⟨exists_countRefusal_iff l us, fun h vs => ofUploads_congr_length h,
    fun hne hfew => ?_⟩
  have hcount : Guard.fileCount l us.length = none := by
    rw [Option.eq_none_iff_forall_ne_some]
    intro breach hc
    rcases (exists_breach_iff l us).1 ⟨breach, hc⟩ with h | h
    · exact hne h
    · omega
  rw [ofUploads_of_fileCount hcount]
  constructor
  · intro most hl
    obtain ⟨es, hes, hsort⟩ := exists_entries hl us
    have hlen := ((hes es).2 rfl).length_eq
    exact ⟨es, hes, by rw [length_documentsOf_add, hlen], by rw [hsort]⟩
  · intro n hl
    constructor
    · intro h
      rw [sort_of_supported hl h]
    · intro h
      rw [sort_of_not_supported l h]
      rfl

def mixedUploads : List Upload :=
  [⟨"notes.TXT", [0xC3, 0xA9]⟩, ⟨"run.exe", []⟩, ⟨"long.txt", List.replicate 11 0x61⟩,
    ⟨"scan.pdf", [0x25]⟩, ⟨"broken.txt", [0x61, 0xFF]⟩]

theorem ofUploads_accounts_mixed :
    let l : Limits := { uploadMegabytes := 0.00001 }
    (mixedUploads ≠ [] ∧ mixedUploads.length ≤ l.filesPerUpload ∧ l.uploadBytes = .ok 10) ∧
      (∃ es, (∀ es', List.Forall₂ (Upload.Gives l 10) mixedUploads es' ↔ es' = es) ∧
        (documentsOf es).length + (failuresOf es).length = 5 ∧
        ofUploads l mixedUploads =
          if documentsOf es = [] then .error (failureRefusal (failuresOf es))
          else .ok ⟨documentsOf es, failuresOf es⟩) ∧
      (ofUploads l mixedUploads).toOption = some
        ⟨[⟨"notes.TXT", ['é']⟩],
          [⟨"run.exe", "Invalid file type: run.exe"⟩,
            ⟨"long.txt", "File size exceeds limit of 1e-05MB"⟩,
            ⟨"scan.pdf", "Unsupported file type: .pdf"⟩,
            ⟨"broken.txt", "Failed to read TXT file: 'utf-8' codec can't decode byte 0xff " ++
              "in position 1: invalid start byte"⟩]⟩ := by
  intro l
  have hl : l.uploadBytes = .ok 10 := by decide +kernel
  obtain ⟨-, -, h⟩ := ofUploads_accounts l mixedUploads
  obtain ⟨hok, -⟩ := h (by decide) (by decide)
  exact ⟨⟨by decide, by decide, hl⟩, hok 10 hl, by decide +kernel⟩

/-- One small text is not taken in, and not refused either, where the limit of a document's size
has no number of bytes. -/
theorem ofUploads_without_limit :
    let l : Limits := { uploadMegabytes := 1e308 }
    let us : List Upload := [⟨"a.txt", [0x61]⟩]
    us ≠ [] ∧ us.length ≤ l.filesPerUpload ∧ ofUploads l us = .error (.nonFinite .infinite) := by
  intro l us
  have hl : l.uploadBytes = .error .infinite := by decide +kernel
  have hu : ∃ u ∈ us, u.Supported :=
    ⟨_, List.mem_cons_self, (FileType.isSupported_iff _).1 (by decide)⟩
  refine ⟨by decide, by decide, ?_⟩
  rw [ofUploads_of_fileCount (by decide), sort_of_supported hl hu]

end Intake
end CaseChart
