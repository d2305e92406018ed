import CaseChart.Proofs.Publication.Gate
import CaseChart.Proofs.Text.Lines

namespace CaseChart.Fence
open Text

def isEnd (c : Char) : Bool := c == '\n' || c == '\r'

/-- The lines of a document with what ends them: a line feed, a carriage return, or both. -/
def lines : Text → List Text
  | [] => []
  | '\r' :: '\n' :: t => ['\r', '\n'] :: lines t
  | c :: t => if isEnd c then [c] :: lines t else consLine c (lines t)

/-- Whether a line closes a fence: after at most three spaces it has three or more backticks, and
nothing but spaces and tabs behind them. -/
def closes (line : Text) : Bool :=
  let line := line.takeWhile fun c => !isEnd c
  let fence := line.dropWhile (· == ' ')
  decide ((line.takeWhile (· == ' ')).length ≤ 3) &&
    decide (3 ≤ (fence.takeWhile (· == '`')).length) &&
    (fence.dropWhile (· == '`')).all fun c => c == ' ' || c == '\t'

/-- A block of a document: the lines inside its fences, and what comes after it. -/
structure Block where
  inside : Text
  after : Text
  deriving DecidableEq

/-- Reads a document that opens with a block for a chart, up to the first line that closes it. -/
def read? (document : Text) : Option Block :=
  (dropWord? (· == ·) "```mermaid\n".toList document).bind fun t =>
    match (lines t).dropWhile fun l => !closes l with
    | [] => none
    | _ :: after => some ⟨((lines t).takeWhile fun l => !closes l).flatten, after.flatten⟩

theorem lines_cons_of_isEnd {c : Char} {t : Text} (hc : isEnd c = true)
    (ht : ∀ s, c = '\r' → t = '\n' :: s → False) : lines (c :: t) = [c] :: lines t := by
  rw [lines, if_pos hc]
  exact ht

theorem lines_cons_of_not_isEnd {c : Char} (hc : isEnd c = false) (t : Text) :
    lines (c :: t) = consLine c (lines t) := by
  rw [lines, if_neg (by simp [hc])]
  rintro _ rfl _
  exact absurd hc (by decide)

theorem flatten_consLine (c : Char) (ls : List Text) :
    (consLine c ls).flatten = c :: ls.flatten := by
  cases ls <;> rfl

theorem flatten_lines (t : Text) : (lines t).flatten = t := by
  fun_induction lines t with
  | case1 => rfl
  | case2 t ih => rw [List.flatten_cons, ih]; rfl
  | case3 c t _ _ ih => rw [List.flatten_cons, ih]; rfl
  | case4 c t _ _ ih => rw [flatten_consLine, ih]

/-- A line feed ends the line that the text before it has begun, which may be empty. -/
theorem lines_append_newline (t : Text) : ∃ ls l, lines t = ls ++ (if l = [] then [] else [l]) ∧
    ∀ s, lines (t ++ '\n' :: s) = ls ++ (l ++ ['\n']) :: lines s := by
  fun_induction lines t with
  | case1 => exact ⟨[], [], rfl, fun s => lines_cons_of_isEnd rfl (by simp)⟩
  | case2 t ih =>
    obtain ⟨ls, l, ht, hs⟩ := ih
    refine ⟨['\r', '\n'] :: ls, l, by rw [ht]; rfl, fun s => ?_⟩
    rw [List.cons_append, List.cons_append, lines, hs]
    rfl
  | case3 c t hnot hc ih =>
    cases t with
    | nil =>
      -- a carriage return at the end is joined by the line feed
      by_cases hr : c = '\r'
      · subst hr
        exact ⟨[], ['\r'], rfl, fun s => by rw [List.cons_append, List.nil_append, lines]; rfl⟩
      · refine ⟨[[c]], [], rfl, fun s => ?_⟩
        rw [List.cons_append, lines_cons_of_isEnd hc fun _ he _ => hr he, List.nil_append,
          lines_cons_of_isEnd rfl (by simp)]
        rfl
    | cons d t =>
      obtain ⟨ls, l, ht, hs⟩ := ih
      refine ⟨[c] :: ls, l, by rw [ht]; rfl, fun s => ?_⟩
      rw [List.cons_append, lines_cons_of_isEnd hc, hs]
      · rfl
      · intro r he hr
        exact hnot t he (by rw [(List.cons.inj hr).1])
  | case4 c t hnot hc ih =>
    have hc : isEnd c = false := by simpa using hc
    obtain ⟨ls, l, ht, hs⟩ := ih
    cases ls with
    | nil =>
      refine ⟨[], c :: l, ?_, fun s => ?_⟩
      · rw [ht]
        split <;> simp [consLine, *]
      · rw [List.cons_append, lines_cons_of_not_isEnd hc, hs]
        rfl
    | cons m ms =>
      refine ⟨(c :: m) :: ms, l, by rw [ht]; rfl, fun s => ?_⟩
      rw [List.cons_append, lines_cons_of_not_isEnd hc, hs]
      rfl

theorem lines_concat_newline_append (t s : Text) :
    lines (t ++ '\n' :: s) = lines (t ++ ['\n']) ++ lines s := by
  obtain ⟨ls, l, -, h⟩ := lines_append_newline t
  rw [h s, h [], List.append_assoc]
  rfl

/-- What ends a line does not matter to whether it closes a fence. -/
theorem closes_append_newline (l : Text) : closes (l ++ ['\n']) = closes l := by
  have h : (l ++ ['\n']).takeWhile (fun c => !isEnd c) = l.takeWhile fun c => !isEnd c := by
    rw [List.takeWhile_append]
    split
    · next he =>
      rw [(List.takeWhile_sublist _).eq_of_length he]
      exact List.append_nil l
    · rfl
  rw [closes, h, closes]

theorem closes_concat_newline_iff (t : Text) :
    (∀ l ∈ lines (t ++ ['\n']), closes l = false) ↔ ∀ l ∈ lines t, closes l = false := by
  obtain ⟨ls, l, ht, hs⟩ := lines_append_newline t
  have hlast : closes [] = false := rfl
  rw [hs [], ht]
  simp only [lines, List.forall_mem_append, List.forall_mem_singleton, closes_append_newline]
  split
  · next hl => simp [hl, hlast]
  · rw [List.forall_mem_singleton]

theorem read?_eq {t : Text} {before after : List Text} {l : Text}
    (ht : lines t = before ++ l :: after) (hb : ∀ m ∈ before, closes m = false)
    (hl : closes l = true) :
    read? ("```mermaid\n".toList ++ t) = some ⟨before.flatten, after.flatten⟩ := by
  have hopen : dropWord? (· == ·) "```mermaid\n".toList ("```mermaid\n".toList ++ t) = some t := rfl
  have hpos : ∀ m ∈ before, (!closes m) = true := fun m hm => by rw [hb m hm]; rfl
  rw [read?, hopen, Option.bind_some, ht, List.dropWhile_append_of_pos hpos,
    List.takeWhile_append_of_pos hpos, List.dropWhile_cons_of_neg (by simp [hl]),
    List.takeWhile_cons_of_neg (by simp [hl]), List.append_nil]

theorem fenced_eq (t : Text) :
    Payload.fenced t = "```mermaid\n".toList ++ (t ++ "\n```".toList) := List.append_assoc ..

theorem lines_fenced (t : Text) :
    lines (t ++ "\n```".toList) = lines (t ++ ['\n']) ++ ["```".toList] :=
  lines_concat_newline_append t "```".toList

/-- A chart without a line that closes a fence is found again, with nothing behind it. -/
theorem read?_fenced_of_open {t : Text} (h : ∀ l ∈ lines t, closes l = false) :
    read? (Payload.fenced t) = some ⟨t ++ ['\n'], []⟩ := by
  rw [fenced_eq, read?_eq (lines_fenced t) ((closes_concat_newline_iff t).2 h) (by decide),
    flatten_lines]
  rfl

/-- A chart is cut off before its first line that closes a fence. -/
theorem read?_fenced_of_closed {t l : Text} {before after : List Text}
    (ht : lines (t ++ ['\n']) = before ++ l :: after) (hb : ∀ m ∈ before, closes m = false)
    (hl : closes l = true) :
    read? (Payload.fenced t) = some ⟨before.flatten, after.flatten ++ "```".toList⟩ := by
  have hlines : lines (t ++ "\n```".toList) = before ++ l :: (after ++ ["```".toList]) := by
    rw [lines_fenced, ht, List.append_assoc, List.cons_append]
  rw [fenced_eq, read?_eq hlines hb hl, List.flatten_append]
  rfl

theorem exists_first_closing {ls : List Text} (h : ¬ ∀ l ∈ ls, closes l = false) :
    ∃ before l after, ls = before ++ l :: after ∧ (∀ m ∈ before, closes m = false) ∧
      closes l = true := by
  obtain ⟨m, hm, hc⟩ : ∃ l ∈ ls, closes l = true := by simpa using h
  obtain ⟨l, hfirst⟩ := Option.isSome_iff_exists.1 (List.find?_isSome.2 ⟨m, hm, hc⟩)
  obtain ⟨hl, before, after, rfl, hb⟩ := List.find?_eq_some_iff_append.1 hfirst
  exact ⟨before, l, after, rfl, fun n hn => by simpa using hb n hn, hl⟩

/-- A published chart is a block that is closed. It is read back as it is, with the line feed that
ends it and nothing behind the block, exactly if none of its lines closes a fence; otherwise it is
cut off at the first such line, and the rest of it stands outside. -/
theorem read?_of_prepare (chart name : Option Text) (now : Moment) (p : Payload)
    (h : Publication.prepare chart name now = .ok p) :
    let t := chart.getD []
    (read? p.content).isSome = true ∧
      (read? p.content = some ⟨t ++ ['\n'], []⟩ ↔ ∀ l ∈ lines t, closes l = false) ∧
      ∀ before l after, lines (t ++ ['\n']) = before ++ l :: after →
        (∀ m ∈ before, closes m = false) → closes l = true →
          read? p.content = some ⟨before.flatten, after.flatten ++ "```".toList⟩ := by
  intro t
  have hcontent : p.content = Payload.fenced t := by
    obtain ⟨-, hbuild⟩ := Publication.prepare_eq_ok_iff.1 h
    obtain ⟨n, instant, -, -, -, rfl⟩ := Payload.build_eq_ok_iff.1 hbuild
    rfl
  rw [hcontent]
  by_cases hopen : ∀ l ∈ lines t, closes l = false
  · have hread := read?_fenced_of_open hopen
    exact ⟨by rw [hread]; rfl, iff_of_true hread hopen,
      fun _ _ _ ht hb hl => read?_fenced_of_closed ht hb hl⟩
  · obtain ⟨before, l, after, ht, hb, hl⟩ :=
      exists_first_closing (mt (closes_concat_newline_iff t).1 hopen)
    have hread := read?_fenced_of_closed ht hb hl
    refine ⟨by rw [hread]; rfl, iff_of_false ?_ hopen,
      fun _ _ _ ht hb hl => read?_fenced_of_closed ht hb hl⟩
    rw [hread, Option.some.injEq, Block.mk.injEq, List.append_eq_nil_iff]
    rintro ⟨-, -, hend⟩
    exact absurd hend (by decide)

/-- Backticks behind four spaces or a tab, in a label, before a word, and too few of them close
nothing. -/
theorem read?_of_prepare_lookalikes :
    let chart := "graph TD\n    ```\n\t```\na[``` x]\r\n``` a\n``\r~~~".toList
    let now : Moment := ⟨⟨2024, 5, 6⟩, 7, 8, 9, 123456, 0⟩
    ∃ p, Publication.prepare (some chart) (some ['x']) now = .ok p ∧
      read? p.content = some ⟨chart ++ ['\n'], []⟩ := by
  intro chart now
  have hname : Payload.Named (some ['x']) := ⟨['x'], rfl, 'x', List.mem_singleton_self _, rfl⟩
  have hnow : now.instant?.isSome = true := by decide +kernel
  obtain ⟨p, hp, -⟩ := Payload.exists_build_eq_ok hname hnow chart
  have h : Publication.prepare (some chart) (some ['x']) now = .ok p :=
    Publication.prepare_eq_ok_iff.2 ⟨by decide +kernel, hp⟩
  exact ⟨p, h, (read?_of_prepare (some chart) _ now p h).2.1.2 (by decide +kernel)⟩

/-- Not every chart that is prepared for publication can be read back. -/
theorem prepared_chart_cut_off :
    ¬ ∀ (chart name : Option Text) (now : Moment) (p : Payload),
      Publication.prepare chart name now = .ok p →
        read? p.content = some ⟨chart.getD [] ++ ['\n'], []⟩ := by
  intro h
  let chart := "graph TD\na[A]\n```\nb[B]".toList
  let now : Moment := ⟨⟨2024, 5, 6⟩, 7, 8, 9, 0, 0⟩
  have hname : Payload.Named (some ['x']) := ⟨['x'], rfl, 'x', List.mem_singleton_self _, rfl⟩
  have hnow : now.instant?.isSome = true := by decide +kernel
  obtain ⟨p, hp, hcontent⟩ := Payload.exists_build_eq_ok hname hnow chart
  have hread := h (some chart) _ _ p (Publication.prepare_eq_ok_iff.2 ⟨by decide +kernel, hp⟩)
  have hcut : read? (Payload.fenced chart) = some ⟨"graph TD\na[A]\n".toList,
      "b[B]\n```".toList⟩ := by decide +kernel
  rw [hcontent, hcut] at hread
  exact absurd hread (by decide +kernel)

end CaseChart.Fence
