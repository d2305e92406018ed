import CaseChart.Chart.Line
import CaseChart.Text.Lines
import CaseChart.Text.Margin

namespace CaseChart

/-- A group by its name, with its lines, the margin they share taken away. -/
structure Group where
  name : Text
  block : List Text
  deriving DecidableEq, Repr

def Group.text (g : Group) : Text := Text.join ['\n'] g.block

inductive Piece where
  | group (g : Group)
  | unterminated (name : Text)
  | relationship (line : Text)
  | style (line : Text)
  deriving DecidableEq, Repr

/-- The groups open after a statement inside a block, when `depth` were open before it; none if
the statement ends the block itself. -/
def Statement.depthAfter? (depth : Nat) : Statement → Option Nat
  | openGroup _ => some (depth + 1)
  | closeGroup => if depth = 0 then none else some (depth - 1)
  | _ => some depth

/-- Splits lines after the end that closes a group with `depth` groups open inside it. -/
def Line.splitBlock? : (depth : Nat) → List Line → Option (List Line × List Line)
  | _, [] => none
  | depth, l :: ls =>
    match l.statement.depthAfter? depth with
    | none => some ([l], ls)
    | some depth => (splitBlock? depth ls).map fun p => (l :: p.1, p.2)

theorem Line.eq_append_of_splitBlock? {depth : Nat} {ls b r : List Line}
    (h : splitBlock? depth ls = some (b, r)) : ls = b ++ r := by
  induction ls generalizing depth b r with
  | nil => simp [splitBlock?] at h
  | cons l ls ih =>
    rw [splitBlock?] at h
    split at h
    · simp only [Option.some.injEq, Prod.mk.injEq] at h
      rw [← h.1, ← h.2]
      rfl
    · obtain ⟨p, hp, he⟩ := Option.map_eq_some_iff.1 h
      simp only [Prod.mk.injEq] at he
      rw [← he.1, List.cons_append, ih (b := p.1) (r := p.2) hp, he.2]

/-- The block of a group from its lines. An opening line that follows a declaration is taken
without it. -/
def Group.blockOf (opener : Line) (body : List Line) : List Text :=
  let first :=
    if opener.content = Text.trim opener.source then Text.trimRight opener.source
    else opener.content
  Text.dedent (first :: body.map fun l => Text.trimRight l.source)

def Piece.ofLines : List Line → List Piece
  | [] => []
  | l :: ls =>
    match l.statement with
    | .openGroup name =>
      match _h : Line.splitBlock? 0 ls with
      | some (body, rest) => .group ⟨name, Group.blockOf l body⟩ :: ofLines rest
      | none => .unterminated name :: ofLines ls
    | .style => .style l.content :: ofLines ls
    | .relationship => .relationship l.content :: ofLines ls
    | _ => ofLines ls
  termination_by ls => ls.length
  decreasing_by
    · have := congrArg List.length (Line.eq_append_of_splitBlock? _h)
      simp only [List.length_append, List.length_cons] at *
      omega
    all_goals simp

/-- The parts of a chart by their kind, each kind in order of appearance. -/
structure Sections where
  groups : List Group
  relationships : List Text
  styles : List Text
  unterminated : List Text
  deriving DecidableEq, Repr

namespace Sections

def ofPieces (ps : List Piece) : Sections where
  groups := ps.filterMap fun | .group g => some g | _ => none
  relationships := ps.filterMap fun | .relationship l => some l | _ => none
  styles := ps.filterMap fun | .style l => some l | _ => none
  unterminated := ps.filterMap fun | .unterminated n => some n | _ => none

def ofChart (t : Text) : Sections :=
  ofPieces (Piece.ofLines ((Text.lines t).map Line.ofText))

end Sections
end CaseChart
