import CaseChart.Chart.Header
import CaseChart.Firsts
import CaseChart.Proofs.Chart.Header

namespace CaseChart.Grammar
open Text

@[ext]
structure Identifier where
  letters : Text
  ne_nil : letters ≠ []
  isWord : ∀ c ∈ letters, Text.isWord c = true
  deriving DecidableEq

/-- A label or the attributes of a style: trimmed, on one line, without marks of the grammar. -/
@[ext]
structure Phrase where
  text : Text
  visible : isBlankText text = false
  trimmed : trim text = text
  unbroken : Unbroken text
  plain : ∀ c ∈ text, c ≠ '[' ∧ c ≠ ']' ∧ c ≠ '|'
  no_tag : ¬ [':', ':', ':'] <:+: text
  no_arrow : ¬ ['-', '-'] <:+: text
  deriving DecidableEq

structure Node where
  id : Identifier
  label : Phrase
  category : Option Identifier
  deriving DecidableEq

structure Group where
  name : Identifier
  nodes : List Node
  deriving DecidableEq

structure Relationship where
  source : Identifier
  label : Option Phrase
  target : Identifier
  deriving DecidableEq

structure Style where
  name : Identifier
  attributes : Phrase
  deriving DecidableEq

inductive Construct where
  | group (g : Group)
  | relationship (r : Relationship)
  | style (s : Style)
  deriving DecidableEq

structure Diagram where
  header : Header
  proper : header.Proper
  body : List Construct

namespace Diagram

def groups (d : Diagram) : List Group := d.body.filterMap fun | .group g => some g | _ => none

def relationships (d : Diagram) : List Relationship :=
  d.body.filterMap fun | .relationship r => some r | _ => none

def styles (d : Diagram) : List Style := d.body.filterMap fun | .style s => some s | _ => none

end Diagram

def categoryText : Option Identifier → Text
  | none => []
  | some c => ':' :: ':' :: ':' :: c.letters

def Node.statement (n : Node) : Text :=
  n.id.letters ++ '[' :: (n.label.text ++ ']' :: categoryText n.category)

def opener : Text := "subgraph".toList

def Group.opening (g : Group) : Text := opener ++ ' ' :: g.name.letters

def ending : Text := "end".toList

def arrowLabel : Option Phrase → Text
  | none => []
  | some l => '|' :: (l.text ++ ['|'])

def Relationship.statement (r : Relationship) : Text :=
  r.source.letters ++ " -->".toList ++ arrowLabel r.label ++ ' ' :: r.target.letters

def definer : Text := "classDef".toList

def Style.statement (s : Style) : Text :=
  definer ++ ' ' :: (s.name.letters ++ ' ' :: s.attributes.text)

def margin : Text := "    ".toList

def Group.lines (g : Group) : List Text :=
  (margin ++ g.opening) :: g.nodes.map (fun n => margin ++ margin ++ n.statement) ++
    [margin ++ ending]

def Relationship.line (r : Relationship) : Text := margin ++ r.statement

def Style.line (s : Style) : Text := margin ++ s.statement

def Construct.lines : Construct → List Text
  | group g => g.lines
  | relationship r => [r.line]
  | style s => [s.line]

def Diagram.lines (d : Diagram) : List Text := d.header.line :: d.body.flatMap Construct.lines

/-- The texts of a chart: its lines, with or without a line feed after the last one. -/
def Diagram.Written (d : Diagram) (t : Text) : Prop :=
  t = join ['\n'] d.lines ∨ t = join ['\n'] d.lines ++ ['\n']

structure Outline where
  header : Header
  groups : List Group
  relationships : List Relationship
  styles : List Style

/-- The declaration of the first chart, every group name with its first group, every relationship
and every style once. -/
def Outline.ofDiagrams (d : Diagram) (ds : List Diagram) : Outline where
  header := d.header
  groups := firstsOn Group.name ((d :: ds).flatMap Diagram.groups)
  relationships := firsts ((d :: ds).flatMap Diagram.relationships)
  styles := firsts ((d :: ds).flatMap Diagram.styles)

/-- The declaration, each group with an empty line after it, the relationships, an empty line, the
styles. -/
def Outline.layout (o : Outline) : Text :=
  unlines (o.header.line :: o.groups.flatMap (fun g => g.lines ++ [[]]) ++
    o.relationships.map Relationship.line ++ [[]] ++ o.styles.map Style.line)

end CaseChart.Grammar
