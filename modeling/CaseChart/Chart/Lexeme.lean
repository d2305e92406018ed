import CaseChart.Text.Word

namespace CaseChart

inductive Lexeme where
  | tag (name : Text)
  | marker (tip : Char)
  | word (letters : Text)
  | mark (c : Char)
  deriving DecidableEq, Repr

namespace Lexeme

def text : Lexeme → Text
  | tag name => ':' :: ':' :: ':' :: name
  | marker tip => ['-', '-', tip]
  | word letters => letters
  | mark c => [c]

/-- The characters that make two hyphens before them a relationship marker. -/
def isTip (c : Char) : Bool := c == '>' || c == '|' || c == '-'

/-- The lexemes of a text. Three colons start a tag only before an identifier; if there is none
the first of them stands alone. -/
def ofText : Text → List Lexeme
  | [] => []
  | ':' :: ':' :: ':' :: t =>
    if (t.takeWhile Text.isWord).isEmpty then mark ':' :: ofText (':' :: ':' :: t)
    else tag (t.takeWhile Text.isWord) :: ofText (t.dropWhile Text.isWord)
  | '-' :: '-' :: c :: t =>
    if isTip c then marker c :: ofText t else mark '-' :: ofText ('-' :: c :: t)
  | c :: t =>
    if Text.isWord c then word (c :: t.takeWhile Text.isWord) :: ofText (t.dropWhile Text.isWord)
    else mark c :: ofText t
  termination_by t => t.length
  decreasing_by
    all_goals simp only [List.length_cons]
    all_goals have h := (List.dropWhile_sublist Text.isWord (l := t)).length_le
    all_goals omega

theorem flatMap_text_ofText (t : Text) : (ofText t).flatMap text = t := by
  fun_induction ofText t with
  | case1 => rfl
  | case2 t _ ih => simp [text, ih]
  | case3 t _ ih => simp [text, ih, List.takeWhile_append_dropWhile]
  | case4 c t _ ih => simp [text, ih]
  | case5 c t _ ih => simp [text, ih]
  | case6 c t _ _ _ ih => simp [text, ih, List.takeWhile_append_dropWhile]
  | case7 c t _ _ _ ih => simp [text, ih]

def tagName? : Lexeme → Option Text
  | tag name => some name
  | _ => none

def isMarker : Lexeme → Bool
  | marker _ => true
  | _ => false

def isBlank : Lexeme → Bool
  | mark c => Text.isBlank c
  | _ => false

def startsWithWord : List Lexeme → Bool
  | [] => false
  | word _ :: _ => true
  | l :: ls => l.isBlank && startsWithWord ls

def namesNext : List Lexeme → Bool
  | l :: ls => l.isBlank && startsWithWord ls
  | [] => false

/-- The number of words that are `keyword` in any case and have a name after them. -/
def countNamed (keyword : Text) : List Lexeme → Nat
  | [] => 0
  | word letters :: ls =>
    (if letters.map Char.toLower = keyword ∧ namesNext ls then 1 else 0) + countNamed keyword ls
  | _ :: ls => countNamed keyword ls

/-- The number of labels that are closed and not blank. The label that is open at the start, if
any, says whether something visible has come in it so far. -/
def countLabels : (label : Option Bool) → List Lexeme → Nat
  | _, [] => 0
  | label, l :: ls =>
    if l = mark '[' then countLabels (some false) ls
    else if l = mark ']' then (if label = some true then 1 else 0) + countLabels none ls
    else countLabels (label.map (· || !l.isBlank)) ls

end Lexeme
end CaseChart
