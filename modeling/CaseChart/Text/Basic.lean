namespace CaseChart

/-- A text is the list of its code points; lengths and positions count them. -/
abbrev Text := List Char

namespace Text

/-- White space: the separators of Unicode and the controls that separate words or lines. -/
def isBlank (c : Char) : Bool :=
  let n := c.toNat
  (9 ≤ n && n ≤ 13) || (28 ≤ n && n ≤ 32) || n == 0x85 || n == 0xA0 || n == 0x1680 ||
  (0x2000 ≤ n && n ≤ 0x200A) || n == 0x2028 || n == 0x2029 || n == 0x202F || n == 0x205F ||
  n == 0x3000

/-- A blank or a tab: the white space that stays within a line and counts as indentation. -/
def isTabOrSpace (c : Char) : Bool := c == ' ' || c == '\t'

def trimLeft (t : Text) : Text := t.dropWhile isBlank

def trimRight (t : Text) : Text := (t.reverse.dropWhile isBlank).reverse

def trim (t : Text) : Text := trimRight (trimLeft t)

def isBlankText (t : Text) : Bool := t.all isBlank

def sameLetter (k c : Char) : Bool := c.toLower == k

/-- What follows `word` in `t`, if `t` starts with it under the comparison `same`. -/
def dropWord? (same : Char → Char → Bool) : (word t : Text) → Option Text
  | [], t => some t
  | _ :: _, [] => none
  | k :: word, c :: t => if same k c then dropWord? same word t else none

def split (sep : Char) : Text → List Text
  | [] => [[]]
  | c :: t =>
    match split sep t with
    | [] => [[c]]
    | p :: ps => if c = sep then [] :: p :: ps else (c :: p) :: ps

def join (sep : Text) : List Text → Text
  | [] => []
  | [t] => t
  | t :: ts => t ++ sep ++ join sep ts

theorem join_cons_cons (sep s t : Text) (ts : List Text) :
    join sep (s :: t :: ts) = s ++ (sep ++ join sep (t :: ts)) := List.append_assoc ..

theorem dropWord?_nil (same : Char → Char → Bool) (t : Text) :
    dropWord? same [] t = some t := by
  cases t <;> rfl

end Text
end CaseChart
