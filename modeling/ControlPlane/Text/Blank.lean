/-! # Blanks

The blanks are the characters with Unicode's property White_Space.  Texts are trimmed and cut
into words at blanks, and cut into lines at line feeds.

`trim` removes blanks from both ends, `words` gives the maximal runs without a blank, and
`splitAt` cuts at every occurrence of one separator. -/

namespace ControlPlane.Text

/-- The characters with property White_Space. -/
def isBlank (c : Char) : Bool :=
  let n := c.toNat
  (0x9 ≤ n && n ≤ 0xd) || n == 0x20 || n == 0x85 || n == 0xa0 || n == 0x1680 ||
    (0x2000 ≤ n && n ≤ 0x200a) || n == 0x2028 || n == 0x2029 || n == 0x202f || n == 0x205f ||
    n == 0x3000

/-- Removes the blanks at both ends. -/
def trim (cs : List Char) : List Char :=
  ((cs.dropWhile isBlank).reverse.dropWhile isBlank).reverse

/-- The pieces between the occurrences of `sep`; there is always a first and a last piece. -/
def splitAt (sep : Char) : List Char → List (List Char)
  | [] => [[]]
  | c :: cs =>
    if c = sep then
      [] :: splitAt sep cs
    else
      match splitAt sep cs with
      | [] => [[c]]
      | piece :: pieces => (c :: piece) :: pieces

theorem splitAt_ne_nil (sep : Char) (cs : List Char) : splitAt sep cs ≠ [] := by
  induction cs with
  | nil => simp [splitAt]
  | cons c cs ih =>
    by_cases h : c = sep
    · simp [splitAt, h]
    · cases hp : splitAt sep cs with
      | nil => exact absurd hp ih
      | cons piece pieces => simp [splitAt, h, hp]

/-- Adds a word, given in reverse, in front of others unless it is empty. -/
def addWord (word : List Char) (rest : List (List Char)) : List (List Char) :=
  if word.isEmpty then rest else word.reverse :: rest

/-- The words of a text whose first word begins with the characters of `word`, in reverse. -/
def wordsFrom (word : List Char) : List Char → List (List Char)
  | [] => addWord word []
  | c :: cs => if isBlank c then addWord word (wordsFrom [] cs) else wordsFrom (c :: word) cs

/-- The maximal runs of characters that are not blank. -/
def words (cs : List Char) : List (List Char) := wordsFrom [] cs

/-- The lines of a text, without their line ends.  A line feed, alone or after a carriage return,
ends a line; the last line needs none. -/
def lines (cs : List Char) : List (List Char) :=
  let pieces := splitAt '\n' cs
  let ended := pieces.dropLast.map fun line =>
    if line.getLast? = some '\r' then line.dropLast else line
  match pieces.getLast? with
  | some (c :: rest) => ended ++ [c :: rest]
  | _ => ended

/-- What stands before the first `#`. -/
def uncommented (line : List Char) : List Char := line.takeWhile (· != '#')

end ControlPlane.Text
