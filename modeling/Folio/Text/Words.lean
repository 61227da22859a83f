import Folio.Unicode.Classes

/-!
# Words and padding

Text as a list of characters, seen through its white space.

Main definitions:

* `trimStart`, `trimEnd`, `trim`: the text without the white space at its ends; `trimmed?` is what is
  left, if anything.
* `words`: the maximal runs of characters that are not white space.
* `unwords`: words joined by single spaces.
-/

namespace Folio.Text

open Unicode (isSpace)

/-! ## Ends -/

/-- Drops characters from the end as long as they satisfy `p`. -/
def dropEndWhile (p : Char → Bool) (cs : List Char) : List Char :=
  (cs.reverse.dropWhile p).reverse

/-- The text without the white space it begins with. -/
def trimStart (cs : List Char) : List Char := cs.dropWhile isSpace

/-- The text without the white space it ends with. -/
def trimEnd (cs : List Char) : List Char := dropEndWhile isSpace cs

/-- The text without the white space around it. -/
def trim (cs : List Char) : List Char := trimEnd (trimStart cs)

/-- The text without the white space around it, if anything is left. -/
def trimmed? (cs : List Char) : Option (List Char) :=
  if (trim cs).isEmpty then none else some (trim cs)

/-! ## Words -/

/-- The maximal runs of characters that fail `sep`, the first of them continuing `word`, which is
held in reverse. -/
def runsFrom (sep : Char → Bool) (word : List Char) : List Char → List (List Char)
  | [] => if word.isEmpty then [] else [word.reverse]
  | c :: rest =>
    if sep c then
      if word.isEmpty then runsFrom sep [] rest else word.reverse :: runsFrom sep [] rest
    else runsFrom sep (c :: word) rest

/-- The maximal runs of characters that fail `sep`. -/
def runs (sep : Char → Bool) (cs : List Char) : List (List Char) := runsFrom sep [] cs

/-- The maximal runs of characters that are not white space. -/
def words (cs : List Char) : List (List Char) := runs isSpace cs

/-- Words joined by single spaces. -/
def unwords (ws : List (List Char)) : List Char := List.intercalate [' '] ws

end Folio.Text
