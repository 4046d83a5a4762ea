import Gamebook.Text.Ranges
import Gamebook.Text.Table.CellWidth

namespace Gamebook.Text

open Table

/-- The cells that a character takes on its own. -/
def charCells (c : Char) : Nat :=
  if c.toNat < 0x300 then 1
  else if within noCell c then 0
  else if within twoCells c then 2
  else 1

/-- Whether a character joins the picture before it, given the characters before it, nearest first:
a picture behind a joiner, or a shade of skin. -/
def joinsPicture (before : List Char) (c : Char) : Bool :=
  match before with
  | '\u200d' :: '\ufe0f' :: picture :: _ => within pictograph picture && within pictograph c
  | '\u200d' :: picture :: _ => within pictograph picture && within pictograph c
  | picture :: _ => within shaded picture && 0x1F3FB ≤ c.toNat && c.toNat ≤ 0x1F3FF
  | [] => false

/-- The cells that a character adds to those of the characters before it, nearest first. The
selector for pictures makes a character of one cell take two. -/
def addedCells (before : List Char) (c : Char) : Nat :=
  if c = '\ufe0f' then
    match before with
    | picture :: _ => if within emoji picture && charCells picture = 1 then 1 else 0
    | [] => 0
  else if joinsPicture before c then 0
  else charCells c

/-- The cells of characters, given the characters before them, nearest first. -/
def cellsFrom (before : List Char) : List Char → Nat
  | [] => 0
  | c :: rest => addedCells before c + cellsFrom (c :: before) rest

/-- The number of terminal cells that a text takes. -/
def cells (s : String) : Nat :=
  cellsFrom [] s.toList

end Gamebook.Text
