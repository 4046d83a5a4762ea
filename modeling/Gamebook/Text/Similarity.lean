namespace Gamebook.Text

/-- Marks the first character that is equal to the given one and not marked yet, behind `skip`
characters and among the `window` ones after them. -/
def markEqual (c : Char) : (skip window : Nat) → List (Char × Bool) → Option (List (Char × Bool))
  | _, _, [] => none
  | skip + 1, window, other :: rest => (markEqual c skip window rest).map (other :: ·)
  | 0, 0, _ => none
  | 0, window + 1, other :: rest =>
    if other.1 = c ∧ ¬other.2 then some ((other.1, true) :: rest)
    else (markEqual c 0 window rest).map (other :: ·)

/-- Pairs the characters of one text, from the given place on, with equal ones of another text that
stand no further away than `reach`: gives the characters that found a partner, and the other text
with the partners marked. -/
def pairUp (reach place : Nat) (other : List (Char × Bool)) :
    List Char → List Char × List (Char × Bool)
  | [] => ([], other)
  | c :: rest =>
    let skip := place - reach
    match markEqual c skip (place + reach + 1 - skip) other with
    | some other =>
      let (paired, other) := pairUp reach (place + 1) other rest
      (c :: paired, other)
    | none => pairUp reach (place + 1) other rest

/-- The Jaro similarity of two texts, from 0 to 1. -/
def jaro (a b : List Char) : Float :=
  if a = [] ∧ b = [] then 1
  else if a = [] ∨ b = [] then 0
  else
    let reach := max a.length b.length / 2 - 1
    let (paired, marked) := pairUp reach 0 (b.map fun c => (c, false)) a
    let partners := (marked.filter (·.2)).map (·.1)
    if paired = [] then 0
    else
      let outOfOrder := ((paired.zip partners).filter fun (x, y) => x ≠ y).length / 2
      let pairs := paired.length.toFloat
      (pairs / a.length.toFloat + pairs / b.length.toFloat
        + (paired.length - outOfOrder).toFloat / pairs) / 3.0

/-- How many characters two texts begin with in common, up to four. -/
def commonStart (a b : List Char) : Nat :=
  (((a.take 4).zip b).takeWhile fun (x, y) => x = y).length

/-- The similarity of two texts after Winkler: that of Jaro, which is raised by a tenth of what is
missing to 1 for each character that the texts begin with in common, if it is over 0.7. -/
def similarity (a b : String) : Float :=
  let base := jaro a.toList b.toList
  if 0.7 < base then base + 0.1 * (commonStart a.toList b.toList).toFloat * (1.0 - base) else base

end Gamebook.Text
