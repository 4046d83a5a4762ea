namespace Gamebook.Json

/-- Why text is not JSON: it goes against the grammar, or it ends before the value does. -/
inductive Flaw where
  | malformed
  | ended
  deriving DecidableEq, Repr

/-- The kinds of value that text can hold where another kind was asked for. -/
inductive Found where
  | null
  | bool (b : Bool)
  | int (n : Int)
  | float
  | text (s : String)
  | array
  | object
  deriving DecidableEq, Repr

end Gamebook.Json
