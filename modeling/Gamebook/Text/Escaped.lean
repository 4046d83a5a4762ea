import Gamebook.Text.Ranges
import Gamebook.Text.Table.Extending
import Gamebook.Text.Table.Unprintable

namespace Gamebook.Text

/-- A character by its code point in hexadecimal, as in `\u{301}`. -/
def codePointEscape (c : Char) : List Char :=
  ['\\', 'u', '{'] ++ Nat.toDigits 16 c.toNat ++ ['}']

/-- Whether a character shows as itself: it prints, and does not extend the character before. -/
def isVisible (c : Char) : Bool :=
  !within Table.extending c && !within Table.unprintable c

/-- A character of a quoted text. -/
def escapeForMessage (c : Char) : List Char :=
  match c with
  | '\x00' => ['\\', '0']
  | '\t' => ['\\', 't']
  | '\r' => ['\\', 'r']
  | '\n' => ['\\', 'n']
  | '\\' => ['\\', '\\']
  | '"' => ['\\', '"']
  | c => if isVisible c then [c] else codePointEscape c

/-- Text between quotes, with what is not visible escaped. -/
def quoteForMessage (s : String) : String :=
  String.ofList ('"' :: s.toList.flatMap escapeForMessage ++ ['"'])

end Gamebook.Text
