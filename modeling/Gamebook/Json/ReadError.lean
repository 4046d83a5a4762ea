import Gamebook.Json.Flaw
import Gamebook.Text.Escaped
import Gamebook.Text.Integer

namespace Gamebook.Json

/-- The kinds of value that can be asked for. -/
inductive Expected where
  | null
  | bool
  | int
  | text
  | date
  | variant
  | array
  | object
  | record (name : String)
  deriving DecidableEq, Repr

/-- Why a text does not hold the value that was asked for. -/
inductive ReadError where
  /-- The text is not JSON. -/
  | flaw (f : Flaw)
  | wrongType (found : Found) (expected : Expected)
  /-- A whole number above the range of signed 64-bit numbers. -/
  | tooGreat (n : Int)
  | missingField (name : String)
  | duplicateField (name : String)
  | unknownVariant (name : String) (known : List String)
  /-- A record that is written as an array has too few items. -/
  | tooShort (length : Nat) (record : String) (fields : Nat)
  | invalidDate
  deriving DecidableEq, Repr

namespace Flaw

def message : Flaw → String
  | .malformed => "syntax error"
  | .ended => "unexpected end of input"

end Flaw

namespace Found

/-- A value that was found, as messages name it. Strings are quoted; fractions are not shown. -/
def describe : Found → String
  | .null => "null"
  | .bool true => "boolean `true`"
  | .bool false => "boolean `false`"
  | .int n => "integer `" ++ Text.numeral n ++ "`"
  | .float => "floating point"
  | .text s => "string " ++ Text.quoteForMessage s
  | .array => "sequence"
  | .object => "map"

end Found

namespace Expected

/-- A kind of value, as messages name it. -/
def describe : Expected → String
  | .null => "unit"
  | .bool => "a boolean"
  | .int => "i64"
  | .text => "a string"
  | .date => "an RFC 3339 formatted date and time string"
  | .variant => "variant identifier"
  | .array => "a sequence"
  | .object => "a map"
  | .record name => "struct " ++ name

end Expected

namespace ReadError

/-- What is wrong, in one line. -/
def message : ReadError → String
  | .flaw f => f.message
  | .wrongType found expected =>
    "invalid type: " ++ found.describe ++ ", expected " ++ expected.describe
  | .tooGreat n =>
    "invalid value: " ++ (Found.int n).describe ++ ", expected " ++ Expected.int.describe
  | .missingField name => "missing field `" ++ name ++ "`"
  | .duplicateField name => "duplicate field `" ++ name ++ "`"
  | .unknownVariant name known => "unknown variant `" ++ name ++ "`, expected " ++
      String.intercalate " or " (known.map fun known => "`" ++ known ++ "`")
  | .tooShort length record fields =>
    "invalid length " ++ Text.numeral length ++ ", expected " ++
      (Expected.record record).describe ++ " with " ++ Text.numeral fields ++
      if fields = 1 then " element" else " elements"
  | .invalidDate => "invalid date"

end ReadError

end Gamebook.Json
