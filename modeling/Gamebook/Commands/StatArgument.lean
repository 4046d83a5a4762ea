import Gamebook.Text.Blank
import Gamebook.Text.Integer

namespace Gamebook

/-- Why an argument does not name a stat and a value. -/
inductive StatFault where
  | noEquals (raw : String)
  | noName (raw : String)
  | noNumber (value : String)
  deriving DecidableEq, Repr

namespace StatFault

def message : StatFault → String
  | .noEquals raw => "expected NAME=VALUE, got '" ++ raw ++ "'"
  | .noName raw => "missing stat name in '" ++ raw ++ "'"
  | .noNumber value => "'" ++ value ++ "' is not a whole number"

end StatFault

/-- The stat and the value that an argument names. The name ends at the first equals sign. -/
def parseStat (raw : String) : Except StatFault (String × Int64) :=
  let cs := raw.toList
  match cs.dropWhile (· ≠ '=') with
  | [] => .error (.noEquals raw)
  | _ :: rest =>
    let name := Text.trim (String.ofList (cs.takeWhile (· ≠ '=')))
    let value := Text.trim (String.ofList rest)
    if name = "" then .error (.noName raw)
    else
      match Text.readInt64? value with
      | some n => .ok (name, n)
      | none => .error (.noNumber value)

end Gamebook
