import Gamebook.Program
import Std.Time.DateTime.Timestamp

namespace Gamebook

/-- Why the machine refuses to work with a file, by its number for the error. -/
def faultOf : IO.Error → FileFault
  | .noFileOrDirectory _ _ _ => .missing
  | .alreadyExists _ _ _ => .alreadyExists
  | .inappropriateType _ number _ => if number = 21 then .isFolder else .notFolder
  | .invalidArgument _ _ _ => .nameTooLong
  | _ => .notFolder

namespace FileAction

variable {ε α : Type}

/-- Performs a program that works with files on the files of the machine. -/
def perform : FileAction ε α → IO (Except ε α)
  | .done value => return .ok value
  | .fail error => return .error error
  | .readText path next => do
    let answer : Except FileFault String ←
      try
        let bytes ← IO.FS.readBinFile path
        pure <| match String.fromUTF8? bytes with
          | some text => .ok text
          | none => .error .notText
      catch error => pure (.error (faultOf error))
    (next answer).perform
  | .isFile path next => do
    let place := (← IO.currentDir) / path
    let answer ←
      try pure ((← place.metadata).type == .file)
      catch _ => pure false
    (next answer).perform
  | .list path next => do
    let place := (← IO.currentDir) / path
    let answer : Except FileFault (List String) ←
      try pure (.ok ((← place.readDir).toList.map (·.fileName)))
      catch error => pure (.error (faultOf error))
    (next answer).perform
  | .makeFolders path next => do
    let place := (← IO.currentDir) / path
    let answer ←
      try
        IO.FS.createDirAll place
        pure none
      catch error =>
        let fault := faultOf error
        if fault = .alreadyExists && !(← place.pathExists) then pure (some .notFolder)
        else pure (some fault)
    (next answer).perform
  | .writeText path text next => do
    let answer ←
      try
        IO.FS.writeFile path text
        pure none
      catch error => pure (some (faultOf error))
    (next answer).perform

end FileAction

/-- The present moment. -/
def presentMoment : IO Instant := do
  let nanos := (← Std.Time.Timestamp.now).toNanosecondsSinceUnixEpoch.val
  let seconds := nanos / 1_000_000_000
  return ⟨seconds / 86400, (seconds % 86400).toNat, (nanos % 1_000_000_000).toNat⟩

/-- A share code of random digits. -/
def randomCode : IO String := do
  let bytes ← IO.getRandomBytes 6
  let number (bytes : List UInt8) : Nat := bytes.foldl (fun n byte => n * 256 + byte.toNat) 0
  return shareCode (number (bytes.toList.take 4)) (number (bytes.toList.drop 4))

end Gamebook

open Gamebook in
/-- Runs the program with the arguments it was given. -/
def main (arguments : List String) : IO UInt32 := do
  let around : Surroundings :=
    { dataDir := ← IO.getEnv "FABLE_DATA_DIR"
      player := ← IO.getEnv "FABLE_PLAYER"
      now := ← presentMoment
      candidates := ← (List.range 64).mapM fun _ => randomCode }
  match ← (CommandLine.execute arguments around).perform with
  | .ok outcome =>
    IO.print outcome.out
    IO.eprint outcome.err
    return UInt32.ofNat outcome.status
  | .error error => nomatch error
