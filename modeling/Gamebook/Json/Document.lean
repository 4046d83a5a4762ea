import Gamebook.Json.Token

/-!
JSON text as a tree. The tree of text that is not JSON reaches as far as the text can be followed:
a place that cannot be read past is a leaf of its own, and every array and object around it is
marked as unfinished. A reader that goes through the tree in the order of the text therefore finds
a value of the wrong kind before it finds that the text behind the value is wrong.
-/

namespace Gamebook.Json

/-- What stands where a variant or its name is looked for, when it is neither. -/
inductive NameFault where
  | flaw (f : Flaw)
  | found (x : Found)
  deriving DecidableEq, Repr

/-- A place that cannot be read past, by what is found wrong there: when a value or a member is
read, when it is skipped, and when a variant is looked for. -/
structure Break where
  read : Flaw
  skip : Flaw
  name : NameFault
  deriving DecidableEq, Repr

namespace Break

/-- A place that is wrong in the same way for everyone. -/
def all (f : Flaw) : Break := ⟨f, f, .flaw f⟩

end Break

/-- JSON text as a tree. Arrays and objects say at which place they break off, if they do. -/
inductive Tree where
  | null
  | bool (b : Bool)
  | number (n : Except Flaw Number)
  | text (s : Name)
  | array (items : List Tree) (stop : Option Break)
  | object (members : List (Name × Tree)) (stop : Option Break)
  | broken (b : Break)
  deriving Inhabited

/-- An array or object that is being read, with what it holds so far, last item or member first. -/
inductive Frame where
  | array (items : List Tree)
  | object (members : List (Name × Tree)) (current : Option Name)

/-- What may come next inside the innermost frame. -/
inductive Want where
  | value
  | firstItem
  | firstName
  | name
  | colon
  | separator
  deriving DecidableEq

/-- A whole text: the tree of its first value, and whether anything but blanks follows it. -/
structure Document where
  root : Tree
  trailing : Bool

/-- The state of reading: inside frames, innermost first; behind the value; or at an end. -/
inductive Reading where
  | inside (frames : List Frame) (want : Want)
  | behind (root : Tree)
  | over (document : Document)

namespace Reading

/-- The tree around a tree that is unfinished, for the given reason. -/
def unwind (b : Break) (inner : Tree) : List Frame → Tree
  | [] => inner
  | .array items :: frames => unwind b (.array (inner :: items).reverse (some b)) frames
  | .object members (some name) :: frames =>
    unwind b (.object ((name, inner) :: members).reverse (some b)) frames
  | .object members none :: frames => unwind b (.object members.reverse (some b)) frames

/-- Ends the reading with a value that cannot be read. -/
def breakValue (frames : List Frame) (b : Break) : Reading :=
  .over ⟨unwind b (.broken b) frames, false⟩

/-- Ends the reading within the innermost frame, between its items or members. -/
def breakFrame (b : Break) : List Frame → Reading
  | [] => .over ⟨.broken b, false⟩
  | .array items :: frames => .over ⟨unwind b (.array items.reverse (some b)) frames, false⟩
  | .object members _ :: frames =>
    .over ⟨unwind b (.object members.reverse (some b)) frames, false⟩

/-- Goes on behind a value. -/
def complete (value : Tree) : List Frame → Reading
  | [] => .behind value
  | .array items :: frames => .inside (.array (value :: items) :: frames) .separator
  | .object members (some name) :: frames =>
    .inside (.object ((name, value) :: members) none :: frames) .separator
  | .object members none :: frames => .inside (.object members none :: frames) .separator

/-- Goes on behind the end of the innermost frame. -/
def closeFrame : List Frame → Reading
  | [] => breakValue [] (.all .malformed)
  | .array items :: frames => complete (.array items.reverse none) frames
  | .object members _ :: frames => complete (.object members.reverse none) frames

/-- Reads a token where a value has to begin. -/
def beginValue (frames : List Frame) : Token → Reading
  | .null => complete .null frames
  | .bool b => complete (.bool b) frames
  | .number n => complete (.number n) frames
  | .text s => complete (.text s) frames
  | .openArray => .inside (.array [] :: frames) .firstItem
  | .openObject => .inside (.object [] none :: frames) .firstName
  | .brokenText read skip => breakValue frames ⟨read, skip, .flaw read⟩
  | .broken read skip => breakValue frames ⟨read, skip, .flaw .malformed⟩
  | _ => breakValue frames (.all .malformed)

/-- What a token that is no name is where the name of a variant is looked for. -/
def nameFault : Token → NameFault
  | .null => .found .null
  | .bool b => .found (.bool b)
  | .number (.ok (.int n)) => .found (.int n)
  | .number (.ok .float) => .found .float
  | .openArray => .found .array
  | .openObject => .found .object
  | .brokenText read _ => .flaw read
  | .broken read _ => .flaw read
  | _ => .flaw .malformed

/-- Reads a token where the name of a member has to begin. It is also said what the token is where
the name of a variant is looked for. -/
def beginName (frames : List Frame) (fault : NameFault) : Token → Reading
  | .text s =>
    match frames with
    | .object members _ :: frames => .inside (.object members (some s) :: frames) .colon
    | frames => breakFrame (.all .malformed) frames
  | .brokenText read skip => breakFrame ⟨read, skip, fault⟩ frames
  | _ => breakFrame ⟨.malformed, .malformed, fault⟩ frames

/-- Reads one token. -/
def step : Reading → Token → Reading
  | .over document, _ => .over document
  | .behind root, _ => .over ⟨root, true⟩
  | .inside frames .value, token => beginValue frames token
  | .inside frames .firstItem, .closeArray => closeFrame frames
  | .inside frames .firstItem, token => beginValue frames token
  | .inside frames .firstName, .closeObject => closeFrame frames
  | .inside frames .firstName, token => beginName frames (nameFault token) token
  | .inside frames .name, token => beginName frames (.flaw .malformed) token
  | .inside frames .colon, .colon => .inside frames .value
  | .inside frames .colon, _ => breakValue frames (.all .malformed)
  | .inside (.array items :: frames) .separator, .closeArray => closeFrame (.array items :: frames)
  | .inside (.array items :: frames) .separator, .comma => .inside (.array items :: frames) .value
  | .inside (.object members _ :: frames) .separator, .closeObject =>
    closeFrame (.object members none :: frames)
  | .inside (.object members _ :: frames) .separator, .comma =>
    .inside (.object members none :: frames) .name
  | .inside frames .separator, _ => breakFrame (.all .malformed) frames

/-- The text is over. Behind the comma of an object there is still the comma, so that a variant is
malformed there. -/
def finish : Reading → Document
  | .over document => document
  | .behind root => ⟨root, false⟩
  | .inside frames want =>
    let ending := match want with
      | .value | .colon => breakValue frames (.all .ended)
      | .name => breakFrame ⟨.ended, .ended, .flaw .malformed⟩ frames
      | .firstItem | .firstName | .separator => breakFrame (.all .ended) frames
    match ending with
    | .over document => document
    | _ => ⟨.broken (.all .ended), false⟩

end Reading

namespace Document

/-- Reads the tokens of the characters that are left. -/
def build (state : Reading) (cs : List Char) : Document :=
  match _h : nextToken cs with
  | none => state.finish
  | some (token, rest) => build (state.step token) rest
termination_by cs.length
decreasing_by exact length_nextToken ‹_›

/-- Reads a whole text. -/
def read (text : String) : Document :=
  build (.inside [] .value) text.toList

end Document

end Gamebook.Json
