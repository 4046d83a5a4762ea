import Gamebook.Dict
import Gamebook.Json.Basic
import Gamebook.Json.Document
import Gamebook.Json.ReadError

/-!
How values of a type are written as JSON and read from it. A reader goes through the text in order
and reports the first thing that it finds wrong. A record is written as an object; it is read from
an object in any order, with members of other names skipped, or from an array of its fields in
their order.
-/

namespace Gamebook.Json

/-- What reading gives: a value, or the first thing that is wrong. -/
abbrev Result (α : Type) := Except ReadError α

/-- How values of a type are written and read. -/
structure Codec (α : Type) where
  encode : α → Json
  decode : Tree → Result α

namespace Tree

/-- Refuses a tree that is not of the kind that was asked for. -/
def refuse {α : Type} (expected : Expected) : Tree → Result α
  | .null => .error (.wrongType .null expected)
  | .bool b => .error (.wrongType (.bool b) expected)
  | .number (.ok (.int n)) => .error (.wrongType (.int n) expected)
  | .number (.ok .float) => .error (.wrongType .float expected)
  | .number (.error f) => .error (.flaw f)
  | .text (.ok s) => .error (.wrongType (.text s) expected)
  | .text (.error f) => .error (.flaw f)
  | .array _ _ => .error (.wrongType .array expected)
  | .object _ _ => .error (.wrongType .object expected)
  | .broken b => .error (.flaw b.read)

/-- Passes over a value, which has to be JSON but no more. -/
def skip : Tree → Result Unit
  | .array _ (some b) => .error (.flaw b.skip)
  | .object _ (some b) => .error (.flaw b.skip)
  | .broken b => .error (.flaw b.skip)
  | _ => .ok ()

/-- A text, or what is wrong with it. -/
def readName : Name → Result String
  | .ok s => .ok s
  | .error f => .error (.flaw f)

/-- An array or object has to go on to its end. -/
def readEnd : Option Break → Result Unit
  | none => .ok ()
  | some b => .error (.flaw b.read)

/-- What is wrong where a variant or its name was looked for. -/
def nameError : NameFault → ReadError
  | .flaw f => .flaw f
  | .found x => .wrongType x .variant

/-- A value that has to be null. -/
def readNull : Tree → Result Unit
  | .null => .ok ()
  | tree => tree.refuse .null

/-- The items of an array, each read as it comes. -/
def readItems {α : Type} (decode : Tree → Result α) : List Tree → Result (List α)
  | [] => .ok []
  | item :: items => do
    let value ← decode item
    return value :: (← readItems decode items)

/-- Puts the members of an object into a table, each read as it comes. -/
def readEntries {α : Type} (decode : Tree → Result α) (table : Dict α) :
    List (Name × Tree) → Result (Dict α)
  | [] => .ok table
  | (name, value) :: members => do
    let name ← readName name
    let value ← decode value
    readEntries decode (table.insert name value) members

end Tree

namespace Document

/-- The value of a whole text, with nothing but blanks behind it. -/
def decode {α : Type} (codec : Codec α) (document : Document) : Result α := do
  let value ← codec.decode document.root
  if document.trailing then throw (.flaw .malformed)
  return value

end Document

namespace Codec

variable {α β : Type}

/-- Reads a value from text. -/
def read (codec : Codec α) (text : String) : Result α :=
  (Document.read text).decode codec

/-- Writes a value as text. -/
def write (codec : Codec α) (value : α) : String :=
  (codec.encode value).pretty

def text : Codec String where
  encode := .text
  decode
    | .text s => Tree.readName s
    | tree => tree.refuse .text

def bool : Codec Bool where
  encode := .bool
  decode
    | .bool b => .ok b
    | tree => tree.refuse .bool

/-- Signed 64-bit numbers. -/
def int64 : Codec Int64 where
  encode n := .int n.toInt
  decode
    | .number (.ok (.int n)) =>
      match Text.int64? n with
      | some n => .ok n
      | none => .error (.tooGreat n)
    | tree => tree.refuse .int

/-- Lists, as arrays. -/
def list (codec : Codec α) : Codec (List α) where
  encode values := .array (values.map codec.encode)
  decode
    | .array items stop => do
      let values ← Tree.readItems codec.decode items
      Tree.readEnd stop
      return values
    | tree => tree.refuse .array

/-- Tables, as objects. Of two members with one name the later counts. -/
def dict (codec : Codec α) : Codec (Dict α) where
  encode table := .object (table.entries.map fun entry => (entry.1, codec.encode entry.2))
  decode
    | .object members stop => do
      let table ← Tree.readEntries codec.decode ∅ members
      Tree.readEnd stop
      return table
    | tree => tree.refuse .object

/-- Values that may be missing: null stands for none. -/
def option (codec : Codec α) : Codec (Option α) where
  encode
    | none => .null
    | some value => codec.encode value
  decode
    | .null => .ok none
    | tree => (codec.decode tree).map some

/-- The value of a variant by its name. -/
def findVariant (variants : List (String × α)) (name : Name) : Result α := do
  let name ← Tree.readName name
  match Dict.lookup name variants with
  | some value => return value
  | none => throw (.unknownVariant name (variants.map (·.1)))

/-- Variants without content, by their names. A variant is written as its name, and may also be
read from an object with its name as the only member, which is null. -/
def variant (variants : List (String × α)) (nameOf : α → String) : Codec α where
  encode value := .text (nameOf value)
  decode
    | .text name => findVariant variants name
    | .object ((name, content) :: others) stop => do
      let value ← findVariant variants name
      Tree.readNull content
      if others ≠ [] then throw (.flaw .malformed)
      match stop with
      | none => return value
      | some b => throw (Tree.nameError b.name)
    | .object [] (some b) => .error (Tree.nameError b.name)
    | .broken b => .error (Tree.nameError b.name)
    | _ => .error (.flaw .malformed)

/-- Text for which null may stand when it is empty. -/
def nullableText : Codec String where
  encode := .text
  decode tree := (text.option.decode tree).map fun s => s.getD ""

end Codec

/-- One value of each of several types. -/
def Row : List Type → Type
  | [] => Unit
  | α :: types => α × Row types

/-- The fields of a record that were found so far. -/
def Draft : List Type → Type
  | [] => Unit
  | α :: types => Option α × Draft types

/-- A field of a record: its name, how it is written and read, the value it has when it is left
out, if it may be, and the values with which it is left out when written. -/
structure Field (α : Type) where
  name : String
  codec : Codec α
  absent : Option α
  hidden : α → Bool

namespace Field

/-- A field that has to be there. -/
def required {α : Type} (name : String) (codec : Codec α) : Field α :=
  ⟨name, codec, none, fun _ => false⟩

/-- A field that has a default. -/
def withDefault {α : Type} (name : String) (codec : Codec α) (default : α) : Field α :=
  ⟨name, codec, some default, fun _ => false⟩

/-- A field that is left out when there is no value for it. -/
def sparse {α : Type} (name : String) (codec : Codec α) : Field (Option α) :=
  ⟨name, codec.option, some none, Option.isNone⟩

end Field

/-- The fields of a record, in their order. -/
inductive Fields : List Type → Type 1 where
  | nil : Fields []
  | cons {α : Type} {types : List Type} (field : Field α) (rest : Fields types) :
      Fields (α :: types)

namespace Fields

variable {types : List Type}

/-- The number of fields. -/
def length : {types : List Type} → Fields types → Nat
  | _, .nil => 0
  | _, .cons _ rest => rest.length + 1

/-- The members of a record, without those that are left out. -/
def encode : {types : List Type} → Fields types → Row types → List (String × Json)
  | _, .nil, _ => []
  | _, .cons field rest, (value, row) =>
    if field.hidden value then rest.encode row
    else (field.name, field.codec.encode value) :: rest.encode row

/-- No field found yet. -/
def blank : {types : List Type} → Fields types → Draft types
  | _, .nil => ()
  | _, .cons _ rest => (none, rest.blank)

/-- Reads a member into the field of its name. A field may come only once, which shows at its name
already. A member without a field is passed over. -/
def fill (name : String) (value : Tree) :
    {types : List Type} → Fields types → Draft types → Result (Draft types)
  | _, .nil, draft => value.skip.map fun _ => draft
  | _, .cons field rest, (found, draft) =>
    if field.name = name then
      match found with
      | some _ => .error (.duplicateField name)
      | none => (field.codec.decode value).map fun value => (some value, draft)
    else (rest.fill name value draft).map fun draft => (found, draft)

/-- Reads the members of an object in their order. -/
def fillAll (fields : Fields types) (draft : Draft types) :
    List (Name × Tree) → Result (Draft types)
  | [] => .ok draft
  | (name, value) :: members => do
    let name ← Tree.readName name
    let draft ← fields.fill name value draft
    fillAll fields draft members

/-- Gives the fields that were not found their defaults. -/
def finish : {types : List Type} → Fields types → Draft types → Result (Row types)
  | _, .nil, _ => .ok ()
  | _, .cons field rest, (found, draft) => do
    match found.or field.absent with
    | some value => return (value, ← rest.finish draft)
    | none => throw (.missingField field.name)

/-- Reads the fields from the items of an array, one after the other, and says which items are left
over. Where the items end, the other fields have their defaults. -/
def takeItems (record : String) (size : Nat) (stop : Option Break) (position : Nat) :
    {types : List Type} → Fields types → List Tree → Result (Row types × List Tree)
  | _, .nil, items => .ok ((), items)
  | _, .cons field rest, item :: items => do
    let value ← field.codec.decode item
    let (row, left) ← rest.takeItems record size stop (position + 1) items
    return ((value, row), left)
  | _, .cons field rest, [] => do
    Tree.readEnd stop
    match field.absent with
    | some value =>
      let (row, left) ← rest.takeItems record size stop (position + 1) []
      return ((value, row), left)
    | none => throw (.tooShort position record size)

end Fields

namespace Codec

/-- Records of the given name and fields. -/
def record {α : Type} {types : List Type} (name : String) (fields : Fields types)
    (toRow : α → Row types) (ofRow : Row types → α) : Codec α where
  encode value := .object (fields.encode (toRow value))
  decode
    | .object members stop => do
      let draft ← fields.fillAll fields.blank members
      Tree.readEnd stop
      return ofRow (← fields.finish draft)
    | .array items stop => do
      let (row, left) ← fields.takeItems name fields.length stop 0 items
      if left ≠ [] then throw (.flaw .malformed)
      Tree.readEnd stop
      return ofRow row
    | tree => tree.refuse (.record name)

end Codec

end Gamebook.Json
