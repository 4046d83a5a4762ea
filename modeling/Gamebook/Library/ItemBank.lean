import Gamebook.Library.Records

namespace Gamebook

/-- The items of the bank. -/
structure ItemBank where
  items : List String
  deriving DecidableEq

def ItemBank.codec : Json.Codec ItemBank :=
  .record "ItemFile" (.cons (.withDefault "items" (.list .text) []) .nil)
    (fun b => (b.items, ()))
    (fun (items, _) => ⟨items⟩)

namespace Library

variable (library : Library)

/-- The items of the bank. -/
def items : FileAction LibraryError (List String) := do
  return ((← readRecord ItemBank.codec library.itemsPath).map (·.items)).getD []

/-- Adds an item to the bank unless it is there, and gives all items. -/
def addItem (name : String) : FileAction LibraryError (List String) := do
  checkName .item name
  let items ← library.items
  let items := if name ∈ items then items else items ++ [name]
  writeRecord ItemBank.codec library.itemsPath ⟨items⟩
  return items

end Library

end Gamebook
