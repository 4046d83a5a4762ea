import Gamebook.Proofs.Files.Commuting

namespace Gamebook

namespace Dict

variable {α β : Type}

end Dict

namespace Entry

mutual

/-- An entry with the content of every file in it replaced. -/
def mapFiles (f : Content → Content) : Entry → Entry
  | .file content => .file (f content)
  | .folder entries => .folder (mapFilesIn f entries)

/-- Some entries of a folder with the content of every file in them replaced. -/
def mapFilesIn (f : Content → Content) : List (String × Entry) → List (String × Entry)
  | [] => []
  | (name, entry) :: entries => (name, mapFiles f entry) :: mapFilesIn f entries

end

variable {f : Content → Content} {content : Content} {name : String} {path below : List String}
  {entries : List (String × Entry)}

end Entry

end Gamebook
