import Companion.Settings.Basic
import Companion.Storage.Database

/-!
Archives: a database file among the other files of its folder. Numbered backups of the database lie
there too, the newest with number one. Making another moves the older ones up by one number each and
keeps as many of them as the settings say.
-/

namespace Companion

abbrev Folder := Table String Contents

/-- The name of a file without its extension, and the extension: what follows the last dot, unless
that is the first character. -/
def splitExtension (name : String) : String × String :=
  let reversed := name.toList.reverse
  let extension := reversed.takeWhile (· != '.')
  match reversed.drop extension.length with
  | '.' :: c :: rest =>
    (String.ofList (c :: rest).reverse, String.ofList extension.reverse)
  | _ => (name, "")

def backupName (name : String) (n : Nat) : String :=
  let (stem, extension) := splitExtension name
  stem ++ "." ++ extension ++ ".bak." ++ toString n

/-- An open database and the other files of its folder. Without a name the database lives in memory.
-/
structure Archive where
  settings : StorageSettings
  name : Option String
  database : Database
  others : Folder

namespace Archive

/-- The database in a file of a folder; a missing file is an empty database. -/
def opened (settings : StorageSettings) (name : String) (folder : Folder) : Archive :=
  ⟨settings, some name, .opened settings.checksumEnabled ((folder.get? name).getD none),
    folder.erase name⟩

def inMemory (settings : StorageSettings) : Archive :=
  ⟨settings, none, .opened settings.checksumEnabled none, .empty⟩

def folder (a : Archive) : Folder :=
  match a.name with
  | some name => a.others.insert name a.database.contents
  | none => a.others

def reopened (a : Archive) (name : String) : Archive := opened a.settings name a.folder

def backup (a : Archive) (file : String) : Archive :=
  { a with others := a.others.insert file a.database.contents }

/-- One file under another name, in the place of what had that name; nothing if it is missing. -/
def renamed (files : Folder) (file target : String) : Folder :=
  match files.get? file with
  | some contents => (files.erase file).insert target contents
  | none => files

/-- The backups with the numbers from `n` down to one, each moved up by one number. -/
def movedUp (name : String) : Nat → Folder → Folder
  | 0, files => files
  | n + 1, files =>
    movedUp name n (renamed files (backupName name (n + 1)) (backupName name (n + 2)))

/-- The number behind the last backup that is kept, counted in 32 bits. -/
def behind (settings : StorageSettings) : Nat := (settings.backupCount + 1).toNat

def rotate (a : Archive) : Archive :=
  let count := a.settings.backupCount.toNat
  match a.name with
  | none => a
  | some name =>
    if count = 0 then a
    else
      let moved := movedUp name (count - 1) a.others
      backup { a with others := moved.erase (backupName name (behind a.settings)) } (backupName name 1)

end Archive

end Companion
