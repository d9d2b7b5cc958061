import Provisioning.Place
import Provisioning.Vendor.Saved

/-!
# A tree of files in memory

Files and directories by their location, a working directory, and what reading
and saving at a path does to them.  A path is walked from the left, and every
name but the last has to lead to a directory; `FileFault` says why a walk ends
early.
-/

namespace Provisioning.Console

/-- Why the file system refuses a request. -/
inductive FileFault where
  | missing
  | alreadyThere
  | notDirectory
  | isDirectory
  | nameTooLong
deriving DecidableEq, Repr

namespace FileFault

/-- The number that the system gives a fault. -/
def code : FileFault → Nat
  | missing => 2
  | alreadyThere => 17
  | notDirectory => 20
  | isDirectory => 21
  | nameTooLong => 36

/-- The fault in words. -/
def words : FileFault → String
  | missing => "No such file or directory"
  | alreadyThere => "File exists"
  | notDirectory => "Not a directory"
  | isDirectory => "Is a directory"
  | nameTooLong => "File name too long"

/-- The text of a fault. -/
def message (fault : FileFault) : String :=
  fault.words ++ " (os error " ++ toString fault.code ++ ")"

/-- The fault of a number. -/
def ofCode? (code : Nat) : Option FileFault :=
  [missing, alreadyThere, notDirectory, isDirectory, nameTooLong].find? (·.code == code)

theorem ofCode?_code (fault : FileFault) : ofCode? fault.code = some fault := by
  cases fault <;> rfl

end FileFault

/-- Where something is: the names from the root down to it. -/
abbrev Location := List String

/-- What is at a location.  A sink is a file that stays empty. -/
inductive Entry where
  | file (text : String)
  | directory
  | sink
deriving DecidableEq, Repr

/-- Files and directories, and the directory that paths start in. -/
structure FileTree where
  entries : List (Location × Entry)
  here : Location
deriving DecidableEq, Repr

namespace FileTree

/-- An empty working directory below a root with a sink. -/
def empty : FileTree where
  entries := [(["dev"], .directory), (["dev", "null"], .sink), (["tmp"], .directory),
    (["tmp", "work"], .directory)]
  here := ["tmp", "work"]

/-- What is at a location; the root is always there. -/
def entry? (tree : FileTree) (location : Location) : Option Entry :=
  if location.isEmpty then some .directory else tree.entries.lookup location

/-- Puts an entry at a location. -/
def put (tree : FileTree) (location : Location) (entry : Entry) : FileTree :=
  { tree with entries := (location, entry) :: tree.entries.filter (·.1 != location) }

/-! ## Walking along a path -/

/-- The most bytes of a name. -/
def nameLimit : Nat := 255

/-- The most bytes of a path. -/
def pathLimit : Nat := 4095

/-- Checks the length of a name. -/
def checkName (name : String) : Except FileFault Unit :=
  if nameLimit < name.utf8ByteSize then .error .nameTooLong else .ok ()

/-- Checks the length of a path; the empty path leads nowhere. -/
def checkPath (path : String) : Except FileFault Unit :=
  if path.isEmpty then .error .missing
  else if pathLimit < path.utf8ByteSize then .error .nameTooLong
  else .ok ()

/-- One step from a location. -/
def enter (tree : FileTree) (location : Location) (name : String) : Except FileFault Location :=
  match tree.entry? location with
  | none => .error .missing
  | some (.file _) | some .sink => .error .notDirectory
  | some .directory =>
    if name == "." then .ok location
    else if name == ".." then .ok location.dropLast
    else do
      checkName name
      match tree.entry? (location ++ [name]) with
      | none => .error .missing
      | some _ => .ok (location ++ [name])

/-- The steps of names, from the root or from the working directory as the path
says. -/
def walk (tree : FileTree) (path : String) (names : List String) : Except FileFault Location :=
  names.foldlM tree.enter (if Place.isAbsolute path then [] else tree.here)

/-- Whether a path ends in a slash, which only a directory may have. -/
def endsInSlash (path : String) : Bool :=
  path.toList.getLast? == some '/'

/-- The location of what is at a path. -/
def locate (tree : FileTree) (path : String) : Except FileFault Location := do
  checkPath path
  tree.walk path (Place.names path ++ if endsInSlash path then ["."] else [])

/-- The entry at a path. -/
def at? (tree : FileTree) (path : String) : Option Entry :=
  match tree.locate path with
  | .ok location => tree.entry? location
  | .error _ => none

/-- What a reader finds at a path. -/
def content (tree : FileTree) (path : String) : FileContent :=
  match tree.at? path with
  | none => .missing
  | some (.file text) => .text text
  | some .sink => .text ""
  | some .directory => .unreadable FileFault.isDirectory.message

/-! ## Changing the tree -/

/-- The location that a path names for something new: its last name below the
directory that the names before it lead to.  There is none when the path ends at
a directory that is there in any case. -/
def slot (tree : FileTree) (path : String) : Except FileFault (Option Location) := do
  checkPath path
  match (Place.names path).getLast? with
  | none => return none
  | some name =>
    let above ← tree.walk path ((Place.names path).dropLast ++ ["."])
    return if name == "." || name == ".." then none else some (above ++ [name])

/-- Makes a directory. -/
def makeDirectory (tree : FileTree) (path : String) : Except FileFault FileTree := do
  match ← tree.slot path with
  | none => .error .alreadyThere
  | some location =>
    checkName (location.getLast?.getD "")
    if (tree.entry? location).isSome then .error .alreadyThere
    else return tree.put location .directory

/-- Makes a directory that may be there already. -/
def ensureDirectory (tree : FileTree) (path : String) : Except FileFault FileTree :=
  match tree.makeDirectory path with
  | .ok made => .ok made
  | .error fault => if tree.at? path == some .directory then .ok tree else .error fault

/-- Makes the first of some directories, each of which lies in the next.  The
outer ones are made when they are missing, and stay when the first fails. -/
def makeDirectories (tree : FileTree) : List String → FileTree × Option FileFault
  | [] => (tree, none)
  | path :: outer =>
    if path.isEmpty then (tree, none)
    else
      match tree.ensureDirectory path with
      | .ok made => (made, none)
      | .error .missing =>
        match tree.makeDirectories outer with
        | (made, some fault) => (made, some fault)
        | (made, none) =>
          match made.ensureDirectory path with
          | .ok made => (made, none)
          | .error fault => (made, some fault)
      | .error fault => (tree, some fault)

/-- Writes a file in a directory that is there. -/
def write (tree : FileTree) (path text : String) : Except FileFault FileTree := do
  match ← tree.slot path with
  | none => .error .isDirectory
  | some location =>
    if endsInSlash path then .error .isDirectory
    else
      checkName (location.getLast?.getD "")
      match tree.entry? location with
      | some .directory => .error .isDirectory
      | some .sink => return tree
      | some (.file _) | none => return tree.put location (.file text)

/-- Writes a file, with the directories that its path lies in.  Those stay when
the file cannot be written. -/
def save (tree : FileTree) (path text : String) : FileTree × Option FileFault :=
  match tree.makeDirectories (Place.ancestors path) with
  | (made, some fault) => (made, some fault)
  | (made, none) =>
    match made.write path text with
    | .ok written => (written, none)
    | .error fault => (made, some fault)

end FileTree

end Provisioning.Console
