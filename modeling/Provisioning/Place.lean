/-!
# Places of files

Paths, and where the configuration and the saved vendor state live unless told
otherwise.
-/

namespace Provisioning.Place

/-- A path with one more part: no second slash where one is there, and none at
all after the empty path. -/
def join (path part : String) : String :=
  if path.isEmpty || path.toList.getLast? == some '/' then path ++ part
  else path ++ "/" ++ part

/-- The names in a path: between slashes, none of them empty. -/
def names (path : String) : List String :=
  (path.splitOn "/").filter (!·.isEmpty)

/-- Whether a path starts at the root. -/
def isAbsolute (path : String) : Bool :=
  path.toList.head? == some '/'

/-- The names in a path without those that stay where they are; one that the path
starts with is kept. -/
def parts (path : String) : List String :=
  match names path with
  | [] => []
  | first :: rest =>
    let rest := rest.filter (· != ".")
    if first == "." && isAbsolute path then rest else first :: rest

/-- The paths of the directories that a path lies in, the nearest first; the last
of them is the root, or the empty path of the current directory. -/
def ancestors (path : String) : List String :=
  let parts := parts path
  let start := if isAbsolute path then "/" else ""
  (List.range parts.length).reverse.map fun count =>
    start ++ "/".intercalate (parts.take count)

/-- The directory that holds this program's files; the current directory stands
in for a home that is not known. -/
def store (home : Option String) : String :=
  join (home.getD ".") ".provisioner"

/-- The configuration file. -/
def configFile (home : Option String) : String :=
  join (store home) "config.toml"

/-- The file of the simulated vendor's state. -/
def vendorStateFile (home : Option String) : String :=
  join (store home) "sim-state.json"

end Provisioning.Place
