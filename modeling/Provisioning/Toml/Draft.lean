import Provisioning.Toml

/-!
# Putting a document together

The lines of a document add to its tables from many places, and most ways of
adding to a table twice are errors.  A draft remembers how each table came to
be: `implicit` when it was only mentioned on the way to another, `dotted` when
that was in a dotted key.
-/

namespace Provisioning.Toml

/-- A part of a document under construction.  The rows of an array of tables are
newest first. -/
inductive Draft where
  | leaf (value : Toml)
  | table (implicit dotted : Bool) (entries : List (String × Draft))
  | rows (tables : List Draft)

namespace Draft

/-- The entries with the value of a key replaced. -/
def replace (key : String) (value : Draft) (entries : List (String × Draft)) :
    List (String × Draft) :=
  entries.map fun entry => if entry.1 = key then (key, value) else entry

/-- Changes the table at the end of a path.  Tables on the way are made when they
are missing.  A dotted key does not pass through a table that was made in any
other way than by dotted keys or on the way to another. -/
def alter {α : Type} (dotted : Bool)
    (change : Bool → List (String × Draft) → Option (α × List (String × Draft))) :
    List String → Bool → List (String × Draft) → Option (α × List (String × Draft))
  | [], isDotted, entries => change isDotted entries
  | key :: path, _, entries =>
    match entries.lookup key with
    | none =>
      (alter dotted change path dotted []).map fun (result, inner) =>
        (result, entries ++ [(key, table true dotted inner)])
    | some (leaf _) => none
    | some (table implicit isDotted inner) =>
      if dotted && !implicit then none
      else
        (alter dotted change path isDotted inner).map fun (result, inner) =>
          (result, replace key (table implicit isDotted inner) entries)
    | some (rows (table implicit isDotted inner :: older)) =>
      (alter dotted change path isDotted inner).map fun (result, inner) =>
        (result, replace key (rows (table implicit isDotted inner :: older)) entries)
    | some (rows _) => none

/-- Adds a value under a key at the end of a path of dotted keys. -/
def insert (path : List String) (key : String) (value : Toml) (entries : List (String × Draft)) :
    Option (List (String × Draft)) :=
  (alter true (fun isDotted inner =>
    if isDotted == path.isEmpty || (inner.lookup key).isSome then none
    else some ((), inner ++ [(key, leaf value)])) path false entries).map (·.2)

/-- Takes the table of a header out of the document, to go on with it: an empty
one, or one that was only mentioned on the way to another. -/
def openTable (parent : List String) (key : String) (root : List (String × Draft)) :
    Option (List (String × Draft) × List (String × Draft)) :=
  alter false (fun _ entries =>
    match entries.lookup key with
    | none => some ([], entries)
    | some (table true false inner) => some (inner, entries.filter (·.1 != key))
    | some _ => none) parent false root

/-- Puts the table of a header back. -/
def closeTable (parent : List String) (key : String) (current : List (String × Draft))
    (root : List (String × Draft)) : Option (List (String × Draft)) :=
  (alter false (fun _ entries => some ((), entries ++ [(key, table false false current)])) parent false
    root).map (·.2)

/-- Makes sure that a header of an array of tables names one, or nothing yet. -/
def openRow (parent : List String) (key : String) (root : List (String × Draft)) :
    Option (List (String × Draft)) :=
  (alter false (fun _ entries =>
    match entries.lookup key with
    | none => some ((), entries ++ [(key, rows [])])
    | some (rows _) => some ((), entries)
    | some _ => none) parent false root).map (·.2)

/-- Adds a row to an array of tables. -/
def closeRow (parent : List String) (key : String) (current : List (String × Draft))
    (root : List (String × Draft)) : Option (List (String × Draft)) :=
  (alter false (fun _ entries =>
    match entries.lookup key with
    | some (rows older) =>
      some ((), replace key (rows (table false false current :: older)) entries)
    | _ => none) parent false root).map (·.2)

mutual

/-- The value of a draft. -/
def freeze : Draft → Toml
  | leaf value => value
  | table _ _ entries => .table (freezeEntries entries)
  | rows tables => .arr (freezeRows tables).reverse

/-- The values of the entries of a draft. -/
def freezeEntries : List (String × Draft) → List (String × Toml)
  | [] => []
  | (key, value) :: rest => (key, freeze value) :: freezeEntries rest

/-- The values of the rows of a draft. -/
def freezeRows : List Draft → List Toml
  | [] => []
  | row :: rest => freeze row :: freezeRows rest

end

end Draft

end Provisioning.Toml
