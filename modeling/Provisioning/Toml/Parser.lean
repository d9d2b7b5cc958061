import Provisioning.Toml.Draft
import Provisioning.Toml.Scalar

/-!
# Reading TOML documents

A document is read line by line: a header opens a table, and every other line
with something on it adds a value under a key.
-/

namespace Provisioning.Toml

/-- Keys have fewer parts than this, and arrays and tables within a line nest less
deep. -/
def depthLimit : Nat := 80

/-! ## Keys -/

/-- One part of a key. -/
def keyPart (cs : List Char) : Option (String × List Char) :=
  match lineText cs with
  | some result => some result
  | none =>
    match cs.span isBareKeyChar with
    | ([], _) => none
    | (part, rest) => some (String.ofList part, rest)

/-- The parts of a dotted key, no more than the given number of them; those before
the next one are given in reverse. -/
def keyFrom : Nat → List String → Reader (List String)
  | 0, _, _ => none
  | parts + 1, before, cs =>
    match keyPart (skipInlineSpace cs) with
    | none => none
    | some (part, rest) =>
      match skipInlineSpace rest with
      | '.' :: rest => keyFrom parts (part :: before) rest
      | rest => some ((part :: before).reverse, rest)

/-- A dotted key, as the path before its last part and that part. -/
def key (cs : List Char) : Option ((List String × String) × List Char) :=
  match keyFrom (depthLimit - 1) [] cs with
  | none => none
  | some (parts, rest) => parts.getLast?.map fun last => ((parts.dropLast, last), rest)

/-! ## Values -/

/-- A comment at the front, up to the end of its line. -/
def skipComment (cs : List Char) : List Char :=
  match cs with
  | '#' :: rest => rest.dropWhile isPlain
  | _ => cs

/-- The characters without the spaces, line breaks and comments at the front;
`comment` says whether the front is part of a comment. -/
def skipTrivia (comment : Bool) : List Char → List Char
  | '\r' :: '\n' :: rest => skipTrivia false rest
  | '\n' :: rest => skipTrivia false rest
  | c :: rest =>
    if comment then if isPlain c then skipTrivia true rest else c :: rest
    else if c = '#' then skipTrivia true rest
    else if isInlineSpace c then skipTrivia false rest
    else c :: rest
  | [] => []

mutual

/-- A value; `depth` counts the arrays and tables that it stands in.  Every bracket
takes two steps and needs a partner, and every comma takes one, so the length of the
text bounds the number of steps. -/
def value (depth : Nat) : Nat → Reader Toml
  | 0, _ => none
  | fuel + 1, cs =>
    match cs with
    | '[' :: rest =>
      if depthLimit ≤ depth + 1 then none
      else
        match skipTrivia false rest with
        | ']' :: rest => some (arr [], rest)
        | rest => items (depth + 1) fuel [] rest
    | '{' :: rest =>
      if depthLimit ≤ depth + 1 then none
      else
        match skipInlineSpace rest with
        | '}' :: rest => some (table [], rest)
        | rest => inlineEntries (depth + 1) fuel [] rest
    | 't' :: 'r' :: 'u' :: 'e' :: rest => some (bool true, rest)
    | 'f' :: 'a' :: 'l' :: 's' :: 'e' :: rest => some (bool false, rest)
    | c :: _ =>
      if c = '"' ∨ c = '\x27' then (text cs).map fun (s, rest) => (str s, rest)
      else numberOrDate cs
    | [] => none

/-- The items of an array from the next one on, which nothing but its own text
stands before; those before it are given in reverse. -/
def items (depth : Nat) : Nat → List Toml → Reader Toml
  | 0, _, _ => none
  | fuel + 1, before, cs =>
    match value depth fuel cs with
    | none => none
    | some (item, rest) =>
      match skipTrivia false rest with
      | ',' :: rest =>
        match skipTrivia false rest with
        | ']' :: rest => some (arr (item :: before).reverse, rest)
        | rest => items depth fuel (item :: before) rest
      | ']' :: rest => some (arr (item :: before).reverse, rest)
      | _ => none

/-- The entries of a table within a line from the next one on. -/
def inlineEntries (depth : Nat) : Nat → List (String × Draft) → Reader Toml
  | 0, _, _ => none
  | fuel + 1, before, cs =>
    match key cs with
    | some ((path, last), '=' :: rest) =>
      match value depth fuel (skipInlineSpace rest) with
      | none => none
      | some (entry, rest) =>
        match Draft.insert path last entry before with
        | none => none
        | some entries =>
          match skipInlineSpace rest with
          | ',' :: rest => inlineEntries depth fuel entries rest
          | '}' :: rest => some (table (Draft.freezeEntries entries), rest)
          | _ => none
    | _ => none

end

/-! ## Lines -/

/-- Where the values of the lines to come go. -/
inductive Section where
  | root
  | table (parent : List String) (key : String)
  | row (parent : List String) (key : String)

/-- A document that has been read up to some line: the tables that are closed,
and the open one with its section. -/
structure DocumentDraft where
  root : List (String × Draft) := []
  current : List (String × Draft) := []
  place : Section := .root

namespace DocumentDraft

/-- The document with its open table closed. -/
def close (draft : DocumentDraft) : Option (List (String × Draft)) :=
  match draft.place with
  | .root => some draft.current
  | .table parent key => Draft.closeTable parent key draft.current draft.root
  | .row parent key => Draft.closeRow parent key draft.current draft.root

/-- The header of a table. -/
def startTable (draft : DocumentDraft) (parent : List String) (key : String) :
    Option DocumentDraft := do
  let root ← draft.close
  let (current, root) ← Draft.openTable parent key root
  return ⟨root, current, .table parent key⟩

/-- The header of a row of an array of tables. -/
def startRow (draft : DocumentDraft) (parent : List String) (key : String) :
    Option DocumentDraft := do
  let root ← draft.close
  let root ← Draft.openRow parent key root
  return ⟨root, [], .row parent key⟩

/-- A value under a key. -/
def insert (draft : DocumentDraft) (path : List String) (key : String) (entry : Toml) :
    Option DocumentDraft :=
  (Draft.insert path key entry draft.current).map fun current => { draft with current := current }

end DocumentDraft

/-- What follows the end of a line, with nothing but a comment before it. -/
def lineEnd (cs : List Char) : Option (List Char) :=
  match skipComment (skipInlineSpace cs) with
  | [] => some []
  | rest => afterNewline? rest

/-- One line with a header or a value on it; `fuel` is no less than the length of
the text. -/
def line (fuel : Nat) (draft : DocumentDraft) (cs : List Char) :
    Option (DocumentDraft × List Char) :=
  match cs with
  | '[' :: '[' :: rest =>
    match key rest with
    | some ((parent, last), ']' :: ']' :: rest) =>
      (draft.startRow parent last).bind fun draft => (lineEnd rest).map fun rest => (draft, rest)
    | _ => none
  | '[' :: rest =>
    match key rest with
    | some ((parent, last), ']' :: rest) =>
      (draft.startTable parent last).bind fun draft => (lineEnd rest).map fun rest => (draft, rest)
    | _ => none
  | _ =>
    match key cs with
    | some ((path, last), '=' :: rest) =>
      match value 0 fuel.succ (skipInlineSpace rest) with
      | none => none
      | some (entry, rest) =>
        (draft.insert path last entry).bind fun draft => (lineEnd rest).map fun rest => (draft, rest)
    | _ => none

/-- The lines of a document.  Each uses up a character, so the length of the text
bounds their number. -/
def lines : Nat → DocumentDraft → List Char → Option DocumentDraft
  | 0, _, _ => none
  | fuel + 1, draft, cs =>
    match skipInlineSpace cs with
    | [] => some draft
    | '#' :: rest =>
      match lineEnd ('#' :: rest) with
      | some rest => lines fuel draft rest
      | none => none
    | cs =>
      match afterNewline? cs with
      | some rest => lines fuel draft rest
      | none =>
        match line fuel draft cs with
        | some (draft, rest) => lines fuel draft rest
        | none => none

/-- The characters without a byte order mark at the front. -/
def dropByteOrderMark : List Char → List Char
  | '\ufeff' :: rest => rest
  | cs => cs

/-- The table of a document. -/
def parse? (document : String) : Option Toml :=
  let cs := dropByteOrderMark document.toList
  (lines cs.length.succ {} cs).bind fun draft =>
    draft.close.map fun root => table (Draft.freezeEntries root)

end Provisioning.Toml
