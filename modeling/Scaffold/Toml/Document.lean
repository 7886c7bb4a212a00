import Scaffold.Toml.Scalar

/-!
# TOML documents

## Main Definitions

* `depthLimit` — the number of levels that are too many
* `readValue` — a value of bounded depth
* `Node` — a part of a document while its tables are being filled
* `Node.update` — a change at the end of a path of keys
* `ofText?` — the table of a text

## Design Notes

A table may be opened by a header once. Before that it may come into being by the headers of its parts, and
after that no key with dots goes into it. A table that keys with dots brought into being is opened by
no header. The header of an element of a list of tables adds an element, and later headers go into
the last one.
-/

namespace Scaffold.Toml

open Text Text.Reader

/-- A comment, up to the end of its line. -/
def readComment : Reader Unit := do
  exact "#"
  let _ ← takeWhile isPlainChar

/-- What may stand between the items of a list: spaces, line breaks and comments. -/
def readFiller : Reader Unit := do
  let _ ← many
    (firstOf [(do let _ ← takeWhile1 isSpaceChar), newline, readComment])
    (← remaining)

/-- The end of a line: spaces, a comment, and a line break or the end of the text. -/
def readLineEnd : Reader Unit := do
  space
  let _ ← found readComment
  orElse newline (notBefore (one fun _ => true))

/-- One part of a key. -/
def readSimpleKey : Reader String :=
  firstOf [
    readBasicString,
    readLiteralString,
    String.ofList <$> takeWhile1 fun c => c.isAlphanum || c == '-' || c == '_']

/-- The number of levels that are too many for a key or a value. -/
def depthLimit : Nat := 80

/-- A key: its parts have dots between them. -/
def readKey : Reader (List String) := do
  space
  let first ← readSimpleKey
  let more ← many (do space; exact "."; space; readSimpleKey) (← remaining)
  space
  if depthLimit ≤ (first :: more).length then refuse else return first :: more

/-- A part of a document while its tables are being filled. -/
inductive Node where
  /-- A value, which is complete. -/
  | leaf (value : Toml)
  /-- A table: whether no header has opened it, whether keys with dots brought it into being, and
  its entries. -/
  | table (implicit dotted : Bool) (entries : List (String × Node))
  /-- A list of tables, last one first. -/
  | tables (elements : List (List (String × Node)))
  deriving Repr

mutual

/-- A part of a document as a value. -/
def Node.toToml : Node → Toml
  | .leaf value => value
  | .table _ _ entries => .table (entriesToToml entries)
  | .tables elements => .array (elementsToToml elements).reverse

/-- The entries of a table as fields. -/
def entriesToToml : List (String × Node) → List (String × Toml)
  | [] => []
  | (name, node) :: rest => (name, node.toToml) :: entriesToToml rest

/-- The elements of a list of tables as values. -/
def elementsToToml : List (List (String × Node)) → List Toml
  | [] => []
  | entries :: rest => .table (entriesToToml entries) :: elementsToToml rest

end

/-- Changes the entry of a key, which may not be there yet. -/
def changeEntry (name : String) (change : Option Node → Option Node) :
    List (String × Node) → Option (List (String × Node))
  | [] => do return [(name, ← change none)]
  | (other, node) :: rest =>
    if other = name then do return (other, ← change (some node)) :: rest
    else do return (other, node) :: (← changeEntry name change rest)

/-- A table with what its header or its keys say about it. -/
structure Table where
  /-- Whether no header has opened it. -/
  implicit : Bool := false
  /-- Whether keys with dots brought it into being. -/
  dotted : Bool := false
  /-- Its entries. -/
  entries : List (String × Node) := []

/-- A table as a part of a document. -/
def Table.toNode (table : Table) : Node :=
  .table table.implicit table.dotted table.entries

/-- Changes the table at the end of a path of keys. Tables that are not there come into being; a
dotted path leads into no table that a header opened. -/
def Table.changeAt (dotted : Bool) (change : Table → Option Table) :
    List String → Table → Option Table
  | [], here => change here
  | name :: path, here => do
    let entries ← changeEntry name
      (fun
        | none => do
          return (← changeAt dotted change path { implicit := true, dotted }).toNode
        | some (.leaf _) => none
        | some (.tables elements) =>
          match elements with
          | [] => none
          | last :: earlier => do
            let last ← changeAt dotted change path { entries := last }
            return .tables (last.entries :: earlier)
        | some (.table implicit isDotted entries) =>
          if dotted && !implicit then none
          else do return (← changeAt dotted change path { implicit, dotted := isDotted, entries }).toNode)
      here.entries
    return { here with entries }

/-- Puts a value under a key into a table, which must not have the key. -/
def Table.put (path : List String) (value : Toml) (table : Table) : Option Table :=
  match path.reverse with
  | [] => none
  | name :: above =>
    table.changeAt true
      (fun table =>
        if table.dotted = above.isEmpty then none
        else do
          let entries ← changeEntry name
            (fun
              | none => some (.leaf value)
              | some _ => none)
            table.entries
          return { table with entries })
      above.reverse

/-- Opens a table by a header. -/
def Table.openTable (path : List String) (table : Table) : Option Table :=
  match path.reverse with
  | [] => none
  | name :: above =>
    table.changeAt false
      (fun table => do
        let entries ← changeEntry name
          (fun
            | none => some (.table false false [])
            | some (.table true false entries) => some (.table false false entries)
            | some _ => none)
          table.entries
        return { table with entries })
      above.reverse

/-- Adds an element to a list of tables by a header. -/
def Table.addElement (path : List String) (table : Table) : Option Table :=
  match path.reverse with
  | [] => none
  | name :: above =>
    table.changeAt false
      (fun table => do
        let entries ← changeEntry name
          (fun
            | none => some (.tables [[]])
            | some (.tables elements) => some (.tables ([] :: elements))
            | some _ => none)
          table.entries
        return { table with entries })
      above.reverse

/-- A value that is no list and no table. -/
def readScalar : Reader Toml :=
  firstOf [
    .string <$> readString,
    (do exact "true"; return .boolean true),
    (do exact "false"; return .boolean false),
    .datetime <$> readDatetime,
    .float <$> readFloat,
    .integer <$> readInteger]

/-- A value; lists and tables in braces are nested at most as deeply as `depth`. -/
def readValue : (depth : Nat) → Reader Toml
  | 0 => readScalar
  | depth + 1 =>
    firstOf [
      readScalar,
      (do
        exact "["
        let items ← many (do
          readFiller
          let item ← readValue depth
          readFiller
          orElse (exact ",") (notBefore (notBefore (exact "]")))
          return item) (← remaining)
        readFiller
        exact "]"
        return .array items),
      (do
        exact "\x7b"
        let fields ← orElse
          (do
            space
            exact "\x7d"
            return [])
          (do
            let first ← readField depth
            let more ← many (do exact ","; readField depth) (← remaining)
            exact "\x7d"
            return first :: more)
        match fields.foldlM (fun filled field => Table.put field.1 field.2 filled) ({} : Table) with
        | some filled => return .table (entriesToToml filled.entries)
        | none => absent)]
where
  /-- A key with its value, with spaces around it. -/
  readField (depth : Nat) : Reader (List String × Toml) := do
    let key ← readKey
    exact "="
    space
    let value ← readValue depth
    space
    return (key, value)

/-- The document up to some line: all of it, and the keys of the table that is open. -/
structure Document where
  /-- The table of the whole document. -/
  root : Table := {}
  /-- The keys of the table that the last header opened. -/
  path : List String := []

/-- Changes the table that the last header opened. -/
def Document.put (document : Document) (key : List String) (value : Toml) : Option Document := do
  let root ← document.root.changeAt false (Table.put key value) document.path
  return { document with root }

/-- What a line of a document does to it. -/
def readLine (document : Document) : Reader Document := do
  space
  firstOf [
    (do
      exact "[["
      let path ← readKey
      exact "]]"
      readLineEnd
      match document.root.addElement path with
      | some root => return { root, path }
      | none => refuse),
    (do
      exact "["
      let path ← readKey
      exact "]"
      readLineEnd
      match document.root.openTable path with
      | some root => return { root, path }
      | none => refuse),
    (do
      let key ← readKey
      exact "="
      space
      let value ← readValue (depthLimit - 1)
      readLineEnd
      match document.put key value with
      | some document => return document
      | none => refuse),
    (do
      readLineEnd
      return document)]

/-- The lines of a document; each takes one character at least. -/
def readLines : (fuel : Nat) → Document → Reader Document
  | 0, document => pure document
  | fuel + 1, document => do
    if (← get).isEmpty then pure document else readLines fuel (← readLine document)

/-- The table of a text; none if the text breaks the grammar. -/
def ofText? (text : String) : Option Toml := do
  let cs := match text.toList with
    | '\ufeff' :: rest => rest
    | cs => cs
  let (document, rest) ← (readLines (cs.length + 1) {}).result? cs
  if rest.isEmpty then return .table (entriesToToml document.root.entries) else none

end Scaffold.Toml
