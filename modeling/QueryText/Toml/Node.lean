/-!
# TOML documents

The tree of a TOML document and the rules by which headers and dotted keys add to it. A table is
defined once. A header may define a table that other headers only implied, and dotted keys may add
only to tables that dotted keys made.
-/

set_option autoImplicit false

namespace QueryText.Toml

inductive TomlError where
  | expected (what : String)
  | invalidValue (text : String)
  | duplicate (key : String)
  | notExtensible (key : String)
  /-- Arrays and inline tables are nested too deeply, or a key has too many parts. -/
  | tooDeep
  deriving DecidableEq

def TomlError.message : TomlError → String
  | .expected what => "expected " ++ what
  | .invalidValue text => "invalid value " ++ text
  | .duplicate key => "duplicate key " ++ key
  | .notExtensible key => "cannot extend " ++ key
  | .tooDeep => "cannot recurse further"

inductive TableOrigin where
  | defined
  | implied
  | dotted
  | inline
  deriving DecidableEq

/-- A value of a document. Numbers and times are checked when they are read, but not kept. -/
inductive Node where
  | text (content : String)
  | boolean (value : Bool)
  | number
  | moment
  /-- An array; `ofTables` if headers in double brackets made it. -/
  | array (ofTables : Bool) (items : List Node)
  | table (origin : TableOrigin) (entries : List (String × Node))

abbrev Entries := List (String × Node)

namespace Entries

def get? (entries : Entries) (key : String) : Option Node :=
  (entries.find? fun entry => entry.1 == key).map Prod.snd

def put (entries : Entries) (key : String) (value : Node) : Entries :=
  match entries with
  | [] => [(key, value)]
  | entry :: rest =>
    if entry.1 == key then (key, value) :: rest else entry :: put rest key value

end Entries

namespace Node

/-!
## Paths
-/

/-- Change the table at the end of a path with `change`, which gets the table's origin. Tables on
the way are made as `made`, and `enters` says which existing tables the path may enter. A path
goes into the last table of an array of tables. -/
def changeAt (made : TableOrigin) (enters : TableOrigin → Bool)
    (change : TableOrigin → Entries → Except TomlError Node) :
    List String → Node → Except TomlError Node
  | [], .table origin entries => change origin entries
  | [], _ => .error (.expected "table")
  | key :: path, .table origin entries => do
    let child ←
      match Entries.get? entries key with
      | none => changeAt made enters change path (.table made [])
      | some (.table childOrigin childEntries) =>
        if enters childOrigin then
          changeAt made enters change path (.table childOrigin childEntries)
        else throw (.duplicate key)
      | some (.array true items) =>
        match items.getLast? with
        | some last => do
          let changed ← changeAt made enters change path last
          pure (.array true (items.dropLast ++ [changed]))
        | none => throw (.notExtensible key)
      | some _ => throw (.notExtensible key)
    return .table origin (Entries.put entries key child)
  | key :: _, _ => .error (.notExtensible key)

def splitLast : List String → Option (List String × String)
  | [] => none
  | [key] => some ([], key)
  | key :: rest => (splitLast rest).map fun (way, last) => (key :: way, last)

/-!
## Headers and keys
-/

def headerEnters (origin : TableOrigin) : Bool :=
  origin != .inline

def defineTable (root : Node) (path : List String) : Except TomlError Node :=
  match splitLast path with
  | none => .error (.expected "key")
  | some (way, key) =>
    changeAt .implied headerEnters (fun origin entries =>
      match Entries.get? entries key with
      | none => .ok (.table origin (Entries.put entries key (.table .defined [])))
      | some (.table .implied children) =>
        .ok (.table origin (Entries.put entries key (.table .defined children)))
      | some _ => .error (.duplicate key)) way root

def defineArrayTable (root : Node) (path : List String) : Except TomlError Node :=
  match splitLast path with
  | none => .error (.expected "key")
  | some (way, key) =>
    changeAt .implied headerEnters (fun origin entries =>
      match Entries.get? entries key with
      | none => .ok (.table origin (Entries.put entries key (.array true [.table .defined []])))
      | some (.array true items) =>
        .ok (.table origin
          (Entries.put entries key (.array true (items ++ [.table .defined []]))))
      | some _ => .error (.duplicate key)) way root

/-- Add a value under a key that may be dotted. Dotted keys enter the tables that `enters` allows,
and the table they end in must have been made by dotted keys too. -/
def addValue (table : Node) (enters : TableOrigin → Bool) (path : List String) (value : Node) :
    Except TomlError Node :=
  match splitLast path with
  | none => .error (.expected "key")
  | some (way, key) =>
    changeAt .dotted enters (fun origin entries =>
      if (origin == .dotted) == way.isEmpty then .error (.duplicate key)
      else
        match Entries.get? entries key with
        | none => .ok (.table origin (Entries.put entries key value))
        | some _ => .error (.duplicate key)) way table

def addToTable (root : Node) (header path : List String) (value : Node) :
    Except TomlError Node :=
  changeAt .implied (fun _ => true) (fun origin entries =>
    addValue (.table origin entries)
      (fun childOrigin => childOrigin == .implied || childOrigin == .dotted) path value) header root

def addInline (table : Node) (path : List String) (value : Node) : Except TomlError Node :=
  table.addValue (fun childOrigin => childOrigin == .dotted) path value

end Node

end QueryText.Toml
