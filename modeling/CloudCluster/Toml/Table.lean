import CloudCluster.Toml.Value

/-!
Building a document from its lines.

A table is opened once: by a header, or by the dotted keys of the entries of
one table. A header also opens the tables above it that are not there yet;
these may have a header of their own later. A header in double brackets adds a
table to an array, and the last table of an array is the one that later lines
speak of. Values, inline tables among them, are closed.
-/

namespace CloudCluster.Toml

/-- What has opened a table: its own header, a header below it, or a dotted
key. -/
inductive Origin where
  | header
  | implied
  | dotted
  deriving DecidableEq, Repr

/-- A part of a document that is being built. -/
inductive Item where
  | value (value : Value)
  | table (origin : Origin) (entries : List (String × Item))
  | tables (items : List (List (String × Item)))

/-- The entries of a table that is being built. -/
abbrev Entries := List (String × Item)

namespace Entries

/-- Puts an item under a key, in its place if there is one, else at the end. -/
def insert (key : String) (item : Item) : Entries → Entries
  | [] => [(key, item)]
  | (k, i) :: rest => if k = key then (key, item) :: rest else (k, i) :: insert key item rest

/-- Changes the last table of an array. -/
def changeLast (edit : Entries → Except Error Entries) :
    List Entries → Except Error (List Entries)
  | [] => .ok []
  | [last] => return [← edit last]
  | first :: rest => return first :: (← changeLast edit rest)

/-- Whether a dotted key that leaves a single name may end in a table. -/
def mayEndIn (origin : Origin) (rest : List String) : Bool :=
  origin = .dotted || 1 < rest.length

/-- Puts a value under a dotted key. -/
def assign (value : Value) : List String → Entries → Except Error Entries
  | [], _ => .error (.expected "a key")
  | [key], entries =>
    match entries.lookup key with
    | none => .ok (entries ++ [(key, .value value)])
    | some _ => .error (.duplicateKey key)
  | key :: rest, entries =>
    match entries.lookup key with
    | none => return entries ++ [(key, .table .dotted (← assign value rest []))]
    | some (.table .header _) => .error (.duplicateKey key)
    | some (.table origin inner) =>
      if mayEndIn origin rest then
        return insert key (.table origin (← assign value rest inner)) entries
      else .error (.duplicateKey key)
    | some (.tables items) =>
      if mayEndIn .header rest then
        return insert key (.tables (← changeLast (assign value rest) items)) entries
      else .error (.duplicateKey key)
    | some (.value _) => .error (.notTable key)

/-- Changes the table that a path leads to, and opens what is not there. -/
def within (edit : Entries → Except Error Entries) :
    List String → Entries → Except Error Entries
  | [], entries => edit entries
  | key :: rest, entries =>
    match entries.lookup key with
    | none => return entries ++ [(key, .table .implied (← within edit rest []))]
    | some (.table origin inner) =>
      return insert key (.table origin (← within edit rest inner)) entries
    | some (.tables items) =>
      return insert key (.tables (← changeLast (within edit rest) items)) entries
    | some (.value _) => .error (.notTable key)

/-- Opens a table for its header. -/
def openTable (key : String) (entries : Entries) : Except Error Entries :=
  match entries.lookup key with
  | none => .ok (entries ++ [(key, .table .header [])])
  | some (.table .implied inner) => .ok (insert key (.table .header inner) entries)
  | some _ => .error (.duplicateKey key)

/-- Adds a table to an array of tables. -/
def addTable (key : String) (entries : Entries) : Except Error Entries :=
  match entries.lookup key with
  | none => .ok (entries ++ [(key, .tables [[]])])
  | some (.tables items) => .ok (insert key (.tables (items ++ [[]])) entries)
  | some _ => .error (.duplicateKey key)

end Entries

mutual

/-- The value that an item has become. -/
def Item.finish : Item → Value
  | .value v => v
  | .table _ entries => .table (Item.finishEntries entries)
  | .tables items => .array (Item.finishTables items)

/-- The fields that entries have become. -/
def Item.finishEntries : List (String × Item) → Fields
  | [] => []
  | (key, item) :: rest => (key, item.finish) :: Item.finishEntries rest

/-- The tables that an array has become. -/
def Item.finishTables : List (List (String × Item)) → List Value
  | [] => []
  | entries :: rest => .table (Item.finishEntries entries) :: Item.finishTables rest

end

/-- A line of a document. -/
inductive Line where
  | header (path : List String) (key : String)
  | arrayHeader (path : List String) (key : String)
  | entry (path : List String) (value : Value)

/-- A document that is being built, with the path of the table that entries go
to. -/
structure Draft where
  entries : Entries := []
  path : List String := []

namespace Draft

/-- Takes the next line. -/
def add (draft : Draft) : Line → Except Error Draft
  | .header path key => return {
      entries := ← draft.entries.within (Entries.openTable key) path
      path := path ++ [key] }
  | .arrayHeader path key => return {
      entries := ← draft.entries.within (Entries.addTable key) path
      path := path ++ [key] }
  | .entry path value => return { draft with
      entries := ← draft.entries.within (Entries.assign value path) draft.path }

/-- The document that lines make up. -/
def ofLines (lines : List Line) : Except Error Fields := do
  return Item.finishEntries (← lines.foldlM add {}).entries

end Draft

/-- The inline table that entries make up. -/
def tableOf (entries : List (List String × Value)) : Except Error Value := do
  let built ← entries.foldlM (fun built (path, value) => Entries.assign value path built) []
  return .table (Item.finishEntries built)

end CloudCluster.Toml
