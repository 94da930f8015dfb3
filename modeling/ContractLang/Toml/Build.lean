import ContractLang.Toml.Value

namespace ContractLang.Toml

namespace Table

/-- Changes the table at a path and makes the tables that are missing on the way. With
    `throughArrays`, an array on the way stands for its last item. -/
def update? (throughArrays : Bool) (change : Table → Option Table) :
    List String → Table → Option Table
  | [], t => change t
  | key :: path, t =>
    match t.get? key with
    | none => do
      let inner ← update? throughArrays change path []
      return t.set key (.table inner)
    | some (.table inner) => do
      let inner ← update? throughArrays change path inner
      return t.set key (.table inner)
    | some (.array items) =>
      match throughArrays, items.getLast? with
      | true, some (.table inner) => do
        let inner ← update? throughArrays change path inner
        return t.set key (.array (items.dropLast ++ [.table inner]))
      | _, _ => none
    | some _ => none

/-- Adds a key that the table does not hold yet. -/
def add? (key : String) (value : Value) (t : Table) : Option Table :=
  match t.get? key with
  | some _ => none
  | none => some (t.set key value)

def addItem? (key : String) (t : Table) : Option Table :=
  match t.get? key with
  | none => some (t.set key (.array [.table []]))
  | some (.array items) => some (t.set key (.array (items ++ [.table []])))
  | some _ => none

end Table

/-- Arrays and inline tables are complete as they are written. -/
def Value.isClosed : Value → Bool
  | .array _ | .table _ => true
  | _ => false

def isWithin (closed : List (List String)) (key : List String) : Bool :=
  closed.any (·.isPrefixOf key)

/-- An inline table under construction: its table, and the paths of complete values. -/
structure InlineTable where
  table : Table
  closed : List (List String)

namespace InlineTable

def empty : InlineTable := ⟨[], []⟩

/-- Nothing is added to a value that is complete. -/
def add? (t : InlineTable) (key : List String) (value : Value) : Option InlineTable := do
  let last ← key.getLast?
  if isWithin t.closed key then none
  else
    let table ← t.table.update? false (Table.add? last value) key.dropLast
    return ⟨table, if value.isClosed then key :: t.closed else t.closed⟩

end InlineTable

/-- A document under construction: its table, the header in force, the paths that a header has
    opened and none may open again, the paths of complete values, and the paths that dotted keys
    have opened since the last header. -/
structure Document where
  table : Table
  header : List String
  opened : List (List String)
  closed : List (List String)
  dotted : List (List String)

namespace Document

def empty : Document := ⟨[], [], [], [], []⟩

/-- The paths of the tables that a dotted key passes through below the header. -/
def tablesOfKey (header key : List String) : List (List String) :=
  (List.range (key.length - 1)).map fun i => header ++ key.take (i + 1)

def addPair? (d : Document) (key : List String) (value : Value) : Option Document := do
  let last ← key.getLast?
  let passed := tablesOfKey d.header key
  let parent := d.header ++ key.dropLast
  if passed.any (d.opened.contains ·) || isWithin d.closed parent then none
  else
    let table ← d.table.update? true (Table.add? last value) parent
    let closed := if value.isClosed then (d.header ++ key) :: d.closed else d.closed
    return { d with table, closed, dotted := passed ++ d.dotted }

def openTable? (d : Document) (key : List String) : Option Document := do
  let opened := d.dotted ++ d.opened
  if opened.contains key || isWithin d.closed key then none
  else
    let table ← d.table.update? true some key
    return { d with table, header := key, opened := key :: opened, dotted := [] }

/-- A new item of an array of tables: what was opened or complete in the item before it no
    longer counts. -/
def openItem? (d : Document) (key : List String) : Option Document := do
  let last ← key.getLast?
  if isWithin d.closed key then none
  else
    let stays (path : List String) : Bool := !key.isPrefixOf path
    let opened := key :: (d.dotted ++ d.opened).filter stays
    let table ← d.table.update? true (Table.addItem? last) key.dropLast
    return { d with table, header := key, opened, closed := d.closed.filter stays, dotted := [] }

def add? (d : Document) : Statement → Option Document
  | .pair key value => d.addPair? key value
  | .table key => d.openTable? key
  | .tableArray key => d.openItem? key

end Document

end ContractLang.Toml
