import BoardRules.Schema.Affinity

/-!
A database with tables: rows are inserted and deleted by their identifiers, and every reference
leads to a row that is there. A statement that fails changes nothing.

Tables and columns are named in any case. Each row has a number besides, which may be given like a
cell and otherwise is the next one. The lengths of values are not checked.
-/
namespace BoardRules.Schema

abbrev Row := Entries

structure NumberedRow where
  number : Int
  cells : Row

structure Stored where
  table : Table
  rows : List NumberedRow := []

abbrev Database := List Stored

inductive StatementFault where
  | unknownName
  | integrity
  | cell (fault : CellFault)
deriving Repr, DecidableEq

def sameName (a b : String) : Bool := a.toLower == b.toLower

def isRowNumber (name : String) : Bool :=
  sameName name "rowid" || sameName name "oid" || sameName name "_rowid_"

def Column.initial (c : Column) : Json :=
  match c.default with
  | some (.text s) => c.type.stored (.str s)
  | some .truth => .int 1
  | none => .null

/-- The cell of a column in a new row. Of several values for one column the first counts. -/
def Column.cell (c : Column) (given : Entries) : Json :=
  match given.find? fun e => sameName e.1 c.name with
  | some (_, v) => c.type.stored v
  | none => c.initial

def Table.newRow (t : Table) (given : Entries) : Row :=
  t.columns.map fun c => (c.name, c.cell given)

def Table.hasColumn (t : Table) (name : String) : Bool :=
  isRowNumber name || t.columns.any fun c => sameName c.name name

/-- The values given to a statement, or what is wrong with the first wrong one. -/
def givenCells : Entries → Except CellFault Entries
  | [] => .ok []
  | (k, v) :: es => do return (k, ← givenCell v) :: (← givenCells es)

def Stored.lastNumber (s : Stored) : Int := ((s.rows.map NumberedRow.number).max?).getD 0

def Stored.newNumber? (s : Stored) (given : Entries) : Option Int :=
  match given.reverse.find? fun e => isRowNumber e.1 with
  | none | some (_, .null) => some (s.lastNumber + 1)
  | some (_, v) =>
    match ColumnType.integer.stored v with
    | .int n => if s.rows.any (fun r => r.number == n) then none else some n
    | _ => none

namespace Database

def table? (db : Database) (name : String) : Option Stored :=
  db.find? fun s => sameName s.table.name name

def hasRow (db : Database) (table : String) (id : Json) : Bool :=
  match db.table? table with
  | some s => s.rows.any fun r => Entries.getD r.cells "id" = id
  | none => false

def isSound (db : Database) (row : Row) (r : Reference) : Bool :=
  let id := Entries.getD row r.column
  id.isNull || db.hasRow r.table id

def isComplete (t : Table) (row : Row) : Bool :=
  t.columns.all fun c => c.nullable || !(Entries.getD row c.name).isNull

def accepts (db : Database) (t : Table) (row : Row) : Bool :=
  isComplete t row && !db.hasRow t.name (Entries.getD row "id") && t.references.all (db.isSound row)

def add (db : Database) (t : Table) (row : NumberedRow) : Database :=
  db.map fun s => if s.table.name = t.name then { s with rows := s.rows ++ [row] } else s

def insert (db : Database) (table : String) (given : Entries) : Except StatementFault Database := do
  match db.table? table with
  | none => throw .unknownName
  | some s =>
    if given.isEmpty || !given.all (fun e => s.table.hasColumn e.1) then throw .unknownName
    let given ← (givenCells given).mapError .cell
    let cells := s.table.newRow given
    match s.newNumber? given with
    | some number =>
      if db.accepts s.table cells then return db.add s.table ⟨number, cells⟩
      else throw .integrity
    | none => throw .integrity

abbrev Gone := List (String × Json)

def leadsToGone (gone : Gone) (row : Row) (r : Reference) : Bool :=
  let id := Entries.getD row r.column
  !id.isNull && gone.contains (r.table, id)

def follows (gone : Gone) (t : Table) (row : Row) : Bool :=
  t.references.any fun r => r.onDelete == .cascade && leadsToGone gone row r

def detach (gone : Gone) (t : Table) (row : Row) : Row :=
  t.references.foldl
    (fun row r =>
      if r.onDelete = .setNull ∧ leadsToGone gone row r then row.put r.column .null else row) row

/-- Deletes rows from tables and whatever follows them. Tables come after those they refer to, so
one pass is enough. -/
def sweep (gone : Gone) : Database → Database
  | [] => []
  | s :: rest =>
    let leaves (row : NumberedRow) : Bool :=
      gone.contains (s.table.name, Entries.getD row.cells "id") || follows gone s.table row.cells
    let gone := gone ++
      (s.rows.filter leaves).map fun row => (s.table.name, Entries.getD row.cells "id")
    let stay := (s.rows.filter fun row => !leaves row).map fun row =>
      { row with cells := detach gone s.table row.cells }
    { s with rows := stay } :: sweep gone rest

def delete (db : Database) (table : String) (id : Json) : Except StatementFault Database := do
  match db.table? table with
  | none => throw .unknownName
  | some s =>
    let id ← (givenCell id).mapError .cell
    return sweep [(s.table.name, ColumnType.uuid.stored id)] db

def orderKey (row : Row) : String := ((Entries.getD row "id").text?).getD ""

def select (db : Database) (table : String) : Except StatementFault (List Row) :=
  match db.table? table with
  | none => .error .unknownName
  | some s => .ok ((s.rows.map NumberedRow.cells).mergeSort fun a b => orderKey a ≤ orderKey b)

end Database
end BoardRules.Schema
