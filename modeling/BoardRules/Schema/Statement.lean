import BoardRules.Decimal.Numeral
import BoardRules.Schema.Table

/-!
The statements that create and drop tables, in the dialect of PostgreSQL, and the names that SQLite
has for the types of columns. A script is one transaction.
-/
namespace BoardRules.Schema

def ColumnType.postgres : ColumnType → String
  | .uuid => "UUID"
  | .text => "TEXT"
  | .varchar n => "VARCHAR(" ++ Decimal.natText n ++ ")"
  | .timestamp => "TIMESTAMP WITH TIME ZONE"
  | .json => "JSON"
  | .integer => "INTEGER"
  | .boolean => "BOOLEAN"

def ColumnType.sqlite : ColumnType → String
  | .uuid => "CHAR(32)"
  | .timestamp => "DATETIME"
  | t => t.postgres

def ColumnDefault.sql : ColumnDefault → String
  | .text s => "\x27" ++ s ++ "\x27"
  | .truth => "true"

def OnDelete.sql : OnDelete → String
  | .cascade => "CASCADE"
  | .setNull => "SET NULL"

def Column.sql (c : Column) : String :=
  c.name ++ " " ++ c.type.postgres ++
    (match c.default with
      | some d => " DEFAULT " ++ d.sql
      | none => "") ++
    (if c.nullable then "" else " NOT NULL")

def Reference.sql (r : Reference) : String :=
  "FOREIGN KEY(" ++ r.column ++ ") REFERENCES " ++ r.table ++ " (id) ON DELETE " ++ r.onDelete.sql

def Table.createSql (t : Table) : String :=
  "CREATE TABLE " ++ t.name ++ " ( " ++
    ", ".intercalate
      (t.columns.map Column.sql ++ ["PRIMARY KEY (id)"] ++ t.references.map Reference.sql) ++
    " )"

def Index.createSql (table : String) (i : Index) : String :=
  "CREATE INDEX " ++ i.name ++ " ON " ++ table ++ " (" ++ ", ".intercalate i.columns ++ ")"

def Table.createAll (t : Table) : List String :=
  t.createSql :: t.indexes.map (Index.createSql t.name)

def Table.dropAll (t : Table) : List String :=
  t.indexes.reverse.map (fun i => "DROP INDEX " ++ i.name) ++ ["DROP TABLE " ++ t.name]

def createScript (tables : List Table) : List String := tables.flatMap Table.createAll

def dropScript (tables : List Table) : List String := tables.reverse.flatMap Table.dropAll

def transaction (statements : List String) : List String := ["BEGIN"] ++ statements ++ ["COMMIT"]

end BoardRules.Schema
