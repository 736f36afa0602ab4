import SchemaAtlas.Schema.Basic
import SchemaAtlas.Text.Lines

/-!
# Entries of the documentation

The documentation of a schema has one entry for each table: a heading, a row for each column and a
note on the foreign keys that the table holds. The web page and the Word document show the same
entries, and say like all documents at which moment they were made.
-/

namespace SchemaAtlas

structure Timestamp where
  year : Nat
  month : Nat
  day : Nat
  hour : Nat
  minute : Nat
  second : Nat
deriving DecidableEq, Repr

namespace Timestamp

def twoDigits (n : Nat) : String := if n < 10 then s!"0{n}" else toString n

def text (t : Timestamp) : String :=
  s!"{t.year}-{twoDigits t.month}-{twoDigits t.day} " ++
    s!"{twoDigits t.hour}:{twoDigits t.minute}:{twoDigits t.second}"

end Timestamp

end SchemaAtlas

namespace SchemaAtlas.Report

open SchemaAtlas.Text

def documentationTitle : String := "Database Schema Documentation"

def columnHeaders : List String := ["Column", "Type", "Nullable", "Primary key"]

structure Row where
  name : String
  type : String
  nullable : Bool
  primaryKey : Bool
deriving DecidableEq, Repr

def yesNo (b : Bool) : String := if b then "Yes" else "No"

def Row.ofColumn (c : Column) : Row :=
  ⟨c.name, c.type, !(c.isNotNull || c.isPrimaryKey), c.isPrimaryKey⟩

structure Entry where
  number : Nat
  table : String
  rows : List Row
  -- one note for each foreign key of the table
  notes : List String
deriving DecidableEq, Repr

def Entry.heading (e : Entry) : String := s!"Table {e.number}: {e.table}"

def foreignKeyNote (k : ForeignKey) : String :=
  s!"{commas k.sourceColumns} → {k.target}.{commas k.targetColumns}"

def notesOn (s : Schema) (table : String) : List String :=
  (s.relationships.filter (·.source == table)).map foreignKeyNote

def entry (s : Schema) (number : Nat) (t : Table) : Entry :=
  ⟨number, t.name, t.columns.map Row.ofColumn, notesOn s t.name⟩

def entries (s : Schema) : List Entry := s.tables.zipIdx.map fun (t, i) => entry s (i + 1) t

end SchemaAtlas.Report
