import SchemaAtlas.Ddl.Declaration

/-!
# From declarations to a schema

Declarations are taken in one after the other. A table without columns counts for nothing. A name
that is declared again keeps its place and takes the later definition, while the foreign keys of the
earlier one stay.
-/

namespace SchemaAtlas

def Column.normal (c : Column) : Column := { c with isNotNull := c.isNotNull && !c.isPrimaryKey }

def TableDefinition.table (d : TableDefinition) : Table where
  name := d.name
  columns := d.columns.map Column.normal
  constraints := d.constraints

namespace Schema

def putTable (t : Table) : List Table → List Table
  | [] => [t]
  | u :: us => if u.name = t.name then t :: us else u :: putTable t us

def declare (s : Schema) : Declaration → Schema
  | .table d =>
    if d.columns.isEmpty then s
    else ⟨putTable d.table s.tables, s.relationships ++ d.foreignKeys⟩
  | .foreignKey k => { s with relationships := s.relationships ++ [k] }

def ofDeclarations (ds : List Declaration) : Schema := ds.foldl declare {}

def ofDump (sql : List Char) : Schema := ofDeclarations (Dump.declarations sql)

def emptyMessage : String := "No CREATE TABLE statements found in the SQL."

@[simp] theorem putTable_nil (t : Table) : putTable t [] = [t] := rfl

theorem names_putTable (t : Table) (ts : List Table) :
    (putTable t ts).map (·.name) =
      if t.name ∈ ts.map (·.name) then ts.map (·.name) else ts.map (·.name) ++ [t.name] := by
  induction ts with
  | nil => simp
  | cons u us ih =>
    by_cases h : u.name = t.name
    · simp [putTable, h]
    · simp only [putTable, h, if_false, List.map_cons, ih, List.mem_cons, Ne.symm h, false_or]
      split <;> simp

theorem ofDeclarations_append (ds es : List Declaration) :
    ofDeclarations (ds ++ es) = es.foldl declare (ofDeclarations ds) := by
  simp [ofDeclarations]

end Schema

end SchemaAtlas
