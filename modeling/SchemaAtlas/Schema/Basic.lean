/-!
# Schemas

Tables with their columns and constraints, and the foreign keys between them. A schema keeps its
tables and its foreign keys in the order in which they were declared; names may be any text, and a
foreign key may speak of tables that the schema does not have.
-/

namespace SchemaAtlas

structure Column where
  name : String
  -- the label of the category of the column's type
  type : String
  isPrimaryKey : Bool := false
  isNotNull : Bool := false
deriving DecidableEq, Repr

structure Constraint where
  -- what the constraint demands, such as `UNIQUE` or `CHECK`
  kind : String
  columns : List String
deriving DecidableEq, Repr

structure ForeignKey where
  source : String
  sourceColumns : List String
  target : String
  targetColumns : List String
deriving DecidableEq, Repr, Hashable

structure Table where
  name : String
  columns : List Column
  constraints : List Constraint
deriving DecidableEq, Repr

structure Schema where
  tables : List Table := []
  relationships : List ForeignKey := []
deriving DecidableEq, Repr

def Column.marks (c : Column) : List String :=
  (if c.isPrimaryKey then ["PK"] else []) ++ (if c.isNotNull then ["NOT NULL"] else [])

def Table.column? (t : Table) (name : String) : Option Column :=
  t.columns.find? (·.name == name)

def Table.primaryKeys (t : Table) : List String :=
  (t.columns.filter (·.isPrimaryKey)).map (·.name)

namespace Schema

def names (s : Schema) : List String := s.tables.map (·.name)

def table? (s : Schema) (name : String) : Option Table := s.tables.find? (·.name == name)

def size (s : Schema) : Nat := s.tables.length

def hasTable (s : Schema) (name : String) : Bool := s.names.contains name

def drawable (s : Schema) : List ForeignKey :=
  s.relationships.filter fun k => s.hasTable k.source && s.hasTable k.target

def drawableWithin (s : Schema) (names : List String) : List ForeignKey :=
  s.drawable.filter fun k => names.contains k.source && names.contains k.target

def relationship? (s : Schema) (i : Int) : Option ForeignKey :=
  let i := if i < 0 then i + s.relationships.length else i
  if i < 0 then none else s.relationships[i.toNat]?

@[simp] theorem names_mk (ts : List Table) (ks : List ForeignKey) :
    (Schema.mk ts ks).names = ts.map (·.name) := rfl

theorem hasTable_iff {s : Schema} {name : String} : s.hasTable name = true ↔ name ∈ s.names := by
  simp [hasTable]

theorem mem_drawable {s : Schema} {k : ForeignKey} :
    k ∈ s.drawable ↔ k ∈ s.relationships ∧ k.source ∈ s.names ∧ k.target ∈ s.names := by
  simp [drawable, hasTable_iff]

theorem mem_drawableWithin {s : Schema} {names : List String} {k : ForeignKey} :
    k ∈ s.drawableWithin names ↔ k ∈ s.drawable ∧ k.source ∈ names ∧ k.target ∈ names := by
  simp [drawableWithin]

end Schema

end SchemaAtlas
