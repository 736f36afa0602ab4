import SchemaAtlas.Schema.Basic
import SchemaAtlas.Text.Lines

/-!
# Short descriptions

One line on a schema and on each of its parts, for people who look at one.
-/

namespace SchemaAtlas

open SchemaAtlas.Text

def Column.describe (c : Column) : String :=
  let mark := if c.isPrimaryKey then " [PK]" else ""
  s!"Column(name={c.name}{mark}, type={c.type})"

def Constraint.describe (c : Constraint) : String := s!"Constraint({c.kind} {commas c.columns})"

def Table.describe (t : Table) : String := s!"Table(name={t.name}, columns={t.columns.length})"

def ForeignKey.describe (k : ForeignKey) : String :=
  let source := joinWith "," k.sourceColumns
  let target := joinWith "," k.targetColumns
  s!"Relationship({k.source}.{source} -> {k.target}.{target})"

def Table.descriptions (t : Table) : List String :=
  t.describe :: t.columns.map Column.describe ++ t.constraints.map Constraint.describe

def Schema.descriptions (s : Schema) : List String :=
  s!"Schema(tables={s.size}, relationships={s.relationships.length})" ::
    s.tables.flatMap Table.descriptions ++ s.relationships.map ForeignKey.describe

end SchemaAtlas
