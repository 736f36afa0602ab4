import SchemaAtlas.Ddl.Extract
import SchemaAtlas.Json.Value
import SchemaAtlas.Report.Markdown
import SchemaAtlas.Schema.Basic
import SchemaAtlas.Text.Marked

/-!
# Schemas as JSON

What a schema, documents and extracted statements look like as JSON values.
-/

namespace SchemaAtlas

open SchemaAtlas.Json

def Column.json (c : Column) : Value :=
  .ofMembers [("name", .text c.name), ("type", .text c.type),
    ("isPrimaryKey", .bool c.isPrimaryKey), ("isNotNull", .bool c.isNotNull)]

def Constraint.json (c : Constraint) : Value :=
  .ofMembers [("type", .text c.kind), ("columns", Value.texts c.columns)]

def ForeignKey.json (k : ForeignKey) : Value :=
  .ofMembers [("from", .text k.source), ("fromColumns", Value.texts k.sourceColumns),
    ("to", .text k.target), ("toColumns", Value.texts k.targetColumns)]

def Table.json (t : Table) : Value :=
  .ofMembers [("name", .text t.name), ("columns", .array (t.columns.map Column.json)),
    ("constraints", .array (t.constraints.map Constraint.json))]

def Schema.json (s : Schema) : Value :=
  .ofMembers [("tables", .array (s.tables.map Table.json)),
    ("relationships", .array (s.relationships.map ForeignKey.json))]

def Report.Document.json (d : Report.Document) : Value :=
  .ofMembers [("filename", .string (Text.unmarked d.filename.toList)),
    ("content", .string (Text.unmarked d.content.toList))]

def Extract.json (sections : List Extract.Section) : Value :=
  .ofMembers (sections.map fun s =>
    (s.label, .array (s.statements.map fun t => .string (Text.unmarked t.toList))))

end SchemaAtlas
