import SchemaAtlas.Diagram.Mermaid
import SchemaAtlas.Report.Entry

/-!
# Markdown documents

A schema as Markdown: a header, the diagram, a listing of the tables and one of the foreign keys.
This module holds the parts that all documents share and the document of a whole schema.
-/

namespace SchemaAtlas.Report

open SchemaAtlas.Text

structure Document where
  filename : String
  content : String
deriving DecidableEq, Repr

structure Imprint where
  baseName : String := "database_der"
  sourceName : String := "-"
  generatedAt : Timestamp
deriving DecidableEq, Repr

def fact (label value : String) : String := s!"**{label}:** {value}  "

def fenced (d : Mermaid.Diagram) : List String :=
  "```mermaid" :: Mermaid.lines d ++ ["```", ""]

def columnRow (c : Column) : String := s!"| {c.name} | {c.type} | {commas c.marks} |"

def tableListing (t : Table) : List String :=
  [s!"### {t.name}", "", "| Column | Type | Characteristics |",
    "|--------|------|-----------------|"] ++ t.columns.map columnRow ++ [""]

def relationshipRow (k : ForeignKey) : String :=
  s!"| {k.source} | {commas k.sourceColumns} | {k.target} | {commas k.targetColumns} |"

def relationshipListing (ks : List ForeignKey) : List String :=
  ["| Source table | Column(s) | Target table | Column(s) |",
    "|--------------|-----------|--------------|-----------|"] ++ ks.map relationshipRow ++ [""]

def relationshipSection (heading : String) (ks : List ForeignKey) : List String :=
  if ks.isEmpty then [] else [heading, ""] ++ relationshipListing ks

def footer (line : String) : List String := ["---", "", line]

def schemaLines (s : Schema) (i : Imprint) : List String :=
  ["# Entity-Relationship Diagram (DER)", "",
    fact "Generated" i.generatedAt.text,
    fact "Source file" i.sourceName,
    fact "Tables found" (toString s.size),
    fact "Relationships found" (toString s.relationships.length), "",
    "## Diagram", ""] ++
  fenced (Mermaid.diagram s) ++
  ["## Tables", ""] ++ s.tables.flatMap tableListing ++
  relationshipSection "## Relationships" s.relationships ++
  footer "*Generated automatically by sql-dump-der*"

def schemaDocument (s : Schema) (i : Imprint) : Document :=
  ⟨i.baseName ++ ".md", unlines (schemaLines s i)⟩

end SchemaAtlas.Report
