import SchemaAtlas.Fault
import SchemaAtlas.Log
import SchemaAtlas.Report.Markdown

/-!
# Partitioned documents

A schema with many tables is spread over several documents, with a fixed number of tables in each,
followed by an index of them. A partition draws and lists the foreign keys between its own tables;
the index lists all of them.
-/

namespace SchemaAtlas.Report

open SchemaAtlas.Text

structure Limits where
  threshold : Int := 100
  size : Int := 50
deriving DecidableEq, Repr

/-- The number of partitions: the quotient of the counts rounded up. The quotient is taken as a
double, so one of at most half the least positive double counts as zero. -/
def partitionCount (total : Nat) (size : Int) : Int :=
  if (total * Nat.pow 2 1075 : Nat) ≤ size then 0 else -Int.fdiv (-total) size

structure Partition where
  number : Nat
  -- the number of tables in the partitions before
  before : Nat
  tables : List Table
deriving DecidableEq, Repr

namespace Partition

def names (p : Partition) : List String := p.tables.map (·.name)

def last (p : Partition) : Nat := p.before + p.tables.length

def range (p : Partition) : String := s!"{p.before + 1} - {p.last}"

end Partition

def partitions (tables : List Table) (size : Int) : List Partition :=
  (List.range (partitionCount tables.length size).toNat).map fun i =>
    let before := i * size.toNat
    ⟨i + 1, before, (tables.drop before).take size.toNat⟩

def partitionFilename (baseName : String) (number : Nat) : String :=
  s!"{baseName}_part_{number}.md"

def indexFilename (baseName : String) : String := s!"{baseName}_index.md"

def navigation (baseName : String) (total : Int) (number : Nat) : List String :=
  ["## Navigation", ""] ++
  (if 1 < number then
    [s!"⬅️ [Previous partition ({number - 1})]({partitionFilename baseName (number - 1)})  "]
  else []) ++
  [s!"🏠 [Main index]({indexFilename baseName})  "] ++
  (if (number : Int) < total then
    [s!"➡️ [Next partition ({number + 1})]({partitionFilename baseName (number + 1)})  "]
  else []) ++
  [""]

def partitionLines (s : Schema) (i : Imprint) (total : Int) (p : Partition) : List String :=
  [s!"# DER - Partition {p.number} of {total}", "",
    fact "Tables" s!"{p.range} ({p.tables.length} tables)",
    fact "File" (partitionFilename i.baseName p.number),
    fact "Generated" i.generatedAt.text, ""] ++
  navigation i.baseName total p.number ++
  ["## Diagram", ""] ++
  fenced (Mermaid.diagramOf s p.tables) ++
  ["## Tables in this partition", ""] ++ p.tables.flatMap tableListing ++
  relationshipSection "## Relationships in this partition" (s.drawableWithin p.names) ++
  footer s!"*Partition {p.number} of {total} - generated automatically by sql-dump-der*"

def partitionDocument (s : Schema) (i : Imprint) (total : Int) (p : Partition) : Document :=
  ⟨partitionFilename i.baseName p.number, unlines (partitionLines s i total p)⟩

def firstNames (names : List String) : String :=
  commas (names.take 3) ++ if 3 < names.length then "..." else ""

def indexEntry (s : Schema) (i : Imprint) (p : Partition) : List String :=
  [s!"### [Partition {p.number}]({partitionFilename i.baseName p.number})",
    s!"- **Tables:** {p.range}",
    s!"- **Count:** {p.tables.length} tables",
    s!"- **Relationships:** {(s.drawableWithin p.names).length} internal relationships",
    s!"- **First tables:** {firstNames p.names}", ""]

def indexLines (s : Schema) (i : Imprint) (total : Int) (ps : List Partition) : List String :=
  ["# DER Index - Database Diagrams", "",
    fact "Generated" i.generatedAt.text,
    fact "Source file" i.sourceName,
    fact "Total tables" (toString s.size),
    fact "Total relationships" (toString s.relationships.length),
    fact "Partitions" (toString total), "",
    "## Partitions", ""] ++
  ps.flatMap (indexEntry s i) ++
  ["## Full summary", "", "### All relationships", ""] ++
  (if s.relationships.isEmpty then [] else relationshipListing s.relationships) ++
  footer "*Index generated automatically by sql-dump-der*"

def partitionedDocuments (s : Schema) (i : Imprint) (size : Int) : List Document :=
  let total := partitionCount s.size size
  let ps := partitions s.tables size
  ps.map (partitionDocument s i total) ++
    [⟨indexFilename i.baseName, unlines (indexLines s i total ps)⟩]

def documents (s : Schema) (i : Imprint) (l : Limits) : Except Fault (List Document) :=
  if (s.size : Int) ≤ l.threshold then .ok [schemaDocument s i]
  else if l.size = 0 then .error .zeroPartitionSize
  else .ok (partitionedDocuments s i l.size)

def records (s : Schema) (i : Imprint) (l : Limits) : List Log.Record :=
  if (s.size : Int) ≤ l.threshold then []
  else
    let total := partitionCount s.size l.size
    ⟨.info, .reports, s!"Large schema ({s.size} tables), rendering partitions of {l.size}"⟩ ::
      (partitions s.tables l.size).map fun p =>
        ⟨.debug, .reports,
          s!"Rendered partition {p.number}/{total}: {partitionFilename i.baseName p.number}"⟩

end SchemaAtlas.Report
