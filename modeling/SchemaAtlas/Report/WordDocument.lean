import SchemaAtlas.Report.Entry
import SchemaAtlas.Word.Document

/-!
# Documentation as a Word document

One ruled table for each table of the schema, with a heading before it and a note behind it.
-/

namespace SchemaAtlas.Report

open SchemaAtlas.Text SchemaAtlas.Word

def columnWidths : List Nat := [2835, 1701, 1417, 1417]

def noteIndent : Nat := 283

def withBreaks (s : String) : String :=
  String.ofList (s.toList.map fun c => if c = '\r' then '\n' else c)

def plainRuns (text : String) : List Run := [{ text := withBreaks text }]

def headerCells : List Cell :=
  List.zipWith
    (fun header width => ⟨{ centered := true, runs := [{ text := header, bold := true }] }, width, []⟩)
    columnHeaders columnWidths

def rowCells (r : Row) : List Cell :=
  List.zipWith (fun p width => ⟨p, width, []⟩)
    [{ runs := plainRuns r.name }, { runs := plainRuns r.type },
      { centered := true, runs := plainRuns (yesNo r.nullable) },
      { centered := true, runs := plainRuns (yesNo r.primaryKey) }]
    columnWidths

def centered (runs : List Run) : Block := .paragraph { centered := true, runs := runs }

def noteBlocks (e : Entry) : List Block :=
  if e.notes.isEmpty then []
  else
    let text := "Foreign keys: " ++ joinWith "; " e.notes
    [.paragraph {
      indent := some noteIndent
      runs := [{ text := withBreaks text, italic := true, size := some 18 }] }]

def entryBlocks (e : Entry) : List Block :=
  [centered [{ text := withBreaks e.heading, bold := true, size := some 24 }],
    .table (threeLines (headerCells :: e.rows.map rowCells))] ++
  noteBlocks e ++ [.paragraph {}]

def infoRuns (s : Schema) (generatedAt : Timestamp) : List Run :=
  [{ text := s!"Generated: {generatedAt.text}\n", size := some 20 },
    { text := s!"Tables: {s.size}\n", size := some 20 },
    { text := s!"Relationships: {s.relationships.length}", size := some 20 }]

def wordContent (s : Schema) (generatedAt : Timestamp) : Word.Document where
  font := "Arial"
  size := 21
  blocks :=
    [.paragraph { style := .title, centered := true, runs := [{ text := documentationTitle }] },
      centered (infoRuns s generatedAt)] ++
    (entries s).flatMap entryBlocks ++
    [centered [{ text := "Generated automatically by sql-dump-der", size := some 18 }]]

def wordDocument (s : Schema) (generatedAt : Timestamp) : Except Fault Word.Document :=
  (wordContent s generatedAt).checked

end SchemaAtlas.Report
