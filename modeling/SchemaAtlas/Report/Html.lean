import SchemaAtlas.Report.Entry
import SchemaAtlas.Text.Escape

/-!
# Documentation as a web page

Every name and note is escaped, so that it cannot become markup.
-/

namespace SchemaAtlas.Report.Html

open SchemaAtlas.Text SchemaAtlas.Text.Markup

def styleRules : List String :=
  ["        body \x7b font-family: Arial, sans-serif; color: #333; background: #f5f7fa; \x7d",
    "        .document-container \x7b max-width: 960px; margin: 0 auto; background: #fff; padding: 2rem; \x7d",
    "        .document-title \x7b text-align: center; color: #2c3e50; \x7d",
    "        .document-info \x7b text-align: center; color: #7f8c8d; \x7d",
    "        .table-title \x7b text-align: center; color: #2c3e50; \x7d",
    "        .three-line-table \x7b width: 100%; border-collapse: collapse; margin-bottom: 1rem; \x7d",
    "        .three-line-table thead tr \x7b border-top: 2pt solid #000; border-bottom: 1pt solid #000; \x7d",
    "        .three-line-table tbody tr:last-child \x7b border-bottom: 2pt solid #000; \x7d",
    "        .three-line-table th, .three-line-table td \x7b padding: 8px; text-align: left; \x7d",
    "        .pk-yes \x7b color: #e74c3c; font-weight: bold; \x7d",
    "        .nullable-no \x7b color: #e67e22; font-weight: bold; \x7d",
    "        .note \x7b font-size: 9pt; color: #666; font-style: italic; \x7d"]

def styleSheet : String :=
  joinWith "\n" (["", "    <style>"] ++ styleRules ++ ["    </style>", ""])

def rowLine (r : Row) : String :=
  let nullableClass := if r.nullable then "" else " class=\"nullable-no\""
  let keyClass := if r.primaryKey then " class=\"pk-yes\"" else ""
  s!"<tr><td>{escape r.name}</td><td>{r.type}</td>" ++
    s!"<td{nullableClass}>{yesNo r.nullable}</td><td{keyClass}>{yesNo r.primaryKey}</td></tr>"

def noteLines (e : Entry) : List String :=
  if e.notes.isEmpty then []
  else
    let notes := joinWith "; " (e.notes.map escape)
    [s!"<div class=\"note\">Foreign keys: {notes}</div>"]

def headerCells : String := String.join (columnHeaders.map fun h => s!"<th>{h}</th>")

def entryLines (e : Entry) : List String :=
  ["<div class=\"table-section\">",
    s!"<h2 class=\"table-title\">Table {e.number}: {escape e.table}</h2>",
    "<table class=\"three-line-table\">",
    s!"<thead><tr>{headerCells}</tr></thead>",
    "<tbody>"] ++
  e.rows.map rowLine ++
  ["</tbody>", "</table>"] ++ noteLines e ++ ["</div>"]

def pageLines (s : Schema) (generatedAt : Timestamp) : List String :=
  ["<!DOCTYPE html>", "<html>", "<head>", "<meta charset=\"UTF-8\">",
    s!"<title>{documentationTitle}</title>",
    styleSheet,
    "</head>", "<body>", "<div class=\"document-container\">",
    s!"<h1 class=\"document-title\">{documentationTitle}</h1>",
    s!"<p class=\"document-info\">Generated: {generatedAt.text} · " ++
      s!"Tables: {s.size} · Relationships: {s.relationships.length}</p>"] ++
  (entries s).flatMap entryLines ++
  ["</div>", "</body>", "</html>"]

def page (s : Schema) (generatedAt : Timestamp) : String :=
  joinWith "\n" (pageLines s generatedAt)

end SchemaAtlas.Report.Html
