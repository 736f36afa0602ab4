import SchemaAtlas.Proofs.Report.Texts
import SchemaAtlas.Proofs.Text.Markup
import SchemaAtlas.Report.Html

/-! The tags of a page with the texts before them, whatever the tables and their columns are called. -/

namespace SchemaAtlas.Report.Html

open SchemaAtlas.Text SchemaAtlas.Text.Markup

def cellTags (r : Row) : List Tag :=
  [⟨"\n", "tr"⟩, ⟨"", "td"⟩, ⟨r.name, "/td"⟩, ⟨"", "td"⟩, ⟨r.type, "/td"⟩,
    ⟨"", if r.nullable then "td" else "td class=\"nullable-no\""⟩, ⟨yesNo r.nullable, "/td"⟩,
    ⟨"", if r.primaryKey then "td class=\"pk-yes\"" else "td"⟩, ⟨yesNo r.primaryKey, "/td"⟩]

def rowTags (r : Row) : List Tag := cellTags r ++ [⟨"", "/tr"⟩]

def noteTags (e : Entry) : List Tag :=
  if e.notes = [] then [] else [⟨"\n", "div class=\"note\""⟩, ⟨e.noteLine, "/div"⟩]

def headTags (e : Entry) : List Tag :=
  [⟨"\n", "h2 class=\"table-title\""⟩, ⟨e.heading, "/h2"⟩, ⟨"\n", "table class=\"three-line-table\""⟩,
    ⟨"\n", "thead"⟩, ⟨"", "tr"⟩] ++ columnHeaders.flatMap (fun header => [⟨"", "th"⟩, ⟨header, "/th"⟩]) ++
  [⟨"", "/tr"⟩, ⟨"", "/thead"⟩]

def sectionTag : Tag := ⟨"\n", "div class=\"table-section\""⟩

def bodyTag : Tag := ⟨"\n", "tbody"⟩

def bodyTags (e : Entry) : List Tag :=
  [bodyTag] ++ e.rows.flatMap rowTags ++ [⟨"\n", "/tbody"⟩, ⟨"\n", "/table"⟩] ++ noteTags e ++ [⟨"\n", "/div"⟩]

def chapterTags (e : Entry) : List Tag := headTags e ++ bodyTags e

def entryTags (e : Entry) : List Tag := sectionTag :: chapterTags e

def linesChars (lines : List String) : List Char := lines.flatMap fun line => '\n' :: line.toList

lemma linesChars_append (lines others : List String) :
    linesChars (lines ++ others) = linesChars lines ++ linesChars others :=
  List.flatMap_append

lemma chars_rowTags {r : Row} (h : escape r.type = r.type) :
    '\n' :: (rowLine r).toList = (rowTags r).flatMap Tag.chars := by
  have htype : r.type.toList.flatMap Markup.escapeChar = r.type.toList := by rw [← toList_escape, h]
  cases hn : r.nullable <;> cases hk : r.primaryKey <;>
    simp [rowLine, rowTags, cellTags, Tag.chars, htype, hn, hk, yesNo, Markup.escapeChar, toString_text]

lemma escapeChar_of_isNameChar {c : Char} (h : Name.isNameChar c = true) : Markup.escapeChar c = [c] := by
  fun_cases Markup.escapeChar c with
  | case6 => rfl
  | _ => exact absurd h (by decide)

lemma bare_of_within {marks : List Char} (hmarks : Bare marks) {text : String} (h : Name.Within marks text) :
    Bare text.toList :=
  fun c hc => (h c hc).elim escapeChar_of_isNameChar (hmarks c)

lemma escape_of_within {marks : List Char} (hmarks : Bare marks) {text : String} (h : Name.Within marks text) :
    escape text = text :=
  (bare_of_within hmarks h).escape

lemma escape_noteLine (e : Entry) :
    escape e.noteLine = "Foreign keys: " ++ joinWith "; " (e.notes.map escape) := by
  have hwords : escape "Foreign keys: " = "Foreign keys: " ∧ escape "; " = "; " := by decide
  rw [Entry.noteLine, escape_append, escape_joinWith hwords.2, hwords.1]

lemma escape_heading (e : Entry) : escape e.heading = "Table " ++ Nat.repr e.number ++ ": " ++ escape e.table := by
  have hheading : e.heading = "Table " ++ Nat.repr e.number ++ ": " ++ e.table := rfl
  have hwords : escape "Table " = "Table " ∧ escape ": " = ": " := by decide
  have hnumber : escape (Nat.repr e.number) = Nat.repr e.number :=
    escape_of_within (List.forall_mem_nil _) (Name.within_repr e.number)
  rw [hheading, escape_append, escape_append, escape_append, hwords.1, hwords.2, hnumber]

lemma chars_noteTags (e : Entry) : linesChars (noteLines e) = (noteTags e).flatMap Tag.chars := by
  have hline := congrArg String.toList (escape_noteLine e)
  rw [toList_escape] at hline
  by_cases h : e.notes = []
  · simp [noteLines, noteTags, h, linesChars]
  · simp [noteLines, noteTags, h, linesChars, Tag.chars, hline, Markup.escapeChar, toString_text]

lemma chars_headTags (e : Entry) : linesChars ["<div class=\"table-section\">",
    s!"<h2 class=\"table-title\">Table {e.number}: {escape e.table}</h2>", "<table class=\"three-line-table\">",
    s!"<thead><tr>{headerCells}</tr></thead>", "<tbody>"] =
      (sectionTag :: headTags e).flatMap Tag.chars ++ [bodyTag].flatMap Tag.chars := by
  have hheading := congrArg String.toList (escape_heading e)
  rw [toList_escape] at hheading
  simp [linesChars, sectionTag, headTags, bodyTag, Tag.chars, hheading, Markup.escapeChar, toString_text,
    headerCells, columnHeaders]

lemma chars_entryTags {e : Entry} (h : ∀ r ∈ e.rows, escape r.type = r.type) :
    linesChars (entryLines e) = (entryTags e).flatMap Tag.chars := by
  have hrows : linesChars (e.rows.map rowLine) = (e.rows.flatMap rowTags).flatMap Tag.chars := by
    rw [linesChars, List.flatMap_map, List.flatMap_assoc]
    exact List.flatMap_congr fun r hr => chars_rowTags (h r hr)
  have hclose : linesChars ["</tbody>", "</table>"] = [⟨"\n", "/tbody"⟩, ⟨"\n", "/table"⟩].flatMap Tag.chars := by
    decide
  have hend : linesChars ["</div>"] = [⟨"\n", "/div"⟩].flatMap Tag.chars := by decide
  rw [entryLines, entryTags, chapterTags, bodyTags]
  simp only [linesChars_append, ← List.cons_append, List.flatMap_append, chars_headTags, hrows, hclose,
    chars_noteTags, hend, List.append_assoc]

def rowInsides : List String := ["tr", "td", "/td", "td class=\"nullable-no\"", "td class=\"pk-yes\"", "/tr"]

lemma inside_mem_rowInsides {rs : List Row} : ∀ t ∈ rs.flatMap rowTags, t.inside ∈ rowInsides := by
  have hrow (r : Row) : ∀ t ∈ rowTags r, t.inside ∈ rowInsides := by
    cases hn : r.nullable <;> cases hk : r.primaryKey <;> simp [rowTags, cellTags, rowInsides, hn, hk]
  intro t ht
  obtain ⟨r, -, ht⟩ := List.mem_flatMap.mp ht
  exact hrow r t ht

lemma closed_entryTags (e : Entry) : ∀ t ∈ entryTags e, '>' ∉ t.inside.toList := by
  have hinsides : ∀ inside ∈ rowInsides, '>' ∉ inside.toList := by decide
  have hrows : ∀ t ∈ e.rows.flatMap rowTags, '>' ∉ t.inside.toList := fun t ht =>
    hinsides _ (inside_mem_rowInsides t ht)
  have hnote : ∀ t ∈ noteTags e, '>' ∉ t.inside.toList := by
    unfold noteTags
    split <;> simp
  have hhead : ∀ t ∈ headTags e, '>' ∉ t.inside.toList := by simp [headTags, columnHeaders]
  unfold entryTags chapterTags bodyTags
  simp only [List.forall_mem_cons, List.forall_mem_append]
  exact ⟨by decide, hhead, ⟨⟨⟨⟨by decide, List.forall_mem_nil _⟩, hrows⟩, by decide⟩, hnote⟩, by decide⟩

def styleText : String := String.ofList (linesChars styleRules) ++ "\n    "

def titleTags : List Tag :=
  [⟨"\n", "html"⟩, ⟨"\n", "head"⟩, ⟨"\n", "meta charset=\"UTF-8\""⟩, ⟨"\n", "title"⟩,
    ⟨documentationTitle, "/title"⟩]

def styleTags : List Tag := [⟨"\n\n    ", "style"⟩, ⟨styleText, "/style"⟩, ⟨"\n\n", "/head"⟩]

def containerTags : List Tag :=
  [⟨"\n", "body"⟩, ⟨"\n", "div class=\"document-container\""⟩, ⟨"\n", "h1 class=\"document-title\""⟩,
    ⟨documentationTitle, "/h1"⟩]

def openingTags : List Tag := ⟨"", "!DOCTYPE html"⟩ :: (titleTags ++ styleTags ++ containerTags)

def closingTags : List Tag := [⟨"\n", "/div"⟩, ⟨"\n", "/body"⟩, ⟨"\n", "/html"⟩]

lemma toList_styleSheet :
    styleSheet.toList = "\n    <style>".toList ++ (styleText.toList ++ "</style>\n".toList) := by
  have hbreak : (fun line : String => "\n".toList ++ line.toList) = fun line => '\n' :: line.toList := rfl
  have hlines : styleSheet.toList = linesChars (["    <style>"] ++ styleRules ++ ["    </style>", ""]) := by
    rw [styleSheet, List.cons_append, List.cons_append, toList_joinWith_cons, hbreak, ← linesChars,
      String.toList_empty, List.nil_append]
  have hbefore : linesChars ["    <style>"] = "\n    <style>".toList := by decide
  have hafter : linesChars ["    </style>", ""] = "\n    ".toList ++ "</style>\n".toList := by decide
  have hrules : (String.ofList (linesChars styleRules)).toList = linesChars styleRules := String.toList_ofList
  rw [hlines, linesChars_append, linesChars_append, hbefore, hafter, styleText, String.toList_append, hrules,
    List.append_assoc, List.append_assoc]

lemma bare_styleText : Bare styleText.toList := by
  have hrule {cs : List Char} (h : Bare cs) : Bare (String.ofList cs).toList := by rwa [String.toList_ofList]
  have hrules : ∀ rule ∈ styleRules, Bare rule.toList := by
    simp only [styleRules, List.forall_mem_cons]
    refine ⟨hrule ?_, hrule ?_, hrule ?_, hrule ?_, hrule ?_, hrule ?_, hrule ?_, hrule ?_, hrule ?_, hrule ?_,
      hrule ?_, hrule ?_, List.forall_mem_nil _⟩ <;> decide +kernel
  have hbreak : Bare ['\n'] ∧ Bare "\n    ".toList := by decide
  rw [styleText, String.toList_append, String.toList_ofList]
  refine Bare.append (fun c hc => ?_) hbreak.2
  obtain ⟨rule, hm, hc⟩ := List.mem_flatMap.mp hc
  exact hbreak.1.append (hrules rule hm) c hc

lemma chars_styleTags : linesChars [styleSheet, "</head>"] = styleTags.flatMap Tag.chars := by
  -- shown for any sheet, since it takes long to compute the characters of this one
  have hsheet {sheet text : String} (htext : Bare text.toList)
      (h : sheet.toList = "\n    <style>".toList ++ (text.toList ++ "</style>\n".toList)) :
      linesChars [sheet, "</head>"] =
        [Tag.mk "\n\n    " "style", ⟨text, "/style"⟩, ⟨"\n\n", "/head"⟩].flatMap Tag.chars := by
    simp [linesChars, Tag.chars, h, htext.flatMap_escapeChar, Markup.escapeChar]
  exact hsheet bare_styleText toList_styleSheet

variable (s : Schema) (generatedAt : Timestamp)

def factTags : List Tag := [⟨"\n", "p class=\"document-info\""⟩, ⟨joinWith " · " (facts s generatedAt), "/p"⟩]

def factLine : String :=
  s!"<p class=\"document-info\">Generated: {generatedAt.text} · " ++
    s!"Tables: {s.size} · Relationships: {s.relationships.length}</p>"

lemma bare_facts : Bare (joinWith " · " (facts s generatedAt)).toList := by
  have hseparator : Bare " · ".toList := by decide
  have hfacts : ∀ fact ∈ facts s generatedAt, Bare fact.toList := fun fact hfact =>
    bare_of_within (by decide) (within_facts s generatedAt fact hfact)
  exact forall_mem_joinWith hseparator hfacts

lemma chars_factTags : linesChars [factLine s generatedAt] = (factTags s generatedAt).flatMap Tag.chars := by
  have htext := (bare_facts s generatedAt).flatMap_escapeChar
  rw [linesChars, List.flatMap_singleton, factTags, List.flatMap_cons, List.flatMap_singleton, Tag.chars,
    Tag.chars, htext]
  unfold factLine
  simp [facts_eq, joinWith, toString_text, Markup.escapeChar]

def pageTags : List Tag :=
  openingTags ++ factTags s generatedAt ++ (entries s).flatMap entryTags ++ closingTags

lemma toList_page (h : ∀ e ∈ entries s, ∀ r ∈ e.rows, escape r.type = r.type) : (page s generatedAt).toList =
    (pageTags s generatedAt).flatMap Tag.chars := by
  let titleLines := ["<html>", "<head>", "<meta charset=\"UTF-8\">", s!"<title>{documentationTitle}</title>"]
  let containerLines :=
    ["<body>", "<div class=\"document-container\">", s!"<h1 class=\"document-title\">{documentationTitle}</h1>"]
  have hlines : pageLines s generatedAt = "<!DOCTYPE html>" :: (titleLines ++ ([styleSheet, "</head>"] ++
      (containerLines ++ ([factLine s generatedAt] ++ ((entries s).flatMap entryLines ++
        ["</div>", "</body>", "</html>"]))))) := by
    unfold pageLines factLine
    simp only [titleLines, containerLines, List.cons_append, List.nil_append]
  have htype : "<!DOCTYPE html>".toList = (Tag.mk "" "!DOCTYPE html").chars := by decide
  have htitle : linesChars titleLines = titleTags.flatMap Tag.chars := by decide +kernel
  have hcontainer : linesChars containerLines = containerTags.flatMap Tag.chars := by decide +kernel
  have hentries : linesChars ((entries s).flatMap entryLines) =
      ((entries s).flatMap entryTags).flatMap Tag.chars := by
    rw [linesChars, List.flatMap_assoc, List.flatMap_assoc]
    exact List.flatMap_congr fun e he => chars_entryTags (h e he)
  have hclosing : linesChars ["</div>", "</body>", "</html>"] = closingTags.flatMap Tag.chars := by decide
  have hbreak : (fun line : String => "\n".toList ++ line.toList) = fun line => '\n' :: line.toList := rfl
  rw [page, hlines, toList_joinWith_cons, hbreak, ← linesChars, linesChars_append, linesChars_append,
    linesChars_append, linesChars_append, linesChars_append, htype, htitle, chars_styleTags, hcontainer,
    chars_factTags, hentries, hclosing, pageTags, openingTags]
  simp only [List.flatMap_append, List.flatMap_cons, List.append_assoc, List.cons_append]

lemma closed_pageTags : ∀ t ∈ pageTags s generatedAt, '>' ∉ t.inside.toList := by
  have hopening : ∀ t ∈ openingTags, '>' ∉ t.inside.toList := by
    simp [openingTags, titleTags, styleTags, containerTags]
  have hentries : ∀ t ∈ (entries s).flatMap entryTags, '>' ∉ t.inside.toList := by
    intro t ht
    obtain ⟨e, -, ht⟩ := List.mem_flatMap.mp ht
    exact closed_entryTags e t ht
  have hfacts : ∀ t ∈ factTags s generatedAt, '>' ∉ t.inside.toList := by simp [factTags]
  have hclosing : ∀ t ∈ closingTags, '>' ∉ t.inside.toList := by decide
  unfold pageTags
  simp only [List.forall_mem_append]
  exact ⟨⟨⟨hopening, hfacts⟩, hentries⟩, hclosing⟩

lemma tags_page (h : ∀ e ∈ entries s, ∀ r ∈ e.rows, escape r.type = r.type) :
    tags (page s generatedAt).toList = pageTags s generatedAt := by
  have htags := tags_flatMap_chars (closed_pageTags s generatedAt) []
  rw [List.append_nil] at htags
  rw [toList_page s generatedAt h, htags]
  simp [tags, cutAt]

end SchemaAtlas.Report.Html
