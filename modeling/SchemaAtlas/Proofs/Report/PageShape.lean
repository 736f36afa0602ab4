import SchemaAtlas.Ddl.TypeCategory
import SchemaAtlas.Proofs.Report.PageTags

/-! The tags of a page are the same for all schemas of one shape, whatever their tables, columns and keys
are called: no name opens or closes a tag. -/

namespace SchemaAtlas

open SchemaAtlas.Text SchemaAtlas.Text.Markup SchemaAtlas.Report

namespace Schema

variable (s : Schema)

def tableShape (t : Table) : List (Bool × Bool) × Bool :=
  (t.columns.map fun c => (c.isPrimaryKey, c.isNotNull), s.relationships.any (·.source == t.name))

def shape : List (List (Bool × Bool) × Bool) := s.tables.map s.tableShape

def Categorized : Prop := ∀ t ∈ s.tables, ∀ c ∈ t.columns, ∃ k : TypeCategory, c.type = k.label

end Schema

namespace Report

def Entry.ofShape (shape : List (Bool × Bool) × Bool) : Entry :=
  ⟨0, "", shape.1.map fun (primaryKey, notNull) => .ofColumn ⟨"", "", primaryKey, notNull⟩,
    if shape.2 then [""] else []⟩

namespace Html

def insides (ts : List Tag) : List String := ts.map (·.inside)

@[simp] lemma insides_append (ts ts' : List Tag) : insides (ts ++ ts') = insides ts ++ insides ts' :=
    List.map_append

lemma insides_rows (cs : List Column) : insides ((cs.map Row.ofColumn).flatMap rowTags) =
    insides (((cs.map fun c => (c.isPrimaryKey, c.isNotNull)).map fun (primaryKey, notNull) =>
      Row.ofColumn ⟨"", "", primaryKey, notNull⟩).flatMap rowTags) := by
  simp only [insides, List.map_flatMap, List.flatMap_map]
  rfl

lemma insides_noteTags {e e' : Entry} (h : e.notes = [] ↔ e'.notes = []) :
    insides (noteTags e) = insides (noteTags e') := by
  by_cases hnotes : e.notes = []
  · rw [noteTags, noteTags, if_pos hnotes, if_pos (h.mp hnotes)]
  · rw [noteTags, noteTags, if_neg hnotes, if_neg (mt h.mpr hnotes)]
    rfl

lemma notes_entry_eq_nil_iff (s : Schema) (n : ℕ) (t : Table) :
    (entry s n t).notes = [] ↔ (Entry.ofShape (s.tableShape t)).notes = [] := by
  have hnotes : (entry s n t).notes = [] ↔ s.relationships.any (·.source == t.name) = false := by
    rw [entry, notesOn, List.map_eq_nil_iff, List.filter_eq_nil_iff, List.any_eq_false]
  rw [hnotes, Entry.ofShape, Schema.tableShape]
  cases s.relationships.any (·.source == t.name) <;> simp

lemma insides_entryTags (s : Schema) (n : ℕ) (t : Table) :
    insides (entryTags (entry s n t)) = insides (entryTags (.ofShape (s.tableShape t))) := by
  have hrows : insides ((entry s n t).rows.flatMap rowTags) =
      insides ((Entry.ofShape (s.tableShape t)).rows.flatMap rowTags) := insides_rows t.columns
  have hnotes := insides_noteTags (notes_entry_eq_nil_iff s n t)
  have hhead : insides (headTags (entry s n t)) = insides (headTags (.ofShape (s.tableShape t))) := rfl
  have hcons (ts : List Tag) : insides (sectionTag :: ts) = sectionTag.inside :: insides ts := rfl
  simp only [entryTags, chapterTags, bodyTags, hcons, insides_append, hhead, hrows, hnotes]

lemma insides_pageTags (s : Schema) (generatedAt : Timestamp) : insides (pageTags s generatedAt) =
    insides openingTags ++ ["p class=\"document-info\"", "/p"] ++
      s.shape.flatMap (fun shape => insides (entryTags (.ofShape shape))) ++ insides closingTags := by
  have hentries : insides ((entries s).flatMap entryTags) =
      s.shape.flatMap fun shape => insides (entryTags (.ofShape shape)) := by
    calc insides ((entries s).flatMap entryTags)
      _ = s.tables.zipIdx.flatMap fun p => insides (entryTags (entry s (p.2 + 1) p.1)) := by
        rw [insides, entries, List.map_flatMap, List.flatMap_map]
        rfl
      _ = s.tables.zipIdx.flatMap fun p => insides (entryTags (.ofShape (s.tableShape p.1))) :=
        List.flatMap_congr fun p _ => insides_entryTags s (p.2 + 1) p.1
      _ = (s.tables.zipIdx.map Prod.fst).flatMap fun t => insides (entryTags (.ofShape (s.tableShape t))) := by
        rw [List.flatMap_map]
      _ = s.shape.flatMap fun shape => insides (entryTags (.ofShape shape)) := by
        rw [List.zipIdx_map_fst, Schema.shape, List.flatMap_map]
  rw [pageTags, insides_append, insides_append, insides_append, hentries]
  rfl

lemma escape_type {s : Schema} (h : s.Categorized) : ∀ e ∈ entries s, ∀ r ∈ e.rows, escape r.type = r.type := by
  have hlabel : ∀ k : TypeCategory, escape k.label = k.label := by
    intro k
    cases k <;> decide
  intro e he r hr
  obtain ⟨⟨t, i⟩, ht, rfl⟩ := List.mem_map.mp he
  obtain ⟨c, hc, rfl⟩ := List.mem_map.mp hr
  obtain ⟨k, hk⟩ := h t (List.fst_mem_of_mem_zipIdx ht) c hc
  rw [Row.ofColumn, hk, hlabel]

lemma takeApart_page {s : Schema} (h : s.Categorized) (generatedAt : Timestamp) :
    takeApart none (page s generatedAt).toList = ((insides (pageTags s generatedAt)).map String.toList,
      (pageTags s generatedAt).flatMap fun t => t.text.toList.flatMap Markup.escapeChar) := by
  rw [toList_page s generatedAt (escape_type h), takeApart_flatMap_chars (closed_pageTags s generatedAt), insides,
    List.map_map]
  rfl

/-- Pages of schemas of one shape have the same tags in the same order, and no bracket stands outside of
them, whatever the names are. -/
theorem takeApart_page_of_shape {s s' : Schema} (hs : s.Categorized) (hs' : s'.Categorized)
    (h : s.shape = s'.shape) (generatedAt generatedAt' : Timestamp) :
    (takeApart none (page s generatedAt).toList).1 = (takeApart none (page s' generatedAt').toList).1 ∧
      ∀ c, c = '<' ∨ c = '>' → c ∉ (takeApart none (page s generatedAt).toList).2 ∧
        c ∉ (takeApart none (page s' generatedAt').toList).2 := by
  have houtside (ts : List Tag) {c : Char} (hc : c = '<' ∨ c = '>') :
      c ∉ ts.flatMap fun t => t.text.toList.flatMap Markup.escapeChar := by
    rw [← List.flatMap_assoc]
    exact not_mem_escape hc _
  rw [takeApart_page hs, takeApart_page hs', insides_pageTags, insides_pageTags, h]
  exact ⟨rfl, fun c hc => ⟨houtside _ hc, houtside _ hc⟩⟩

theorem takeApart_page_of_shape_markup :
    (takeApart none (page (.ofDeclarations [.table ⟨"A", [⟨"ID", "NUMBER", true, false⟩], [],
      [⟨"A", ["ID"], "B", ["ID"]⟩]⟩]) ⟨2024, 1, 2, 3, 4, 5⟩).toList).1 =
    (takeApart none (page (.ofDeclarations [.table ⟨"</h2><script>", [⟨"\"><b>", "NUMBER", true, false⟩], [],
      [⟨"</h2><script>", ["<", ">"], "<!--", []⟩]⟩]) ⟨2024, 1, 2, 3, 4, 5⟩).toList).1 := by
  have hcategorized {s : Schema} (h : ∀ t ∈ s.tables, ∀ c ∈ t.columns, c.type = "NUMBER") : s.Categorized :=
    fun t ht c hc => ⟨.number, h t ht c hc⟩
  exact (takeApart_page_of_shape (hcategorized (by decide)) (hcategorized (by decide)) (by decide) _ _).1

end Html

end Report

end SchemaAtlas
