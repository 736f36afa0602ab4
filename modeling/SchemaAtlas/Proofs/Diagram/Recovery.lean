import SchemaAtlas.Proofs.Diagram.Parts
import SchemaAtlas.Proofs.Schema.OfDump
import SchemaAtlas.Proofs.Text.Lines

/-! A diagram shows the tables of a well-formed schema with their columns, and the ends of its arrows.
All of this is read back from the text, line by line and word by word. -/

namespace SchemaAtlas

open SchemaAtlas.Text

structure Outline where
  tables : List (String × List Column)
  arrows : List (String × String)
deriving DecidableEq, Repr

def Schema.outline (s : Schema) : Outline where
  tables := s.tables.map fun t => (t.name, t.columns)
  arrows := s.drawable.map fun k => (k.source, k.target)

namespace Mermaid

def Line.ofWords? : List String → Option Line
  | ["erDiagram"] => some header
  | [""] => some blank
  | ["", "", "", "", "\x7d"] => some tableEnd
  | ["", "", "", "", name, "\x7b"] => some (tableStart name)
  | ["", "", "", "", source, "||--o\x7b", target, ":", "\"references\""] => some (arrow source target)
  | ["", "", "", "", "", "", "", "", type, name] => some (column type name "")
  | ["", "", "", "", "", "", "", "", type, name, "PK"] => some (column type name " PK")
  | ["", "", "", "", "", "", "", "", type, name, "\"NOT", "NULL\""] =>
    some (column type name " \"NOT NULL\"")
  | _ => none

def Line.read? (s : List Char) : Option Line := ofWords? ((cutAt ' ' s).map String.ofList)

def Line.Sound : Line → Prop
  | header | tableEnd | blank => True
  | tableStart name => Name.Clean name
  | column type name mark =>
    Name.Clean type ∧ Name.Clean name ∧ mark ∈ ["", " PK", " \"NOT NULL\""]
  | arrow source target => Name.Clean source ∧ Name.Clean target

lemma Line.read?_text {l : Line} (h : l.Sound) : Line.read? l.text.toList = some l := by
  have blank_not_mem {name : String} (h : Name.Clean name) : ' ' ∉ name.toList :=
    h.not_mem (by decide)
  cases l with
  | header | tableEnd | blank => decide
  | tableStart name =>
    have hwords : (cutAt ' ' (tableStart name).text.toList).map String.ofList =
        ["", "", "", "", name, "\x7b"] := by
      simp [text, cutAt_append (blank_not_mem h), cutAt, prepend]
    rw [read?, hwords, ofWords?]
  | column type name mark =>
    obtain ⟨htype, hname, hmark⟩ := h
    simp only [List.mem_cons, List.not_mem_nil, or_false] at hmark
    rcases hmark with rfl | rfl | rfl
    · have hwords : (cutAt ' ' (column type name "").text.toList).map String.ofList =
          ["", "", "", "", "", "", "", "", type, name] := by
        simp [text, cutAt_append (blank_not_mem htype), cutAt_of_not_mem (blank_not_mem hname)]
      rw [read?, hwords, ofWords?]
    · have hwords : (cutAt ' ' (column type name " PK").text.toList).map String.ofList =
          ["", "", "", "", "", "", "", "", type, name, "PK"] := by
        simp [text, cutAt_append (blank_not_mem htype), cutAt_append (blank_not_mem hname), cutAt,
          prepend]
      rw [read?, hwords, ofWords?]
    · have hwords : (cutAt ' ' (column type name " \"NOT NULL\"").text.toList).map String.ofList =
          ["", "", "", "", "", "", "", "", type, name, "\"NOT", "NULL\""] := by
        simp [text, cutAt_append (blank_not_mem htype), cutAt_append (blank_not_mem hname), cutAt,
          prepend]
      rw [read?, hwords, ofWords?]
  | arrow source target =>
    have hwords : (cutAt ' ' (arrow source target).text.toList).map String.ofList =
        ["", "", "", "", source, "||--o\x7b", target, ":", "\"references\""] := by
      simp [text, cutAt_append (blank_not_mem h.1), cutAt_append (blank_not_mem h.2), cutAt, prepend]
    rw [read?, hwords, ofWords?]

lemma Line.newline_not_mem {l : Line} (h : l.Sound) : '\n' ∉ l.text.toList := by
  have newline_not_mem {name : String} (h : Name.Clean name) : '\n' ∉ name.toList :=
    h.not_mem (by decide)
  cases l with
  | header | tableEnd | blank => decide
  | tableStart name => simp [text, newline_not_mem h]
  | column type name mark =>
    obtain ⟨htype, hname, hmark⟩ := h
    have hmark : '\n' ∉ mark.toList := by
      simp only [List.mem_cons, List.not_mem_nil, or_false] at hmark
      rcases hmark with rfl | rfl | rfl <;> decide
    simp [text, newline_not_mem htype, newline_not_mem hname, hmark]
  | arrow source target => simp [text, newline_not_mem h.1, newline_not_mem h.2]

def linesOf (text : String) : List Line := (cutAt '\n' text.toList).filterMap Line.read?

def gather : List Line → List Column × List (String × List Column)
  | [] => ([], [])
  | .column type name mark :: ls =>
    (⟨name, type, mark = " PK", mark = " \"NOT NULL\""⟩ :: (gather ls).1, (gather ls).2)
  | .tableStart name :: ls => ([], (name, (gather ls).1) :: (gather ls).2)
  | _ :: ls => gather ls

def recover (text : String) : Outline := ⟨(gather (linesOf text)).2, arrows (linesOf text)⟩

lemma linesOf_unlines {ls : List Line} (h : ∀ l ∈ ls, l.Sound) :
    linesOf (unlines (ls.map Line.text)) = ls ++ [.blank] := by
  have hlines : ∀ line ∈ ls.map Line.text, '\n' ∉ line.toList :=
    List.forall_mem_map.mpr fun l hl => Line.newline_not_mem (h l hl)
  have hread : ls.filterMap (fun l => Line.read? l.text.toList) = ls := by
    rw [List.filterMap_congr fun l hl => Line.read?_text (h l hl), List.filterMap_some]
  rw [linesOf, cutAt_unlines hlines, List.map_map, List.filterMap_append, List.filterMap_map]
  exact congrArg₂ (· ++ ·) hread (by decide)

lemma gather_columns {cs : List Column} (h : ∀ c ∈ cs, ¬(c.isPrimaryKey = true ∧ c.isNotNull = true))
    (ls : List Line) :
    gather (cs.map columnLine ++ ls) = (cs ++ (gather ls).1, (gather ls).2) := by
  induction cs with
  | nil => rfl
  | cons c cs ih =>
    obtain ⟨hc, hcs⟩ := List.forall_mem_cons.mp h
    obtain ⟨name, type, isPrimaryKey, isNotNull⟩ := c
    rw [List.map_cons, List.cons_append, columnLine, gather, ih hcs]
    cases isPrimaryKey with
    | false => cases isNotNull <;> rfl
    | true =>
      cases isNotNull with
      | false => rfl
      | true => exact absurd ⟨rfl, rfl⟩ hc

lemma gather_table {t : Table} (h : ∀ c ∈ t.columns, c.Sound) (ls : List Line) :
    gather (tableLines t ++ ls) = ([], (t.name, t.columns ++ (gather ls).1) :: (gather ls).2) := by
  have hcolumns := gather_columns (fun c hc => (h c hc).not_both) ([.tableEnd, .blank] ++ ls)
  have hend : gather ([.tableEnd, .blank] ++ ls) = gather ls := rfl
  rw [tableLines, List.cons_append, List.cons_append, List.append_assoc, gather, hcolumns, hend]

lemma gather_arrows (ks : List ForeignKey) : gather (ks.map arrowLine ++ [.blank]) = ([], []) := by
  induction ks with
  | nil => rfl
  | cons k ks ih => exact ih

lemma gather_tables {ts : List Table} (h : ∀ t ∈ ts, ∀ c ∈ t.columns, c.Sound) {ls : List Line}
    (hls : gather ls = ([], [])) :
    gather (ts.flatMap tableLines ++ ls) = ([], ts.map fun t => (t.name, t.columns)) := by
  induction ts with
  | nil => exact hls
  | cons t ts ih =>
    obtain ⟨ht, hts⟩ := List.forall_mem_cons.mp h
    rw [List.flatMap_cons, List.append_assoc, gather_table ht, ih hts, List.append_nil, List.map_cons]

lemma columnLine_sound {c : Column} (h : c.Sound) : (columnLine c).Sound := by
  refine ⟨h.type_clean, h.name_clean, ?_⟩
  unfold mark
  split
  · simp
  · split <;> simp

lemma tableLines_sound {t : Table} (h : t.Sound) : ∀ l ∈ tableLines t, l.Sound := by
  intro l hl
  simp only [tableLines, List.cons_append, List.mem_cons, List.mem_append, List.mem_map,
    List.not_mem_nil, or_false] at hl
  rcases hl with rfl | ⟨c, hc, rfl⟩ | rfl | rfl
  · exact h.name_clean
  · exact columnLine_sound (h.columns_sound c hc)
  · trivial
  · trivial

section Drawing

variable {ts : List Table} {ks : List ForeignKey} (hts : ∀ t ∈ ts, t.Sound) (hks : ∀ k ∈ ks, k.Sound)

include hts hks

lemma drawing_sound : ∀ l ∈ addRelationships (addTables [] ts) ks, l.Sound := by
  intro l hl
  rw [lines_drawing, List.mem_append] at hl
  rcases hl with hl | hl
  · obtain ⟨t, ht, hl⟩ := List.mem_flatMap.mp hl
    exact tableLines_sound (hts t ht) l hl
  · obtain ⟨k, hk, rfl⟩ := List.mem_map.mp hl
    exact ⟨(hks k hk).source_clean, (hks k hk).target_clean⟩

lemma recover_drawing : recover (source (addRelationships (addTables [] ts) ks)) =
    ⟨ts.map fun t => (t.name, t.columns), ks.map fun k => (k.source, k.target)⟩ := by
  have hsound : ∀ l ∈ Line.header :: addRelationships (addTables [] ts) ks, l.Sound :=
    List.forall_mem_cons.mpr ⟨trivial, drawing_sound hts hks⟩
  have hlines : linesOf (source (addRelationships (addTables [] ts) ks)) =
      Line.header :: addRelationships (addTables [] ts) ks ++ [.blank] := linesOf_unlines hsound
  have htables : gather (linesOf (source (addRelationships (addTables [] ts) ks))) =
      ([], ts.map fun t => (t.name, t.columns)) := by
    rw [hlines, lines_drawing, List.cons_append, List.append_assoc]
    exact gather_tables (fun t ht => (hts t ht).columns_sound) (gather_arrows ks)
  have harrows : arrows (linesOf (source (addRelationships (addTables [] ts) ks))) =
      ks.map fun k => (k.source, k.target) := by
    have hheader (d : Diagram) : arrows (Line.header :: d ++ [.blank]) = arrows (d ++ [.blank]) := rfl
    have hblank (d : Diagram) : arrows (d ++ [.blank]) = arrows d := by
      rw [arrows, List.filterMap_append]
      exact List.append_nil _
    rw [hlines, hheader, hblank, arrows_drawing]
  rw [recover, htables, harrows]

end Drawing

theorem recover_render {s : Schema} (h : s.WellFormed) : recover (render s) = s.outline :=
  recover_drawing h.tables_sound fun k hk => h.relationships_sound k (Schema.mem_drawable.mp hk).1

lemma diagram_eq_outline (s : Schema) : diagram s =
    s.outline.tables.flatMap (fun t => tableLines ⟨t.1, t.2, []⟩) ++
      s.outline.arrows.map fun e => .arrow e.1 e.2 := by
  rw [diagram, lines_drawing, Schema.outline, List.flatMap_map, List.map_map]
  rfl

end Mermaid

open Mermaid in
/-- Two dumps have the same diagram exactly when their schemas have the same tables with the same columns
in the same order, and the same sequence of arrows. -/
theorem render_ofDump_eq_iff (a b : List Char) :
    render (Schema.ofDump a) = render (Schema.ofDump b) ↔
      (Schema.ofDump a).tables.map (fun t => (t.name, t.columns)) =
          (Schema.ofDump b).tables.map (fun t => (t.name, t.columns)) ∧
        (Schema.ofDump a).drawable.map (fun k => (k.source, k.target)) =
          (Schema.ofDump b).drawable.map (fun k => (k.source, k.target)) := by
  constructor
  · intro h
    have houtline := congrArg recover h
    have hsound (sql : List Char) : (Schema.ofDump sql).WellFormed :=
      Schema.wellFormed_ofDeclarations (Dump.sound_declarations sql)
    rw [recover_render (hsound a), recover_render (hsound b)] at houtline
    exact ⟨congrArg Outline.tables houtline, congrArg Outline.arrows houtline⟩
  · rintro ⟨htables, harrows⟩
    have houtline : (Schema.ofDump a).outline = (Schema.ofDump b).outline :=
      congrArg₂ Outline.mk htables harrows
    rw [render, render, diagram_eq_outline, diagram_eq_outline (Schema.ofDump b), houtline]

end SchemaAtlas
