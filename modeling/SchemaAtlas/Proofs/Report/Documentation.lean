import SchemaAtlas.Proofs.Report.Chapters
import SchemaAtlas.Proofs.Report.Relationships

/-! The Word document and the page of a schema hold one documentation. The foreign keys are read back from its
notes: each key of a table stands in the note on that table, and no other one does. -/

namespace SchemaAtlas

open SchemaAtlas.Text

namespace Report

def keyOfNote (source : String) (note : List Char) : ForeignKey where
  source := source
  sourceColumns := namesIn (cutOnce '→' note).1
  target := nameIn (cutOnce '.' (behindFirst '→' note)).1
  targetColumns := namesIn (behindFirst '.' (behindFirst '→' note))

namespace Chapter

def table (c : Chapter) : String := nameIn (behindFirst ':' c.heading.toList)

def keys (c : Chapter) : List ForeignKey :=
  match c.note with
  | none => []
  | some line => (cutAt ';' (behindFirst ':' line.toList)).map (keyOfNote c.table)

end Chapter

lemma keyOfNote_spaced {k : ForeignKey} (h : k.Sound) {x y : List Char} (hx : Spaces x) (hy : Spaces y) :
    keyOfNote k.source (x ++ ((foreignKeyNote k).toList ++ y)) = k := by
  have hspace : Spaces [' '] ∧ Spaces [] := by decide
  have hnames {names : List String} (h : ∀ name ∈ names, Name.Clean name) : '→' ∉ (commas names).toList :=
    (cellText_names h).not_mem (by decide)
  have harrow : '→' ∉ x ++ ((commas k.sourceColumns).toList ++ [' ']) := by
    simp [hx.not_mem (c := '→') (by decide), hnames h.sourceColumns_clean]
  have hdot : '.' ∉ [' '] ++ (k.target.toList ++ []) := by simp [h.target_clean.not_mem (c := '.') (by decide)]
  have hnote : foreignKeyNote k = commas k.sourceColumns ++ " → " ++ k.target ++ "." ++
    commas k.targetColumns := rfl
  have hsplit : x ++ ((foreignKeyNote k).toList ++ y) = (x ++ ((commas k.sourceColumns).toList ++ [' '])) ++
      '→' :: (([' '] ++ (k.target.toList ++ [])) ++ '.' :: ([] ++ ((commas k.targetColumns).toList ++ y))) := by
    simp [hnote]
  rw [keyOfNote, hsplit, behindFirst_append harrow, cutOnce_append harrow, behindFirst_append hdot,
    cutOnce_append hdot, namesIn_spaced h.sourceColumns_ne_nil h.sourceColumns_clean hx hspace.1,
    nameIn_spaced h.target_clean hspace.1 hspace.2,
    namesIn_spaced h.targetColumns_ne_nil h.targetColumns_clean hspace.2 hy]

lemma keyOfNote_foreignKeyNote {k : ForeignKey} (h : k.Sound) :
    keyOfNote k.source (foreignKeyNote k).toList = k := by
  have hspace : Spaces [] := by decide
  have hread := keyOfNote_spaced h hspace hspace
  rwa [List.nil_append, List.append_nil] at hread

lemma keysOfNotes {table : String} {ks : List ForeignKey} (hne : ks ≠ [])
    (h : ∀ k ∈ ks, k.Sound ∧ k.source = table) {x : List Char} (hx : Spaces x) :
    (cutAt ';' (x ++ ((joinWith "; " (ks.map foreignKeyNote)).toList ++ []))).map (keyOfNote table) = ks := by
  have hseparator : "; ".toList = [] ++ ';' :: [' '] := by decide
  have hspace : Spaces [] ∧ Spaces [' '] := by decide
  have hnotes : ∀ note ∈ ks.map foreignKeyNote, ';' ∉ note.toList ∧
      ∀ x y, Spaces x → Spaces y → keyOfNote table (x ++ (note.toList ++ y)) = keyOfNote table note.toList := by
    intro note hnote
    obtain ⟨k, hk, rfl⟩ := List.mem_map.mp hnote
    obtain ⟨hsound, rfl⟩ := h k hk
    refine ⟨(within_foreignKeyNote hsound).not_mem (by decide), fun x y hx hy => ?_⟩
    rw [keyOfNote_spaced hsound hx hy, keyOfNote_foreignKeyNote hsound]
  have hread : ∀ k ∈ ks, keyOfNote table (foreignKeyNote k).toList = k := by
    intro k hk
    obtain ⟨hsound, rfl⟩ := h k hk
    exact keyOfNote_foreignKeyNote hsound
  rw [map_cutAt_joinWith hseparator (fun x hx => hx.not_mem (by decide)) hspace.1 hspace.2 (by simpa using hne)
    hnotes hx hspace.1, List.map_map]
  exact (List.map_congr_left hread).trans (List.map_id ks)

end Report

open Report

def Column.cells (c : Column) : List String :=
  [c.name, c.type, if c.isNotNull || c.isPrimaryKey then "No" else "Yes", if c.isPrimaryKey then "Yes" else "No"]

namespace Schema

def keysFrom (s : Schema) (table : String) : List ForeignKey := s.relationships.filter (·.source == table)

def chapter (s : Schema) (number : ℕ) (t : Table) : Chapter where
  heading := s!"Table {number}: {t.name}"
  headers := ["Column", "Type", "Nullable", "Primary key"]
  rows := t.columns.map Column.cells
  note :=
    if s.keysFrom t.name = [] then none
    else some ("Foreign keys: " ++ joinWith "; " ((s.keysFrom t.name).map foreignKeyNote))

def documentation (s : Schema) (generatedAt : Timestamp) : Documentation where
  facts := facts s generatedAt
  chapters := s.tables.mapIdx fun i t => s.chapter (i + 1) t

variable (s : Schema)

lemma ofEntry_entry (n : ℕ) (t : Table) : Chapter.ofEntry (entry s n t) = s.chapter n t := by
  have hrow (c : Column) : [c.name, c.type, yesNo (Row.ofColumn c).nullable, yesNo c.isPrimaryKey] = c.cells := by
    cases hn : c.isNotNull <;> cases hk : c.isPrimaryKey <;> simp [Row.ofColumn, yesNo, Column.cells, hn, hk]
  have hrows : (Chapter.ofEntry (entry s n t)).rows = (s.chapter n t).rows := by
    rw [Chapter.ofEntry, entry, List.map_map]
    exact List.map_congr_left fun c _ => hrow c
  have hnote : (Chapter.ofEntry (entry s n t)).note = (s.chapter n t).note := by
    have hnotes : (entry s n t).notes = (s.keysFrom t.name).map foreignKeyNote := rfl
    simp only [Chapter.ofEntry, chapter, Entry.noteLine, hnotes, List.map_eq_nil_iff]
  exact Chapter.ext rfl rfl hrows hnote

lemma chapters_documentation (generatedAt : Timestamp) :
    (s.documentation generatedAt).chapters = (entries s).map Chapter.ofEntry := by
  rw [entries, List.map_map, documentation, List.mapIdx_eq_zipIdx_map]
  exact List.map_congr_left fun ti _ => (ofEntry_entry s (ti.2 + 1) ti.1).symm

variable {s} (h : s.WellFormed)

include h

lemma table_chapter {t : Table} (ht : t ∈ s.tables) (n : ℕ) : (s.chapter n t).table = t.name := by
  have hwords : ':' ∉ ("Table " ++ Nat.repr n).toList := by
    have hwithin : Name.Within [' '] ("Table " ++ Nat.repr n) := by
      have htable : Name.Within [' '] "Table " := by decide
      simp [htable]
    exact hwithin.not_mem (by decide)
  have hheading : (s.chapter n t).heading = "Table " ++ Nat.repr n ++ ": " ++ t.name := rfl
  have hsplit : (s.chapter n t).heading.toList =
      ("Table " ++ Nat.repr n).toList ++ ':' :: ([' '] ++ (t.name.toList ++ [])) := by
    simp [hheading]
  rw [Chapter.table, hsplit, behindFirst_append hwords,
    nameIn_spaced (h.tables_sound t ht).name_clean (by decide) (by decide)]

lemma keys_chapter {t : Table} (ht : t ∈ s.tables) (n : ℕ) : (s.chapter n t).keys = s.keysFrom t.name := by
  by_cases hnone : s.keysFrom t.name = []
  · have hnote : (s.chapter n t).note = none := if_pos hnone
    rw [Chapter.keys, hnote, hnone]
  · have hnote : (s.chapter n t).note =
        some ("Foreign keys: " ++ joinWith "; " ((s.keysFrom t.name).map foreignKeyNote)) := if_neg hnone
    have hsound : ∀ k ∈ s.keysFrom t.name, k.Sound ∧ k.source = t.name := by
      intro k hk
      obtain ⟨hk, hsource⟩ := List.mem_filter.mp hk
      exact ⟨h.relationships_sound k hk, by simpa using hsource⟩
    have hwords : ':' ∉ "Foreign keys".toList := by decide
    have hsplit : ("Foreign keys: " ++ joinWith "; " ((s.keysFrom t.name).map foreignKeyNote)).toList =
        "Foreign keys".toList ++ ':' :: ([' '] ++
          ((joinWith "; " ((s.keysFrom t.name).map foreignKeyNote)).toList ++ [])) := by
      simp
    rw [Chapter.keys, hnote]
    simp only [hsplit, behindFirst_append hwords, table_chapter h ht]
    exact keysOfNotes hnone hsound (by decide)

omit h in
lemma flatMap_keysFrom_perm {names : List String} (h : names.Nodup) :
    (names.flatMap s.keysFrom).Perm (s.relationships.filter (·.source ∈ names)) := by
  induction names with
  | nil => simp
  | cons name names ih =>
    obtain ⟨hname, hnames⟩ := List.nodup_cons.mp h
    let held := s.relationships.filter (·.source ∈ name :: names)
    have hfirst : held.filter (·.source == name) = s.keysFrom name := by
      rw [List.filter_filter]
      apply List.filter_congr
      intro k _
      by_cases hk : k.source = name <;> simp [hk]
    have hrest : held.filter (fun k => !(k.source == name)) = s.relationships.filter (·.source ∈ names) := by
      rw [List.filter_filter]
      apply List.filter_congr
      intro k _
      by_cases hk : k.source = name <;> simp [hk, hname]
    have hsplit : (s.keysFrom name ++ s.relationships.filter (·.source ∈ names)).Perm held := by
      rw [← hfirst, ← hrest]
      exact List.filter_append_perm _ held
    rw [List.flatMap_cons]
    exact ((ih hnames).append_left _).trans hsplit

lemma keys_chapters (generatedAt : Timestamp) :
    (s.documentation generatedAt).chapters.map Chapter.keys = s.tables.map fun t => s.keysFrom t.name := by
  have heach : ∀ ti ∈ s.tables.zipIdx, (s.chapter (ti.2 + 1) ti.1).keys = s.keysFrom ti.1.name := fun ti hti =>
    keys_chapter h (List.fst_mem_of_mem_zipIdx hti) _
  calc (s.documentation generatedAt).chapters.map Chapter.keys
      = s.tables.zipIdx.map fun ti => (s.chapter (ti.2 + 1) ti.1).keys := by
        rw [documentation, List.mapIdx_eq_zipIdx_map, List.map_map]
        rfl
    _ = s.tables.zipIdx.map fun ti => s.keysFrom ti.1.name := List.map_congr_left heach
    _ = (s.tables.zipIdx.map Prod.fst).map fun t => s.keysFrom t.name := by
        rw [List.map_map]
        rfl
    _ = s.tables.map fun t => s.keysFrom t.name := by rw [List.zipIdx_map_fst]

lemma flatMap_keys_chapters (generatedAt : Timestamp) :
    (s.documentation generatedAt).chapters.flatMap Chapter.keys = s.names.flatMap s.keysFrom := by
  rw [List.flatMap_def, keys_chapters h, names, List.flatMap_map, List.flatMap_def]

end Schema

namespace Report

open Text.Markup

/-- The document and the page are read each in its own way. A foreign key from no table of the schema is in no
note, since those in the notes are the keys from its tables. -/
theorem documentation_word_page (sql : List Char) (generatedAt : Timestamp) :
    let s := Schema.ofDump sql
    let d := s.documentation generatedAt
    (∃ word, wordDocument s generatedAt = .ok word ∧ Documentation.ofBlocks word.blocks = d) ∧
      Documentation.ofTags (tags (Html.page s generatedAt).toList) = d ∧
      d.chapters.map Chapter.keys = s.tables.map (fun t => s.keysFrom t.name) ∧
      (d.chapters.flatMap Chapter.keys).Perm (s.relationships.filter (·.source ∈ s.names)) := by
  intro s d
  have h : s.WellFormed := Schema.wellFormed_ofDeclarations (Dump.sound_declarations sql)
  have htypes : ∀ e ∈ entries s, ∀ r ∈ e.rows, escape r.type = r.type := fun e he r hr =>
    Html.escape_of_within (List.forall_mem_nil _) ((sound_of_mem_entries h he).rows_clean r hr).2.within
  have hchapters : d = ⟨facts s generatedAt, (entries s).map Chapter.ofEntry⟩ :=
    Documentation.ext rfl (s.chapters_documentation generatedAt)
  refine ⟨⟨_, wordDocument_eq_ok h generatedAt, ?_⟩, ?_, Schema.keys_chapters h generatedAt, ?_⟩
  · rw [hchapters, ofBlocks_wordContent h]
  · rw [hchapters, ofTags_page s generatedAt htypes]
  · rw [Schema.flatMap_keys_chapters h]
    exact Schema.flatMap_keysFrom_perm h.names_nodup

end Report

end SchemaAtlas
