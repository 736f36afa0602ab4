import SchemaAtlas.Proofs.Report.Book
import SchemaAtlas.Proofs.Schema.OfDump

/-! Partitioned documents are read from their content, cut at its line ends, if no name holds a line end. -/

namespace SchemaAtlas

open SchemaAtlas.Text

def Unbroken (lines : List String) : Prop := ∀ line ∈ lines, '\n' ∉ line.toList

instance (lines : List String) : Decidable (Unbroken lines) :=
  inferInstanceAs (Decidable (∀ line ∈ lines, '\n' ∉ line.toList))

structure ForeignKey.OneLine (k : ForeignKey) : Prop where
  source : '\n' ∉ k.source.toList
  target : '\n' ∉ k.target.toList
  sourceColumns : Unbroken k.sourceColumns
  targetColumns : Unbroken k.targetColumns

structure Table.OneLine (t : Table) : Prop where
  name : '\n' ∉ t.name.toList
  columns : ∀ c ∈ t.columns, '\n' ∉ c.name.toList ∧ '\n' ∉ c.type.toList

structure Schema.OneLine (s : Schema) : Prop where
  tables : ∀ t ∈ s.tables, t.OneLine
  relationships : ∀ k ∈ s.relationships, k.OneLine

lemma Table.Sound.oneLine {t : Table} (h : t.Sound) : t.OneLine where
  name := h.name_clean.not_mem (by decide)
  columns c hc := by
    have hc := h.columns_sound c hc
    exact ⟨hc.name_clean.not_mem (by decide), hc.type_clean.not_mem (by decide)⟩

lemma ForeignKey.Sound.oneLine {k : ForeignKey} (h : k.Sound) : k.OneLine where
  source := h.source_clean.not_mem (by decide)
  target := h.target_clean.not_mem (by decide)
  sourceColumns name hname := (h.sourceColumns_clean name hname).not_mem (by decide)
  targetColumns name hname := (h.targetColumns_clean name hname).not_mem (by decide)

theorem Schema.oneLine_ofDump (sql : List Char) : (Schema.ofDump sql).OneLine := by
  have h : (Schema.ofDump sql).WellFormed := wellFormed_ofDeclarations (Dump.sound_declarations sql)
  exact ⟨fun t ht => (h.tables_sound t ht).oneLine, fun k hk => (h.relationships_sound k hk).oneLine⟩

section Unbroken

variable {lines others : List String}

lemma unbroken_nil : Unbroken [] := List.forall_mem_nil _

lemma unbroken_cons {line : String} : Unbroken (line :: lines) ↔ '\n' ∉ line.toList ∧ Unbroken lines :=
  List.forall_mem_cons

lemma unbroken_append : Unbroken (lines ++ others) ↔ Unbroken lines ∧ Unbroken others := List.forall_mem_append

lemma unbroken_map {α : Type} {xs : List α} {f : α → String} :
    Unbroken (xs.map f) ↔ ∀ x ∈ xs, '\n' ∉ (f x).toList :=
  List.forall_mem_map

lemma unbroken_flatMap {α : Type} {xs : List α} {f : α → List String} (h : ∀ x ∈ xs, Unbroken (f x)) :
    Unbroken (xs.flatMap f) := by
  intro line hline
  obtain ⟨x, hx, hline⟩ := List.mem_flatMap.mp hline
  exact h x hx line hline

end Unbroken

lemma Unbroken.commas {names : List String} (h : Unbroken names) : '\n' ∉ (commas names).toList := by
  have hapart : ∀ name ∈ names, ∀ c ∈ name.toList, c ≠ '\n' := fun name hname c hc =>
    ne_of_mem_of_not_mem hc (h name hname)
  intro hmem
  exact forall_mem_commas (by decide) (by decide) hapart '\n' hmem rfl

lemma newline_not_mem_toDigits (n : ℕ) : '\n' ∉ Nat.toDigits 10 n := not_mem_toDigits (by decide) n

lemma newline_not_mem_int (n : ℤ) : '\n' ∉ n.repr.toList := by
  cases n with
  | ofNat n =>
    change '\n' ∉ (Nat.repr n).toList
    simp [newline_not_mem_toDigits]
  | negSucc n =>
    change '\n' ∉ ("-" ++ Nat.repr (n + 1)).toList
    simp [newline_not_mem_toDigits]

namespace Mermaid

lemma newline_not_mem_columnLine {c : Column} (h : '\n' ∉ c.name.toList ∧ '\n' ∉ c.type.toList) :
    '\n' ∉ (columnLine c).text.toList := by
  have hmark : '\n' ∉ (mark c).toList := by
    rw [mark]
    split
    · decide
    · split <;> decide
  simp [columnLine, Line.text, h, hmark]

lemma newline_not_mem_tableLines {t : Table} (h : t.OneLine) : ∀ l ∈ tableLines t, '\n' ∉ l.text.toList := by
  have hstart : '\n' ∉ (Line.tableStart t.name).text.toList := by simp [Line.text, h.name]
  simp only [tableLines, List.cons_append, List.forall_mem_cons, List.forall_mem_append, List.forall_mem_map]
  exact ⟨hstart, fun c hc => newline_not_mem_columnLine (h.columns c hc), by decide, by decide,
    List.forall_mem_nil _⟩

lemma unbroken_lines_diagramOf {s : Schema} (h : s.OneLine) {ts : List Table} (hts : ∀ t ∈ ts, t.OneLine) :
    Unbroken (lines (diagramOf s ts)) := by
  have hkeys : ∀ k ∈ s.drawableWithin (ts.map (·.name)), '\n' ∉ (arrowLine k).text.toList := by
    intro k hk
    have hline := h.relationships k (Schema.mem_drawable.mp (Schema.mem_drawableWithin.mp hk).1).1
    simp [arrowLine, Line.text, hline.source, hline.target]
  have htables : ∀ l ∈ ts.flatMap tableLines, '\n' ∉ l.text.toList := by
    intro l hl
    obtain ⟨t, ht, hl⟩ := List.mem_flatMap.mp hl
    exact newline_not_mem_tableLines (hts t ht) l hl
  rw [lines, unbroken_map, List.forall_mem_cons, diagramOf, addRelationships, addTables, List.nil_append,
    List.forall_mem_append, List.forall_mem_map]
  exact ⟨by decide, htables, hkeys⟩

end Mermaid

namespace Report

def Page.ofDocument (d : Document) : Page :=
  ⟨d.filename, (cutAt '\n' d.content.toList).dropLast.map String.ofList⟩

lemma Page.ofDocument_document {p : Page} (h : Unbroken p.lines) : ofDocument p.document = p := by
  have hlines : (cutAt '\n' (unlines p.lines).toList).dropLast.map String.ofList = p.lines := by
    rw [cutAt_unlines h, List.dropLast_concat, List.map_map]
    simp [Function.comp_def]
  rw [ofDocument, document, hlines]

structure Imprint.OneLine (i : Imprint) : Prop where
  baseName : '\n' ∉ i.baseName.toList
  sourceName : '\n' ∉ i.sourceName.toList

lemma unbroken_tableListing {t : Table} (h : t.OneLine) : Unbroken (tableListing t) := by
  have hmarks (c : Column) : '\n' ∉ (commas c.marks).toList := by
    apply Unbroken.commas
    rw [Column.marks]
    split <;> split <;> decide
  have hheading : '\n' ∉ s!"### {t.name}".toList := by simp [toString_text, h.name]
  have hrows : ∀ c ∈ t.columns, '\n' ∉ (columnRow c).toList := by
    intro c hc
    simp [columnRow, toString_text, h.columns c hc, hmarks]
  simp only [tableListing, unbroken_append, unbroken_cons, unbroken_map]
  exact ⟨⟨⟨hheading, by decide⟩, hrows⟩, by decide⟩

lemma unbroken_relationshipListing {ks : List ForeignKey} (h : ∀ k ∈ ks, k.OneLine) :
    Unbroken (relationshipListing ks) := by
  have hrows : ∀ k ∈ ks, '\n' ∉ (relationshipRow k).toList := by
    intro k hk
    simp [relationshipRow, toString_text, (h k hk).source, (h k hk).target, (h k hk).sourceColumns.commas,
      (h k hk).targetColumns.commas]
  rw [relationshipListing, unbroken_append, unbroken_append, unbroken_map]
  exact ⟨⟨by decide, hrows⟩, by decide⟩

lemma newline_not_mem_twoDigits (n : ℕ) : '\n' ∉ (Timestamp.twoDigits n).toList := by
  rw [Timestamp.twoDigits]
  split <;> simp [toString_text, newline_not_mem_toDigits]

lemma newline_not_mem_timestamp (now : Timestamp) : '\n' ∉ now.text.toList := by
  simp [Timestamp.text, toString_text, newline_not_mem_toDigits, newline_not_mem_twoDigits]

lemma newline_not_mem_fact {label value : String} (hlabel : '\n' ∉ label.toList) (hvalue : '\n' ∉ value.toList) :
    '\n' ∉ (fact label value).toList := by
  simp [fact, toString_text, hlabel, hvalue]

section Lines

variable {s : Schema} {i : Imprint} (hs : s.OneLine) (hi : i.OneLine) {total : ℤ}

include hi in
lemma newline_not_mem_partitionFilename (number : ℕ) : '\n' ∉ (partitionFilename i.baseName number).toList := by
  simp [partitionFilename, toString_text, hi.baseName, newline_not_mem_toDigits]

include hi in
lemma newline_not_mem_indexFilename : '\n' ∉ (indexFilename i.baseName).toList := by
  simp [indexFilename, toString_text, hi.baseName]

include hi in
lemma unbroken_navigation (number : ℕ) : Unbroken (navigation i.baseName total number) := by
  have hfilename := newline_not_mem_partitionFilename hi
  have hindex := newline_not_mem_indexFilename hi
  unfold navigation
  split <;> split <;>
    simp [unbroken_cons, unbroken_nil, toString_text, hfilename, hindex, newline_not_mem_toDigits]

include hs in
lemma unbroken_relationshipSection {heading : String} (hheading : '\n' ∉ heading.toList) (names : List String) :
    Unbroken (relationshipSection heading (s.drawableWithin names)) := by
  rw [relationshipSection]
  split
  · exact unbroken_nil
  · have hkeys : ∀ k ∈ s.drawableWithin names, k.OneLine := fun k hk =>
      hs.relationships k (Schema.mem_drawable.mp (Schema.mem_drawableWithin.mp hk).1).1
    rw [unbroken_append, unbroken_cons]
    exact ⟨⟨hheading, by decide⟩, unbroken_relationshipListing hkeys⟩

include hs hi in
lemma unbroken_partitionLines {p : Partition} (hp : p.tables ⊆ s.tables) :
    Unbroken (partitionLines s i total p) := by
  have htables : ∀ t ∈ p.tables, t.OneLine := fun t ht => hs.tables t (hp ht)
  have hdiagram := unbroken_append.mpr ⟨unbroken_cons.mpr ⟨(by decide : '\n' ∉ "```mermaid".toList),
    Mermaid.unbroken_lines_diagramOf hs htables⟩, (by decide : Unbroken ["```", ""])⟩
  have hlistings := unbroken_flatMap fun t ht => unbroken_tableListing (htables t ht)
  have hheading : '\n' ∉ "## Relationships in this partition".toList := by decide
  have hkeys := unbroken_relationshipSection hs hheading p.names
  have htitle : '\n' ∉ s!"# DER - Partition {p.number} of {total}".toList := by
    simp [toString_text, newline_not_mem_toDigits, newline_not_mem_int]
  have hrange : '\n' ∉ s!"{p.range} ({p.tables.length} tables)".toList := by
    simp [Partition.range, toString_text, newline_not_mem_toDigits]
  have hfooter : '\n' ∉
      s!"*Partition {p.number} of {total} - generated automatically by sql-dump-der*".toList := by
    simp [toString_text, newline_not_mem_toDigits, newline_not_mem_int]
  have hnavigation : Unbroken (navigation i.baseName total p.number) := unbroken_navigation hi p.number
  simp only [partitionLines, footer, unbroken_append, unbroken_cons]
  exact ⟨⟨⟨⟨⟨⟨⟨⟨htitle, by decide, newline_not_mem_fact (by decide) hrange,
    newline_not_mem_fact (by decide) (newline_not_mem_partitionFilename hi _),
    newline_not_mem_fact (by decide) (newline_not_mem_timestamp _), by decide, unbroken_nil⟩, hnavigation⟩,
    by decide⟩, hdiagram⟩, by decide⟩, hlistings⟩, hkeys⟩, by decide, by decide, hfooter, unbroken_nil⟩

include hs hi in
lemma unbroken_indexEntry {p : Partition} (hp : p.tables ⊆ s.tables) : Unbroken (indexEntry s i p) := by
  have hnames : Unbroken p.names := unbroken_map.mpr fun t ht => (hs.tables t (hp ht)).name
  have hfirst : '\n' ∉ (commas (p.names.take 3)).toList :=
    Unbroken.commas fun name hname => hnames name (List.mem_of_mem_take hname)
  have hfirstNames : '\n' ∉ (firstNames p.names).toList := by
    rw [firstNames]
    split <;> simp [hfirst]
  simp [indexEntry, unbroken_cons, unbroken_nil, Partition.range, toString_text, newline_not_mem_toDigits,
    newline_not_mem_partitionFilename hi, hfirstNames]

include hs hi in
lemma unbroken_indexLines {ps : List Partition} (hps : ∀ p ∈ ps, p.tables ⊆ s.tables) :
    Unbroken (indexLines s i total ps) := by
  have hentries := unbroken_flatMap fun p hp => unbroken_indexEntry hs hi (hps p hp)
  have hlisting : Unbroken
      (if s.relationships.isEmpty then [] else relationshipListing s.relationships) := by
    split
    · exact unbroken_nil
    · exact unbroken_relationshipListing hs.relationships
  have hnat (n : ℕ) : '\n' ∉ (toString n).toList := by simp [newline_not_mem_toDigits]
  simp only [indexLines, unbroken_append, unbroken_cons]
  exact ⟨⟨⟨⟨⟨by decide, by decide, newline_not_mem_fact (by decide) (newline_not_mem_timestamp _),
    newline_not_mem_fact (by decide) hi.sourceName, newline_not_mem_fact (by decide) (hnat _),
    newline_not_mem_fact (by decide) (hnat _), newline_not_mem_fact (by decide) (newline_not_mem_int _), by decide,
    by decide, by decide, unbroken_nil⟩, hentries⟩, by decide⟩, hlisting⟩, by decide⟩

end Lines

section Documents

variable {s : Schema} {i : Imprint} {l : Limits}

lemma read_documents (hs : s.OneLine) (hi : i.OneLine) (hmany : l.threshold < s.size) (hsize : 1 ≤ l.size)
    (hcount : partitionCount s.size l.size = ⌈(s.size : ℚ) / l.size⌉) :
    let ps := partitions s.tables l.size
    (documents s i l).map (·.map Page.ofDocument) =
      .ok (ps.map (partitionPage s i ps.length) ++ [indexPage s i ps.length ps]) := by
  intro ps
  have hpage : ∀ p ∈ ps, Unbroken (partitionPage s i ps.length p).lines := fun p hp =>
    unbroken_partitionLines hs hi (tables_subset hp)
  have hindex : Unbroken (indexPage s i ps.length ps).lines :=
    unbroken_indexLines hs hi fun p hp => tables_subset hp
  have hlines : ∀ page ∈ ps.map (partitionPage s i ps.length) ++ [indexPage s i ps.length ps],
      Unbroken page.lines :=
    List.forall_mem_append.mpr ⟨List.forall_mem_map.mpr hpage, List.forall_mem_singleton.mpr hindex⟩
  rw [documents_eq_pages s i hmany hsize hcount, Except.map, List.map_map, Except.ok.injEq]
  calc (ps.map (partitionPage s i ps.length) ++ [indexPage s i ps.length ps]).map (Page.ofDocument ∘ Page.document)
      = (ps.map (partitionPage s i ps.length) ++ [indexPage s i ps.length ps]).map id :=
        List.map_congr_left fun page hpage => Page.ofDocument_document (hlines page hpage)
    _ = ps.map (partitionPage s i ps.length) ++ [indexPage s i ps.length ps] := List.map_id _

/-- What a reader of the documents finds in them. -/
theorem contents_book (hs : s.OneLine) (hi : i.OneLine) (hmany : l.threshold < s.size) (hsize : 1 ≤ l.size)
    (hcount : partitionCount s.size l.size = ⌈(s.size : ℚ) / l.size⌉) :
    let ps := partitions s.tables l.size
    ∃ pages index, (documents s i l).map (·.map Page.ofDocument) = .ok (pages ++ [index]) ∧
      Book pages index (ps.map Partition.span) s.names ∧
      index.beginning "- **Relationships:**" =
        (ps.map fun p => s!"- **Relationships:** {(s.drawableWithin p.names).length} internal relationships") ∧
      index.beginning "|" = (if s.relationships = [] then [] else
        ["| Source table | Column(s) | Target table | Column(s) |",
          "|--------------|-----------|--------------|-----------|"]) ++ s.relationships.map relationshipRow := by
  intro ps
  exact ⟨_, _, read_documents hs hi hmany hsize hcount, book_partitions s i hsize hcount,
    filter_indexLines_counted s i _ ps, filter_indexLines_listed s i _ ps⟩

end Documents

end Report

end SchemaAtlas
