import SchemaAtlas.Proofs.Schema.OfDump
import SchemaAtlas.Proofs.Text.Lines
import SchemaAtlas.Report.Partition

/-! The last document of a schema lists the foreign keys behind its last heading. Names hold none of the
marks that a row is made of, so that every key is read back from its row, whatever the documents and
their source are called. -/

namespace SchemaAtlas

open SchemaAtlas.Text

namespace Report

def nameIn (cell : List Char) : String := String.ofList (cell.filter (· != ' '))

def namesIn (cell : List Char) : List String := (cutAt ',' cell).map nameIn

def keyOfCells? : List (List Char) → Option ForeignKey
  | [_, source, sourceColumns, target, targetColumns, _] =>
    some ⟨nameIn source, namesIn sourceColumns, nameIn target, namesIn targetColumns⟩
  | _ => none

def keyOfRow? (line : List Char) : Option ForeignKey := keyOfCells? (cutAt '|' line)

def keysIn (content : String) : List ForeignKey :=
  ((cutAt '\n' (behindLast '#' content.toList)).filterMap keyOfRow?).drop 2

def keysOf (ds : List Document) : List ForeignKey := (ds.getLast?.map (keysIn ·.content)).getD []

lemma filter_name {name : String} (h : Name.Clean name) :
    name.toList.filter (· != ' ') = name.toList := by
  apply List.filter_eq_self.mpr
  intro c hc
  simpa using ne_of_mem_of_not_mem hc (h.not_mem (by decide))

def Spaces (x : List Char) : Prop := ∀ c ∈ x, c = ' '

instance (x : List Char) : Decidable (Spaces x) := List.decidableBAll _ x

lemma Spaces.not_mem {x : List Char} (hx : Spaces x) {c : Char} (hc : c ≠ ' ') : c ∉ x :=
  fun hm => hc (hx c hm)

lemma Spaces.filter_eq_nil {x : List Char} (hx : Spaces x) : x.filter (· != ' ') = [] :=
  List.filter_eq_nil_iff.mpr fun c hc => by simp [hx c hc]

lemma nameIn_spaced {name : String} (h : Name.Clean name) {x y : List Char} (hx : Spaces x) (hy : Spaces y) :
    nameIn (x ++ (name.toList ++ y)) = name := by
  rw [nameIn, List.filter_append, List.filter_append, hx.filter_eq_nil, filter_name h, hy.filter_eq_nil,
    List.nil_append, List.append_nil, String.ofList_toList]

lemma namesIn_spaced {names : List String} (hne : names ≠ []) (h : ∀ name ∈ names, Name.Clean name)
    {x y : List Char} (hx : Spaces x) (hy : Spaces y) : namesIn (x ++ ((commas names).toList ++ y)) = names := by
  have hnames : ∀ name ∈ names, ',' ∉ name.toList ∧
      ∀ x y, Spaces x → Spaces y → nameIn (x ++ (name.toList ++ y)) = name := fun name hname =>
    ⟨(h name hname).not_mem (by decide), fun _ _ => nameIn_spaced (h name hname)⟩
  have hseparator : ", ".toList = [] ++ ',' :: [' '] := by decide
  have hread := map_cutAt_joinWith hseparator (fun x hx => hx.not_mem (by decide)) (by decide) (by decide)
    hne hnames hx hy
  rw [namesIn, commas, hread, List.map_id']

def inCell (c : Char) : Bool := Name.isNameChar c || c == ',' || c == ' '

def CellText (text : String) : Prop := ∀ c ∈ text.toList, inCell c = true

instance (text : String) : Decidable (CellText text) := List.decidableBAll _ text.toList

lemma cellText_of_clean {name : String} (h : Name.Clean name) : CellText name :=
  fun c hc => by simp [inCell, h c hc]

lemma cellText_commas {names : List String} (h : ∀ name ∈ names, CellText name) :
    CellText (commas names) :=
  forall_mem_commas (by decide) (by decide) h

lemma cellText_names {names : List String} (h : ∀ name ∈ names, Name.Clean name) :
    CellText (commas names) :=
  cellText_commas fun name hm => cellText_of_clean (h name hm)

lemma CellText.not_mem {text : String} (h : CellText text) {c : Char} (hc : inCell c = false) :
    c ∉ text.toList := by
  intro hm
  rw [h c hm] at hc
  exact Bool.false_ne_true hc.symm

def rowText (cells : List String) : List Char :=
  '|' :: cells.flatMap fun cell => ' ' :: (cell.toList ++ [' ', '|'])

lemma cutAt_rowText {cells : List String} (h : ∀ cell ∈ cells, CellText cell) :
    cutAt '|' (rowText cells) = [] :: (cells.map fun cell => ' ' :: (cell.toList ++ [' '])) ++ [[]] := by
  have hcells : cutAt '|' (cells.flatMap fun cell => ' ' :: (cell.toList ++ [' ', '|'])) =
      (cells.map fun cell => ' ' :: (cell.toList ++ [' '])) ++ [[]] := by
    induction cells with
    | nil => rfl
    | cons cell cells ih =>
      obtain ⟨hcell, hcells⟩ := List.forall_mem_cons.mp h
      have hbar : '|' ∉ ' ' :: (cell.toList ++ [' ']) := by simp [hcell.not_mem (c := '|') (by decide)]
      have hsplit (s : List Char) : ' ' :: (cell.toList ++ [' ', '|']) ++ s =
          (' ' :: (cell.toList ++ [' '])) ++ '|' :: s := by simp
      rw [List.flatMap_cons, hsplit, cutAt_append hbar, ih hcells]
      rfl
  rw [rowText, cutAt_self, hcells]
  rfl

lemma not_mem_rowText {cells : List String} (h : ∀ cell ∈ cells, CellText cell) {c : Char}
    (hc : inCell c = false) (hbar : c ≠ '|') : c ∉ rowText cells := by
  have hblank : c ≠ ' ' := by
    rintro rfl
    exact absurd hc (by decide)
  simp only [rowText, List.mem_cons, List.mem_flatMap, List.mem_append, List.not_mem_nil, or_false,
    hbar, hblank, false_or, or_false, not_exists, not_and]
  exact fun cell hm => (h cell hm).not_mem hc

lemma toList_relationshipRow (k : ForeignKey) : (relationshipRow k).toList =
    rowText [k.source, commas k.sourceColumns, k.target, commas k.targetColumns] := by
  have hrow : relationshipRow k = "| " ++ k.source ++ " | " ++ commas k.sourceColumns ++ " | " ++
    k.target ++ " | " ++ commas k.targetColumns ++ " |" := rfl
  simp [hrow, rowText]

lemma cellText_relationshipRow {k : ForeignKey} (h : k.Sound) :
    ∀ cell ∈ [k.source, commas k.sourceColumns, k.target, commas k.targetColumns], CellText cell := by
  simp [cellText_of_clean h.source_clean, cellText_names h.sourceColumns_clean,
    cellText_of_clean h.target_clean, cellText_names h.targetColumns_clean]

lemma keyOfRow?_relationshipRow {k : ForeignKey} (h : k.Sound) :
    keyOfRow? (relationshipRow k).toList = some k := by
  have hspace : Spaces [' '] := by decide
  have hsource := nameIn_spaced h.source_clean hspace hspace
  have hsourceColumns := namesIn_spaced h.sourceColumns_ne_nil h.sourceColumns_clean hspace hspace
  have htarget := nameIn_spaced h.target_clean hspace hspace
  have htargetColumns := namesIn_spaced h.targetColumns_ne_nil h.targetColumns_clean hspace hspace
  rw [List.singleton_append] at hsource hsourceColumns htarget htargetColumns
  rw [keyOfRow?, toList_relationshipRow, cutAt_rowText (cellText_relationshipRow h)]
  change some (ForeignKey.mk _ _ _ _) = some k
  rw [hsource, hsourceColumns, htarget, htargetColumns]

lemma toList_columnRow (c : Column) : (columnRow c).toList = rowText [c.name, c.type, commas c.marks] := by
  have hrow : columnRow c = "| " ++ c.name ++ " | " ++ c.type ++ " | " ++ commas c.marks ++ " |" := rfl
  simp [hrow, rowText]

lemma cellText_columnRow {c : Column} (h : c.Sound) :
    ∀ cell ∈ [c.name, c.type, commas c.marks], CellText cell := by
  have hmarks : ∀ mark ∈ c.marks, CellText mark := by
    intro mark hm
    have hmark : mark ∈ ["PK", "NOT NULL"] := by
      rcases List.mem_append.mp hm with hm | hm <;> split at hm <;> simp_all
    exact (by decide : ∀ mark ∈ ["PK", "NOT NULL"], CellText mark) mark hmark
  simp [cellText_of_clean h.name_clean, cellText_of_clean h.type_clean, cellText_commas hmarks]

lemma keyOfRow?_columnRow {c : Column} (h : c.Sound) : keyOfRow? (columnRow c).toList = none := by
  rw [keyOfRow?, toList_columnRow, cutAt_rowText (cellText_columnRow h)]
  rfl

lemma keyOfRow?_of_not_mem {line : List Char} (h : '|' ∉ line) : keyOfRow? line = none := by
  rw [keyOfRow?, cutAt_of_not_mem h]
  rfl

def rows (lines : List String) : List ForeignKey := lines.filterMap fun line => keyOfRow? line.toList

def Plain (line : String) : Prop := '#' ∉ line.toList ∧ '\n' ∉ line.toList

instance (line : String) : Decidable (Plain line) :=
  inferInstanceAs (Decidable ('#' ∉ line.toList ∧ '\n' ∉ line.toList))

lemma rows_append (lines others : List String) : rows (lines ++ others) = rows lines ++ rows others :=
  List.filterMap_append

lemma rows_eq_nil {lines : List String} (h : ∀ line ∈ lines, '|' ∉ line.toList) : rows lines = [] :=
  List.filterMap_eq_nil_iff.mpr fun line hm => keyOfRow?_of_not_mem (h line hm)

lemma plain_of_rowText {cells : List String} (h : ∀ cell ∈ cells, CellText cell) {line : String}
    (hline : line.toList = rowText cells) : Plain line := by
  rw [Plain, hline]
  exact ⟨not_mem_rowText h (by decide) (by decide), not_mem_rowText h (by decide) (by decide)⟩

lemma keysIn_unlines {before after : List String} {heading : String} {x y : List Char}
    (hheading : heading.toList = x ++ '#' :: y) (hy : '#' ∉ y ∧ '\n' ∉ y ∧ '|' ∉ y)
    (hafter : ∀ line ∈ after, Plain line) :
    keysIn (unlines (before ++ heading :: after)) = (rows after).drop 2 := by
  obtain ⟨hmark, hend, hbar⟩ := hy
  have hbehind : '#' ∉ y ++ '\n' :: (unlines after).toList := by
    simp [hmark, not_mem_unlines (c := '#') (by decide) fun line hm => (hafter line hm).1]
  have htext : (unlines (before ++ heading :: after)).toList =
      ((unlines before).toList ++ x) ++ '#' :: (y ++ '\n' :: (unlines after).toList) := by
    rw [unlines_append, String.toList_append, toList_unlines_cons, hheading]
    simp
  have hlast : [([] : List Char)].filterMap keyOfRow? = [] := by decide
  rw [keysIn, htext, behindLast_append hbehind, cutAt_append hend,
    cutAt_unlines fun line hm => (hafter line hm).2, List.filterMap_cons, keyOfRow?_of_not_mem hbar,
    List.filterMap_append, hlast, List.append_nil, List.filterMap_map]
  rfl

lemma rows_map_relationshipRow {ks : List ForeignKey} (h : ∀ k ∈ ks, k.Sound) :
    rows (ks.map relationshipRow) = ks := by
  have hrow : ∀ k ∈ ks, keyOfRow? (relationshipRow k).toList = some k := fun k hk =>
    keyOfRow?_relationshipRow (h k hk)
  rw [rows, List.filterMap_map, Function.comp_def, List.filterMap_congr hrow, List.filterMap_some]

section Documents

variable {before : List String} {f : String} (hf : Plain f ∧ '|' ∉ f.toList)

include hf in
lemma plain_footer : ∀ line ∈ footer f, Plain line := by
  simp only [footer, List.forall_mem_cons]
  exact ⟨by decide, by decide, hf.1, List.forall_mem_nil _⟩

include hf in
lemma rows_footer : rows (footer f) = [] := by
  apply rows_eq_nil
  simp only [footer, List.forall_mem_cons]
  exact ⟨by decide, by decide, hf.2, List.forall_mem_nil _⟩

include hf in
lemma keysIn_listing {ks : List ForeignKey} (h : ∀ k ∈ ks, k.Sound) {heading : String} {x y : List Char}
    (hheading : heading.toList = x ++ '#' :: y) (hy : '#' ∉ y ∧ '\n' ∉ y ∧ '|' ∉ y) :
    keysIn (unlines (before ++ heading :: "" :: (relationshipListing ks ++ footer f))) = ks := by
  -- the titles of the columns and the rule below them read as two keys
  let titles := ["| Source table | Column(s) | Target table | Column(s) |",
    "|--------------|-----------|--------------|-----------|"]
  have htitles : (rows titles).length = 2 := by decide
  have hplain : ∀ line ∈ "" :: (relationshipListing ks ++ footer f), Plain line := by
    simp only [relationshipListing, List.forall_mem_cons, List.forall_mem_append, List.forall_mem_map]
    refine ⟨by decide, ⟨⟨?_, ?_⟩, by decide⟩, plain_footer hf⟩
    · exact ⟨by decide, by decide, List.forall_mem_nil _⟩
    · exact fun k hk => plain_of_rowText (cellText_relationshipRow (h k hk)) (toList_relationshipRow k)
  have hlisting : rows ("" :: (relationshipListing ks ++ footer f)) = rows titles ++ ks := by
    have hempty : rows [""] = [] := by decide
    rw [← List.singleton_append, rows_append, rows_append, rows_footer hf, relationshipListing, rows_append,
      rows_append, rows_map_relationshipRow h, hempty, List.append_nil, List.append_nil, List.nil_append]
  rw [keysIn_unlines hheading hy hplain, hlisting, List.drop_left' htitles]

include hf in
lemma keysIn_footer {heading : String} {x y : List Char}
    (hheading : heading.toList = x ++ '#' :: y) (hy : '#' ∉ y ∧ '\n' ∉ y ∧ '|' ∉ y) :
    keysIn (unlines (before ++ heading :: "" :: footer f)) = [] := by
  have hplain : ∀ line ∈ "" :: footer f, Plain line :=
    List.forall_mem_cons.mpr ⟨by decide, plain_footer hf⟩
  have hempty : rows [""] = [] := by decide
  rw [keysIn_unlines hheading hy hplain, ← List.singleton_append, rows_append, rows_footer hf, hempty]
  rfl

include hf in
lemma keysIn_tables {ts : List Table} (h : ∀ t ∈ ts, t.Sound) :
    keysIn (unlines (before ++ "## Tables" :: "" :: (ts.flatMap tableListing ++ footer f))) = [] := by
  rcases List.eq_nil_or_concat ts with rfl | ⟨ts, t, rfl⟩
  · exact keysIn_footer hf (x := ['#']) (y := " Tables".toList) rfl (by decide)
  · -- the last heading is that of the last table
    have ht : t.Sound := h t (by simp)
    let after := ["", "| Column | Type | Characteristics |", "|--------|------|-----------------|"] ++
      t.columns.map columnRow ++ [""] ++ footer f
    have hlines : before ++ "## Tables" :: "" :: ((ts.concat t).flatMap tableListing ++ footer f) =
        (before ++ "## Tables" :: "" :: ts.flatMap tableListing) ++ s!"### {t.name}" :: after := by
      simp [tableListing, after]
    have hheading : s!"### {t.name}".toList = "##".toList ++ '#' :: ' ' :: t.name.toList := by
      have hname : s!"### {t.name}" = "### " ++ t.name := rfl
      simp [hname]
    have hname {c : Char} (hc : Name.isNameChar c = false) (hblank : c ≠ ' ') : c ∉ ' ' :: t.name.toList := by
      simp [hblank, ht.name_clean.not_mem hc]
    have hplain : ∀ line ∈ after, Plain line := by
      simp only [after, List.forall_mem_append, List.forall_mem_map]
      refine ⟨⟨⟨by decide, fun c hc => ?_⟩, by decide⟩, plain_footer hf⟩
      exact plain_of_rowText (cellText_columnRow (ht.columns_sound c hc)) (toList_columnRow c)
    have hcolumns : rows (t.columns.map columnRow) = [] := by
      rw [rows, List.filterMap_map]
      exact List.filterMap_eq_nil_iff.mpr fun c hc => keyOfRow?_columnRow (ht.columns_sound c hc)
    have hrows : rows after = [] := by
      rw [rows_append, rows_append, rows_append, hcolumns, rows_footer hf]
      decide
    rw [hlines, keysIn_unlines hheading ⟨hname (by decide) (by decide), hname (by decide) (by decide),
      hname (by decide) (by decide)⟩ hplain, hrows]
    rfl

end Documents

variable {s : Schema}

lemma keysIn_schemaLines (h : s.WellFormed) (i : Imprint) :
    keysIn (unlines (schemaLines s i)) = s.relationships := by
  have hf : Plain "*Generated automatically by sql-dump-der*" ∧
      '|' ∉ "*Generated automatically by sql-dump-der*".toList := by decide
  by_cases hnone : s.relationships = []
  · have hsection : relationshipSection "## Relationships" s.relationships = [] := by
      rw [hnone]
      rfl
    rw [schemaLines, hsection, List.append_nil, List.append_assoc, List.append_assoc, hnone]
    exact keysIn_tables hf h.tables_sound
  · have hsection : relationshipSection "## Relationships" s.relationships =
        "## Relationships" :: "" :: relationshipListing s.relationships := by
      rw [relationshipSection, if_neg (by simpa using hnone)]
      rfl
    rw [schemaLines, hsection, List.append_assoc]
    exact keysIn_listing hf h.relationships_sound (x := ['#']) (y := " Relationships".toList) rfl (by decide)

lemma keysIn_indexLines (h : s.WellFormed) (i : Imprint) (total : ℤ) (ps : List Partition) :
    keysIn (unlines (indexLines s i total ps)) = s.relationships := by
  have hf : Plain "*Index generated automatically by sql-dump-der*" ∧
      '|' ∉ "*Index generated automatically by sql-dump-der*".toList := by decide
  have hheading : "### All relationships".toList = "##".toList ++ '#' :: " All relationships".toList := rfl
  have hopening : ["## Full summary", "", "### All relationships", ""] =
      ["## Full summary", ""] ++ ["### All relationships", ""] := rfl
  rw [indexLines, hopening, ← List.append_assoc, List.append_assoc, List.append_assoc]
  by_cases hnone : s.relationships = []
  · rw [hnone]
    exact keysIn_footer hf hheading (by decide)
  · rw [if_neg (by simpa using hnone)]
    exact keysIn_listing hf h.relationships_sound hheading (by decide)

lemma keysOf_concat (ds : List Document) (d : Document) : keysOf (ds ++ [d]) = keysIn d.content := by
  simp [keysOf]

theorem keysOf_documents (h : s.WellFormed) {i : Imprint} {l : Limits} {ds : List Document}
    (hds : documents s i l = .ok ds) : keysOf ds = s.relationships := by
  rw [documents] at hds
  split at hds
  · obtain rfl := Except.ok.inj hds
    rw [← List.nil_append [schemaDocument s i], keysOf_concat, schemaDocument, keysIn_schemaLines h]
  · split at hds
    · cases hds
    · obtain rfl := Except.ok.inj hds
      rw [partitionedDocuments, keysOf_concat, keysIn_indexLines h]

lemma exists_documents (s : Schema) (i : Imprint) {l : Limits} (hsize : 1 ≤ l.size) :
    ∃ ds, documents s i l = .ok ds := by
  unfold documents
  split
  · exact ⟨_, rfl⟩
  · rw [if_neg (by omega)]
    exact ⟨_, rfl⟩

/-- Two dumps with the same documents have the same foreign keys in the same order, the ones between
partitions and the ones that lead nowhere among them. -/
theorem relationships_of_documents_eq {a b : List Char} {i : Imprint} {l : Limits} (hsize : 1 ≤ l.size)
    (h : documents (Schema.ofDump a) i l = documents (Schema.ofDump b) i l) :
    (Schema.ofDump a).relationships = (Schema.ofDump b).relationships := by
  have hsound (sql : List Char) : (Schema.ofDump sql).WellFormed :=
    Schema.wellFormed_ofDeclarations (Dump.sound_declarations sql)
  obtain ⟨ds, hds⟩ := exists_documents (Schema.ofDump a) i hsize
  calc (Schema.ofDump a).relationships
      = keysOf ds := (keysOf_documents (hsound a) hds).symm
    _ = (Schema.ofDump b).relationships := keysOf_documents (hsound b) (h.symm.trans hds)

def plainShop : List Char :=
  "CREATE TABLE A (X N,FOREIGN KEY (X) REFERENCES B (Y,[]));CREATE TABLE B (Y N);".toList

def quotedShop : List Char :=
  "create table \"A\" (foreign key (\"X\") references B (Y,),X n);create table B (Y n);".toList

def smallShop : Schema where
  tables := [⟨"A", [⟨"X", "OTHER", false, false⟩], []⟩, ⟨"B", [⟨"Y", "OTHER", false, false⟩], []⟩]
  relationships := [⟨"A", ["X"], "B", ["Y", ""]⟩]

theorem relationships_of_documents_eq_quoted :
    let i : Imprint := ⟨"shop", "shop.sql", ⟨2024, 5, 1, 9, 30, 0⟩⟩
    plainShop ≠ quotedShop ∧
      documents (Schema.ofDump plainShop) i ⟨1, 1⟩ = documents (Schema.ofDump quotedShop) i ⟨1, 1⟩ ∧
      (Schema.ofDump plainShop).relationships = (Schema.ofDump quotedShop).relationships ∧
      (Schema.ofDump plainShop).relationships = [⟨"A", ["X"], "B", ["Y", ""]⟩] := by
  intro i
  have hplain : Schema.ofDump plainShop = smallShop := by decide +kernel
  have hquoted : Schema.ofDump quotedShop = smallShop := by decide +kernel
  have hdocuments : documents (Schema.ofDump plainShop) i ⟨1, 1⟩ =
      documents (Schema.ofDump quotedShop) i ⟨1, 1⟩ := by rw [hplain, hquoted]
  have hrelationships : (Schema.ofDump plainShop).relationships = (Schema.ofDump quotedShop).relationships :=
    relationships_of_documents_eq (by decide) hdocuments
  exact ⟨by decide +kernel, hdocuments, hrelationships, congrArg Schema.relationships hplain⟩

end Report

end SchemaAtlas
