import Mathlib.Data.List.Chain
import SchemaAtlas.Proofs.Report.Pages

/-! Partitioned documents are a book. Each page leads to its neighbours and to the index, the index leads to
every page, and the pages go through the tables without a gap. -/

namespace SchemaAtlas.Report

open SchemaAtlas.Text

structure Span where
  first : ℕ
  last : ℕ
  count : ℕ
deriving DecidableEq, Repr

/-- Pages of tables with the names, and an index of the pages. -/
structure Book (pages : List Page) (index : Page) (spans : List Span) (names : List String) : Prop where
  filenames_nodup : ((pages ++ [index]).map (·.filename)).Nodup
  navigation : ∀ (k : ℕ) (hk : k < pages.length), pages[k].navigation =
    (if h : 0 < k then [⟨s!"Previous partition ({k})", pages[k - 1].filename⟩] else []) ++
      [⟨"Main index", index.filename⟩] ++
      (if h : k + 1 < pages.length then [⟨s!"Next partition ({k + 2})", pages[k + 1].filename⟩] else [])
  indexed : (index.beginning "### [").filterMap Link.inLine? =
    pages.mapIdx fun k p => ⟨s!"Partition {k + 1}", p.filename⟩
  ranges : pages.map (·.numbers "**Tables:**") = spans.map fun r => [[r.first, r.last, r.count]]
  ranges_indexed : index.numbers "- **Tables:**" = spans.map fun r => [r.first, r.last]
  counts_indexed : index.numbers "- **Count:**" = spans.map fun r => [r.count]
  count_eq : ∀ r ∈ spans, r.first ≤ r.last ∧ r.count = r.last - r.first + 1
  first_eq : ∀ r ∈ spans.head?, r.first = 1
  next_eq : spans.IsChain fun r r' => r'.first = r.last + 1
  last_eq : ∀ r ∈ spans.getLast?, r.last = names.length
  listed : pages.map (fun p => (p.beginning "### ").length) = spans.map (·.count)
  listed_flatMap : pages.flatMap (·.beginning "### ") = names.map ("### " ++ ·)

variable (s : Schema) (i : Imprint)

lemma partitionFilename_injective (baseName : String) : Function.Injective (partitionFilename baseName) := by
  intro m n h
  have hdigits : Nat.toDigits 10 m = Nat.toDigits 10 n := by
    simpa [partitionFilename, toString_text] using congrArg String.toList h
  calc m = Nat.ofDigitChars 10 (Nat.toDigits 10 m) 0 := Nat.ofDigitChars_ten_toDigits.symm
    _ = Nat.ofDigitChars 10 (Nat.toDigits 10 n) 0 := by rw [hdigits]
    _ = n := Nat.ofDigitChars_ten_toDigits

lemma partitionFilename_ne_index (baseName : String) (n : ℕ) :
    partitionFilename baseName n ≠ indexFilename baseName := by
  intro h
  have hchars := congrArg String.toList h
  simp [partitionFilename, indexFilename, toString_text] at hchars

def Partition.span (p : Partition) : Span := ⟨p.before + 1, p.last, p.tables.length⟩

variable {size : ℤ}

lemma nodup_filenames (total : ℤ) :
    (((partitions s.tables size).map (partitionPage s i total) ++
      [indexPage s i total (partitions s.tables size)]).map (·.filename)).Nodup := by
  have hnumbers : ((partitions s.tables size).map (·.number)).Nodup := by
    have hrange : (partitions s.tables size).map (·.number) =
        (List.range (partitionCount s.tables.length size).toNat).map (· + 1) := List.map_map ..
    rw [hrange]
    exact List.nodup_range.map (add_left_injective 1)
  have hpages : ((partitions s.tables size).map fun p => partitionFilename i.baseName p.number).Nodup := by
    have h := hnumbers.map (partitionFilename_injective i.baseName)
    rwa [List.map_map] at h
  have hindex : indexFilename i.baseName ∉
      (partitions s.tables size).map fun p => partitionFilename i.baseName p.number := by
    intro hmem
    obtain ⟨p, -, hp⟩ := List.mem_map.mp hmem
    exact partitionFilename_ne_index i.baseName p.number hp
  rw [List.map_append, List.map_map, List.map_singleton, ← List.concat_eq_append]
  exact hpages.concat hindex

lemma navigation_partitions {k : ℕ} {pages : List Page} {ps : List Partition}
    (hpages : pages = ps.map (partitionPage s i ps.length))
    (hnumber : ∀ (j : ℕ) (hj : j < ps.length), ps[j].number = j + 1) (hk : k < pages.length) :
    pages[k].navigation =
    (if h : 0 < k then [⟨s!"Previous partition ({k})", pages[k - 1].filename⟩] else []) ++
      [⟨"Main index", indexFilename i.baseName⟩] ++
      (if h : k + 1 < pages.length then [⟨s!"Next partition ({k + 2})", pages[k + 1].filename⟩] else []) := by
  subst hpages
  have hk' : k < ps.length := by simpa using hk
  have hfilename : ∀ (j : ℕ) (hj : j < ps.length),
      (partitionPage s i ps.length ps[j]).filename = partitionFilename i.baseName (j + 1) := by
    intro j hj
    rw [partitionPage, hnumber j hj]
  simp only [List.getElem_map, List.length_map, hfilename, navigation_partitionPage, links_linkLines,
    hnumber k hk']
  congr 2
  · by_cases hprevious : 0 < k
    · rw [if_pos (Nat.succ_lt_succ hprevious), dif_pos hprevious, Nat.sub_add_cancel hprevious,
        Nat.add_sub_cancel]
    · rw [if_neg (by omega), dif_neg hprevious]
  · exact propext Nat.cast_lt

theorem book_partitions (h₀ : 0 < size) (h : partitionCount s.size size = ⌈(s.size : ℚ) / size⌉) :
    let ps := partitions s.tables size
    Book (ps.map (partitionPage s i ps.length)) (indexPage s i ps.length ps) (ps.map Partition.span) s.names := by
  intro ps
  have hnumber : ∀ (k : ℕ) (hk : k < ps.length), ps[k].number = k + 1 := fun k hk => by
    rw [getElem_partitions]
  exact {
    filenames_nodup := nodup_filenames s i _
    navigation := fun k hk => navigation_partitions s i rfl hnumber hk
    indexed := by
      rw [links_indexPage]
      apply List.ext_getElem
      · simp
      · intro k _ _
        simp only [List.getElem_mapIdx, List.getElem_map, hnumber, partitionPage]
    ranges := by
      rw [List.map_map, List.map_map]
      exact List.map_congr_left fun p _ => numbers_partitionPage s i p _
    ranges_indexed := by
      rw [numbers_indexPage_tables, List.map_map]
      rfl
    counts_indexed := by
      rw [numbers_indexPage_count, List.map_map]
      rfl
    count_eq := by
      intro r hr
      obtain ⟨p, hp, rfl⟩ := List.mem_map.mp hr
      have hpos := List.length_pos_of_ne_nil (tables_ne_nil h₀ h hp)
      simp only [Partition.span, Partition.last]
      omega
    first_eq := by
      intro r hr
      rw [List.head?_map] at hr
      obtain ⟨p, hp, rfl⟩ := Option.mem_map.mp hr
      rw [List.head?_eq_getElem?] at hp
      obtain ⟨h₀, rfl⟩ := List.getElem?_eq_some_iff.mp hp
      simp [ps, getElem_partitions, Partition.span]
    next_eq := by
      rw [List.isChain_map]
      exact (isChain_partitions h₀ h).imp fun p q hpq => congrArg (· + 1) hpq
    last_eq := by
      intro r hr
      rw [List.getLast?_map] at hr
      obtain ⟨p, hp, rfl⟩ := Option.mem_map.mp hr
      rw [Schema.names, List.length_map]
      exact last_getLast h₀ h hp
    listed := by
      rw [List.map_map, List.map_map]
      apply List.map_congr_left
      intro p _
      change ((partitionLines s i _ p).filter (begins "### ")).length = _
      rw [filter_partitionLines_headings, List.length_map, Partition.names, List.length_map]
      rfl
    listed_flatMap := by
      have hheadings : ∀ p ∈ ps, (partitionPage s i ps.length p).beginning "### " = p.names.map ("### " ++ ·) :=
        fun p _ => filter_partitionLines_headings s i _ p
      have hnames : ps.flatMap (·.names) = s.names := by
        rw [Schema.names, ← tables_partitions h₀ h, List.map_flatMap]
        rfl
      rw [List.flatMap_map, List.flatMap_congr hheadings, ← List.map_flatMap, hnames] }

lemma documents_eq_pages {l : Limits} (hmany : l.threshold < s.size) (hsize : 1 ≤ l.size)
    (hcount : partitionCount s.size l.size = ⌈(s.size : ℚ) / l.size⌉) :
    let ps := partitions s.tables l.size
    documents s i l =
      .ok ((ps.map (partitionPage s i ps.length) ++ [indexPage s i ps.length ps]).map Page.document) := by
  intro ps
  have h₀ : 0 < l.size := hsize
  have hlength : (ps.length : ℤ) = partitionCount s.size l.size := length_partitions h₀ hcount
  rw [documents, if_neg (not_le.mpr hmany), if_neg h₀.ne', partitionedDocuments, List.map_append, List.map_map,
    ← hlength]
  rfl

theorem documents_book (s : Schema) (i : Imprint) (l : Limits) (hmany : l.threshold < s.size)
    (hsize : 1 ≤ l.size) (hcount : partitionCount s.size l.size = ⌈(s.size : ℚ) / l.size⌉) :
    let ps := partitions s.tables l.size
    let pages := ps.map (partitionPage s i ps.length)
    let index := indexPage s i ps.length ps
    documents s i l = .ok ((pages ++ [index]).map Page.document) ∧
      (pages.length : ℤ) = ⌈(s.size : ℚ) / l.size⌉ ∧
      Book pages index (ps.map Partition.span) s.names := by
  intro ps pages index
  have h₀ : 0 < l.size := hsize
  have hlength : (ps.length : ℤ) = partitionCount s.size l.size := length_partitions h₀ hcount
  refine ⟨documents_eq_pages s i hmany hsize hcount, ?_, book_partitions s i h₀ hcount⟩
  rw [List.length_map, hlength, hcount]

def fiveTables : Schema :=
  ⟨["A", "B", "C", "D", "E"].map fun name => ⟨name, [⟨"id", "NUMBER", true, false⟩], []⟩,
    [⟨"A", ["b"], "E", ["id"]⟩]⟩

theorem documents_book_fiveTables :
    let i : Imprint := ⟨"shop](1)", "shop.sql", ⟨2024, 5, 1, 9, 30, 0⟩⟩
    let ps := partitions fiveTables.tables 2
    let pages := ps.map (partitionPage fiveTables i ps.length)
    let index := indexPage fiveTables i ps.length ps
    ps.map Partition.span = [⟨1, 2, 2⟩, ⟨3, 4, 2⟩, ⟨5, 5, 1⟩] ∧
      pages.map Page.navigation =
        [[⟨"Main index", "shop](1)_index.md"⟩, ⟨"Next partition (2)", "shop](1)_part_2.md"⟩],
          [⟨"Previous partition (1)", "shop](1)_part_1.md"⟩, ⟨"Main index", "shop](1)_index.md"⟩,
            ⟨"Next partition (3)", "shop](1)_part_3.md"⟩],
          [⟨"Previous partition (2)", "shop](1)_part_2.md"⟩, ⟨"Main index", "shop](1)_index.md"⟩]] ∧
      documents fiveTables i ⟨2, 2⟩ = .ok ((pages ++ [index]).map Page.document) ∧
      (pages.length : ℤ) = ⌈(fiveTables.size : ℚ) / (2 : ℤ)⌉ ∧
      Book pages index (ps.map Partition.span) fiveTables.names := by
  have hcount : partitionCount fiveTables.size 2 = ⌈(fiveTables.size : ℚ) / (2 : ℤ)⌉ :=
    partitionCount_eq_ceil (by decide) (by decide +kernel)
  exact ⟨by decide +kernel, by decide +kernel,
    documents_book fiveTables _ ⟨2, 2⟩ (by decide) (by decide) hcount⟩

end SchemaAtlas.Report
