import SchemaAtlas.Proofs.Ddl.Extraction

/-! The text of extracted sections. A search that passes over titles and blanks finds in it what it finds
in the statements of the sections, one after the other. -/

namespace SchemaAtlas.Extract

open SchemaAtlas.Text SchemaAtlas.Ddl
open AddedKey (Begins)
open Statement (Fresh)

def countText (n : Nat) : List Char :=
  " (".toList ++ ((Nat.repr n).toList ++ " statements)\n\n".toList)

def title (label : String) (n : Nat) : List Char :=
  "-- ".toList ++ (label.toList ++ countText n)

def blankLine : List Char := ['\n', '\n']

lemma toList_text_section (s : Section) : s.text.toList =
    title s.label s.statements.length ++ blankLine.intercalate (s.statements.map String.toList) := by
  have hblank : "\n\n".toList = blankLine := by decide
  have htitle : s!"-- {s.label} ({s.statements.length} statements)\n\n" =
      "-- " ++ s.label ++ " (" ++ Nat.repr s.statements.length ++ " statements)\n\n" := rfl
  rw [Section.text, joinWith, String.toList_append, String.toList_intercalate, hblank, htitle, title,
    countText]
  simp only [String.toList_append, List.append_assoc]

lemma toList_text {sections : List Section} {s : Section} {ss : List Section}
    (h : sections.filter (!·.statements.isEmpty) = s :: ss) : (text sections).toList =
      blankLine.intercalate ((s :: ss).map fun s => s.text.toList) ++ ['\n'] := by
  have hblank : "\n\n".toList = blankLine := by decide
  have hline : "\n".toList = ['\n'] := by decide
  rw [text, h]
  simp only [joinWith, String.toList_append, String.toList_intercalate, List.map_map, hblank, hline]
  rfl

def headed (lead : List Char) : List (List Char) → List (List Char)
  | [] => []
  | x :: xs => (lead ++ x) :: xs

def Section.pieces (s : Section) : List (List Char) :=
  headed (title s.label s.statements.length) (s.statements.map String.toList)

lemma Section.pieces_eq_nil {s : Section} : s.pieces = [] ↔ s.statements = [] := by
  cases hs : s.statements <;> simp [pieces, headed, hs]

lemma Section.toList_text {s : Section} (h : s.statements ≠ []) :
    s.text.toList = blankLine.intercalate s.pieces := by
  have hlead (lead x : List Char) (xs : List (List Char)) :
      lead ++ blankLine.intercalate (x :: xs) = blankLine.intercalate ((lead ++ x) :: xs) := by
    cases xs <;> simp
  obtain ⟨t, ts, hs⟩ := List.exists_cons_of_ne_nil h
  rw [toList_text_section, pieces, hs, List.map_cons, headed, hlead]

lemma digit_form {n : Nat} {c : Char} (h : c ∈ (Nat.repr n).toList) :
    isBlank c = false ∧ (caseless c).isUpper = false := by
  have hdigits : ∀ i < 10, isBlank (Nat.digitChar i) = false ∧
      (caseless (Nat.digitChar i)).isUpper = false := by decide
  rw [Nat.repr, String.toList_ofList] at h
  have hdigit := Char.isDigit_iff_toNat.mp (Nat.isDigit_of_mem_toDigits (by omega) (by omega) h)
  obtain ⟨hlow, hhigh⟩ : 48 ≤ c.toNat ∧ c.toNat ≤ 57 := hdigit
  have hc : Nat.digitChar (c.toNat - 48) = c := by
    apply Char.toNat_inj.mp
    rw [Nat.toNat_digitChar_of_lt_ten (by omega)]
    omega
  have hform := hdigits (c.toNat - 48) (by omega)
  rwa [hc] at hform

variable {α : Type} {F : List Char → List α}

structure Skims (F : List Char → List α) : Prop where
  nil : F [] = []
  blanks : ∀ b, Blanks b → ∀ y, F (b ++ y) = F y

structure Closed (F : List Char → List α) (x : List Char) : Prop where
  ne_nil : x ≠ []
  begins : Begins x
  append : ∀ y, Fresh y → F (x ++ y) = F x ++ F y

lemma Skims.closed_of_append (h : Skims F) {x : List Char} {out : List α} (hne : x ≠ []) (hb : Begins x)
    (hx : ∀ y, F (x ++ y) = out ++ F y) : Closed F x ∧ F x = out := by
  have hout : F x = out := by
    have hend := hx []
    rwa [List.append_nil, h.nil, List.append_nil] at hend
  exact ⟨⟨hne, hb, fun y _ => by rw [hx, hout]⟩, hout⟩

lemma fresh_gap_append {b y : List Char} (hb : Gap b) (hy : Begins y) : Fresh (b ++ y) := by
  refine ⟨bars_append hb.1 fun c hc => by simp [hb.2 c hc], ?_⟩
  rw [skipBlanks_append hb.2 hy.bars]
  exact fun c hc => (Bool.or_eq_false_iff.mp (hy c hc)).2

lemma Skims.closed_intercalate (h : Skims F) {b : List Char} (hb : Gap b) {xs : List (List Char)}
    (hne : xs ≠ []) (hx : ∀ x ∈ xs, Closed F x) :
    Closed F (b.intercalate xs) ∧ F (b.intercalate xs) = xs.flatMap F := by
  cases xs with
  | nil => exact absurd rfl hne
  | cons x xs =>
    induction xs generalizing x with
    | nil => simpa using hx
    | cons x' xs ih =>
      obtain ⟨hx, hxs⟩ := List.forall_mem_cons.mp hx
      obtain ⟨hrest, hfound⟩ := ih x' (by simp) hxs
      -- the rest begins as its first piece does, so that the gap in front of it is fresh
      have hstep (y : List Char) : F (x ++ (b ++ (b.intercalate (x' :: xs) ++ y))) =
          F x ++ F (b.intercalate (x' :: xs) ++ y) := by
        rw [hx.append _ (fresh_gap_append hb (hrest.begins.append hrest.ne_nil y)), h.blanks b hb.2]
      have hwhole : F (x ++ (b ++ b.intercalate (x' :: xs))) = F x ++ F (b.intercalate (x' :: xs)) := by
        simpa using hstep []
      rw [List.intercalate_cons_cons, List.append_assoc]
      refine ⟨⟨by simp [hx.ne_nil], hx.begins.append hx.ne_nil _, fun y hy => ?_⟩, ?_⟩
      · rw [List.append_assoc, List.append_assoc, hstep, hrest.append y hy, hwhole, List.append_assoc]
      · rw [hwhole, hfound]
        rfl

lemma Skims.intercalate (h : Skims F) {b : List Char} (hb : Gap b) {xs : List (List Char)}
    (hx : ∀ x ∈ xs, Closed F x) : F (b.intercalate xs) = xs.flatMap F := by
  by_cases hne : xs = []
  · rw [hne]
    exact h.nil
  · exact (h.closed_intercalate hb hne hx).2

theorem Skims.text_pieces (h : Skims F) {sections : List Section}
    (hs : ∀ s ∈ sections, ∀ x ∈ s.pieces, Closed F x) :
    F (text sections).toList = sections.flatMap fun s => s.pieces.flatMap F := by
  have hfilled : (sections.filter (!·.statements.isEmpty)).flatMap (fun s => s.pieces.flatMap F) =
      sections.flatMap fun s => s.pieces.flatMap F := by
    clear hs
    induction sections with
    | nil => rfl
    | cons s ss ih =>
      by_cases hs : s.statements = []
      · simp [hs, ih, Section.pieces_eq_nil.mpr hs]
      · simp [hs, ih]
  have hclosed : ∀ s ∈ sections.filter (!·.statements.isEmpty), Closed F s.text.toList ∧
      F s.text.toList = s.pieces.flatMap F := by
    intro s hm
    obtain ⟨hm, hne⟩ := List.mem_filter.mp hm
    have hne : s.statements ≠ [] := by simpa using hne
    rw [Section.toList_text hne]
    exact h.closed_intercalate (by decide) (Section.pieces_eq_nil.not.mpr hne) (hs s hm)
  -- sections without statements leave no trace in the text
  rw [← hfilled]
  cases hsections : sections.filter (!·.statements.isEmpty) with
  | nil =>
    rw [text, hsections]
    exact h.nil
  | cons s ss =>
    rw [hsections] at hclosed
    have hall : ∀ x ∈ (s :: ss).map fun s => s.text.toList, Closed F x := by
      intro x hx
      obtain ⟨s', hm, rfl⟩ := List.mem_map.mp hx
      exact (hclosed s' hm).1
    obtain ⟨hwhole, hfound⟩ := h.closed_intercalate (b := blankLine) (by decide) (by simp) hall
    have hend : F ['\n'] = [] := (h.blanks ['\n'] (by decide) []).trans h.nil
    rw [toList_text hsections, hwhole.append _ (by decide), hend, List.append_nil, hfound, List.flatMap_map]
    exact List.flatMap_congr fun s' hm => (hclosed s' hm).2

def SkipsTitles (F : List Char → List α) : Prop :=
  ∀ (k : Kind) (n : Nat) (y : List Char), F (title k.label n ++ y) = F y

lemma begins_title (label : String) (n : Nat) : Begins (title label n) := by
  have hdashes : Begins "-- ".toList := (bars_cons _ _ _).mpr (by decide)
  exact hdashes.append (by decide) _

lemma title_ne_nil (label : String) (n : Nat) : title label n ≠ [] := by simp [title]

lemma Closed.titled {x : List Char} (hx : Closed F x) (ht : SkipsTitles F) (k : Kind) (n : Nat) :
    Closed F (title k.label n ++ x) where
  ne_nil := by simp [title_ne_nil]
  begins := (begins_title k.label n).append (title_ne_nil k.label n) x
  append y hy := by rw [List.append_assoc, ht, ht, hx.append y hy]

theorem Skims.text_sections (h : Skims F) (ht : SkipsTitles F) {sections : List Section}
    (hk : ∀ s ∈ sections, ∃ k : Kind, s.label = k.label)
    (hs : ∀ s ∈ sections, ∀ t ∈ s.statements, Closed F t.toList) :
    F (text sections).toList = sections.flatMap fun s => s.statements.flatMap fun t => F t.toList := by
  have hpieces : ∀ s ∈ sections, (∀ x ∈ s.pieces, Closed F x) ∧
      s.pieces.flatMap F = s.statements.flatMap fun t => F t.toList := by
    intro s hm
    obtain ⟨k, hlabel⟩ := hk s hm
    have hall := hs s hm
    rw [Section.pieces, hlabel]
    generalize s.statements.length = n
    cases hstatements : s.statements with
    | nil => exact ⟨by simp [headed], rfl⟩
    | cons t ts =>
      rw [hstatements] at hall
      obtain ⟨hfirst, hrest⟩ := List.forall_mem_cons.mp hall
      refine ⟨List.forall_mem_cons.mpr ⟨hfirst.titled ht k n, List.forall_mem_map.mpr hrest⟩, ?_⟩
      rw [List.map_cons, headed, List.flatMap_cons, ht, List.flatMap_map]
      rfl
  rw [h.text_pieces fun s hm => (hpieces s hm).1]
  exact List.flatMap_congr fun s hm => (hpieces s hm).2

def Kind.section (k : Kind) (sql : List Char) : Section := ⟨k.label, (ofKind sql k).map String.ofList⟩

lemma Skims.text_kinds (h : Skims F) (ht : SkipsTitles F) {sql : List Char} {kinds : List Kind}
    (hs : ∀ k ∈ kinds, ∀ t ∈ ofKind sql k, Closed F t) :
    F (text (kinds.map fun k => k.section sql)).toList = kinds.flatMap fun k => (ofKind sql k).flatMap F := by
  rw [h.text_sections ht, List.flatMap_map]
  · simp [Kind.section, List.flatMap_map]
  · intro s hm
    obtain ⟨k, -, rfl⟩ := List.mem_map.mp hm
    exact ⟨k, rfl⟩
  · intro s hm t ht
    obtain ⟨k, hk, rfl⟩ := List.mem_map.mp hm
    obtain ⟨x, hx, rfl⟩ := List.mem_map.mp ht
    rw [String.toList_ofList]
    exact hs k hk x hx

section Titles

variable {β : Type} {f : List Char → Option β} {w y : List Char} {n : Nat}

lemma passes_countText (hw : Capitals w) (hcount : Apart w (" statements)\n\n".toList.map caseless)) :
    Passes (keyword w) (countText n) y := by
  rw [countText, passes_append, passes_append]
  exact ⟨hw.passes_marks (by decide) _, hw.passes_marks (fun c hc => (digit_form hc).2) _, passes_keyword hcount⟩

lemma passes_title_of_label (hw : Capitals w) (hf : ∀ s, keyword w s = none → f s = none)
    (hcount : Apart w (" statements)\n\n".toList.map caseless)) {k : Kind}
    (hlabel : Passes f k.label.toList (countText n ++ y)) : Passes f (title k.label n) y := by
  rw [title, passes_append, passes_append]
  exact ⟨(hw.passes_marks (by decide) _).mono hf, hlabel, (passes_countText hw hcount).mono hf⟩

lemma passes_title (own : Kind) (hw : Capitals w) (hf : ∀ s, keyword w s = none → f s = none)
    (hcount : Apart w (" statements)\n\n".toList.map caseless))
    (htail : Apart w (own.label.toList.tail.map caseless))
    (hother : ∀ k : Kind, k ≠ own → Apart w (k.label.toList.map caseless))
    (hown : f (own.label.toList ++ (countText n ++ y)) = none) (k : Kind) :
    Passes f (title k.label n) y := by
  apply passes_title_of_label hw hf hcount
  by_cases hk : k = own
  · obtain ⟨c, x, hx⟩ : ∃ c x, own.label.toList = c :: x :=
      List.exists_cons_of_ne_nil (by cases own <;> decide)
    rw [hx] at htail hown
    rw [hk, hx, passes_cons]
    exact ⟨hown, (passes_keyword htail).mono hf⟩
  · exact (passes_keyword (hother k hk)).mono hf

lemma head_title (s : List Char) : Statement.head ("CREATE TABLE (".toList ++ s) = none := by
  have hcreate : Spaced "CREATE".toList "CREATE ".toList := ⟨"CREATE".toList, [' '], by decide⟩
  have htable : Spaced "TABLE".toList "TABLE ".toList := ⟨"TABLE".toList, [' '], by decide⟩
  have hparen : Bars isBlank ('(' :: s) := (bars_cons _ _ _).mpr (by decide)
  have hsplit : "CREATE TABLE (".toList ++ s = "CREATE ".toList ++ ("TABLE ".toList ++ '(' :: s) := by simp
  have hcondition : Statement.ifNotExists ('(' :: s) = none := rfl
  have htoken : Statement.token1 ('(' :: s) = none := rfl
  rw [hsplit, Statement.head, hcreate.read (htable.bars (by decide) (by decide) _)]
  simp only [Option.bind_eq_bind, Option.bind_some, htable.read hparen, hcondition, Option.getD_none,
    htoken, Option.bind_none]

lemma read_title (n : Nat) (y : List Char) :
    AddedKey.read ("ALTER TABLE".toList ++ (countText n ++ y)) = none := by
  have halter : Spaced "ALTER".toList "ALTER ".toList := ⟨"ALTER".toList, [' '], by decide⟩
  have htable : Spaced "TABLE".toList "TABLE ".toList := ⟨"TABLE".toList, [' '], by decide⟩
  have hsolid : Solid ('(' :: (Nat.repr n).toList) :=
    List.forall_mem_cons.mpr ⟨by decide, fun c hc => (digit_form hc).1⟩
  have hrest : Bars isBlank ("statements)\n\n".toList ++ y) := (bars_cons _ _ _).mpr (by decide)
  have hsplit : "ALTER TABLE".toList ++ (countText n ++ y) = "ALTER ".toList ++ ("TABLE ".toList ++
      ('(' :: (Nat.repr n).toList ++ ([' '] ++ ("statements)\n\n".toList ++ y)))) := by simp [countText]
  have htoken : run1 isBlank ('(' :: (Nat.repr n).toList ++ ([' '] ++ ("statements)\n\n".toList ++ y))) =
      some ('(' :: (Nat.repr n).toList, [' '] ++ ("statements)\n\n".toList ++ y)) :=
    run1_eq_some.mpr ⟨List.cons_ne_nil _ _, hsolid, (bars_cons _ _ _).mpr (by decide), rfl⟩
  have hadd : keywordBlanks "ADD".toList ("statements)\n\n".toList ++ y) = none := rfl
  rw [hsplit, AddedKey.read, halter.read (htable.bars (by decide) (by decide) _)]
  simp only [Option.bind_eq_bind, Option.bind_some, htable.read (hsolid.bars (List.cons_ne_nil _ _)),
    htoken, blanks1_append (b := [' ']) (by decide) hrest, hadd, Option.bind_none]

end Titles

lemma skims_scan : Skims Statement.scan where
  nil := by rw [Statement.scan]
  blanks _ hb y := Statement.scan_of_passes (Statement.passes_head_blanks hb y)

lemma skims_addedKeys : Skims AddedKey.scan where
  nil := Pattern.all_nil _
  blanks _ hb y := Pattern.all_of_passes (AddedKey.passes_read_blanks hb y)

lemma skims_statements {starts : List Char → Bool} {o : Opening}
    (ho : ∀ {s}, starts s = true ↔ o.Opens s) : Skims (statements starts) where
  nil := Pattern.all_nil _
  blanks _ hb _ := by
    apply statements_of_passes ho
    exact fun v _ => passes_blanks o.first_capitals.1 o.first_capitals.solid hb

lemma skipsTitles_scan : SkipsTitles Statement.scan := by
  intro k n y
  have hown : Statement.head (Kind.createTable.label.toList ++ (countText n ++ y)) = none := by
    have hread := head_title ((Nat.repr n).toList ++ (" statements)\n\n".toList ++ y))
    simpa [countText, Kind.label] using hread
  have hother : ∀ k : Kind, k ≠ .createTable → Apart "CREATE".toList (k.label.toList.map caseless) := by
    intro k
    cases k <;> decide
  have hkeyword (s : List Char) : keyword "CREATE".toList s = none → Statement.head s = none :=
    Statement.head_eq_none_of_keyword
  exact Statement.scan_of_passes
    (passes_title .createTable (by decide) hkeyword (by decide) (by decide) hother hown k)

lemma skipsTitles_addedKeys : SkipsTitles AddedKey.scan := by
  intro k n y
  have hother : ∀ k : Kind, k ≠ .alterTable → Apart "ALTER".toList (k.label.toList.map caseless) := by
    intro k
    cases k <;> decide
  have hkeyword (s : List Char) (h : keyword "ALTER".toList s = none) : AddedKey.read s = none :=
    AddedKey.read_eq_none_of_phrase (phrase_eq_none_of_keyword h)
  exact Pattern.all_of_passes (passes_title .alterTable (by decide) hkeyword (by decide) (by decide)
    hother (read_title n y) k)

end SchemaAtlas.Extract
