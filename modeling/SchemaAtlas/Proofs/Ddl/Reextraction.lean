import SchemaAtlas.Proofs.Ddl.SectionText
import SchemaAtlas.Proofs.Text.Numbers

/-! The text of extracted sections is a dump again. Each section gives back its statements, the first of
them perhaps behind a piece of the title, and besides them come the statements that begin inside
statements of other kinds. -/

namespace SchemaAtlas.Extract

open SchemaAtlas.Text

namespace Opening

variable {o : Opening} {d : List Char}

lemma Opens.append (h : o.Opens d) (s : List Char) : o.Opens (d ++ s) := by
  obtain ⟨u, m, v, r, hu, hm, hv, rfl⟩ := h
  exact ⟨u, m, v, r ++ s, hu, hm, hv, by simp⟩

lemma excerpts_of_opens (h : o.Opens d) (hd : ';' ∉ d) : o.excerpts (d ++ [';']) = [d ++ [';']] := by
  rw [o.excerpts_append hd, excerpt, leftmost_of_pos h, excerpts, segments_of_not_mem (by simp)]
  rfl

end Opening

namespace Kind

def opening : Kind → Opening
  | createTable => .table
  | alterTable | constraint => .alter
  | index => .index

def keeps : Kind → List Char → Bool
  | alterTable, t => !addsConstraint t
  | constraint, t => addsConstraint t
  | _, _ => true

def lead : Kind → ℕ → List Char
  | createTable, n => createTable.label.toList ++ countText n
  | alterTable, n => alterTable.label.toList ++ countText n
  | _, _ => []

end Kind

variable {sql t d y : List Char} {k : Kind} {n : ℕ}

lemma ofKind_eq_filter (sql : List Char) (k : Kind) : ofKind sql k = (k.opening.excerpts sql).filter k.keeps := by
  cases k with
  | createTable => rw [ofKind_createTable]; exact (List.filter_true _).symm
  | alterTable => rw [ofKind, statements_eq_excerpts startsAlter_iff]; rfl
  | constraint => rw [ofKind, statements_eq_excerpts startsAlter_iff]; rfl
  | index => rw [ofKind_index]; exact (List.filter_true _).symm

lemma exists_of_mem_ofKind (h : t ∈ ofKind sql k) :
    ∃ d, ';' ∉ d ∧ k.opening.Opens d ∧ k.keeps t = true ∧ t = d ++ [';'] := by
  rw [ofKind_eq_filter, List.mem_filter] at h
  obtain ⟨d, hd, hopens, ht⟩ := k.opening.exists_of_mem_excerpts h.1
  exact ⟨d, hd, hopens, h.2, ht⟩

lemma ofKind_of_opens (hd : ';' ∉ d) (h : k.opening.Opens d) (hkeeps : k.keeps (d ++ [';']) = true) :
    ofKind (d ++ [';']) k = [d ++ [';']] := by
  rw [ofKind_eq_filter, Opening.excerpts_of_opens h hd, List.filter_cons_of_pos hkeeps, List.filter_nil]

section Titles

variable {starts : List Char → Bool} {o : Opening}

lemma statements_title_of_apart (ho : ∀ {s}, starts s = true ↔ o.Opens s)
    (hcount : Apart o.first (" statements)\n\n".toList.map caseless))
    (hlabel : Apart o.first (k.label.toList.map caseless)) :
    statements starts (title k.label n ++ y) = statements starts y :=
  statements_of_passes ho fun _ _ =>
    passes_title_of_label o.first_capitals (fun _ => phrase_eq_none_of_keyword) hcount
      ((passes_keyword hlabel).mono fun _ => phrase_eq_none_of_keyword)

lemma statements_title_index :
    statements startsIndex (title k.label n ++ y) = statements startsIndex y := by
  apply statements_of_passes startsIndex_iff
  intro v hv
  have hother : ∀ k : Kind, k ≠ .createTable → Apart "CREATE".toList (k.label.toList.map caseless) := by
    intro k
    cases k <;> decide
  have hown : phrase "CREATE".toList v (Kind.createTable.label.toList ++ (countText n ++ y)) = none := by
    have hwords : v ∈ ["INDEX".toList, "UNIQUE".toList, "BITMAP".toList] := hv
    simp only [List.mem_cons, List.not_mem_nil, or_false] at hwords
    rcases hwords with rfl | rfl | rfl <;> rfl
  exact passes_title .createTable (by decide) (fun _ => phrase_eq_none_of_keyword) (by decide) (by decide)
    hother hown k

lemma statements_own_title (ho : ∀ {s}, starts s = true ↔ o.Opens s) (hlabel : o.Opens k.label.toList)
    (hd : ';' ∉ d) : statements starts (title k.label n ++ (d ++ [';'])) =
      [k.label.toList ++ countText n ++ (d ++ [';'])] := by
  -- the words of a label open a statement, and the rest of the title is taken into it
  have hdashes : ∀ y, statements starts ("-- ".toList ++ y) = statements starts y := fun y =>
    statements_of_passes ho fun v _ =>
      (o.first_capitals.passes_marks (by decide) y).mono fun _ => phrase_eq_none_of_keyword
  have hopens : o.Opens (k.label.toList ++ countText n ++ d) := by
    rw [List.append_assoc]
    exact hlabel.append _
  have hcount : ';' ∉ countText n := by
    simp [countText, not_mem_toDigits (c := ';') (by decide)]
  have hall : ';' ∉ k.label.toList ++ countText n ++ d := by
    have hchars : ';' ∉ k.label.toList := by cases k <;> decide
    simp [hchars, hcount, hd]
  have hend : statements starts [] = [] := Pattern.all_nil _
  have hstep := statements_of_opens ho hall hopens []
  rw [List.append_nil, hend] at hstep
  rw [title, List.append_assoc, hdashes]
  simpa only [List.append_assoc] using hstep

end Titles

lemma addsConstraint_lead (h : addsConstraint t = false) :
    addsConstraint (Kind.alterTable.lead n ++ t) = false := by
  rw [Bool.eq_false_iff] at h ⊢
  refine fun hadds => h (addsConstraint_iff.mpr ?_)
  obtain ⟨x, add, paren, word, r, hsplit, hx, hadd, hparen, hword, hr⟩ := addsConstraint_iff.mp hadds
  have hpasses : Passes (keyword "ADD".toList) (Kind.alterTable.lead n) t :=
    passes_append.mpr ⟨passes_keyword (by decide), passes_countText (by decide) (by decide)⟩
  rcases List.append_eq_append_iff.mp hsplit with ⟨a, rfl, ht⟩ | ⟨a, hlead, hrest⟩
  · have ha : Bars isWord a.reverse := by
      rw [List.reverse_append] at hx
      intro c hc
      exact hx c (by rw [List.head?_append, Option.mem_def.mp hc]; rfl)
    exact ⟨a, add, paren, word, r, ht, ha, hadd, hparen, hword, hr⟩
  · cases a with
    | nil => exact ⟨[], add, paren, word, r, by simpa using hrest.symm, bars_nil _, hadd, hparen, hword, hr⟩
    | cons c a =>
      -- the first word would begin in the title
      obtain ⟨k, b, hk, -, rfl⟩ := hadd
      have hnone := hpasses (c :: a) ⟨x, hlead.symm⟩ (List.cons_ne_nil c a)
      rw [← hrest, List.append_assoc, keyword_append hk] at hnone
      exact absurd hnone (Option.some_ne_none _)

lemma statements_alter_title (ht : t ∈ ofKind sql .alterTable) :
    statements startsAlter (title Kind.alterTable.label n ++ t) = [Kind.alterTable.lead n ++ t] ∧
      addsConstraint (Kind.alterTable.lead n ++ t) = false := by
  -- an altering statement takes in the end of its title, and still adds no constraint
  obtain ⟨d, hd, -, hkeeps, rfl⟩ := exists_of_mem_ofKind ht
  exact ⟨statements_own_title startsAlter_iff (by decide) hd,
    addsConstraint_lead (by simpa [Kind.keeps] using hkeeps)⟩

lemma ofKind_self (ht : t ∈ ofKind sql k) : ofKind t k = [t] := by
  obtain ⟨d, hd, hopens, hkeeps, rfl⟩ := exists_of_mem_ofKind ht
  exact ofKind_of_opens hd hopens hkeeps

lemma ofKind_constraint_of_alter (ht : t ∈ ofKind sql .alterTable) : ofKind t .constraint = [] := by
  obtain ⟨d, hd, hopens, hkeeps, rfl⟩ := exists_of_mem_ofKind ht
  have hself : Kind.constraint.opening.excerpts (d ++ [';']) = [d ++ [';']] :=
    Opening.excerpts_of_opens hopens hd
  rw [ofKind_eq_filter, hself]
  exact List.filter_cons_of_neg (by simpa [Kind.keeps] using hkeeps)

lemma ofKind_title {k k' : Kind} (hk : k' ≠ k) (ht : t ∈ ofKind sql k') :
    ofKind (title k'.label n ++ t) k = ofKind t k := by
  cases k with
  | createTable =>
    apply statements_title_of_apart startsTable_iff (by decide)
    cases k' with
    | createTable => exact absurd rfl hk
    | alterTable | constraint | index => decide
  | alterTable =>
    apply congrArg (List.filter (!addsConstraint ·))
    apply statements_title_of_apart startsAlter_iff (by decide)
    cases k' with
    | alterTable => exact absurd rfl hk
    | createTable | constraint | index => decide
  | constraint =>
    by_cases halter : k' = .alterTable
    · subst halter
      obtain ⟨htitled, hlead⟩ := statements_alter_title (n := n) ht
      rw [ofKind_constraint_of_alter ht, ofKind, htitled, List.filter_cons_of_neg (Bool.eq_false_iff.mp hlead)]
      rfl
    · apply congrArg (List.filter addsConstraint)
      apply statements_title_of_apart startsAlter_iff (by decide)
      cases k' with
      | alterTable => exact absurd rfl halter
      | constraint => exact absurd rfl hk
      | createTable | index => decide
  | index => exact statements_title_index

lemma ofKind_own_title (ht : t ∈ ofKind sql k) : ofKind (title k.label n ++ t) k = [k.lead n ++ t] := by
  cases k with
  | createTable =>
    obtain ⟨d, hd, -, -, rfl⟩ := exists_of_mem_ofKind ht
    exact statements_own_title startsTable_iff (by decide) hd
  | alterTable =>
    obtain ⟨htitled, hlead⟩ := statements_alter_title (n := n) ht
    rw [ofKind, htitled, List.filter_cons_of_pos (by rw [hlead]; rfl)]
    rfl
  | constraint =>
    have htitled := statements_title_of_apart (k := .constraint) (n := n) (y := t) startsAlter_iff
      (by decide) (by decide)
    rw [ofKind, htitled]
    exact ofKind_self ht
  | index => exact statements_title_index.trans (ofKind_self ht)

lemma skims_ofKind (k : Kind) : Skims (ofKind · k) := by
  cases k with
  | createTable => exact skims_statements startsTable_iff
  | alterTable | constraint =>
    have hskims := skims_statements startsAlter_iff
    exact ⟨congrArg _ hskims.nil, fun b hb y => congrArg _ (hskims.blanks b hb y)⟩
  | index => exact skims_statements startsIndex_iff

lemma closed_ofKind (hbegins : Ddl.AddedKey.Begins d) (hd : d ≠ []) (k : Kind) :
    Closed (ofKind · k) (d ++ [';']) where
  ne_nil := by simp
  begins := hbegins.append hd _
  append y _ := ofKind_delimited_append d y k

lemma pieces_section (sql : List Char) (k : Kind) :
    (k.section sql).pieces = headed (title k.label (ofKind sql k).length) (ofKind sql k) := by
  simp [Section.pieces, Kind.section, Function.comp_def]

lemma closed_pieces (sql : List Char) (k k' : Kind) : ∀ x ∈ (k'.section sql).pieces, Closed (ofKind · k) x := by
  rw [pieces_section]
  generalize (ofKind sql k').length = n
  cases hs : ofKind sql k' with
  | nil => exact fun x hx => absurd hx List.not_mem_nil
  | cons t ts =>
    have hall : ∀ x ∈ t :: ts, ∃ d, Ddl.AddedKey.Begins d ∧ d ≠ [] ∧ x = d ++ [';'] := by
      intro x hx
      obtain ⟨d, -, hopens, -, rfl⟩ := exists_of_mem_ofKind (hs ▸ hx)
      exact ⟨d, hopens.begins, hopens.ne_nil, rfl⟩
    obtain ⟨⟨d, -, -, rfl⟩, hrest⟩ := List.forall_mem_cons.mp hall
    refine List.forall_mem_cons.mpr ⟨?_, fun x hx => ?_⟩
    · have hbegins := (begins_title k'.label n).append (title_ne_nil k'.label n) d
      rw [← List.append_assoc]
      exact closed_ofKind hbegins (by simp [title_ne_nil]) k
    · obtain ⟨e, hbegins, he, rfl⟩ := hrest x hx
      exact closed_ofKind hbegins he k

lemma pieces_flatMap (sql : List Char) (k k' : Kind) : (k'.section sql).pieces.flatMap (ofKind · k) =
    if k' = k then headed (k.lead (ofKind sql k).length) (ofKind sql k)
    else (ofKind sql k').flatMap (ofKind · k) := by
  rw [pieces_section]
  split
  · next hk =>
    subst hk
    generalize (ofKind sql k').length = n
    cases hs : ofKind sql k' with
    | nil => rfl
    | cons t ts =>
      have hmem : ∀ x ∈ t :: ts, x ∈ ofKind sql k' := fun x hx => hs ▸ hx
      have hrest : ts.flatMap (ofKind · k') = ts := by
        rw [List.flatMap_congr fun x hx => ofKind_self (hmem x (List.mem_cons_of_mem t hx))]
        exact List.flatMap_singleton' ts
      rw [headed, List.flatMap_cons, ofKind_own_title (hmem t List.mem_cons_self), hrest]
      rfl
  · next hk =>
    generalize (ofKind sql k').length = n
    cases hs : ofKind sql k' with
    | nil => rfl
    | cons t ts =>
      rw [headed, List.flatMap_cons, ofKind_title hk (hs ▸ List.mem_cons_self), List.flatMap_cons]

theorem ofKind_text_sections (sql : List Char) :
    ∃ lead : Kind → List Char,
      (∀ k, lead k <:+ title k.label (ofKind sql k).length) ∧ lead .constraint = [] ∧ lead .index = [] ∧
      ∀ k, ofKind (text (sections sql)).toList k = Kind.all.flatMap fun k' =>
        if k' = k then headed (lead k) (ofKind sql k) else (ofKind sql k').flatMap (ofKind · k) := by
  refine ⟨fun k => k.lead (ofKind sql k).length, ?_, rfl, rfl, fun k => ?_⟩
  · intro k
    cases k with
    | createTable | alterTable => exact List.suffix_append _ _
    | constraint | index => exact List.nil_suffix
  · have hsections : sections sql = Kind.all.map fun k => k.section sql := rfl
    have hclosed : ∀ s ∈ Kind.all.map (fun k => k.section sql), ∀ x ∈ s.pieces, Closed (ofKind · k) x :=
      List.forall_mem_map.mpr fun k' _ => closed_pieces sql k k'
    rw [hsections, (skims_ofKind k).text_pieces hclosed, List.flatMap_map]
    exact List.flatMap_congr fun k' _ => pieces_flatMap sql k k'

def nestedAlter : String := "CREATE INDEX I ON T (X)\nALTER TABLE T ADD CONSTRAINT C UNIQUE (X);"

theorem sections_text_nestedAlter :
    sections nestedAlter.toList = [⟨"CREATE TABLE", []⟩, ⟨"ALTER TABLE", []⟩,
        ⟨"CONSTRAINT", ["ALTER TABLE T ADD CONSTRAINT C UNIQUE (X);"]⟩, ⟨"INDEX", [nestedAlter]⟩] ∧
      sections (text (sections nestedAlter.toList)).toList = [⟨"CREATE TABLE", []⟩, ⟨"ALTER TABLE", []⟩,
        ⟨"CONSTRAINT", ["ALTER TABLE T ADD CONSTRAINT C UNIQUE (X);",
          "ALTER TABLE T ADD CONSTRAINT C UNIQUE (X);"]⟩, ⟨"INDEX", [nestedAlter]⟩] ∧
      sections (text (sections nestedAlter.toList)).toList ≠ sections nestedAlter.toList ∧
      ofKind (text (sections "CREATE TABLE A (X);".toList)).toList .createTable =
        ["CREATE TABLE (1 statements)\n\nCREATE TABLE A (X);".toList] := by
  decide +kernel

end SchemaAtlas.Extract
