import SchemaAtlas.Proofs.Ddl.Clauses
import SchemaAtlas.Proofs.Script.Entries

/-! A column as it is printed is read as that column. Its name is not taken for a reserved word,
whatever quotes it stands in, and its qualifier alone decides on what is said of keys. -/

namespace SchemaAtlas.Script

open SchemaAtlas.Text SchemaAtlas.Ddl

section Names

variable (x : Word)

lemma Word.map_caseless_name : x.name.toList.map caseless = x.name.toList.map Char.toUpper := by
  refine List.map_congr_left fun c hc => caseless_of_ascii ?_
  have hrange := Name.toNat_of_isNameChar (x.canonical.2 c hc)
  omega

lemma Word.isWord_of_mem_name {c : Char} (h : c ∈ x.name.toList) : isWord c = true := by
  have hname := x.canonical.2 c h
  rw [Name.isNameChar] at hname
  rw [isWord, hname, Bool.true_or]

lemma quoting_form (q : Quoting) : q.opening = [] ∧ q.closing = [] ∨
    ∃ c d, q.opening = [c] ∧ q.closing = [d] ∧ Name.isQuote c = true ∧ Name.isQuote d = true := by
  cases q with
  | bare => exact .inl ⟨rfl, rfl⟩
  | double => exact .inr ⟨'"', '"', rfl, rfl, rfl, rfl⟩
  | back => exact .inr ⟨'\x60', '\x60', rfl, rfl, rfl, rfl⟩
  | bracket => exact .inr ⟨'[', ']', rfl, rfl, rfl, rfl⟩

lemma isUpper_of_isQuote {c : Char} (h : Name.isQuote c = true) : (caseless c).isUpper = false := by
  simp only [Name.isQuote, Bool.or_eq_true, beq_iff_eq] at h
  rcases h with ((rfl | rfl) | rfl) | rfl <;> decide

lemma isWord_of_isQuote {c : Char} (h : Name.isQuote c = true) : isWord c = false := by
  simp only [Name.isQuote, Bool.or_eq_true, beq_iff_eq] at h
  rcases h with ((rfl | rfl) | rfl) | rfl <;> decide

lemma Word.map_caseless_text_ne {w : List Char} (hw : Capitals w)
    (h : x.name.toList.map Char.toUpper ≠ w) : x.text.map caseless ≠ w := by
  -- a quoted name is no keyword, and a name without quotes is one only if it is reserved
  rcases quoting_form x.quoting with ⟨ho, hc⟩ | ⟨c, d, ho, _, hquote, _⟩
  · rw [text, ho, hc, List.nil_append, List.append_nil, x.map_caseless_name]
    exact h
  · rintro rfl
    refine hw.not_mem (isUpper_of_isQuote hquote) (List.mem_map_of_mem ?_)
    rw [text, ho]
    exact List.mem_cons_self

lemma Word.firstAtWord_text {s : List Char} (h : x.name.toList.map Char.toUpper ≠ "CONSTRAINT".toList)
    (hs : Passes constraintWord (' ' :: s) []) :
    firstAtWord constraintWord true (x.text ++ (' ' :: s)) = none := by
  -- the search comes out of a name with nothing found
  have hmarks {c : Char} (hc : Name.isQuote c = true) (y : List Char) : Passes constraintWord [c] y := by
    apply passes_constraintWord
    exact Capitals.passes_marks (by decide) (by simpa using isUpper_of_isQuote hc) y
  have hname (t : List Char) (c : Char) (hc : (caseless c).isUpper = false) :
      firstAtWord constraintWord true (x.name.toList ++ c :: t) =
        firstAtWord constraintWord false (c :: t) := by
    apply firstAtWord_word x.toList_name_ne_nil fun _ => x.isWord_of_mem_name
    apply constraintWord_of_ne fun _ => x.isWord_of_mem_name
    · rwa [x.map_caseless_name]
    · exact Capitals.not_mem (by decide) hc
  rcases quoting_form x.quoting with ⟨ho, hc⟩ | ⟨c, d, ho, hc, hco, hcd⟩
  · rw [text, ho, hc, List.nil_append, List.append_nil, hname _ _ (by decide)]
    exact firstAtWord_eq_none hs false
  · have hpass : Passes constraintWord (d :: ' ' :: s) [] := by
      refine passes_cons.mpr ⟨?_, hs⟩
      exact (passes_cons.mp (hmarks hcd ((' ' :: s) ++ []))).1
    have hfirst := firstAtWord_of_passes (x := []) (hmarks hco (x.name.toList ++ d :: ' ' :: s))
      (isWord_of_isQuote hco) true
    have hsplit : x.text ++ (' ' :: s) = [] ++ c :: (x.name.toList ++ d :: ' ' :: s) := by
      simp [text, ho, hc]
    rw [hsplit, hfirst, hname _ _ (isUpper_of_isQuote hcd)]
    exact firstAtWord_eq_none hpass false

end Names

section Columns

variable (name : Word) (type : DataType) (qualifier : Qualifier)

lemma category_word : (TypeCategory.ofDeclared type.word).label = type.label := by
  cases type <;> decide

lemma keyword_type {v : List Char} (h : ¬type.word.map caseless <+: v ∧ ¬v <+: type.word.map caseless)
    (s : List Char) : keyword v (type.word ++ s) = none :=
  keyword_eq_none h.1 h.2

lemma mentions_primaryKey :
    mentions "PRIMARY KEY" (Entry.column name type qualifier).text =
      decide (qualifier = .primaryKey) := by
  have hfalse (hq : qualifier ≠ .primaryKey) :
      mentions "PRIMARY KEY" (Entry.column name type qualifier).text = false := by
    have hkey : ∀ s, keyword "KEY".toList (type.word ++ s) = none :=
      keyword_type type (by cases type <;> decide)
    have hliterals : ∀ l ∈ (Entry.column name type qualifier).literals,
        Apart "PRIMARY".toList (l.map caseless) := by
      cases qualifier with
      | primaryKey => exact absurd rfl hq
      | plain => cases type <;> simp only [Entry.literals] <;> decide
      | notNull => cases type <;> simp only [Entry.literals] <;> decide
    exact Entry.mentions_eq_false _ (by decide) (by decide) (by decide) hliterals hkey
  cases qualifier with
  | plain => exact hfalse (by decide)
  | notNull => exact hfalse (by decide)
  | primaryKey =>
    have hsplit : (Entry.column name type .primaryKey).text =
        (name.text ++ (' ' :: (type.word ++ (type.arguments ++ [' '])))) ++
          ("PRIMARY KEY".toList ++ []) := by
      simp
    rw [hsplit]
    exact mentions_of_append (by decide) _ _

lemma mentions_notNull (hq : qualifier ≠ .primaryKey) :
    mentions "NOT NULL" (Entry.column name type qualifier).text = decide (qualifier = .notNull) := by
  cases qualifier with
  | plain =>
    have hkey : ∀ s, keyword "NULL".toList (type.word ++ s) = none :=
      keyword_type type (by cases type <;> decide)
    have hliterals : ∀ l ∈ (Entry.column name type .plain).literals,
        Apart "NOT".toList (l.map caseless) := by
      cases type <;> simp only [Entry.literals] <;> decide
    exact Entry.mentions_eq_false _ (by decide) (by decide) (by decide) hliterals hkey
  | notNull =>
    have hsplit : (Entry.column name type .notNull).text =
        (name.text ++ (' ' :: (type.word ++ (type.arguments ++ [' '])))) ++
          ("NOT NULL".toList ++ []) := by
      simp
    rw [hsplit]
    exact mentions_of_append (by decide) _ _
  | primaryKey => exact absurd rfl hq

lemma isConstraint_column (h : ¬Name.Reserved name.name) :
    isConstraint (Entry.column name type qualifier).text = false := by
  have hword : name.name.toList.map Char.toUpper ≠ "CONSTRAINT".toList := by
    intro he
    exact h (by simp [Name.Reserved, he])
  have hkey : ∀ s, keyword "KEY".toList (type.word ++ s) = none :=
    keyword_type type (by cases type <;> decide)
  have hrest : Passes constraintWord (' ' :: (type.word ++ (type.arguments ++ qualifier.text))) [] := by
    apply passes_constraintWord
    apply passes_keyword
    cases type <;> cases qualifier <;> decide
  have hphrase {w : List Char} (hw : Capitals w) :
      phrase w "KEY".toList (Entry.column name type qualifier).text = none := by
    rw [Entry.text_column]
    exact phrase_word (b := [' ']) hw.solid name.solid (by decide)
      ((word_solid type).bars (word_ne_nil type)) (.inr (hkey _))
  rw [Entry.text_column]
  exact isConstraint_eq_false (name.firstAtWord_text hword hrest) (hphrase (by decide))
    (hphrase (by decide))

lemma not_notColumnNames (h : ¬Name.Reserved name.name) :
    notColumnNames.any (fun w => upper name.text == w.toList) = false := by
  rw [upper_of_ascii name.ascii, List.any_eq_false]
  intro w hw he
  have hne : name.name.toList.map Char.toUpper ≠ w.toList := by
    intro heq
    apply h
    simp only [notColumnNames, List.mem_cons, List.not_mem_nil, or_false] at hw
    rcases hw with rfl | rfl | rfl <;> simp [Name.Reserved, heq]
  have hcapitals : Capitals w.toList := by
    simp only [notColumnNames, List.mem_cons, List.not_mem_nil, or_false] at hw
    rcases hw with rfl | rfl | rfl <;> decide
  exact name.map_caseless_text_ne hcapitals hne (by simpa using he)

theorem readColumn_text (h : ¬Name.Reserved name.name) :
    readColumn (Entry.column name type qualifier).text =
      some ⟨name.name, type.label, decide (qualifier = .primaryKey), decide (qualifier = .notNull)⟩ := by
  have hskip : skipBlanks (Entry.column name type qualifier).text = name.text ++ ([' '] ++
      (type.word ++ (type.arguments ++ qualifier.text))) := skipBlanks_of_bars (Entry.bars _)
  have hname : run1 isBlank (name.text ++ ([' '] ++ (type.word ++ (type.arguments ++ qualifier.text)))) =
      some (name.text, [' '] ++ (type.word ++ (type.arguments ++ qualifier.text))) :=
    run1_eq_some.mpr ⟨name.text_ne_nil, name.solid, (bars_cons _ _ _).mpr (by decide), rfl⟩
  have hblank : blanks1 ([' '] ++ (type.word ++ (type.arguments ++ qualifier.text))) =
      some (type.word ++ (type.arguments ++ qualifier.text)) :=
    blanks1_append (by decide) ((word_solid type).bars (word_ne_nil type))
  have htype : run1 (fun c => isBlank c || c == ',' || c == '(')
      (type.word ++ (type.arguments ++ qualifier.text)) =
        some (type.word, type.arguments ++ qualifier.text) := by
    refine run1_eq_some.mpr ⟨word_ne_nil type, ?_, ?_, rfl⟩
    · cases type <;> decide
    · cases type <;> cases qualifier <;> decide
  have hclose : name.text.contains ')' = false := by
    simpa using name.not_mem_text (c := ')') (by decide) (by decide)
  have hempty : name.name.toList.isEmpty = false := by
    simpa using name.toList_name_ne_nil
  have hnull : (mentions "NOT NULL" (Entry.column name type qualifier).text &&
      !decide (qualifier = .primaryKey)) = decide (qualifier = .notNull) := by
    by_cases hq : qualifier = .primaryKey
    · simp [hq]
    · rw [mentions_notNull name type qualifier hq]
      simp [hq]
  rw [readColumn, hskip]
  simp only [Option.bind_eq_bind, hname, Option.bind_some, hblank, htype, hempty, hclose,
    not_notColumnNames name h, Bool.or_self, Bool.false_eq_true, if_false, name.cleanChars_text,
    String.ofList_toList, category_word, mentions_primaryKey, hnull]

end Columns

end SchemaAtlas.Script
