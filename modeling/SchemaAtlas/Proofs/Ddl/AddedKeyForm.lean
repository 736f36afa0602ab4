import SchemaAtlas.Proofs.Ddl.ReferenceForm

/-! The statement that adds a foreign key, up to the end of its clause, in all its forms. It is read
the same way whatever follows, and no such statement begins inside the words in front of the clause. -/

namespace SchemaAtlas.Ddl.AddedKey

open SchemaAtlas.Text Statement

structure Form where
  alter : List Char
  table : List Char
  token : List Char
  gap : List Char
  add : List Char
  opening : List Char
  word : List Char
  skipped : List Char
  clause : Reference.Form
  alter_spaced : Spaced "ALTER".toList alter
  table_spaced : Spaced "TABLE".toList table
  token_form : token ≠ [] ∧ Solid token
  gap_gap : Gap gap
  add_spaced : Spaced "ADD".toList add
  opening_form : opening = [] ∨ ∃ b, Blanks b ∧ opening = '(' :: b
  word_form : word = [] ∧ skipped = [] ∨ word.map caseless = "CONSTRAINT".toList
  skipped_form : ';' ∉ skipped ∧ Passes Reference.read skipped clause.text

namespace Form

def header (a : Form) : List Char :=
  a.alter ++ (a.table ++ (a.token ++ (a.gap ++ (a.add ++ (a.opening ++ a.word)))))

def text (a : Form) : List Char := a.header ++ (a.skipped ++ a.clause.text)

def key (a : Form) : ForeignKey := a.clause.reference.ofTable (Name.clean a.token)

end Form

def Begins (s : List Char) : Prop := Bars (fun c => isBlank c || c == '(') s

lemma Begins.bars {s : List Char} (h : Begins s) : Bars isBlank s :=
  fun c hc => (Bool.or_eq_false_iff.mp (h c hc)).1

lemma begins_of_map_caseless {k w : List Char} (h : k.map caseless = w) (hw : w ≠ []) (hs : Solid w)
    (ho : caseless '(' ∉ w) (s : List Char) : Begins (k ++ s) := by
  refine bars_append ?_ fun c hc => Bool.or_eq_false_iff.mpr ⟨solid_of_map_caseless hs h c hc, ?_⟩
  · rintro rfl
    exact hw h.symm
  · by_contra hp
    obtain rfl : c = '(' := by simpa using hp
    exact ho (h ▸ List.mem_map_of_mem hc)

lemma skip_opening {o s : List Char} (ho : o = [] ∨ ∃ b, Blanks b ∧ o = '(' :: b) (hs : Begins s) :
    skipBlanks ((char '(' (o ++ s)).getD (o ++ s)) = s := by
  rcases ho with rfl | ⟨b, hb, rfl⟩
  · have hchar : char '(' s = none := by
      cases s with
      | nil => rfl
      | cons c s =>
        have hc := (Bool.or_eq_false_iff.mp ((bars_cons _ _ _).mp hs)).2
        simpa [char] using hc
    rw [List.nil_append, hchar]
    exact skipBlanks_of_bars hs.bars
  · simpa [char] using skipBlanks_append hb hs.bars

lemma exists_opening (s : List Char) (hs : Bars isBlank s) :
    ∃ o, (o = [] ∨ ∃ b, Blanks b ∧ o = '(' :: b) ∧ s = o ++ skipBlanks ((char '(' s).getD s) := by
  cases hc : char '(' s with
  | none => exact ⟨[], .inl rfl, (skipBlanks_of_bars hs).symm⟩
  | some t =>
    obtain rfl := char_eq_some.mp hc
    obtain ⟨b, hb, ht⟩ := exists_blanks t
    exact ⟨'(' :: b, .inr ⟨b, hb, rfl⟩, congrArg ('(' :: ·) ht⟩

lemma constraint_text {word skipped : List Char} {f : Reference.Form}
    (hw : word = [] ∧ skipped = [] ∨ word.map caseless = "CONSTRAINT".toList)
    (hs : ';' ∉ skipped ∧ Passes Reference.read skipped f.text) (s : List Char) :
    constraint (word ++ (skipped ++ (f.text ++ s))) = some (f.reference, s) := by
  rcases hw with ⟨rfl, rfl⟩ | hw
  · obtain ⟨k, b, hk, _, hu⟩ := f.foreign_spaced
    have hnone : keyword "CONSTRAINT".toList (f.text ++ s) = none := by
      rw [f.text_append, hu, List.append_assoc]
      exact keyword_eq_none (by rw [hk]; decide) (by rw [hk]; decide)
    simp only [List.nil_append, constraint, hnone, Reference.read_text]
  · simp only [constraint, keyword_append hw]
    rw [Reference.beforeDelimiter_of_passes hs.1 (Reference.passes_text_append hs.2 s),
      Reference.beforeDelimiter_text]

lemma exists_of_constraint {s r : List Char} {k : Reference} (h : constraint s = some (k, r)) :
    ∃ (word skipped : List Char) (f : Reference.Form),
      (word = [] ∧ skipped = [] ∨ word.map caseless = "CONSTRAINT".toList) ∧
      (';' ∉ skipped ∧ Passes Reference.read skipped f.text) ∧
      f.reference = k ∧ s = word ++ (skipped ++ (f.text ++ r)) := by
  unfold constraint at h
  split at h
  · next t ht =>
    obtain ⟨word, hw, rfl⟩ := keyword_eq_some.mp ht
    obtain ⟨skipped, f, hs, hp, hf, rfl⟩ := Reference.exists_of_beforeDelimiter h
    exact ⟨word, skipped, f, .inr hw, ⟨hs, hp⟩, hf, rfl⟩
  · obtain ⟨f, hf, rfl⟩ := Reference.exists_form h
    exact ⟨[], [], f, .inl ⟨rfl, rfl⟩, ⟨by simp, passes_nil _ _⟩, hf, rfl⟩

lemma Form.begins_clause (a : Form) (s : List Char) :
    Begins (a.word ++ (a.skipped ++ (a.clause.text ++ s))) := by
  rcases a.word_form with ⟨hw, hs⟩ | hw
  · obtain ⟨k, b, hk, _, hu⟩ := a.clause.foreign_spaced
    rw [hw, hs, List.nil_append, List.nil_append, a.clause.text_append, hu, List.append_assoc]
    exact begins_of_map_caseless hk (by decide) (by decide) (by decide) _
  · exact begins_of_map_caseless hw (by decide) (by decide) (by decide) _

lemma Form.bars_opening (a : Form) (s : List Char) :
    Bars isBlank (a.opening ++ (a.word ++ (a.skipped ++ (a.clause.text ++ s)))) := by
  rcases a.opening_form with h | ⟨b, _, h⟩
  · rw [h]
    exact (a.begins_clause s).bars
  · rw [h]
    exact (bars_cons _ _ _).mpr (by decide)

lemma Form.text_append (a : Form) (s : List Char) :
    a.text ++ s = a.alter ++ (a.table ++ (a.token ++ (a.gap ++ (a.add ++ (a.opening ++ (a.word ++
      (a.skipped ++ (a.clause.text ++ s)))))))) := by
  simp [text, header]

theorem read_text (a : Form) (s : List Char) : read (a.text ++ s) = some (a.key, s) := by
  have htoken : run1 isBlank (a.token ++ (a.gap ++ (a.add ++ (a.opening ++ (a.word ++ (a.skipped ++
      (a.clause.text ++ s))))))) = some (a.token, a.gap ++ (a.add ++ (a.opening ++ (a.word ++
      (a.skipped ++ (a.clause.text ++ s)))))) := by
    refine run1_eq_some.mpr ⟨a.token_form.1, a.token_form.2, ?_, rfl⟩
    exact bars_append a.gap_gap.1 fun c hc => by simp [a.gap_gap.2 c hc]
  rw [a.text_append]
  simp only [read, Option.bind_eq_bind, Option.bind_some,
    a.alter_spaced.read (a.table_spaced.bars (by decide) (by decide) _),
    a.table_spaced.read (a.token_form.2.bars a.token_form.1), htoken,
    blanks1_append a.gap_gap (a.add_spaced.bars (by decide) (by decide) _),
    a.add_spaced.read (a.bars_opening s), skip_opening a.opening_form (a.begins_clause s),
    constraint_text a.word_form a.skipped_form]
  rfl

theorem exists_form {s r : List Char} {k : ForeignKey} (h : read s = some (k, r)) :
    ∃ a : Form, a.key = k ∧ s = a.text ++ r := by
  simp only [read, Option.bind_eq_bind, Option.bind_eq_some_iff, Prod.exists, run1_eq_some] at h
  obtain ⟨s₁, h₁, s₂, h₂, token, s₃, ⟨ht, ht', _, rfl⟩, s₄, h₄, s₅, h₅, q, s₆, h₆, h₇⟩ := h
  cases h₇
  obtain ⟨alter, ha, _, rfl⟩ := keywordBlanks_eq_some.mp h₁
  obtain ⟨table, htable, _, h₂⟩ := keywordBlanks_eq_some.mp h₂
  obtain ⟨gap, hg, _, rfl⟩ := blanks1_eq_some.mp h₄
  obtain ⟨add, hadd, hbars, rfl⟩ := keywordBlanks_eq_some.mp h₅
  obtain ⟨opening, ho, hs₅⟩ := exists_opening s₅ hbars
  obtain ⟨word, skipped, f, hw, hs, hf, h₆⟩ := exists_of_constraint h₆
  refine ⟨⟨alter, table, token, gap, add, opening, word, skipped, f, ha, htable, ⟨ht, ht'⟩, hg, hadd,
    ho, hw, hs⟩, by rw [Form.key, hf], ?_⟩
  rw [Form.text_append, h₂, hs₅, h₆]

lemma Form.phrase_header (a : Form) (s : List Char) :
    phrase "ALTER".toList "TABLE".toList (a.header ++ s) ≠ none := by
  obtain ⟨k, b, hk, _, hu⟩ := a.table_spaced
  rw [header, List.append_assoc, List.append_assoc, phrase,
    a.alter_spaced.read (a.table_spaced.bars (by decide) (by decide) _), hu, List.append_assoc,
    Option.bind_eq_bind, Option.bind_some, keyword_append hk]
  simp

lemma read_eq_none_of_phrase {s : List Char} (h : phrase "ALTER".toList "TABLE".toList s = none) :
    read s = none := by
  by_contra hne
  obtain ⟨⟨k, r⟩, hr⟩ := Option.ne_none_iff_exists'.mp hne
  obtain ⟨a, rfl, rfl⟩ := exists_form hr
  rw [Form.text, List.append_assoc] at h
  exact a.phrase_header _ h

lemma passes_read {x y : List Char} (h : Passes (phrase "ALTER".toList "TABLE".toList) x y) :
    Passes read x y :=
  h.mono fun _ => read_eq_none_of_phrase

lemma passes_read_blanks {b : List Char} (h : Blanks b) (s : List Char) : Passes read b s :=
  passes_read (passes_blanks (by decide) (by decide) h)

lemma passes_alter_tail {u : List Char} (h : Spaced "ALTER".toList u) :
    ∃ c t, u = c :: t ∧ ∀ s, Passes (phrase "ALTER".toList "TABLE".toList) t s := by
  obtain ⟨k, b, hk, hb, rfl⟩ := h
  cases k with
  | nil => simp at hk
  | cons c k =>
    have hk : k.map caseless = "LTER".toList := (List.cons.inj hk).2
    refine ⟨c, k ++ b, rfl, fun s => passes_append.mpr ⟨?_, passes_blanks (by decide) (by decide) hb.2⟩⟩
    exact passes_of_apart (by rw [hk]; decide)

lemma passes_token {t g u : List Char} (ht : Solid t) (hg : Gap g) (hu : Spaced "ADD".toList u)
    (s : List Char) : Passes (phrase "ALTER".toList "TABLE".toList) t (g ++ (u ++ s)) := by
  refine passes_word (by decide) ht hg (hu.bars (by decide) (by decide) s) (.inr ?_)
  obtain ⟨k, b, hk, _, rfl⟩ := hu
  rw [List.append_assoc]
  exact keyword_eq_none (by rw [hk]; decide) (by rw [hk]; decide)

lemma Form.passes_header (a : Form) :
    ∃ c h, a.header = c :: h ∧ ∀ s, Passes (phrase "ALTER".toList "TABLE".toList) h s := by
  obtain ⟨c, t, hu, ht⟩ := passes_alter_tail a.alter_spaced
  refine ⟨c, t ++ (a.table ++ (a.token ++ (a.gap ++ (a.add ++ (a.opening ++ a.word))))), ?_, fun s => ?_⟩
  · rw [header, hu, List.cons_append]
  simp only [passes_append, List.append_assoc]
  refine ⟨ht _, a.table_spaced.passes (by decide) (by decide) (by decide) _,
    passes_token a.token_form.2 a.gap_gap a.add_spaced _,
    passes_blanks (by decide) (by decide) a.gap_gap.2,
    a.add_spaced.passes (by decide) (by decide) (by decide) _, ?_, ?_⟩
  · rcases a.opening_form with h | ⟨b, hb, h⟩
    · rw [h]
      exact passes_nil _ _
    · rw [h]
      refine passes_cons.mpr ⟨?_, passes_blanks (by decide) (by decide) hb⟩
      have hw : caseless '(' ∉ "ALTER".toList := by decide
      exact phrase_eq_none_of_keywordBlanks
        (keywordBlanks_stop (x := []) (by decide) (by decide) hw)
  · rcases a.word_form with ⟨hw, _⟩ | hw
    · rw [hw]
      exact passes_nil _ _
    · exact passes_of_apart (by rw [hw]; decide)

theorem Form.eq_nil_of_inside {a b : Form} {x z : List Char} (h : a.text = x ++ (b.text ++ z))
    (hx : x ≠ []) : z = [] := by
  by_contra hz
  have hsplit : (a.header ++ a.skipped) ++ a.clause.text =
      (x ++ (b.header ++ b.skipped)) ++ (b.clause.text ++ z) := by
    simpa [text] using h
  rcases List.append_eq_append_iff.mp hsplit with ⟨_, _, hc⟩ | ⟨y, hy, hc⟩
  · exact hz (Reference.Form.eq_nil_of_inside hc)
  -- the clause of `b` begins before the clause of `a`, which `a` would then have taken instead, unless
  -- `b` lies in the header of `a`
  · cases y with
    | nil => exact hz (Reference.Form.eq_nil_of_inside (x := []) (by simpa using hc.symm))
    | cons d y =>
      rcases List.append_eq_append_iff.mp hy with ⟨u, hu, hs⟩ | ⟨u, hu, hs⟩
      · have hnone := a.skipped_form.2 (d :: y) ⟨u, hs.symm⟩ (by simp)
        rw [← hc, Reference.read_text] at hnone
        exact Option.some_ne_none _ hnone
      · obtain ⟨c, t, ht, hpass⟩ := a.passes_header
        obtain ⟨c', t', hb, _⟩ := b.passes_header
        cases x with
        | nil => exact hx rfl
        | cons e x =>
          rw [ht, List.cons_append, List.cons_append] at hu
          have ht := (List.cons.inj hu).2
          have hnone := hpass [] (b.header ++ (b.skipped ++ u)) ⟨x, by simp [ht]⟩ (by simp [hb])
          rw [List.append_assoc] at hnone
          exact b.phrase_header _ hnone

end SchemaAtlas.Ddl.AddedKey
