import SchemaAtlas.Ddl.Extract
import SchemaAtlas.Proofs.Ddl.Surroundings
import SchemaAtlas.Proofs.Text.Searching

/-! The words with which the extracted statements begin, and the words that add a constraint, each
described by the pieces that the text falls into. -/

namespace SchemaAtlas.Extract

open SchemaAtlas.Text

structure Opening where
  first : List Char
  between : List (List Char)
  last : List Char
  first_capitals : Capitals first
  between_apart : ∀ w ∈ between, Capitals w ∧ ¬last <+: w ∧ ¬w <+: last
  last_capitals : Capitals last

namespace Opening

def table : Opening where
  first := "CREATE".toList
  between := []
  last := "TABLE".toList
  first_capitals := by decide
  between_apart := by decide
  last_capitals := by decide

def alter : Opening where
  first := "ALTER".toList
  between := []
  last := "TABLE".toList
  first_capitals := by decide
  between_apart := by decide
  last_capitals := by decide

def index : Opening where
  first := "CREATE".toList
  between := ["UNIQUE".toList, "BITMAP".toList]
  last := "INDEX".toList
  first_capitals := by decide
  between_apart := by decide
  last_capitals := by decide

def Opens (o : Opening) (s : List Char) : Prop :=
  ∃ u m v r, Spaced o.first u ∧ (m = [] ∨ ∃ w ∈ o.between, Spaced w m) ∧ v.map caseless = o.last ∧
    s = u ++ (m ++ (v ++ r))

def read (o : Opening) (s : List Char) : Option (List Char) :=
  keywordBlanks o.first s >>= fun s =>
    keyword o.last ((o.between.findSome? fun w => keywordBlanks w s).getD s)

variable {o : Opening} {u m v r s t : List Char}

lemma spelled_ne_nil (hv : v.map caseless = o.last) : v ≠ [] := by
  rintro rfl
  exact o.last_capitals.1 hv.symm

lemma bars_last (hv : v.map caseless = o.last) (r : List Char) : Bars isBlank (v ++ r) :=
  (solid_of_map_caseless o.last_capitals.solid hv).bars (spelled_ne_nil hv)

lemma bars_between (hm : m = [] ∨ ∃ w ∈ o.between, Spaced w m) (hv : v.map caseless = o.last)
    (r : List Char) : Bars isBlank (m ++ (v ++ r)) := by
  rcases hm with rfl | ⟨w, hw, hm⟩
  · exact bars_last hv r
  · have hcapitals := (o.between_apart w hw).1
    exact hm.bars hcapitals.1 hcapitals.solid _

lemma findSome?_between {w : List Char} (hw : w ∈ o.between) (hm : Spaced w m)
    (hs : Bars isBlank s) : (o.between.findSome? fun w => keywordBlanks w (m ++ s)) = some s := by
  obtain ⟨t, ht⟩ : ∃ t, (o.between.findSome? fun w => keywordBlanks w (m ++ s)) = some t := by
    apply Option.ne_none_iff_exists'.mp
    intro hnone
    have hread := List.findSome?_eq_none_iff.mp hnone w hw
    rw [hm.read hs] at hread
    exact Option.some_ne_none _ hread
  -- whichever word is read there is the whole word, so that the rest is the same
  obtain ⟨w', hw', hread⟩ := List.exists_of_findSome?_eq_some ht
  obtain ⟨k, b, hk, hb, rfl⟩ := hm
  have hsolid := solid_of_map_caseless (o.between_apart w hw).1.solid hk
  rw [List.append_assoc] at hread
  obtain ⟨-, rfl⟩ := keywordBlanks_word (o.between_apart w' hw').1.solid hsolid hb hs hread
  exact ht

lemma findSome?_last (hv : v.map caseless = o.last) (r : List Char) :
    (o.between.findSome? fun w => keywordBlanks w (v ++ r)) = none := by
  apply List.findSome?_eq_none_iff.mpr
  intro w hw
  obtain ⟨-, hlast, hword⟩ := o.between_apart w hw
  rw [← hv] at hlast hword
  rw [keywordBlanks, keyword_eq_none hlast hword]
  rfl

theorem isSome_read_iff : (o.read s).isSome = true ↔ o.Opens s := by
  rw [Option.isSome_iff_exists]
  constructor
  · rintro ⟨r, hr⟩
    simp only [read, Option.bind_eq_bind, Option.bind_eq_some_iff] at hr
    obtain ⟨t, ht, hlast⟩ := hr
    obtain ⟨u, hu, -, rfl⟩ := keywordBlanks_eq_some.mp ht
    obtain ⟨v, hv, hrest⟩ := keyword_eq_some.mp hlast
    cases hm : o.between.findSome? fun w => keywordBlanks w t with
    | none =>
      rw [hm, Option.getD_none] at hrest
      exact ⟨u, [], v, r, hu, .inl rfl, hv, by rw [hrest]; rfl⟩
    | some t' =>
      rw [hm, Option.getD_some] at hrest
      obtain ⟨w, hw, hread⟩ := List.exists_of_findSome?_eq_some hm
      obtain ⟨m, hspaced, -, rfl⟩ := keywordBlanks_eq_some.mp hread
      exact ⟨u, m, v, r, hu, .inr ⟨w, hw, hspaced⟩, hv, by rw [hrest]⟩
  · rintro ⟨u, m, v, r, hu, hm, hv, rfl⟩
    have hbetween : (o.between.findSome? fun w => keywordBlanks w (m ++ (v ++ r))).getD
        (m ++ (v ++ r)) = v ++ r := by
      rcases hm with rfl | ⟨w, hw, hm⟩
      · rw [List.nil_append, findSome?_last hv]
        rfl
      · rw [findSome?_between hw hm (bars_last hv r)]
        rfl
    refine ⟨r, ?_⟩
    rw [read, hu.read (bars_between hm hv r), Option.bind_eq_bind, Option.bind_some, hbetween]
    exact keyword_append hv r

instance (o : Opening) : DecidablePred o.Opens := fun _ => decidable_of_iff _ isSome_read_iff

lemma opens_not_nil (o : Opening) : ¬o.Opens [] := by
  rintro ⟨u, m, v, r, hu, hm, hv, h⟩
  obtain ⟨-, h⟩ := List.append_eq_nil_iff.mp h.symm
  obtain ⟨-, h⟩ := List.append_eq_nil_iff.mp h
  exact spelled_ne_nil hv (List.append_eq_nil_iff.mp h).1

lemma Opens.ne_nil (h : o.Opens s) : s ≠ [] := by
  rintro rfl
  exact o.opens_not_nil h

lemma Opens.begins (h : o.Opens s) : Ddl.AddedKey.Begins s := by
  obtain ⟨u, m, v, r, ⟨k, b, hk, -, rfl⟩, -, -, rfl⟩ := h
  have hparen : caseless '(' ∉ o.first := o.first_capitals.not_mem (by decide)
  rw [List.append_assoc]
  exact Ddl.AddedKey.begins_of_map_caseless hk o.first_capitals.1 o.first_capitals.solid hparen _

lemma opens_delimited {w : List Char} (hw : ';' ∉ w) (s : List Char) :
    o.Opens (w ++ ';' :: s) ↔ o.Opens w := by
  -- a statement cannot begin at a delimiter, and its first words end before the next one
  have hupper : (caseless ';').isUpper = false := by decide
  have hspaced {w u : List Char} (hw : Capitals w) (hu : Spaced w u) : ';' ∉ u :=
    hu.not_mem (by decide) (hw.not_mem hupper)
  constructor
  · rintro ⟨u, m, v, r, hu, hm, hv, h⟩
    have hfront : ';' ∉ u ++ (m ++ v) := by
      simp only [List.mem_append, not_or]
      refine ⟨hspaced o.first_capitals hu, ?_, fun hmem => ?_⟩
      · rcases hm with rfl | ⟨w, hw, hm⟩
        · simp
        · exact hspaced (o.between_apart w hw).1 hm
      · exact o.last_capitals.not_mem hupper (hv ▸ List.mem_map_of_mem hmem)
    have hsplit : (u ++ (m ++ v)) ++ r = w ++ ';' :: s := by simpa using h.symm
    obtain ⟨b, rfl, -⟩ := exists_of_not_mem_left hsplit hfront
    exact ⟨u, m, v, b, hu, hm, hv, by simp⟩
  · rintro ⟨u, m, v, r, hu, hm, hv, rfl⟩
    exact ⟨u, m, v, r ++ ';' :: s, hu, hm, hv, by simp⟩

lemma Opens.exists_phrase (h : o.Opens s) : ∃ v ∈ o.last :: o.between, phrase o.first v s ≠ none := by
  obtain ⟨u, m, v, r, hu, hm, hv, rfl⟩ := h
  have hfirst := hu.read (bars_between hm hv r)
  rcases hm with rfl | ⟨w, hw, k, b, hk, -, rfl⟩
  · refine ⟨o.last, List.mem_cons_self, ?_⟩
    rw [phrase, hfirst, Option.bind_eq_bind, Option.bind_some, List.nil_append, keyword_append hv]
    exact Option.some_ne_none _
  · refine ⟨w, List.mem_cons_of_mem _ hw, ?_⟩
    rw [phrase, hfirst, Option.bind_eq_bind, Option.bind_some, List.append_assoc, keyword_append hk]
    exact Option.some_ne_none _

end Opening

lemma startsTable_iff {s : List Char} : startsTable s = true ↔ Opening.table.Opens s :=
  Opening.isSome_read_iff (o := Opening.table)

lemma startsAlter_iff {s : List Char} : startsAlter s = true ↔ Opening.alter.Opens s :=
  Opening.isSome_read_iff (o := Opening.alter)

lemma startsIndex_iff {s : List Char} : startsIndex s = true ↔ Opening.index.Opens s := by
  have hbetween (t : List Char) :
      (keywordBlanks "UNIQUE".toList t <|> keywordBlanks "BITMAP".toList t) =
        Opening.index.between.findSome? fun w => keywordBlanks w t := by
    have hlist : Opening.index.between = ["UNIQUE".toList, "BITMAP".toList] := rfl
    rw [hlist, List.findSome?_cons, List.findSome?_cons]
    cases keywordBlanks "UNIQUE".toList t <;> cases keywordBlanks "BITMAP".toList t <;> rfl
  rw [← Opening.isSome_read_iff, startsIndex]
  simp only [hbetween]
  rfl

def AddsConstraint (t : List Char) : Prop :=
  ∃ x add paren word r, t = x ++ (add ++ (paren ++ (word ++ r))) ∧ Bars isWord x.reverse ∧
    Spaced "ADD".toList add ∧ (paren = [] ∨ ∃ b, Blanks b ∧ paren = '(' :: b) ∧
    word.map caseless = "CONSTRAINT".toList ∧ Bars isWord r

lemma isSome_read_iff {d : List Char} : (addsConstraint.read d).isSome = true ↔
    ∃ add paren word r, d = add ++ (paren ++ (word ++ r)) ∧ Spaced "ADD".toList add ∧
      (paren = [] ∨ ∃ b, Blanks b ∧ paren = '(' :: b) ∧ word.map caseless = "CONSTRAINT".toList ∧
      Bars isWord r := by
  rw [Option.isSome_iff_exists]
  constructor
  · rintro ⟨r, hr⟩
    simp only [addsConstraint.read, Option.bind_eq_bind, Option.bind_eq_some_iff] at hr
    obtain ⟨s, hs, r', hr', hend⟩ := hr
    obtain ⟨add, hadd, hbars, rfl⟩ := keywordBlanks_eq_some.mp hs
    obtain ⟨paren, hparen, hsplit⟩ := Ddl.AddedKey.exists_opening s hbars
    obtain ⟨word, hword, hrest⟩ := keyword_eq_some.mp hr'
    have hbars : Bars isWord r' := by
      by_contra hne
      rw [if_neg fun h => hne (atWordEnd_iff.mp h)] at hend
      cases hend
    exact ⟨add, paren, word, r', by rw [← hrest, ← hsplit], hadd, hparen, hword, hbars⟩
  · rintro ⟨add, paren, word, r, rfl, hadd, hparen, hword, hr⟩
    have hbegins := Ddl.AddedKey.begins_of_map_caseless hword (by decide) (by decide) (by decide) r
    have hbars : Bars isBlank (paren ++ (word ++ r)) := by
      rcases hparen with rfl | ⟨b, -, rfl⟩
      · exact hbegins.bars
      · exact (bars_cons _ _ _).mpr (by decide)
    refine ⟨r, ?_⟩
    rw [addsConstraint.read, hadd.read hbars]
    simp only [Option.bind_eq_bind, Option.bind_some, Ddl.AddedKey.skip_opening hparen hbegins,
      keyword_append hword, if_pos (atWordEnd_iff.mpr hr)]

theorem addsConstraint_iff {t : List Char} : addsConstraint t = true ↔ AddsConstraint t := by
  rw [addsConstraint, isSome_firstAtWord_iff]
  constructor
  · rintro ⟨x, d, rfl, -, -, hx, hread⟩
    obtain ⟨add, paren, word, r, rfl, hadd, hparen, hword, hr⟩ := isSome_read_iff.mp hread
    exact ⟨x, add, paren, word, r, rfl, hx, hadd, hparen, hword, hr⟩
  · rintro ⟨x, add, paren, word, r, rfl, hx, hadd, hparen, hword, hr⟩
    refine ⟨x, _, rfl, ?_, fun _ => rfl, hx, isSome_read_iff.mpr ⟨add, paren, word, r, rfl, hadd, hparen,
      hword, hr⟩⟩
    intro hnil
    obtain ⟨rfl, -⟩ := List.append_eq_nil_iff.mp hnil
    obtain ⟨k, b, -, hb, hnil⟩ := hadd
    exact hb.1 (List.append_eq_nil_iff.mp hnil.symm).2

instance : DecidablePred AddsConstraint := fun _ => decidable_of_iff _ addsConstraint_iff

end SchemaAtlas.Extract
