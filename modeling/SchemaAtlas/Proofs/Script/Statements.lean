import SchemaAtlas.Proofs.Ddl.AddedKeyForm
import SchemaAtlas.Proofs.Ddl.Rejoining
import SchemaAtlas.Proofs.Script.Members

/-! What the two searches of a dump make of each instruction of a script: each finds its own kind of
statement and passes over the other kind. -/

namespace SchemaAtlas.Script

open SchemaAtlas.Text SchemaAtlas.Ddl

def firstWords : List (List Char) := ["CREATE".toList, "ALTER".toList]

def secondWords : List (List Char) :=
  ["TABLE".toList, "INDEX".toList, "UNIQUE".toList, "BITMAP".toList]

section Beginnings

variable {w v : List Char}

lemma capitals_of_mem_firstWords (hw : w ∈ firstWords) : Capitals w := by
  revert w
  decide

lemma capitals_of_mem_secondWords (hv : v ∈ secondWords) : Capitals v := by
  revert v
  decide

lemma passes_words {u x : List Char} (hw : w ∈ firstWords) (hv : v ∈ secondWords) (hu : u ∈ firstWords)
    (hx : x ∈ secondWords) (h : w ≠ u ∨ v ≠ x) (s : List Char) :
    Passes (phrase w v) (u ++ ([' '] ++ (x ++ [' ']))) s := by
  -- statements with the same first word differ in the second
  have hfirst : ∀ u ∈ firstWords, ∀ w ∈ firstWords, w ≠ u → ¬w <:+ u.map caseless := by decide
  have hsecond : ∀ x ∈ secondWords, ∀ v ∈ secondWords, v ≠ x →
      ¬x.map caseless <+: v ∧ ¬v <+: x.map caseless := by decide
  have hapart : ∀ w ∈ firstWords, ∀ x ∈ secondWords, Apart w (x.map caseless) := by decide
  have hu' := capitals_of_mem_firstWords hu
  have hx' := capitals_of_mem_secondWords hx
  have hbars : Bars isBlank ((x ++ [' ']) ++ s) := by
    rw [List.append_assoc]
    exact hx'.solid.bars hx'.1
  have hspell : ¬w <:+ u.map caseless ∨ keyword v ((x ++ [' ']) ++ s) = none := by
    rcases h with h | h
    · exact .inl (hfirst u hu w hw h)
    · obtain ⟨h₁, h₂⟩ := hsecond x hx v hv h
      rw [List.append_assoc]
      exact .inr (keyword_eq_none h₁ h₂)
  have hw' := capitals_of_mem_firstWords hw
  rw [passes_append, passes_append, passes_append, List.append_assoc]
  exact ⟨passes_word hw'.solid hu'.solid (by decide) hbars hspell, passes_marks hw' (by decide) _,
    passes_of_apart (hapart w hw x hx), passes_marks hw' (by decide) _⟩

def Entry.Plain : Entry → Prop
  | unique .. => False
  | _ => True

lemma Entry.passes_statement {e : Entry} (he : v ≠ "UNIQUE".toList ∨ e.Plain) (hw : w ∈ firstWords)
    (hv : v ∈ secondWords) (s : List Char) : Passes (phrase w v) e.text s := by
  have hliterals : ∀ w ∈ firstWords, ∀ l ∈ e.literals, Apart w (l.map caseless) := by
    cases e with
    | column name type qualifier => cases type <;> cases qualifier <;> simp only [literals] <;> decide
    | primaryKey | unique | foreignKey => simp only [literals]; decide
  have htype (type : DataType) :
      ∀ v ∈ secondWords, ¬type.word.map caseless <+: v ∧ ¬v <+: type.word.map caseless := by
    cases type <;> decide
  have hkey : ∀ x ∈ ["PRIMARY KEY ".toList, "FOREIGN KEY ".toList], ∀ v ∈ secondWords,
      ¬x.map caseless <+: v ∧ ¬v <+: x.map caseless := by decide
  have hunique : ∀ v ∈ secondWords, v ≠ "UNIQUE".toList →
      ¬"UNIQUE ".toList.map caseless <+: v ∧ ¬v <+: "UNIQUE ".toList.map caseless := by decide
  have hkeyword {x : List Char} (hx : x ∈ ["PRIMARY KEY ".toList, "FOREIGN KEY ".toList])
      (s : List Char) : keyword v (x ++ s) = none :=
    keyword_eq_none (hkey x hx v hv).1 (hkey x hx v hv).2
  have hlead (s : List Char) : keyword v (e.lead ++ s) = none := by
    cases e with
    | column name type qualifier => exact keyword_type type (htype type v hv) s
    | primaryKey => exact hkeyword List.mem_cons_self s
    | unique =>
      obtain ⟨h₁, h₂⟩ := hunique v hv (he.resolve_right id)
      exact keyword_eq_none h₁ h₂
    | foreignKey => exact hkeyword (List.mem_cons_of_mem _ List.mem_cons_self) s
  have hcapitals := capitals_of_mem_firstWords hw
  exact e.passes hcapitals (capitals_of_mem_secondWords hv) (hliterals w hw) hlead s

end Beginnings

lemma spaced_create : Spaced "CREATE".toList "CREATE ".toList :=
  spaced_of_append (by decide) (by decide)

lemma spaced_alter : Spaced "ALTER".toList "ALTER ".toList :=
  spaced_of_append (by decide) (by decide)

lemma spaced_table : Spaced "TABLE".toList "TABLE ".toList :=
  spaced_of_append (by decide) (by decide)

lemma blanks_space : Blanks [' '] := by decide

namespace Creation

variable (t : Creation)

lemma delimiter_not_mem_body : ';' ∉ t.body := by
  intro h
  rcases mem_joined h with h | h | ⟨x, hx, hc⟩
  · exact absurd h (by decide)
  · exact absurd h (by decide)
  · obtain ⟨e, _, rfl⟩ := List.mem_map.mp hx
    exact e.delimiter_not_mem hc

lemma closes_body : Statement.Closes 0 t.body := by
  apply closes_joined
  intro x hx
  obtain ⟨e, _, rfl⟩ := List.mem_map.mp hx
  exact e.grouped.closes

lemma members_body : members t.body = t.entries.map Entry.text := by
  apply members_joined
  intro x hx
  obtain ⟨e, _, rfl⟩ := List.mem_map.mp hx
  exact ⟨e.text_ne_nil, e.tight, e.grouped.whole⟩

lemma condition_form : t.condition = [] ∨ Statement.Condition t.condition := by
  unfold condition
  split
  · right
    exact ⟨"IF ".toList, "NOT ".toList, "EXISTS ".toList, spaced_of_append (by decide) (by decide),
      spaced_of_append (by decide) (by decide), spaced_of_append (by decide) (by decide), by decide⟩
  · exact .inl rfl

def heading : Statement.Heading where
  create := "CREATE ".toList
  table := "TABLE ".toList
  condition := t.condition
  token := t.name.text
  gap := [' ']
  create_spaced := spaced_create
  table_spaced := spaced_table
  condition_form := t.condition_form
  token_form := t.name.token
  gap_blanks := blanks_space

lemma text_heading : t.text = t.heading.text ++ ((t.body ++ [')']) ++ [';']) := by
  have hheading : t.heading.text = "CREATE ".toList ++ ("TABLE ".toList ++ (t.condition ++ (t.name.text ++
      ([' '] ++ ['('])))) := rfl
  rw [hheading, t.text_eq]
  simp

theorem scan_text (s : List Char) :
    Statement.scan (t.text ++ s) = ⟨t.name.text, t.body⟩ :: Statement.scan s := by
  have hsplit : t.text ++ s = t.heading.text ++ (t.body ++ ')' :: ([] ++ ';' :: s)) := by
    rw [t.text_heading]
    simp
  have hdelimiter : ';' ∉ t.body ∧ ';' ∉ ([] : List Char) := ⟨t.delimiter_not_mem_body, by decide⟩
  rw [hsplit, Statement.scan_heading t.heading t.closes_body hdelimiter]
  rfl

lemma passes {w v : List Char} (hw : w ∈ firstWords) (hv : v ∈ secondWords)
    (h : w ≠ "CREATE".toList ∨ v ≠ "TABLE".toList)
    (hentries : ∀ e ∈ t.entries, v ≠ "UNIQUE".toList ∨ e.Plain) (s : List Char) :
    Passes (phrase w v) t.text s := by
  have hw' := capitals_of_mem_firstWords hw
  have hapart : ∀ w ∈ firstWords, Apart w ("IF NOT EXISTS ".toList.map caseless) := by decide
  have hcondition (s : List Char) : Passes (phrase w v) t.condition s := by
    unfold condition
    split
    · exact passes_of_apart (hapart w hw)
    · exact passes_nil _ _
  have hbody (s : List Char) : Passes (phrase w v) t.body (')' :: s) := by
    apply passes_joined hw'
    intro x hx c _ s
    obtain ⟨e, he, rfl⟩ := List.mem_map.mp hx
    exact Entry.passes_statement (hentries e he) hw hv (c :: s)
  have hsplit : t.text = ("CREATE".toList ++ ([' '] ++ ("TABLE".toList ++ [' ']))) ++ (t.condition ++
      (t.name.text ++ ([' '] ++ (['('] ++ (t.body ++ [')', ';']))))) := t.text_eq
  rw [hsplit, passes_append]
  refine ⟨passes_words hw hv (by decide) (by decide) h _, ?_⟩
  simp only [passes_append, List.append_assoc]
  refine ⟨hcondition _, ?_, passes_marks hw' (by decide) _, passes_marks hw' (by decide) _, hbody _,
    passes_marks hw' (by decide) _⟩
  exact t.name.passes_gap hw' (by decide) ((bars_cons _ _ _).mpr (by decide))
    ((capitals_of_mem_secondWords hv).keyword_cons (by decide))

theorem passes_text (s : List Char) : Passes AddedKey.read t.text s :=
  AddedKey.passes_read
    (t.passes (by decide) (by decide) (.inl (by decide)) (fun _ _ => .inl (by decide)) s)

end Creation

namespace Addition

variable (a : Addition)

lemma skipped_form (n : Word) (k : Key) : ';' ∉ [' '] ++ (n.text ++ [' ']) ∧
    Passes Reference.read ([' '] ++ (n.text ++ [' '])) k.text := by
  have hw : Capitals "FOREIGN".toList := by decide
  constructor
  · have hname : ';' ∉ n.text := n.not_mem_text (by decide) (by decide)
    simp [hname]
  · apply Reference.passes_read
    rw [passes_append, passes_append]
    refine ⟨passes_marks hw (by decide) _, ?_, passes_marks hw (by decide) _⟩
    have hbars : Bars isBlank k.text := by simpa using k.bars []
    refine n.passes_gap hw (by decide) hbars ?_
    rw [k.text_eq]
    exact keyword_eq_none (by decide) (by decide)

lemma label_form (l : Option Word) (k : Key) : ∃ word skipped, labelText l = word ++ skipped ∧
    (word = [] ∧ skipped = [] ∨ word.map caseless = "CONSTRAINT".toList) ∧
    (';' ∉ skipped ∧ Passes Reference.read skipped k.text) := by
  cases l with
  | none => exact ⟨[], [], rfl, .inl ⟨rfl, rfl⟩, by simp, passes_nil _ _⟩
  | some n =>
    exact ⟨"CONSTRAINT".toList, [' '] ++ (n.text ++ [' ']), by simp, .inr (by decide), skipped_form n k⟩

lemma exists_form : ∃ f : AddedKey.Form, f.key = a.foreignKey ∧ a.text = f.text ++ [';'] := by
  obtain ⟨word, skipped, hlabel, hword, hskipped⟩ := label_form a.label a.key
  rw [← a.key.text_form] at hskipped
  have hsolid : a.table.text ≠ [] ∧ Solid a.table.text := ⟨a.table.text_ne_nil, a.table.solid⟩
  have hadd : Spaced "ADD".toList "ADD ".toList := spaced_of_append (by decide) (by decide)
  refine ⟨⟨"ALTER ".toList, "TABLE ".toList, a.table.text, [' '], "ADD ".toList, [], word, skipped,
    a.key.form, spaced_alter, spaced_table, hsolid, by decide, hadd, .inl rfl, hword, hskipped⟩, ?_, ?_⟩
  · rw [AddedKey.Form.key, a.table.clean_text, a.key.reference_form]
    rfl
  · rw [AddedKey.Form.text, AddedKey.Form.header, a.text_eq, hlabel, a.key.text_form]
    simp

theorem all_text (s : List Char) :
    AddedKey.pattern.all (a.text ++ s) = a.foreignKey :: AddedKey.pattern.all s := by
  obtain ⟨f, hkey, htext⟩ := a.exists_form
  have hdelimiter : Passes AddedKey.read [';'] s := by
    apply AddedKey.passes_read
    exact passes_marks (by decide) (by decide) s
  have hread : AddedKey.pattern.read (f.text ++ ([';'] ++ s)) = some (f.key, [';'] ++ s) :=
    AddedKey.read_text f _
  rw [htext, List.append_assoc, Pattern.all_of_read hread, Pattern.all_of_passes hdelimiter, hkey]

lemma passes {w v : List Char} (hw : w ∈ firstWords) (hv : v ∈ secondWords)
    (h : w ≠ "ALTER".toList ∨ v ≠ "TABLE".toList) (s : List Char) : Passes (phrase w v) a.text s := by
  have hw' := capitals_of_mem_firstWords hw
  have hv' := capitals_of_mem_secondWords hv
  have hapart : ∀ w ∈ firstWords, ∀ x ∈ ["ADD ".toList, "CONSTRAINT ".toList, "FOREIGN KEY ".toList,
      " REFERENCES ".toList], Apart w (x.map caseless) := by decide
  have hsecond : ∀ v ∈ secondWords, ∀ x ∈ ["ADD ".toList, "FOREIGN KEY ".toList],
      ¬x.map caseless <+: v ∧ ¬v <+: x.map caseless := by decide
  have hkeyword {x : List Char} (hx : x ∈ ["ADD ".toList, "FOREIGN KEY ".toList]) (s : List Char) :
      keyword v (x ++ s) = none :=
    keyword_eq_none (hsecond v hv x hx).1 (hsecond v hv x hx).2
  have hadd : Bars isBlank "ADD ".toList := by decide
  have hsplit : a.text = ("ALTER".toList ++ ([' '] ++ ("TABLE".toList ++ [' ']))) ++ (a.table.text ++
      ([' '] ++ ("ADD ".toList ++ (labelText a.label ++ (a.key.text ++ [';']))))) := by
    rw [a.text_eq]
    simp
  rw [hsplit, passes_append]
  refine ⟨passes_words hw hv (by decide) (by decide) h _, ?_⟩
  simp only [passes_append, List.append_assoc]
  refine ⟨?_, passes_marks hw' (by decide) _, passes_of_apart (hapart w hw _ (by simp)),
    a.key.passes_label hw' (hapart w hw _ (by simp)) (hkeyword (by simp)) a.label _,
    a.key.passes hw' hv' (hapart w hw _ (by simp)) (hapart w hw _ (by simp)) _,
    passes_marks hw' (by decide) _⟩
  exact a.table.passes_gap hw' (by decide) (hadd.append (by decide) _) (hkeyword (by simp) _)

theorem passes_text (s : List Char) : Passes Statement.head a.text s :=
  Statement.passes_head (a.passes (by decide) (by decide) (.inl (by decide)) s)

end Addition

end SchemaAtlas.Script
