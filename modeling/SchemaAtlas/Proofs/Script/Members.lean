import SchemaAtlas.Proofs.Script.Columns

/-! Every member of a table as it is printed is read as that member. -/

namespace SchemaAtlas.Script

open SchemaAtlas.Text SchemaAtlas.Ddl

namespace Entry

def member (table : String) : Entry → Ddl.Member
  | column name type qualifier =>
    .column ⟨name.name, type.label, decide (qualifier = .primaryKey), decide (qualifier = .notNull)⟩
  | primaryKey _ columns => .clause (.primaryKey columns.names)
  | unique _ columns => .clause (.unique columns.names)
  | foreignKey _ key => .clause (.foreignKey (key.ofTable table))

def Readable : Entry → Prop
  | column name _ _ => ¬Name.Reserved name.name
  | _ => True

end Entry

variable (l : Option Word) (label : Word) (columns : Words) (key : Key)

lemma atWordEnd_blank (s : List Char) : atWordEnd (' ' :: s) = true := by
  have hblank : isWord ' ' = false := by decide
  rw [atWordEnd, hblank]
  rfl

lemma isConstraint_label (s : List Char) : isConstraint (labelText (some label) ++ s) = true := by
  have hsplit : labelText (some label) ++ s =
      "CONSTRAINT".toList ++ (' ' :: (label.text ++ (' ' :: s))) := by simp
  rw [hsplit]
  exact isConstraint_of_word (atWordEnd_blank _)

lemma isConstraint_keyed {w k : List Char} (hw : w = "PRIMARY".toList ∨ w = "FOREIGN".toList)
    (hk : k = w ++ " KEY ".toList) (s : List Char) : isConstraint (labelText l ++ (k ++ s)) = true := by
  cases l with
  | some label => exact isConstraint_label label _
  | none =>
    have hsolid : Solid w := by rcases hw with rfl | rfl <;> decide
    have hspelled : w.map caseless = w := by rcases hw with rfl | rfl <;> decide
    have hspaced : Spaced w (w ++ [' ']) := ⟨w, [' '], hspelled, by decide, rfl⟩
    have hbars : Bars isBlank ("KEY".toList ++ (' ' :: s)) := (bars_cons _ _ _).mpr (by decide)
    have hsplit : k ++ s = (w ++ [' ']) ++ ("KEY".toList ++ (' ' :: s)) := by simp [hk]
    have hphrase : phrase w "KEY".toList (k ++ s) = some (' ' :: s) := by
      rw [hsplit, phrase, hspaced.read hbars]
      exact keyword_append (by decide) _
    exact isConstraint_of_key hw hphrase (atWordEnd_blank s)

lemma readPrimaryKey_text :
    Clause.readPrimaryKey ("PRIMARY KEY ".toList ++ columns.text) = some (columns.inside, []) := by
  have hspaced : Spaced "PRIMARY".toList "PRIMARY ".toList := spaced_of_append (by decide) (by decide)
  have hbars : Bars isBlank ("KEY".toList ++ (' ' :: columns.text)) := (bars_cons _ _ _).mpr (by decide)
  have hkey : keyword "KEY".toList ("KEY".toList ++ (' ' :: columns.text)) = some (' ' :: columns.text) :=
    keyword_append (by decide) _
  have hskip : skipBlanks (' ' :: columns.text) = columns.text :=
    skipBlanks_append (b := [' ']) (by decide) ((bars_cons _ _ _).mpr (by decide))
  have hsplit : "PRIMARY KEY ".toList ++ columns.text =
      "PRIMARY ".toList ++ ("KEY".toList ++ (' ' :: columns.text)) := by simp
  rw [hsplit, Clause.readPrimaryKey, hspaced.read hbars, Option.bind_eq_bind, Option.bind_some, hkey,
    Option.bind_some, hskip]
  exact enclosed_append columns.inside_ne_nil columns.close_not_mem_inside []

lemma read_primaryKey (table : String) : Clause.read table (Entry.primaryKey l columns).text =
    some (.primaryKey columns.names) := by
  have hmention : mentions "PRIMARY KEY" (Entry.primaryKey l columns).text = true := by
    have hsplit : (Entry.primaryKey l columns).text =
        labelText l ++ ("PRIMARY KEY".toList ++ (' ' :: columns.text)) := by simp
    rw [hsplit]
    exact mentions_of_append (by decide) _ _
  have hpass : Passes Clause.readPrimaryKey (labelText l) ("PRIMARY KEY ".toList ++ columns.text) := by
    apply passes_readPrimaryKey
    have hbars : Bars isBlank "PRIMARY KEY ".toList := by decide
    exact passes_label (by decide) (by decide) l (hbars.append (by decide) _)
      (keyword_eq_none (by decide) (by decide))
  have hread : Clause.primaryKeyPattern.read ("PRIMARY KEY ".toList ++ columns.text) =
      some (columns.inside, []) := readPrimaryKey_text columns
  have hfirst : Clause.primaryKeyPattern.first? (Entry.primaryKey l columns).text =
      some (columns.inside, []) := by
    rw [Entry.text_primaryKey, Pattern.first?_of_passes hpass]
    exact Pattern.first?_of_read (by simp) hread
  rw [Clause.read, if_pos hmention, hfirst, Option.map_some, columns.columnNames_inside]

lemma read_foreignKey (table : String) : Clause.read table (Entry.foreignKey l key).text =
    some (.foreignKey (key.ofTable table)) := by
  have hkey : ∀ s, keyword "KEY".toList ("FOREIGN KEY ".toList ++ s) = none := fun _ =>
    keyword_eq_none (by decide) (by decide)
  have hprimary : mentions "PRIMARY KEY" (Entry.foreignKey l key).text = false := by
    have hliterals : ∀ t ∈ (Entry.foreignKey l key).literals,
        Apart "PRIMARY".toList (t.map caseless) := by
      simp only [Entry.literals]
      decide
    exact Entry.mentions_eq_false _ (by decide) (by decide) (by decide) hliterals hkey
  have hmention : mentions "FOREIGN KEY" (Entry.foreignKey l key).text = true := by
    have hsplit : (Entry.foreignKey l key).text = labelText l ++ ("FOREIGN KEY".toList ++
        (' ' :: (key.columns.text ++ (" REFERENCES ".toList ++ (key.target.text ++
          (' ' :: key.targetColumns.text)))))) := by simp [key.text_eq]
    rw [hsplit]
    exact mentions_of_append (by decide) _ _
  have hpass : Passes Reference.read (labelText l) key.text := by
    apply Reference.passes_read
    simpa using key.passes_label (by decide) (by decide) hkey l []
  have hread : Reference.pattern.read key.text = some (key.form.reference, []) := by
    have h := Reference.read_text key.form []
    rw [List.append_nil, key.text_form] at h
    exact h
  have hne : key.text ≠ [] := by simp [key.text_eq]
  have hfirst : Reference.pattern.first? (Entry.foreignKey l key).text =
      some (key.form.reference, []) := by
    rw [Entry.text_foreignKey, Pattern.first?_of_passes hpass, Pattern.first?_of_read hne hread]
  rw [Clause.read, hprimary, if_neg Bool.false_ne_true, if_pos hmention, hfirst, Option.map_some,
    key.reference_form]

lemma readUnique_text : Clause.readUnique ("UNIQUE ".toList ++ columns.text) = some columns.inside := by
  have hword : keyword "UNIQUE".toList ("UNIQUE".toList ++ (' ' :: columns.text)) =
      some (' ' :: columns.text) := keyword_append (by decide) _
  have hskip : skipBlanks (' ' :: columns.text) = columns.text :=
    skipBlanks_append (b := [' ']) (by decide) ((bars_cons _ _ _).mpr (by decide))
  have hsplit : "UNIQUE ".toList ++ columns.text = "UNIQUE".toList ++ (' ' :: columns.text) := by simp
  have hread : enclosed columns.text = some (columns.inside, []) :=
    enclosed_append columns.inside_ne_nil columns.close_not_mem_inside []
  rw [hsplit, Clause.readUnique, hword, Option.bind_eq_bind, Option.bind_some, hskip, hread]
  rfl

lemma read_unique (table : String) : Clause.read table (Entry.unique label columns).text =
    some (.unique columns.names) := by
  have hkey : ∀ s, keyword "KEY".toList ("UNIQUE ".toList ++ s) = none := fun _ =>
    keyword_eq_none (by decide) (by decide)
  have hprimary : mentions "PRIMARY KEY" (Entry.unique label columns).text = false := by
    have hliterals : ∀ t ∈ (Entry.unique label columns).literals,
        Apart "PRIMARY".toList (t.map caseless) := by
      simp only [Entry.literals]
      decide
    exact Entry.mentions_eq_false _ (by decide) (by decide) (by decide) hliterals hkey
  have hforeign : mentions "FOREIGN KEY" (Entry.unique label columns).text = false := by
    have hliterals : ∀ t ∈ (Entry.unique label columns).literals,
        Apart "FOREIGN".toList (t.map caseless) := by
      simp only [Entry.literals]
      decide
    exact Entry.mentions_eq_false _ (by decide) (by decide) (by decide) hliterals hkey
  have hpass : Passes Clause.readUnique (("CONSTRAINT ".toList ++ label.text) ++ [' '])
      ("UNIQUE ".toList ++ columns.text) := by
    apply passes_readUnique
    have hopen : '(' ∉ label.text := label.not_mem_text (by decide) (by decide)
    have hbars : Bars (fun c => isBlank c || c == '(') "UNIQUE ".toList := by decide
    rw [passes_append, passes_append]
    refine ⟨⟨passes_opened (by decide), ?_⟩, passes_opened (by decide)⟩
    exact passes_opened_word (by decide) label.solid hopen (by decide) (hbars.append (by decide) _)
  have hfirst : firstAtWord Clause.readUnique true (Entry.unique label columns).text =
      some columns.inside := by
    have hsplit : (Entry.unique label columns).text =
        ("CONSTRAINT ".toList ++ label.text) ++ ' ' :: ("UNIQUE ".toList ++ columns.text) := by simp
    rw [hsplit, firstAtWord_of_passes hpass (by decide)]
    exact firstAtWord_of_read (by simp) (readUnique_text columns)
  rw [Clause.read, hprimary, if_neg Bool.false_ne_true, hforeign, if_neg Bool.false_ne_true, hfirst]
  simp only [columns.columnNames_inside]

theorem Entry.read_text (e : Entry) (h : e.Readable) (table : String) :
    Ddl.Member.read table e.text = some (e.member table) := by
  cases e with
  | column name type qualifier =>
    rw [Ddl.Member.read, isConstraint_column name type qualifier h, if_neg Bool.false_ne_true,
      readColumn_text name type qualifier h]
    rfl
  | primaryKey l columns =>
    have hconstraint : isConstraint (Entry.primaryKey l columns).text = true :=
      isConstraint_keyed l (.inl rfl) (by decide) columns.text
    rw [Ddl.Member.read, if_pos hconstraint, read_primaryKey]
    rfl
  | unique label columns =>
    have hconstraint : isConstraint (Entry.unique label columns).text = true :=
      isConstraint_label label _
    rw [Ddl.Member.read, if_pos hconstraint, read_unique]
    rfl
  | foreignKey l key =>
    have hconstraint : isConstraint (Entry.foreignKey l key).text = true := by
      rw [Entry.text_foreignKey, key.text_eq]
      exact isConstraint_keyed l (.inr rfl) (by decide) _
    rw [Ddl.Member.read, if_pos hconstraint, read_foreignKey]
    rfl

end SchemaAtlas.Script
