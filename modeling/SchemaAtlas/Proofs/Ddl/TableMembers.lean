import SchemaAtlas.Proofs.Ddl.Clauses
import SchemaAtlas.Proofs.Ddl.Mention
import SchemaAtlas.Proofs.Ddl.Names
import SchemaAtlas.Proofs.Ddl.Splitting
import SchemaAtlas.Proofs.Schema.ColumnNames
import SchemaAtlas.Proofs.Text.Spacing

/-! Definitions of columns and clauses of a table, as they are written in a body in any order. A definition is
taken for a clause where it holds the word `CONSTRAINT`, so that its column is lost. -/

namespace SchemaAtlas.Ddl

open SchemaAtlas.Text

def Holds (w d : List Char) : Prop :=
  ∃ x k r, d = x ++ (k ++ r) ∧ k.map caseless = w ∧ Bars isWord x.reverse ∧ Bars isWord r

def BeginsKey (w d : List Char) : Prop :=
  ∃ u k r, d = u ++ (k ++ r) ∧ Spaced w u ∧ k.map caseless = "KEY".toList ∧ Bars isWord r

lemma isSome_constraintWord_iff {d : List Char} : (constraintWord d).isSome = true ↔
    ∃ k r, d = k ++ r ∧ k.map caseless = "CONSTRAINT".toList ∧ Bars isWord r := by
  simp only [constraintWord, Option.isSome_iff_exists, Option.filter_eq_some_iff, keyword_eq_some, atWordEnd_iff]
  constructor
  · rintro ⟨r, ⟨k, hk, rfl⟩, hr⟩
    exact ⟨k, r, rfl, hk, hr⟩
  · rintro ⟨k, r, rfl, hk, hr⟩
    exact ⟨r, ⟨k, hk, rfl⟩, hr⟩

lemma holds_constraint_iff {d : List Char} :
    (firstAtWord constraintWord true d).isSome = true ↔ Holds "CONSTRAINT".toList d := by
  rw [isSome_firstAtWord_iff]
  constructor
  · rintro ⟨x, e, rfl, -, -, hx, he⟩
    obtain ⟨k, r, rfl, hk, hr⟩ := isSome_constraintWord_iff.mp he
    exact ⟨x, k, r, rfl, hk, hx, hr⟩
  · rintro ⟨x, k, r, rfl, hk, hx, hr⟩
    refine ⟨x, k ++ r, rfl, ?_, fun _ => rfl, hx, isSome_constraintWord_iff.mpr ⟨k, r, rfl, hk, hr⟩⟩
    intro hnil
    rw [(List.append_eq_nil_iff.mp hnil).1] at hk
    exact absurd hk (by decide)

lemma beginsKey_iff {w d : List Char} :
    ((phrase w "KEY".toList d).filter atWordEnd).isSome = true ↔ BeginsKey w d := by
  simp only [phrase, Option.isSome_iff_exists, Option.filter_eq_some_iff, Option.bind_eq_bind,
    Option.bind_eq_some_iff, keyword_eq_some, keywordBlanks_eq_some, atWordEnd_iff]
  constructor
  · rintro ⟨r, ⟨s, ⟨u, hu, -, rfl⟩, k, hk, rfl⟩, hr⟩
    exact ⟨u, k, r, rfl, hu, hk, hr⟩
  · rintro ⟨u, k, r, rfl, hu, hk, hr⟩
    have hne : k ≠ [] := by
      rintro rfl
      exact absurd hk (by decide)
    exact ⟨r, ⟨k ++ r, ⟨u, hu, (solid_of_map_caseless (by decide) hk).bars hne, rfl⟩, k, hk, rfl⟩, hr⟩

theorem isConstraint_iff {d : List Char} : isConstraint d = true ↔
    Holds "CONSTRAINT".toList d ∨ BeginsKey "PRIMARY".toList d ∨ BeginsKey "FOREIGN".toList d := by
  rw [isConstraint_eq, Bool.or_eq_true, Bool.or_eq_true, holds_constraint_iff, beginsKey_iff, beginsKey_iff,
    or_assoc]

lemma isSome_run1_iff {stop : Char → Bool} {s : List Char} :
    (run1 stop s).isSome = true ↔ s ≠ [] ∧ Bars stop s := by
  cases s with
  | nil => simp [run1]
  | cons c s => cases hc : stop c <;> simp [run1, hc]

lemma bars_isBlank_of_endsType {s : List Char} (h : Bars endsType s) : Bars isBlank s := fun c hc => by
  have hstop := h c hc
  simp only [endsType, Bool.or_eq_false_iff] at hstop
  exact hstop.1.1

theorem isSome_readColumn_iff {x t : List Char} (hne : x ≠ []) (hx : Solid x) (ht : Bars (!isBlank ·) t) :
    (readColumn (x ++ t)).isSome = true ↔
      Usable x ∧ ∃ g s, t = g ++ s ∧ Gap g ∧ s ≠ [] ∧ Bars endsType s := by
  have hword : run1 isBlank (x ++ t) = some (x, t) := run1_eq_some.mpr ⟨hne, hx, ht, rfl⟩
  rw [readColumn, skipBlanks_of_bars (hx.bars hne)]
  simp only [Option.bind_eq_bind, hword, Option.bind_some]
  constructor
  · intro h
    obtain ⟨c, hc⟩ := Option.isSome_iff_exists.mp h
    simp only [Option.bind_eq_some_iff, Prod.exists] at hc
    obtain ⟨s, hs, type, s₂, htype, hc⟩ := hc
    obtain ⟨g, hg, -, rfl⟩ := blanks1_eq_some.mp hs
    obtain ⟨hs, hbars⟩ := isSome_run1_iff.mp (Option.isSome_of_eq_some htype)
    split at hc
    · cases hc
    · next hgood => exact ⟨usable_iff.mp (eq_false_of_ne_true hgood), g, s, rfl, hg, hs, hbars⟩
  · rintro ⟨hx, g, s, rfl, hg, hs, hbars⟩
    obtain ⟨⟨type, s₂⟩, htype⟩ := Option.isSome_iff_exists.mp (isSome_run1_iff.mpr ⟨hs, hbars⟩)
    unfold endsType at htype
    simp only [blanks1_append hg (bars_isBlank_of_endsType hbars), Option.bind_some, htype, usable_iff.mpr hx,
      Bool.false_eq_true, if_false, Option.isSome_some]

instance (x : List Char) : Decidable (∀ c ∈ x, Name.isNameChar c = true) := List.decidableBAll _ x

structure Definition where
  name : List Char
  gap : List Char
  type : List Char
  qualifiers : List Char
  name_form : name ≠ [] ∧ ∀ c ∈ name, Name.isNameChar c = true
  not_reserved : name.map Char.toUpper ∉
    ["PARTITION".toList, "PRIMARY".toList, "KEY".toList, "CONSTRAINT".toList]
  gap_gap : Gap gap
  type_form : type ≠ [] ∧ Avoids endsType type

namespace Definition

def text (d : Definition) : List Char := d.name ++ (d.gap ++ (d.type ++ d.qualifiers))

def Marked (d : Definition) : Prop := Holds "CONSTRAINT".toList d.text ∨ BeginsKey "FOREIGN".toList d.text

end Definition

def conditionWords : List (List Char) := ["UNIQUE".toList, "CHECK".toList]

inductive Phrase : List Char → Prop where
  | key {w u k : List Char} : w = "PRIMARY".toList ∨ w = "FOREIGN".toList → Spaced w u →
      k.map caseless = "KEY".toList → Phrase (u ++ k)
  | condition {k : List Char} : k.map caseless ∈ conditionWords → Phrase k

inductive Label : List Char → Prop where
  | none : Label []
  | named {u n g : List Char} : Spaced "CONSTRAINT".toList u → n ≠ [] → Solid n → Gap g → Label (u ++ (n ++ g))

structure TableClause where
  label : List Char
  phrase : List Char
  gap : List Char
  rest : List Char
  label_form : Label label
  phrase_form : Phrase phrase
  gap_blanks : Blanks gap

def TableClause.text (c : TableClause) : List Char := c.label ++ (c.phrase ++ (c.gap ++ '(' :: c.rest))

def TableClause.Typed (c : TableClause) : Prop :=
  ∃ x g s, c.rest = x ++ (g ++ s) ∧ Solid x ∧ ')' ∉ x ∧ Gap g ∧ s ≠ [] ∧ Bars endsType s

/-- A condition without a name is glued to its parenthesis, so that the word with what follows it up to the
first gap reads as the name of a column. -/
structure TableClause.Stray (c : TableClause) : Prop where
  unnamed : c.label = []
  condition : c.phrase.map caseless ∈ conditionWords
  glued : c.gap = []
  typed : c.Typed
  unheld : ¬Holds "CONSTRAINT".toList c.text

namespace Definition

variable (d : Definition)

lemma name_solid : Solid d.name := fun c hc => Name.isBlank_of_isNameChar (d.name_form.2 c hc)

lemma name_ascii : Ascii d.name := by
  intro c hc
  have hrange := Name.toNat_of_isNameChar (d.name_form.2 c hc)
  omega

lemma map_caseless_name : d.name.map caseless = d.name.map Char.toUpper :=
  List.map_congr_left fun c hc => caseless_of_ascii (d.name_ascii c hc)

lemma usable_name : Usable d.name := by
  refine ⟨?_, ?_, ?_⟩
  · rw [Name.cleanChars_of_isNameChar d.name_form.2]
    exact d.name_form.1
  · intro hm
    exact absurd (d.name_form.2 _ hm) (by decide)
  · intro w hw he
    have hupper : upper d.name = d.name.map Char.toUpper :=
      (upper_of_ascii d.name_ascii).trans d.map_caseless_name
    apply d.not_reserved
    rw [← hupper, he]
    simp only [notColumnNames, List.mem_cons, List.not_mem_nil, or_false] at hw
    rcases hw with rfl | rfl | rfl <;> simp

lemma bars_gap (s : List Char) : Bars (!isBlank ·) (d.gap ++ s) :=
  bars_append d.gap_gap.1 fun c hc => by simp [d.gap_gap.2 c hc]

lemma firstWord_text : firstWord d.text = d.name := by
  rw [firstWord, text, skipBlanks_of_bars (d.name_solid.bars d.name_form.1)]
  exact takeWhile_append_of_bars (fun c hc => by simp [d.name_solid c hc]) (d.bars_gap _)

lemma bars_type (s : List Char) : Bars endsType (d.type ++ s) := bars_append d.type_form.1 d.type_form.2

lemma not_beginsKey_primary : ¬BeginsKey "PRIMARY".toList d.text := by
  rintro ⟨u, k, r, he, hu, hk, -⟩
  have hne : k ≠ [] := by
    rintro rfl
    exact absurd hk (by decide)
  have hword : keywordBlanks "PRIMARY".toList d.text = some (k ++ r) := by
    rw [he]
    exact hu.read ((solid_of_map_caseless (by decide) hk).bars hne)
  obtain ⟨hname, -⟩ := keywordBlanks_word (by decide) d.name_solid d.gap_gap
    (bars_isBlank_of_endsType (d.bars_type d.qualifiers)) hword
  apply d.not_reserved
  rw [← d.map_caseless_name, hname]
  simp

lemma isConstraint_text : isConstraint d.text = true ↔ d.Marked := by
  rw [isConstraint_iff, or_iff_right d.not_beginsKey_primary, Marked]

instance : Decidable d.Marked := decidable_of_iff _ d.isConstraint_text

theorem isColumn_text : isColumn d.text = true ↔ ¬d.Marked := by
  have hread : (readColumn d.text).isSome = true :=
    (isSome_readColumn_iff d.name_form.1 d.name_solid (d.bars_gap _)).mpr
      ⟨d.usable_name, d.gap, d.type ++ d.qualifiers, rfl, d.gap_gap, by simp [d.type_form.1], d.bars_type _⟩
  rw [isColumn, Bool.and_eq_true, and_iff_left hread, Bool.not_eq_true', ← Bool.not_eq_true, isConstraint_text]

end Definition

lemma isColumn_eq_false {d : List Char} (h : isConstraint d = true) : isColumn d = false := by
  rw [isColumn, h]
  rfl

section Conditions

variable {k : List Char} (hk : k.map caseless ∈ conditionWords)

include hk

lemma solid_condition : Solid k := by
  rcases List.mem_pair.mp hk with hk | hk <;> exact solid_of_map_caseless (by decide) hk

lemma condition_ne_nil : k ≠ [] := by
  rintro rfl
  exact absurd hk (by decide)

lemma not_beginsKey_condition {w : List Char} (hw : w = "PRIMARY".toList ∨ w = "FOREIGN".toList) (s : List Char) :
    ¬BeginsKey w (k ++ s) := by
  have hnone : phrase w "KEY".toList (k ++ s) = none := by
    apply phrase_eq_none_of_keyword
    rcases hw with rfl | rfl <;> rcases List.mem_pair.mp hk with hk | hk <;>
      exact keyword_eq_none (by rw [hk]; decide) (by rw [hk]; decide)
  rw [← beginsKey_iff, hnone]
  simp

lemma readColumn_condition_gap {b : List Char} (hb : Gap b) (s : List Char) :
    (readColumn (k ++ (b ++ '(' :: s))).isSome = false := by
  have hbars : Bars (!isBlank ·) (b ++ '(' :: s) := bars_append hb.1 fun c hc => by simp [hb.2 c hc]
  rw [← Bool.not_eq_true, isSome_readColumn_iff (condition_ne_nil hk) (solid_condition hk) hbars]
  rintro ⟨-, g, t, he, hg, -, ht⟩
  have hskip := congrArg skipBlanks he
  rw [skipBlanks_append hb.2 ((bars_cons _ _ _).mpr (by decide)),
    skipBlanks_append hg.2 (bars_isBlank_of_endsType ht)] at hskip
  rw [← hskip] at ht
  simp [endsType] at ht

lemma solid_glued {x : List Char} (hx : Solid x) : Solid (k ++ '(' :: x) := by
  intro c hc
  rcases List.mem_append.mp hc with h | h
  · exact solid_condition hk c h
  rcases List.mem_cons.mp h with rfl | h
  · rfl
  · exact hx c h

lemma usable_glued_iff {x : List Char} (hx : Solid x) : Usable (k ++ '(' :: x) ↔ ')' ∉ x := by
  constructor
  · intro h hm
    exact h.close_not_mem (by simp [hm])
  · intro h
    refine ⟨?_, ?_, ?_⟩
    · rw [Name.cleanChars_eq, (solid_glued hk hx).tight.trim]
      exact List.ne_nil_of_mem (List.mem_flatMap.mpr ⟨'(', by simp, (by decide : '_' ∈ Name.cleanChar '(')⟩)
    · intro hm
      rcases List.mem_append.mp hm with hm | hm
      · have hupper : ')' ∈ k.map caseless := List.mem_map.mpr ⟨')', hm, by decide⟩
        rcases List.mem_pair.mp hk with hk | hk <;> exact absurd (hk ▸ hupper) (by decide)
      · exact h ((List.mem_cons.mp hm).resolve_left (by decide))
    · intro w hw he
      have hm : '(' ∈ upper (k ++ '(' :: x) := by
        rw [upper_append, upper_cons]
        exact List.mem_append_right _ (List.mem_append_left _ (by decide))
      rw [he] at hm
      simp only [notColumnNames, List.mem_cons, List.not_mem_nil, or_false] at hw
      rcases hw with rfl | rfl | rfl <;> exact absurd hm (by decide)

lemma isSome_readColumn_glued_iff {x t : List Char} (hx : Solid x) (ht : Bars (!isBlank ·) t) :
    (readColumn (k ++ '(' :: (x ++ t))).isSome = true ↔
      ')' ∉ x ∧ ∃ g s, t = g ++ s ∧ Gap g ∧ s ≠ [] ∧ Bars endsType s := by
  have hsplit : k ++ '(' :: (x ++ t) = (k ++ '(' :: x) ++ t := by simp
  rw [hsplit, isSome_readColumn_iff (by simp) (solid_glued hk hx) ht, usable_glued_iff hk hx]

end Conditions

namespace TableClause

variable (c : TableClause)

lemma isColumn_named (h : c.label ≠ []) : isColumn c.text = false := by
  apply isColumn_eq_false
  refine isConstraint_iff.mpr (.inl ?_)
  have hlabel := c.label_form
  generalize hl : c.label = l at hlabel h
  cases hlabel with
  | none => exact absurd rfl h
  | @named u n g hu _ _ _ =>
    obtain ⟨k, b, hk, hb, rfl⟩ := hu
    refine ⟨[], k, b ++ (n ++ (g ++ (c.phrase ++ (c.gap ++ '(' :: c.rest)))), ?_, hk, bars_nil isWord,
      hb.bars_isWord _⟩
    simp [text, hl]

lemma isColumn_key (hlabel : c.label = []) (hphrase : c.phrase.map caseless ∉ conditionWords) :
    isColumn c.text = false := by
  apply isColumn_eq_false
  have hform := c.phrase_form
  generalize hp : c.phrase = p at hform hphrase
  cases hform with
  | condition hk => exact absurd hk hphrase
  | @key w u k hw hu hk =>
    have hbegins : BeginsKey w c.text := by
      refine ⟨u, k, c.gap ++ '(' :: c.rest, ?_, hu, hk, ?_⟩
      · rw [text, hlabel, hp, List.nil_append, List.append_assoc]
      · cases hgap : c.gap with
        | nil => exact (bars_cons _ _ _).mpr (by decide)
        | cons e b => exact Gap.bars_isWord ⟨List.cons_ne_nil e b, hgap ▸ c.gap_blanks⟩ _
    rcases hw with rfl | rfl
    · exact isConstraint_iff.mpr (.inr (.inl hbegins))
    · exact isConstraint_iff.mpr (.inr (.inr hbegins))

lemma isColumn_condition_iff (hlabel : c.label = []) (hphrase : c.phrase.map caseless ∈ conditionWords) :
    isColumn c.text = true ↔
      ¬Holds "CONSTRAINT".toList c.text ∧ (readColumn (c.phrase ++ (c.gap ++ '(' :: c.rest))).isSome = true := by
  have hkey {w : List Char} (hw : w = "PRIMARY".toList ∨ w = "FOREIGN".toList) : ¬BeginsKey w c.text := by
    rw [text, hlabel]
    exact not_beginsKey_condition hphrase hw _
  rw [isColumn, Bool.and_eq_true, Bool.not_eq_true', ← Bool.not_eq_true, isConstraint_iff,
    or_iff_left (not_or.mpr ⟨hkey (.inl rfl), hkey (.inr rfl)⟩), text, hlabel, List.nil_append]

lemma isSome_readColumn_iff_typed (hphrase : c.phrase.map caseless ∈ conditionWords) :
    (readColumn (c.phrase ++ '(' :: c.rest)).isSome = true ↔ c.Typed := by
  constructor
  · intro h
    obtain ⟨x, t, hx, ht, hrest⟩ := exists_run isBlank c.rest
    rw [hrest, isSome_readColumn_glued_iff hphrase hx ht] at h
    obtain ⟨hclose, g, s, rfl, hg, hs, hbars⟩ := h
    exact ⟨x, g, s, hrest, hx, hclose, hg, hs, hbars⟩
  · rintro ⟨x, g, s, hrest, hx, hclose, hg, hs, hbars⟩
    have ht : Bars (!isBlank ·) (g ++ s) := bars_append hg.1 fun c hc => by simp [hg.2 c hc]
    rw [hrest, isSome_readColumn_glued_iff hphrase hx ht]
    exact ⟨hclose, g, s, rfl, hg, hs, hbars⟩

theorem isColumn_text : isColumn c.text = true ↔ c.Stray := by
  by_cases hlabel : c.label = []
  · by_cases hphrase : c.phrase.map caseless ∈ conditionWords
    · rw [c.isColumn_condition_iff hlabel hphrase]
      by_cases hgap : c.gap = []
      · rw [hgap, List.nil_append, c.isSome_readColumn_iff_typed hphrase]
        exact ⟨fun h => ⟨hlabel, hphrase, hgap, h.2, h.1⟩, fun h => ⟨h.unheld, h.typed⟩⟩
      · rw [readColumn_condition_gap hphrase ⟨hgap, c.gap_blanks⟩]
        exact ⟨fun h => absurd h.2 Bool.false_ne_true, fun h => absurd h.glued hgap⟩
    · rw [c.isColumn_key hlabel hphrase]
      exact ⟨fun h => absurd h Bool.false_ne_true, fun h => absurd h.condition hphrase⟩
  · rw [c.isColumn_named hlabel]
    exact ⟨fun h => absurd h Bool.false_ne_true, fun h => absurd h.unnamed hlabel⟩

instance : Decidable c.Stray := decidable_of_iff _ c.isColumn_text

end TableClause

inductive Entry where
  | definition (d : Definition)
  | clause (c : TableClause)

namespace Entry

def text : Entry → List Char
  | definition d => d.text
  | clause c => c.text

def Stray : Entry → Prop
  | definition _ => False
  | clause c => c.Stray

def column? : Entry → Option String
  | definition d => if d.Marked then none else some (Name.clean d.name)
  | clause _ => none

instance : DecidablePred Stray
  | definition _ => inferInstanceAs (Decidable False)
  | clause c => inferInstanceAs (Decidable c.Stray)

lemma column?_eq {e : Entry} (h : ¬e.Stray) :
    (if isColumn e.text then some (Name.clean (firstWord e.text)) else none) = e.column? := by
  cases e with
  | definition d =>
    rw [text, column?, d.firstWord_text]
    by_cases hd : d.Marked
    · rw [if_neg (mt d.isColumn_text.mp (not_not.mpr hd)), if_pos hd]
    · rw [if_pos (d.isColumn_text.mpr hd), if_neg hd]
  | clause c => exact if_neg (mt c.isColumn_text.mp h)

end Entry

/-- The columns of a table are those that are defined in its body, in order, but for definitions that are
taken for constraints. -/
theorem names_columns_of_listing (table : String) {es : List Entry} {body : List Char}
    (h : Listing (es.map Entry.text) body) (hneat : ∀ e ∈ es, Neat e.text) (hstray : ∀ e ∈ es, ¬e.Stray) :
    (TableDefinition.read table body).columns.map (·.name) = es.filterMap Entry.column? := by
  have hmembers : members body = es.map Entry.text :=
    members_of_listing h (by simpa using hneat)
  rw [TableDefinition.names_columns_read, hmembers, ← List.filterMap_eq_map, List.filterMap_filter,
    List.filterMap_map]
  exact List.filterMap_congr fun e he => Entry.column?_eq (hstray e he)

theorem names_columns_of_stock : (TableDefinition.read "STOCK"
    "ID NUMBER(10,2) NOT NULL, NAME CHAR CONSTRAINT N NOT NULL,PRIMARY KEY(ID), CHECK (ID > 0)".toList).columns.map
      (·.name) = ["ID"] := by
  have h : Listing ([
      .definition ⟨"ID".toList, [' '], "NUMBER".toList, "(10,2) NOT NULL".toList, by decide, by decide,
        by decide, by decide⟩,
      .definition ⟨"NAME".toList, [' '], "CHAR".toList, " CONSTRAINT N NOT NULL".toList, by decide, by decide,
        by decide, by decide⟩,
      .clause ⟨[], "PRIMARY KEY".toList, [], "ID)".toList, .none,
        .key (u := "PRIMARY ".toList) (.inl rfl) ⟨"PRIMARY".toList, [' '], by decide, by decide, rfl⟩
          (by decide), by decide⟩,
      .clause ⟨[], "CHECK".toList, [' '], "ID > 0)".toList, .none, .condition (by decide), by decide⟩].map
        Entry.text)
      "ID NUMBER(10,2) NOT NULL, NAME CHAR CONSTRAINT N NOT NULL,PRIMARY KEY(ID), CHECK (ID > 0)".toList :=
    .cons (a := []) (b := []) (by decide) (by decide) (.cons (a := [' ']) (b := []) (by decide) (by decide)
      (.cons (a := []) (b := []) (by decide) (by decide) (.last (a := [' ']) (b := []) (by decide) (by decide))))
  exact names_columns_of_listing "STOCK" h (by decide +kernel) (by decide +kernel)

theorem names_columns_lost :
    (∃ d : Definition, d.text = "ID NUMBER CONSTRAINT C NOT NULL".toList ∧
      (TableDefinition.read "T" (d.text ++ ", NAME DATE".toList)).columns.map (·.name) = ["NAME"]) ∧
    (∃ d : Definition, d.text = "FOREIGN KEY".toList ∧
      (TableDefinition.read "T" (d.text ++ ", NAME DATE".toList)).columns.map (·.name) = ["NAME"]) ∧
    (∃ c : TableClause, c.text = "UNIQUE(A, B)".toList ∧
      (TableDefinition.read "T" ("A NUMBER, ".toList ++ c.text)).columns.map (·.name) = ["A", "UNIQUE_A_"]) ∧
    (∃ d : Definition, d.text = "SEP CHAR DEFAULT ',' NOT NULL".toList ∧
      (TableDefinition.read "T" d.text).columns.map (·.name) = ["SEP", "_"]) ∧
    (∃ d : Definition, d.text = "SEP CHAR DEFAULT '('".toList ∧
      (TableDefinition.read "T" (d.text ++ ", NAME DATE".toList)).columns.map (·.name) = ["SEP"]) := by
  refine ⟨⟨⟨"ID".toList, [' '], "NUMBER".toList, " CONSTRAINT C NOT NULL".toList, ?_, ?_, ?_, ?_⟩, ?_⟩,
    ⟨⟨"FOREIGN".toList, [' '], "KEY".toList, [], ?_, ?_, ?_, ?_⟩, ?_⟩,
    ⟨⟨[], "UNIQUE".toList, [], "A, B)".toList, .none, .condition ?_, ?_⟩, ?_⟩,
    ⟨⟨"SEP".toList, [' '], "CHAR".toList, " DEFAULT ',' NOT NULL".toList, ?_, ?_, ?_, ?_⟩, ?_⟩,
    ⟨⟨"SEP".toList, [' '], "CHAR".toList, " DEFAULT '('".toList, ?_, ?_, ?_, ?_⟩, ?_⟩⟩
  all_goals decide +kernel

end SchemaAtlas.Ddl
