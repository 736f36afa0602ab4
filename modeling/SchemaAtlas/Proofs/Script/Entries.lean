import SchemaAtlas.Proofs.Ddl.ReferenceForm
import SchemaAtlas.Proofs.Script.Words

/-! The members of a table as they are printed: their characters, their parentheses, and the phrases
that do not begin inside them. -/

namespace SchemaAtlas.Script

open SchemaAtlas.Text SchemaAtlas.Ddl

lemma label_ascii (l : Option Word) : Ascii (labelText l) := by
  cases l with
  | none => decide
  | some n =>
    rw [labelText_some]
    exact .append (by decide) (.append n.ascii (by decide))

lemma label_grouped (l : Option Word) : Grouped (labelText l) := by
  cases l with
  | none => exact .nil
  | some n =>
    rw [labelText_some]
    exact .append (.of_flat (by decide) (by decide) (by decide))
      (.append n.grouped (.of_flat (by decide) (by decide) (by decide)))

lemma delimiter_not_mem_label (l : Option Word) : ';' ∉ labelText l := by
  cases l with
  | none => simp
  | some n =>
    have hname : ';' ∉ n.text := n.not_mem_text (by decide) (by decide)
    simp [hname]

lemma label_bars (l : Option Word) {s : List Char} (hs : Bars isBlank s) :
    Bars isBlank (labelText l ++ s) := by
  cases l with
  | none => exact hs
  | some n =>
    have hword : Bars isBlank "CONSTRAINT ".toList := by decide
    rw [labelText_some, List.append_assoc]
    exact hword.append (by decide) _

section Phrases

variable {w v s : List Char}

lemma passes_label (hw : Capitals w) (hc : Apart w ("CONSTRAINT ".toList.map caseless)) (l : Option Word)
    (hs : Bars isBlank s) (hv : keyword v s = none) : Passes (phrase w v) (labelText l) s := by
  cases l with
  | none => exact passes_nil _ _
  | some n =>
    rw [labelText_some, passes_append, passes_append]
    refine ⟨passes_of_apart hc, ?_, passes_marks hw (by decide) _⟩
    exact n.passes_gap hw (by decide) hs hv

end Phrases

lemma spaced_of_append {w u : List Char} (hw : w.map caseless = w) (hu : u = w ++ [' ']) : Spaced w u :=
  ⟨w, [' '], hw, by decide, hu⟩

def Key.form (k : Key) : Reference.Form where
  foreign := "FOREIGN ".toList
  key := "KEY".toList
  gap₁ := [' ']
  columns := k.columns.inside
  gap₂ := [' ']
  references := "REFERENCES ".toList
  target := k.target.text
  gap₃ := [' ']
  targetColumns := k.targetColumns.inside
  foreign_spaced := spaced_of_append (by decide) (by decide)
  key_spelled := by decide
  gap₁_blanks := by decide
  columns_form := ⟨k.columns.inside_ne_nil, k.columns.close_not_mem_inside⟩
  gap₂_blanks := by decide
  references_spaced := spaced_of_append (by decide) (by decide)
  target_form := k.target.token
  gap₃_blanks := by decide
  targetColumns_form := ⟨k.targetColumns.inside_ne_nil, k.targetColumns.close_not_mem_inside⟩

lemma Key.text_form (k : Key) : k.form.text = k.text := by
  have hform : k.form.text = "FOREIGN ".toList ++ ("KEY".toList ++ ([' '] ++ '(' :: (k.columns.inside ++
      ')' :: ([' '] ++ ("REFERENCES ".toList ++ (k.target.text ++ ([' '] ++ '(' ::
        k.targetColumns.inside))))))) ++ [')'] := rfl
  rw [hform, k.text_eq]
  simp [Words.text]

lemma Key.reference_form (k : Key) (source : String) :
    k.form.reference.ofTable source = k.ofTable source := by
  have href : k.form.reference = ⟨columnNames k.columns.inside, Name.clean k.target.text,
    columnNames k.targetColumns.inside⟩ := rfl
  rw [href, Words.columnNames_inside, Word.clean_text, Words.columnNames_inside]
  rfl

lemma Key.ascii (k : Key) : Ascii k.text := by
  have hblank : Ascii [' '] := by decide
  rw [k.text_eq]
  exact .append (by decide) (k.columns.ascii.append (.append (by decide)
    (k.target.ascii.append (hblank.append k.targetColumns.ascii))))

lemma Key.grouped (k : Key) : Grouped k.text := by
  have htarget : Grouped k.target.text := k.target.grouped
  have hblank : Grouped [' '] := .of_flat (by decide) (by decide) (by decide)
  rw [k.text_eq]
  refine .append (.of_flat (by decide) (by decide) (by decide)) (k.columns.grouped.append ?_)
  refine .append (.of_flat (by decide) (by decide) (by decide)) (htarget.append ?_)
  exact hblank.append k.targetColumns.grouped

lemma Key.delimiter_not_mem (k : Key) : ';' ∉ k.text := by
  have hcolumns : ';' ∉ k.columns.text := k.columns.not_mem_text (by decide) (by decide) (by decide)
  have htarget : ';' ∉ k.target.text := k.target.not_mem_text (by decide) (by decide)
  have htargets : ';' ∉ k.targetColumns.text :=
    k.targetColumns.not_mem_text (by decide) (by decide) (by decide)
  have hfirst : ';' ∉ "FOREIGN KEY ".toList := by decide
  have hsecond : ';' ∉ " REFERENCES ".toList := by decide
  rw [k.text_eq]
  simp only [List.mem_append, List.mem_cons, hcolumns, htarget, htargets, hfirst, hsecond]
  decide

lemma Key.bars (k : Key) (s : List Char) : Bars isBlank (k.text ++ s) := by
  have hword : Bars isBlank "FOREIGN KEY ".toList := by decide
  rw [k.text_eq, List.append_assoc]
  exact hword.append (by decide) _

lemma Key.passes_label (k : Key) {w v : List Char} (hw : Capitals w)
    (hc : Apart w ("CONSTRAINT ".toList.map caseless)) (hl : ∀ s, keyword v ("FOREIGN KEY ".toList ++ s) = none)
    (l : Option Word) (s : List Char) : Passes (phrase w v) (labelText l) (k.text ++ s) := by
  refine Script.passes_label hw hc l (k.bars s) ?_
  rw [k.text_eq, List.append_assoc]
  exact hl _

lemma Key.passes (k : Key) {w v : List Char} (hw : Capitals w) (hv : Capitals v)
    (hf : Apart w ("FOREIGN KEY ".toList.map caseless))
    (hr : Apart w (" REFERENCES ".toList.map caseless)) (s : List Char) :
    Passes (phrase w v) k.text s := by
  have hgap : k.text = "FOREIGN KEY ".toList ++ (k.columns.text ++ (" REFERENCES ".toList ++
      (k.target.text ++ ([' '] ++ k.targetColumns.text)))) := k.text_eq
  rw [hgap]
  simp only [passes_append, List.append_assoc]
  refine ⟨passes_of_apart hf, k.columns.passes hw _, passes_of_apart hr, ?_, ?_,
    k.targetColumns.passes hw s⟩
  · exact k.target.passes_gap hw (by decide) ((bars_cons _ _ _).mpr (by decide))
      (hv.keyword_cons (by decide))
  · exact passes_marks hw (by decide) _

section Types

variable (type : DataType) (qualifier : Qualifier)

lemma word_ne_nil : type.word ≠ [] := by cases type <;> decide

lemma word_solid : Solid type.word := by cases type <;> decide

lemma arguments_form :
    type.arguments = [] ∨ ∃ t, '(' ∉ t ∧ ')' ∉ t ∧ type.arguments = '(' :: (t ++ [')']) := by
  cases type with
  | varchar2 => exact .inr ⟨"20".toList, by decide, by decide, by decide⟩
  | number => exact .inr ⟨"10,2".toList, by decide, by decide, by decide⟩
  | date => exact .inl rfl
  | clob => exact .inl rfl
  | raw => exact .inr ⟨"16".toList, by decide, by decide, by decide⟩

lemma type_ascii : Ascii (type.word ++ (type.arguments ++ qualifier.text)) := by
  cases type <;> cases qualifier <;> decide

lemma type_ends : Bars isBlank (type.word ++ (type.arguments ++ qualifier.text)).reverse := by
  cases type <;> cases qualifier <;> decide

lemma delimiter_not_mem_type : ';' ∉ type.word ++ (type.arguments ++ qualifier.text) := by
  cases type <;> cases qualifier <;> decide

lemma type_grouped : Grouped (type.word ++ (type.arguments ++ qualifier.text)) := by
  have hword : Grouped type.word := by
    cases type <;> exact .of_flat (by decide) (by decide) (by decide)
  have hqualifier : Grouped qualifier.text := by
    cases qualifier <;> exact .of_flat (by decide) (by decide) (by decide)
  have harguments : Grouped type.arguments := by
    rcases arguments_form type with h | ⟨t, ho, hc, h⟩
    · rw [h]
      exact .nil
    · rw [h]
      exact .group ho hc .nil
  exact hword.append (harguments.append hqualifier)

end Types

namespace Entry

variable (e : Entry)

def lead : Entry → List Char
  | column _ type _ => type.word
  | primaryKey .. => "PRIMARY KEY ".toList
  | unique .. => "UNIQUE ".toList
  | foreignKey .. => "FOREIGN KEY ".toList

def literals : Entry → List (List Char)
  | column _ type qualifier => [type.word, qualifier.text]
  | primaryKey .. => ["CONSTRAINT ".toList, "PRIMARY KEY ".toList]
  | unique .. => ["CONSTRAINT ".toList, "UNIQUE ".toList]
  | foreignKey .. => ["CONSTRAINT ".toList, "FOREIGN KEY ".toList, " REFERENCES ".toList]

lemma ascii : Ascii e.text := by
  cases e with
  | column name type qualifier =>
    rw [text_column]
    exact name.ascii.append (List.forall_mem_cons.mpr ⟨by decide, type_ascii type qualifier⟩)
  | primaryKey label columns =>
    rw [text_primaryKey]
    exact (label_ascii label).append (.append (by decide) columns.ascii)
  | unique label columns =>
    rw [text_unique]
    exact (label_ascii (some label)).append (.append (by decide) columns.ascii)
  | foreignKey label key =>
    rw [text_foreignKey]
    exact (label_ascii label).append key.ascii

lemma grouped : Grouped e.text := by
  have hblank : Grouped [' '] := .of_flat (by decide) (by decide) (by decide)
  cases e with
  | column name type qualifier =>
    rw [text_column]
    exact name.grouped.append (hblank.append (type_grouped type qualifier))
  | primaryKey label columns =>
    rw [text_primaryKey]
    refine (label_grouped label).append (.append ?_ columns.grouped)
    exact .of_flat (by decide) (by decide) (by decide)
  | unique label columns =>
    rw [text_unique]
    refine (label_grouped (some label)).append (.append ?_ columns.grouped)
    exact .of_flat (by decide) (by decide) (by decide)
  | foreignKey label key =>
    rw [text_foreignKey]
    exact (label_grouped label).append key.grouped

lemma delimiter_not_mem : ';' ∉ e.text := by
  have hlist (columns : Words) : ';' ∉ columns.text :=
    columns.not_mem_text (by decide) (by decide) (by decide)
  cases e with
  | column name type qualifier =>
    have hname : ';' ∉ name.text := name.not_mem_text (by decide) (by decide)
    rw [text_column, List.mem_append, List.mem_cons]
    exact not_or.mpr ⟨hname, not_or.mpr ⟨by decide, delimiter_not_mem_type type qualifier⟩⟩
  | primaryKey label columns =>
    rw [text_primaryKey, List.mem_append, List.mem_append]
    exact not_or.mpr ⟨delimiter_not_mem_label label, not_or.mpr ⟨by decide, hlist columns⟩⟩
  | unique label columns =>
    rw [text_unique, List.mem_append, List.mem_append]
    exact not_or.mpr ⟨delimiter_not_mem_label (some label), not_or.mpr ⟨by decide, hlist columns⟩⟩
  | foreignKey label key =>
    rw [text_foreignKey, List.mem_append]
    exact not_or.mpr ⟨delimiter_not_mem_label label, key.delimiter_not_mem⟩

lemma bars : Bars isBlank e.text := by
  have hprimary : Bars isBlank "PRIMARY KEY ".toList := by decide
  have hunique : Bars isBlank "UNIQUE ".toList := by decide
  cases e with
  | column name type qualifier =>
    rw [text_column]
    exact name.bars _
  | primaryKey label columns =>
    rw [text_primaryKey]
    exact label_bars label (hprimary.append (by decide) _)
  | unique label columns =>
    rw [text_unique]
    exact label_bars (some label) (hunique.append (by decide) _)
  | foreignKey label key =>
    rw [text_foreignKey]
    exact label_bars label (by simpa using key.bars [])

lemma ends : Bars isBlank e.text.reverse := by
  have hlist (x : List Char) (columns : Words) : Bars isBlank (x ++ columns.text).reverse := by
    have hlast : isBlank ')' = false := by decide
    simp [Words.text, hlast]
  cases e with
  | column name type qualifier =>
    have hne : (type.word ++ (type.arguments ++ qualifier.text)).reverse ≠ [] := by
      simp [word_ne_nil type]
    rw [text_column, List.reverse_append, List.reverse_cons, List.append_assoc]
    exact (type_ends type qualifier).append hne _
  | primaryKey label columns =>
    rw [text_primaryKey, ← List.append_assoc]
    exact hlist _ columns
  | unique label columns =>
    rw [text_unique, ← List.append_assoc]
    exact hlist _ columns
  | foreignKey label key =>
    have hsplit : labelText label ++ key.text = (labelText label ++ ("FOREIGN KEY ".toList ++
        (key.columns.text ++ (" REFERENCES ".toList ++ (key.target.text ++ [' ']))))) ++
          key.targetColumns.text := by
      rw [key.text_eq]
      simp
    rw [text_foreignKey, hsplit]
    exact hlist _ _

lemma tight : Tight e.text := ⟨e.bars, e.ends⟩

lemma text_ne_nil : e.text ≠ [] := by
  cases e with
  | column name type qualifier => simp [name.text_ne_nil]
  | primaryKey label columns => simp [Words.text]
  | unique label columns => simp [Words.text]
  | foreignKey label key => simp [key.text_eq, Words.text]

theorem passes {w v : List Char} (hw : Capitals w) (hv : Capitals v)
    (ha : ∀ l ∈ e.literals, Apart w (l.map caseless)) (hl : ∀ s, keyword v (e.lead ++ s) = none)
    (s : List Char) : Passes (phrase w v) e.text s := by
  cases e with
  | column name type qualifier =>
    have hword := ha _ List.mem_cons_self
    have hqualifier := ha _ (List.mem_cons_of_mem _ List.mem_cons_self)
    have hmarks : Avoids (fun c => (caseless c).isUpper) type.arguments := by cases type <;> decide
    have hsplit : (column name type qualifier).text =
        name.text ++ ([' '] ++ (type.word ++ (type.arguments ++ qualifier.text))) := text_column ..
    rw [hsplit]
    simp only [passes_append, List.append_assoc]
    refine ⟨?_, passes_marks hw (by decide) _, passes_of_apart hword, passes_marks hw hmarks _,
      passes_of_apart hqualifier⟩
    exact name.passes_gap hw (by decide) ((word_solid type).bars (word_ne_nil type)) (hl _)
  | primaryKey label columns =>
    have hlabel := ha _ List.mem_cons_self
    have hlead := ha _ (List.mem_cons_of_mem _ List.mem_cons_self)
    have hbars : Bars isBlank "PRIMARY KEY ".toList := by decide
    rw [text_primaryKey, passes_append, passes_append, List.append_assoc]
    refine ⟨?_, passes_of_apart hlead, columns.passes hw s⟩
    exact passes_label hw hlabel label (hbars.append (by decide) _) (hl _)
  | unique label columns =>
    have hlabel := ha _ List.mem_cons_self
    have hlead := ha _ (List.mem_cons_of_mem _ List.mem_cons_self)
    have hbars : Bars isBlank "UNIQUE ".toList := by decide
    rw [text_unique, passes_append, passes_append, List.append_assoc]
    refine ⟨?_, passes_of_apart hlead, columns.passes hw s⟩
    exact passes_label hw hlabel (some label) (hbars.append (by decide) _) (hl _)
  | foreignKey label key =>
    have hlabel := ha _ List.mem_cons_self
    have hlead := ha _ (List.mem_cons_of_mem _ List.mem_cons_self)
    have hreferences := ha _ (List.mem_cons_of_mem _ (List.mem_cons_of_mem _ List.mem_cons_self))
    rw [text_foreignKey, passes_append]
    exact ⟨key.passes_label hw hlabel hl label s, key.passes hw hv hlead hreferences s⟩

lemma mentions_eq_false {p : String} {w v : List Char} (hp : p.toList = w ++ ' ' :: v) (hw : Capitals w)
    (hv : Capitals v) (ha : ∀ l ∈ e.literals, Apart w (l.map caseless))
    (hl : ∀ s, keyword v (e.lead ++ s) = none) : mentions p e.text = false :=
  Ddl.mentions_eq_false hp hw hv e.ascii (e.passes hw hv ha hl [])

end Entry

end SchemaAtlas.Script
