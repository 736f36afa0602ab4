import SchemaAtlas.Proofs.Schema.OfDump
import SchemaAtlas.Proofs.Text.Lines
import SchemaAtlas.Report.Entry

/-! The texts of the documentation of a well-formed schema are made of names and of a few marks. -/

namespace SchemaAtlas

open SchemaAtlas.Text

namespace Name

def Within (marks : List Char) (text : String) : Prop := ∀ c ∈ text.toList, isNameChar c = true ∨ c ∈ marks

instance (marks : List Char) (text : String) : Decidable (Within marks text) := List.decidableBAll _ text.toList

variable {marks : List Char} {text : String}

lemma Clean.within (h : Clean text) : Within marks text := fun c hc => .inl (h c hc)

@[simp] lemma within_append {s t : String} : Within marks (s ++ t) ↔ Within marks s ∧ Within marks t := by
  simp only [Within, String.toList_append, List.forall_mem_append]

lemma clean_repr (n : ℕ) : Clean (Nat.repr n) := by
  intro c hc
  rw [Nat.toList_repr] at hc
  have hdigit : c.isDigit = true := Nat.isDigit_of_mem_toDigits (by omega) (by omega) hc
  simp [isNameChar, Char.isAlphanum, hdigit]

@[simp] lemma within_repr (n : ℕ) : Within marks (Nat.repr n) := (clean_repr n).within

lemma within_joinWith {separator : String} (hs : Within marks separator) {parts : List String}
    (h : ∀ part ∈ parts, Within marks part) : Within marks (joinWith separator parts) :=
  forall_mem_joinWith hs h

lemma Within.not_mem (h : Within marks text) {c : Char} (hc : isNameChar c = false ∧ c ∉ marks) :
    c ∉ text.toList := by
  intro hm
  rcases h c hm with hname | hmark
  · rw [hc.1] at hname
    exact Bool.false_ne_true hname
  · exact hc.2 hmark

end Name

open Name

namespace Timestamp

lemma within_text (t : Timestamp) : Within ['-', ' ', ':'] t.text := by
  have hmarks : Within ['-', ' ', ':'] "-" ∧ Within ['-', ' ', ':'] " " ∧ Within ['-', ' ', ':'] ":" := by decide
  have htwo (n : ℕ) : Within ['-', ' ', ':'] (twoDigits n) := by
    have hzero : Within ['-', ' ', ':'] "0" := by decide
    unfold twoDigits
    split
    · exact within_append.mpr ⟨hzero, within_repr n⟩
    · exact within_repr n
  have htext : t.text = Nat.repr t.year ++ "-" ++ twoDigits t.month ++ "-" ++ twoDigits t.day ++ " " ++
    (twoDigits t.hour ++ ":" ++ twoDigits t.minute ++ ":" ++ twoDigits t.second) := rfl
  simp [htext, hmarks, htwo]

lemma exists_text_eq (t : Timestamp) : ∃ before, t.text = before ++ Nat.repr t.second := by
  have htwo (n : ℕ) : ∃ before, twoDigits n = before ++ Nat.repr n := by
    unfold twoDigits
    split
    · exact ⟨"0", rfl⟩
    · exact ⟨"", String.empty_append.symm⟩
  obtain ⟨before, hbefore⟩ := htwo t.second
  have htext : t.text = Nat.repr t.year ++ "-" ++ twoDigits t.month ++ "-" ++ twoDigits t.day ++ " " ++
    (twoDigits t.hour ++ ":" ++ twoDigits t.minute ++ ":" ++ twoDigits t.second) := rfl
  exact ⟨_, by rw [htext, hbefore, ← String.append_assoc, ← String.append_assoc]⟩

end Timestamp

namespace Report

def noteMarks : List Char := [',', ' ', '→', '.']

lemma within_foreignKeyNote {k : ForeignKey} (h : k.Sound) : Within noteMarks (foreignKeyNote k) := by
  have hmarks : Within noteMarks " → " ∧ Within noteMarks "." ∧ Within noteMarks ", " := by decide
  have hnames {names : List String} (hnames : ∀ name ∈ names, Clean name) : Within noteMarks (commas names) :=
    within_joinWith hmarks.2.2 fun name hname => (hnames name hname).within
  have hnote : foreignKeyNote k = commas k.sourceColumns ++ " → " ++ k.target ++ "." ++
    commas k.targetColumns := rfl
  simp [hnote, hmarks, h.target_clean.within, hnames h.sourceColumns_clean, hnames h.targetColumns_clean]

structure Entry.Sound (e : Entry) : Prop where
  table_clean : Clean e.table
  rows_clean : ∀ r ∈ e.rows, Clean r.name ∧ Clean r.type
  notes_within : ∀ note ∈ e.notes, Within noteMarks note

namespace Entry

def noteLine (e : Entry) : String := "Foreign keys: " ++ joinWith "; " e.notes

variable {e : Entry} (h : e.Sound)

include h

lemma Sound.within_heading : Within [' ', ':'] e.heading := by
  have hwords : Within [' ', ':'] "Table " ∧ Within [' ', ':'] ": " := by decide
  have hheading : e.heading = "Table " ++ Nat.repr e.number ++ ": " ++ e.table := rfl
  simp [hheading, hwords, h.table_clean.within]

lemma Sound.within_noteLine : Within (':' :: ';' :: noteMarks) e.noteLine := by
  have hwords : Within (':' :: ';' :: noteMarks) "Foreign keys: " ∧ Within (':' :: ';' :: noteMarks) "; " := by
    decide
  have hnotes : ∀ note ∈ e.notes, Within (':' :: ';' :: noteMarks) note := fun note hnote c hc =>
    (h.notes_within note hnote c hc).imp_right fun hm => List.mem_cons_of_mem _ (List.mem_cons_of_mem _ hm)
  exact within_append.mpr ⟨hwords.1, within_joinWith hwords.2 hnotes⟩

end Entry

def facts (s : Schema) (generatedAt : Timestamp) : List String :=
  [s!"Generated: {generatedAt.text}", s!"Tables: {s.size}", s!"Relationships: {s.relationships.length}"]

lemma facts_eq (s : Schema) (generatedAt : Timestamp) : facts s generatedAt =
    ["Generated: " ++ generatedAt.text, "Tables: " ++ Nat.repr s.size,
      "Relationships: " ++ Nat.repr s.relationships.length] := rfl

lemma within_facts (s : Schema) (generatedAt : Timestamp) :
    ∀ fact ∈ facts s generatedAt, Within ['-', ' ', ':'] fact := by
  have hwords : Within ['-', ' ', ':'] "Generated: " ∧ Within ['-', ' ', ':'] "Tables: " ∧
      Within ['-', ' ', ':'] "Relationships: " := by decide
  simp [facts_eq, hwords, generatedAt.within_text]

variable {s : Schema} (h : s.WellFormed)

include h

lemma sound_entry {t : Table} (ht : t ∈ s.tables) (n : ℕ) : (entry s n t).Sound where
  table_clean := (h.tables_sound t ht).name_clean
  rows_clean := by
    intro r hr
    obtain ⟨c, hc, rfl⟩ := List.mem_map.mp hr
    have hsound := (h.tables_sound t ht).columns_sound c hc
    exact ⟨hsound.name_clean, hsound.type_clean⟩
  notes_within := by
    intro note hnote
    obtain ⟨k, hk, rfl⟩ := List.mem_map.mp hnote
    exact within_foreignKeyNote (h.relationships_sound k (List.mem_of_mem_filter hk))

lemma sound_of_mem_entries {e : Entry} (he : e ∈ entries s) : e.Sound := by
  obtain ⟨⟨t, i⟩, ht, rfl⟩ := List.mem_map.mp he
  exact sound_entry h (List.fst_mem_of_mem_zipIdx ht) _

end Report

end SchemaAtlas
