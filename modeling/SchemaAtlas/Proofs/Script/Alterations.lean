import SchemaAtlas.Proofs.Script.Statements

/-! Statements that add several foreign keys to a table. The search for added keys takes the first of them
and goes on behind its clause, where nothing names the table any more, so that the other keys are lost. -/

namespace SchemaAtlas.Script

open SchemaAtlas.Text SchemaAtlas.Ddl

structure NamedKey where
  label : Word
  key : Key

inductive Grouping where
  | enclosed | repeated
deriving DecidableEq, Repr

structure Alteration where
  table : Word
  grouping : Grouping
  first : NamedKey
  others : List NamedKey

def NamedKey.text (k : NamedKey) : List Char := labelText (some k.label) ++ k.key.text

def Grouping.opening : Grouping → List Char
  | enclosed => ['(']
  | repeated => []

def Grouping.separator : Grouping → List Char
  | enclosed => ", ".toList
  | repeated => ", ADD ".toList

def Grouping.closing : Grouping → List Char
  | enclosed => ");".toList
  | repeated => ";".toList

namespace Alteration

def keys (a : Alteration) : List NamedKey := a.first :: a.others

def foreignKeys (a : Alteration) : List ForeignKey := a.keys.map (·.key.ofTable a.table.name)

def rest (a : Alteration) : List Char :=
  a.others.flatMap (a.grouping.separator ++ ·.text) ++ a.grouping.closing

def text (a : Alteration) : List Char :=
  "ALTER TABLE ".toList ++ (a.table.text ++ (" ADD ".toList ++ (a.grouping.opening ++
    (a.first.text ++ a.rest))))

lemma text_eq (a : Alteration) : a.text = "ALTER TABLE ".toList ++ (a.table.text ++ (" ADD ".toList ++
    (a.grouping.opening ++ ((labelText (some a.first.label) ++ a.first.key.text) ++ a.rest)))) := rfl

end Alteration

lemma Grouping.opening_form (g : Grouping) :
    g.opening = [] ∨ ∃ b, Blanks b ∧ g.opening = '(' :: b := by
  cases g with
  | enclosed => exact .inr ⟨[], blanks_nil, rfl⟩
  | repeated => exact .inl rfl

section Phrases

variable {w v : List Char}

lemma NamedKey.passes (k : NamedKey) (hw : Capitals w) (hv : Capitals v)
    (hliterals : ∀ l ∈ ["CONSTRAINT ".toList, "FOREIGN KEY ".toList, " REFERENCES ".toList],
      Apart w (l.map caseless))
    (hkey : ∀ s, keyword v ("FOREIGN KEY ".toList ++ s) = none) (s : List Char) :
    Passes (phrase w v) k.text s := by
  rw [text, passes_append]
  exact ⟨k.key.passes_label hw (hliterals _ (by simp)) hkey (some k.label) s,
    k.key.passes hw hv (hliterals _ (by simp)) (hliterals _ (by simp)) s⟩

end Phrases

namespace Alteration

variable (a : Alteration)

def form : AddedKey.Form where
  alter := "ALTER ".toList
  table := "TABLE ".toList
  token := a.table.text
  gap := [' ']
  add := "ADD ".toList
  opening := a.grouping.opening
  word := "CONSTRAINT".toList
  skipped := [' '] ++ (a.first.label.text ++ [' '])
  clause := a.first.key.form
  alter_spaced := spaced_alter
  table_spaced := spaced_table
  token_form := ⟨a.table.text_ne_nil, a.table.solid⟩
  gap_gap := by decide
  add_spaced := spaced_of_append (by decide) (by decide)
  opening_form := a.grouping.opening_form
  word_form := .inr (by decide)
  skipped_form := by
    rw [a.first.key.text_form]
    exact Addition.skipped_form a.first.label a.first.key

lemma key_form : a.form.key = a.first.key.ofTable a.table.name := by
  have hkey : a.form.key = a.first.key.form.reference.ofTable (Name.clean a.table.text) := rfl
  rw [hkey, a.table.clean_text, a.first.key.reference_form]

lemma text_form : a.text = a.form.text ++ a.rest := by
  have hform : a.form.text = "ALTER ".toList ++ ("TABLE ".toList ++ (a.table.text ++ ([' '] ++
      ("ADD ".toList ++ (a.grouping.opening ++ "CONSTRAINT".toList))))) ++
        (([' '] ++ (a.first.label.text ++ [' '])) ++ a.first.key.form.text) := rfl
  rw [hform, a.text_eq, a.first.key.text_form]
  simp

lemma passes_rest (s : List Char) : Passes AddedKey.read a.rest s := by
  have halter : Capitals "ALTER".toList := by decide
  have hclosing : Passes (phrase "ALTER".toList "TABLE".toList) a.grouping.closing s := by
    cases a.grouping <;> exact passes_marks halter (by decide) s
  have hseparator (s : List Char) :
      Passes (phrase "ALTER".toList "TABLE".toList) a.grouping.separator s := by
    cases a.grouping <;> exact passes_of_apart (by decide)
  have hkey (k : NamedKey) (s : List Char) : Passes (phrase "ALTER".toList "TABLE".toList) k.text s :=
    k.passes halter (by decide) (by decide) (fun _ => keyword_eq_none (by decide) (by decide)) s
  have hothers (ks : List NamedKey) : Passes (phrase "ALTER".toList "TABLE".toList)
      (ks.flatMap (a.grouping.separator ++ ·.text)) (a.grouping.closing ++ s) := by
    induction ks with
    | nil => exact passes_nil _ _
    | cons k ks ih =>
      rw [List.flatMap_cons, passes_append, passes_append]
      exact ⟨⟨hseparator _, hkey k _⟩, ih⟩
  apply AddedKey.passes_read
  rw [rest, passes_append]
  exact ⟨hothers a.others, hclosing⟩

lemma scan_append (s : List Char) :
    AddedKey.scan (a.text ++ s) = a.first.key.ofTable a.table.name :: AddedKey.scan s := by
  have hread : AddedKey.pattern.read (a.form.text ++ (a.rest ++ s)) = some (a.form.key, a.rest ++ s) :=
    AddedKey.read_text a.form _
  rw [AddedKey.scan, a.text_form, List.append_assoc, Pattern.all_of_read hread,
    Pattern.all_of_passes (a.passes_rest s), a.key_form, AddedKey.scan]

/-- Of the keys that a statement adds the first one is found, wherever the statement stands, and all of
them only if there is no other. -/
theorem scan_eq_foreignKeys_iff : (∀ s, AddedKey.scan (a.text ++ s) = a.foreignKeys.take 1 ++ AddedKey.scan s) ∧
    (AddedKey.scan a.text = a.foreignKeys ↔ a.others = []) := by
  have hfirst (s : List Char) : AddedKey.scan (a.text ++ s) = a.foreignKeys.take 1 ++ AddedKey.scan s := by
    rw [a.scan_append]
    rfl
  have hscan : AddedKey.scan a.text = [a.first.key.ofTable a.table.name] := by
    have hnil : AddedKey.scan [] = [] := Pattern.all_nil _
    simpa [hnil] using a.scan_append []
  refine ⟨hfirst, ?_⟩
  rw [hscan, foreignKeys, keys, List.map_cons, List.cons.injEq, eq_comm (a := []), List.map_eq_nil_iff]
  exact and_iff_right rfl

theorem scan_ne_foreignKeys :
    AddedKey.scan ("ALTER TABLE T ADD (CONSTRAINT C1 FOREIGN KEY (A) REFERENCES R1 (X), " ++
      "CONSTRAINT C2 FOREIGN KEY (B) REFERENCES R2 (Y));").toList = [⟨"T", ["A"], "R1", ["X"]⟩] ∧
    AddedKey.scan ("ALTER TABLE T ADD CONSTRAINT C1 FOREIGN KEY (A) REFERENCES R1 (X), " ++
      "ADD CONSTRAINT C2 FOREIGN KEY (B) REFERENCES R2 (Y);").toList ≠
        [⟨"T", ["A"], "R1", ["X"]⟩, ⟨"T", ["B"], "R2", ["Y"]⟩] := by
  decide +kernel

end Alteration

end SchemaAtlas.Script
