import SchemaAtlas.Proofs.Ddl.SectionText
import SchemaAtlas.Proofs.Script.Reading

/-! Dumps that list statements line by line, some of them making indexes. What each search finds in such
a dump, it finds in the statements one after the other. -/

namespace SchemaAtlas.Script

open SchemaAtlas.Text SchemaAtlas.Ddl SchemaAtlas.Extract

inductive IndexKind where
  | plain | unique | bitmap
deriving DecidableEq, Repr

def IndexKind.word : IndexKind → List Char
  | plain => "INDEX".toList
  | unique => "UNIQUE".toList
  | bitmap => "BITMAP".toList

def IndexKind.rest : IndexKind → List Char
  | plain => []
  | unique => "INDEX ".toList
  | bitmap => "INDEX ".toList

structure Indexing where
  kind : IndexKind
  name : Word
  table : Word
  columns : Words

def Indexing.text (x : Indexing) : List Char :=
  "CREATE ".toList ++ (x.kind.word ++ ([' '] ++ (x.kind.rest ++ (x.name.text ++ (" ON ".toList ++
    (x.table.text ++ ([' '] ++ (x.columns.text ++ [';']))))))))

lemma Indexing.text_eq (x : Indexing) : x.text = "CREATE ".toList ++ (x.kind.word ++ ([' '] ++
    (x.kind.rest ++ (x.name.text ++ (" ON ".toList ++ (x.table.text ++ ([' '] ++ (x.columns.text ++
      [';'])))))))) := rfl

inductive Item where
  | creation (creation : Creation) (plain : ∀ e ∈ creation.entries, e.Plain)
  | addition (addition : Addition)
  | indexing (indexing : Indexing)

inductive Act where
  | createTable | alterTable | createIndex
deriving DecidableEq, Repr

namespace Act

def opening : Act → Opening
  | createTable => .table
  | alterTable => .alter
  | createIndex => .index

def starts : Act → List Char → Bool
  | createTable => startsTable
  | alterTable => startsAlter
  | createIndex => startsIndex

lemma starts_iff (k : Act) {s : List Char} : k.starts s = true ↔ k.opening.Opens s := by
  cases k with
  | createTable => exact startsTable_iff
  | alterTable => exact startsAlter_iff
  | createIndex => exact startsIndex_iff

end Act

namespace Item

def text : Item → List Char
  | creation t _ => t.text
  | addition a => a.text
  | indexing x => x.text

def act : Item → Act
  | creation .. => .createTable
  | addition _ => .alterTable
  | indexing _ => .createIndex

def statement? : Item → Option Statement
  | creation t _ => some ⟨t.name.text, t.body⟩
  | _ => none

def foreignKey? : Item → Option ForeignKey
  | addition a => some a.foreignKey
  | _ => none

end Item

def listed (items : List Item) : List Char := ['\n'].intercalate (items.map Item.text)

section Beginnings

variable {w v : List Char}

lemma Indexing.passes (x : Indexing) (hw : w ∈ firstWords) (hv : v ∈ secondWords)
    (h : w ≠ "CREATE".toList ∨ v ≠ x.kind.word) (s : List Char) : Passes (phrase w v) x.text s := by
  have hw' := capitals_of_mem_firstWords hw
  have hrest : ∀ w ∈ firstWords, Apart w (x.kind.rest.map caseless) := by cases x.kind <;> decide
  have hon : ∀ w ∈ firstWords, Apart w ("ON ".toList.map caseless) := by decide
  have hkeyword : ∀ v ∈ secondWords,
      ¬"ON ".toList.map caseless <+: v ∧ ¬v <+: "ON ".toList.map caseless := by decide
  have hbars : Bars isBlank "ON ".toList := by decide
  have hkind : x.kind.word ∈ secondWords := by cases x.kind <;> decide
  have hsplit : x.text = ("CREATE".toList ++ ([' '] ++ (x.kind.word ++ [' ']))) ++ (x.kind.rest ++
      (x.name.text ++ ([' '] ++ ("ON ".toList ++ (x.table.text ++ ([' '] ++
        (x.columns.text ++ [';']))))))) := by
    rw [x.text_eq]
    simp
  rw [hsplit, passes_append]
  refine ⟨passes_words hw hv (by decide) hkind h _, ?_⟩
  simp only [passes_append, List.append_assoc]
  refine ⟨passes_of_apart (hrest w hw), ?_, passes_marks hw' (by decide) _, passes_of_apart (hon w hw), ?_,
    passes_marks hw' (by decide) _, x.columns.passes hw' _, passes_marks hw' (by decide) _⟩
  · exact x.name.passes_gap hw' (by decide) (hbars.append (by decide) _)
      (keyword_eq_none (hkeyword v hv).1 (hkeyword v hv).2)
  · exact x.table.passes_gap hw' (by decide) ((bars_cons _ _ _).mpr (by decide))
      ((capitals_of_mem_secondWords hv).keyword_cons (by decide))

end Beginnings

lemma Act.words_ne {k k' : Act} (h : k ≠ k') : ∀ v ∈ k.opening.last :: k.opening.between,
    ∀ v' ∈ k'.opening.last :: k'.opening.between, k.opening.first ≠ k'.opening.first ∨ v ≠ v' := by
  revert h
  cases k <;> cases k' <;> decide

lemma Act.mem_words (k : Act) : k.opening.first ∈ firstWords ∧
    ∀ v ∈ k.opening.last :: k.opening.between, v ∈ secondWords := by
  cases k <;> decide

lemma IndexKind.exists_between (k : IndexKind) : ∃ m,
    (m = [] ∨ ∃ w ∈ Opening.index.between, Spaced w m) ∧ ';' ∉ m ∧
      ∀ r, k.word ++ ([' '] ++ (k.rest ++ r)) = m ++ ("INDEX".toList ++ ([' '] ++ r)) := by
  cases k with
  | plain => exact ⟨[], .inl rfl, by decide, fun _ => rfl⟩
  | unique =>
    have hspaced : Spaced "UNIQUE".toList "UNIQUE ".toList := spaced_of_append (by decide) (by decide)
    exact ⟨"UNIQUE ".toList, .inr ⟨_, by decide, hspaced⟩, by decide, fun _ => rfl⟩
  | bitmap =>
    have hspaced : Spaced "BITMAP".toList "BITMAP ".toList := spaced_of_append (by decide) (by decide)
    exact ⟨"BITMAP ".toList, .inr ⟨_, by decide, hspaced⟩, by decide, fun _ => rfl⟩

namespace Item

variable (x : Item)

lemma passes {k : Act} (hk : k ≠ x.act) {v : List Char} (hv : v ∈ k.opening.last :: k.opening.between)
    (s : List Char) : Passes (phrase k.opening.first v) x.text s := by
  obtain ⟨hfirst, hsecond⟩ := k.mem_words
  have hne := Act.words_ne hk v hv
  cases x with
  | creation t plain =>
    exact t.passes hfirst (hsecond v hv) (hne _ List.mem_cons_self) (fun e he => .inr (plain e he)) s
  | addition a => exact a.passes hfirst (hsecond v hv) (hne _ List.mem_cons_self) s
  | indexing x =>
    have hkind : x.kind.word ∈ Opening.index.last :: Opening.index.between := by cases x.kind <;> decide
    exact x.passes hfirst (hsecond v hv) (hne _ hkind) s

lemma exists_front : ∃ w, ';' ∉ w ∧ x.act.opening.Opens w ∧ x.text = w ++ [';'] := by
  cases x with
  | creation t plain =>
    have hcondition : ';' ∉ t.condition := by
      unfold Creation.condition
      split <;> decide
    have hname : ';' ∉ t.name.text := t.name.not_mem_text (by decide) (by decide)
    have hbody : ';' ∉ t.body := t.delimiter_not_mem_body
    have hopens (r : List Char) : Opening.table.Opens ("CREATE ".toList ++ ([] ++ ("TABLE".toList ++ r))) :=
      ⟨_, _, _, _, spaced_create, .inl rfl, by decide, rfl⟩
    refine ⟨_, ?_, hopens (' ' :: (t.condition ++ (t.name.text ++ (" (".toList ++
      (t.body ++ [')']))))), ?_⟩
    · simp [hcondition, hname, hbody]
    · rw [text, t.text_eq]
      simp
  | addition a =>
    have htable : ';' ∉ a.table.text := a.table.not_mem_text (by decide) (by decide)
    have hlabel : ';' ∉ labelText a.label := delimiter_not_mem_label a.label
    have hkey : ';' ∉ a.key.text := a.key.delimiter_not_mem
    have hopens (r : List Char) : Opening.alter.Opens ("ALTER ".toList ++ ([] ++ ("TABLE".toList ++ r))) :=
      ⟨_, _, _, _, spaced_alter, .inl rfl, by decide, rfl⟩
    refine ⟨_, ?_, hopens (' ' :: (a.table.text ++ (" ADD ".toList ++
      (labelText a.label ++ a.key.text)))), ?_⟩
    · simp [htable, hlabel, hkey]
    · rw [text, a.text_eq]
      simp
  | indexing x =>
    have hname : ';' ∉ x.name.text := x.name.not_mem_text (by decide) (by decide)
    have htable : ';' ∉ x.table.text := x.table.not_mem_text (by decide) (by decide)
    have hcolumns : ';' ∉ x.columns.text := x.columns.not_mem_text (by decide) (by decide) (by decide)
    obtain ⟨m, hm, hdelimiter, hwords⟩ := x.kind.exists_between
    have hopens (r : List Char) : Opening.index.Opens ("CREATE ".toList ++ (m ++ ("INDEX".toList ++ r))) :=
      ⟨_, _, _, _, spaced_create, hm, by decide, rfl⟩
    refine ⟨_, ?_, hopens (' ' :: (x.name.text ++ (" ON ".toList ++ (x.table.text ++ ([' '] ++
      x.columns.text))))), ?_⟩
    · simp [hname, htable, hcolumns, hdelimiter]
    · rw [text, x.text_eq, hwords]
      simp

lemma ne_nil : x.text ≠ [] := by
  obtain ⟨w, -, -, htext⟩ := x.exists_front
  simp [htext]

lemma begins : AddedKey.Begins x.text := by
  obtain ⟨w, -, hopens, htext⟩ := x.exists_front
  rw [htext]
  exact hopens.begins.append hopens.ne_nil _

theorem scan_text (y : List Char) :
    Statement.scan (x.text ++ y) = x.statement?.toList ++ Statement.scan y := by
  cases x with
  | creation t plain => exact t.scan_text y
  | addition a => exact Statement.scan_of_passes (a.passes_text y)
  | indexing x =>
    have hpass := (indexing x).passes (k := .createTable) (by simp [act]) List.mem_cons_self y
    exact Statement.scan_of_passes (Statement.passes_head hpass)

theorem addedKeys_text (y : List Char) :
    AddedKey.scan (x.text ++ y) = x.foreignKey?.toList ++ AddedKey.scan y := by
  cases x with
  | creation t plain => exact Pattern.all_of_passes (t.passes_text y)
  | addition a => exact a.all_text y
  | indexing x =>
    have hpass := (indexing x).passes (k := .alterTable) (by simp [act]) List.mem_cons_self y
    exact Pattern.all_of_passes (AddedKey.passes_read hpass)

def copy? (k : Act) (x : Item) : Option (List Char) := if x.act = k then some x.text else none

theorem statements_text (k : Act) (y : List Char) :
    statements k.starts (x.text ++ y) = (copy? k x).toList ++ statements k.starts y := by
  by_cases hk : x.act = k
  · subst hk
    obtain ⟨w, hw, hopens, htext⟩ := x.exists_front
    rw [copy?, if_pos rfl, htext]
    exact statements_of_opens x.act.starts_iff hw hopens y
  · rw [copy?, if_neg hk]
    exact statements_of_passes k.starts_iff fun v hv => x.passes (Ne.symm hk) hv y

end Item

section Run

variable {α : Type} {F : List Char → List α} {g : Item → Option α}

def Reads (F : List Char → List α) (g : Item → Option α) : Prop :=
  ∀ x y, F (Item.text x ++ y) = (g x).toList ++ F y

lemma Reads.items (h : Skims F) (hF : Reads F g) (items : List Item) :
    (∀ t ∈ items.map Item.text, Closed F t) ∧ (items.map Item.text).flatMap F = items.filterMap g := by
  have hitem (x : Item) : Closed F x.text ∧ F x.text = (g x).toList :=
    h.closed_of_append x.ne_nil x.begins (hF x)
  constructor
  · intro t ht
    obtain ⟨x, -, rfl⟩ := List.mem_map.mp ht
    exact (hitem x).1
  · rw [List.flatMap_map, List.filterMap_eq_flatMap_toList]
    exact List.flatMap_congr fun x _ => (hitem x).2

theorem Reads.run_listed (h : Skims F) (hF : Reads F g) (items : List Item) :
    F (listed items) = items.filterMap g := by
  obtain ⟨hclosed, hfound⟩ := hF.items h items
  rw [listed, h.intercalate (by decide) hclosed, hfound]

end Run

lemma scan_listed (items : List Item) :
    Statement.scan (listed items) = items.filterMap Item.statement? :=
  Reads.run_listed skims_scan Item.scan_text items

lemma addedKeys_listed (items : List Item) :
    AddedKey.scan (listed items) = items.filterMap Item.foreignKey? :=
  Reads.run_listed skims_addedKeys Item.addedKeys_text items

lemma statements_listed (k : Act) (items : List Item) :
    statements k.starts (listed items) = (items.filter (·.act = k)).map Item.text := by
  have hcopies : items.filterMap (Item.copy? k) = (items.filter (·.act = k)).map Item.text := by
    induction items with
    | nil => rfl
    | cons x xs ih => by_cases hk : x.act = k <;> simp [Item.copy?, hk, ih]
  rw [← hcopies]
  exact Reads.run_listed (skims_statements k.starts_iff) (fun x => x.statements_text k) items

end SchemaAtlas.Script
