import SchemaAtlas.Proofs.Ddl.Rejoining
import SchemaAtlas.Proofs.Ddl.Respacing

/-! Members of a table body may change places, as long as those that give columns, those that give foreign
keys and those that give constraints each keep their order. A key of the table reaches the columns on both
sides of it. -/

namespace SchemaAtlas

open SchemaAtlas.Text SchemaAtlas.Ddl

variable {α β : Type} {table name : String} {ms ms' : List (List Char)}

lemma filterMap_filter_isSome (f : α → Option β) (xs : List α) :
    (xs.filter fun x => (f x).isSome).filterMap f = xs.filterMap f := by
  rw [List.filterMap_filter]
  refine List.filterMap_congr fun x _ => ?_
  cases f x <;> rfl

lemma forall₂_filterMap (f : α → Option β) (xs : List α) :
    List.Forall₂ (fun x y => f x = some y) (xs.filter fun x => (f x).isSome) (xs.filterMap f) := by
  induction xs with
  | nil => exact .nil
  | cons x xs ih =>
    cases hx : f x with
    | none => simpa [hx] using ih
    | some y =>
      rw [List.filter_cons_of_pos (by simp [hx]), List.filterMap_cons_some hx]
      exact .cons hx ih

namespace Ddl

def given (table : String) (kind : Member → Option α) (d : List Char) : Option α := (Member.read table d).bind kind

def givers (table : String) (kind : Member → Option α) (ms : List (List Char)) : List (List Char) :=
  ms.filter fun d => (given table kind d).isSome

/-- The same members in another order, which is kept among those that give the same kind of thing. -/
structure Reordered (table : String) (ms ms' : List (List Char)) : Prop where
  perm : ms.Perm ms'
  columns : givers table Member.column? ms = givers table Member.column? ms'
  foreignKeys : givers table Member.foreignKey? ms = givers table Member.foreignKey? ms'
  constraints : givers table Member.constraint? ms = givers table Member.constraint? ms'

def Keyed (table : String) (ms : List (List Char)) (name : String) : Prop :=
  ∃ m ∈ ms, ∃ names, Member.read table m = some (.clause (.primaryKey names)) ∧ name ∈ names

structure Gives (table : String) (ms : List (List Char)) (d : List Char) (c : Column) : Prop where
  name : c.name = Name.clean (firstWord d)
  primaryKey : c.isPrimaryKey = true ↔ "PRIMARY KEY".toList <:+: upper d ∨ Keyed table ms c.name
  notNull : c.isNotNull = true ↔ "NOT NULL".toList <:+: upper d ∧ c.isPrimaryKey = false

lemma filterMap_given_of_givers (kind : Member → Option α) (h : givers table kind ms = givers table kind ms') :
    ms.filterMap (given table kind) = ms'.filterMap (given table kind) := by
  calc ms.filterMap (given table kind)
    _ = (givers table kind ms).filterMap (given table kind) := (filterMap_filter_isSome _ ms).symm
    _ = (givers table kind ms').filterMap (given table kind) := by rw [h]
    _ = ms'.filterMap (given table kind) := filterMap_filter_isSome _ ms'

lemma Keyed.of_perm (h : ms.Perm ms') (hm : Keyed table ms name) : Keyed table ms' name := by
  obtain ⟨m, hm, names, hread, hname⟩ := hm
  exact ⟨m, h.subset hm, names, hread, hname⟩

lemma mem_keyColumns_iff : name ∈ (ms.filterMap (Member.read table)).flatMap Member.keyColumns ↔
    Keyed table ms name := by
  rw [List.mem_flatMap]
  constructor
  · rintro ⟨member, hm, hname⟩
    obtain ⟨d, hd, hread⟩ := List.mem_filterMap.mp hm
    unfold Member.keyColumns at hname
    split at hname
    · exact ⟨d, hd, _, hread, hname⟩
    · cases hname
  · rintro ⟨d, hd, names, hread, hname⟩
    exact ⟨_, List.mem_filterMap.mpr ⟨d, hd, hread⟩, hname⟩

lemma readColumn_of_given {d : List Char} {c : Column} (h : given table Member.column? d = some c) :
    readColumn d = some c := by
  obtain ⟨member, hread, hcolumn⟩ := Option.bind_eq_some_iff.mp h
  unfold Member.read at hread
  split at hread
  · obtain ⟨clause, -, rfl⟩ := Option.map_eq_some_iff.mp hread
    cases hcolumn
  · obtain ⟨c', hc, rfl⟩ := Option.map_eq_some_iff.mp hread
    exact hc.trans hcolumn

lemma gives_withKeys {d : List Char} {c : Column} {keys : List String} (hkeys : ∀ n, n ∈ keys ↔ Keyed table ms n)
    (h : readColumn d = some c) : Gives table ms d (c.withKeys keys) := by
  obtain ⟨hprimary, hnull⟩ := flags_of_readColumn h
  simp only [mentions] at hprimary hnull
  refine ⟨(Column.name_withKeys keys c).trans (name_of_readColumn h), ?_, ?_⟩
  · rw [Column.name_withKeys, ← hkeys, Column.withKeys, ← contains_iff, ← hprimary]
    by_cases hm : c.name ∈ keys <;> simp [hm]
  · rw [Column.withKeys, ← contains_iff]
    by_cases hm : c.name ∈ keys <;> simp [hm, hnull, hprimary]

end Ddl

namespace TableDefinition

lemma ofMembers_eq (table : String) (ms : List (List Char)) : ofMembers table (ms.filterMap (Member.read table)) =
    ⟨table, (ms.filterMap (given table Member.column?)).map
        (Column.withKeys ((ms.filterMap (Member.read table)).flatMap Member.keyColumns)),
      ms.filterMap (given table Member.constraint?), ms.filterMap (given table Member.foreignKey?)⟩ := by
  rw [ofMembers, List.filterMap_filterMap, List.filterMap_filterMap, List.filterMap_filterMap]
  rfl

lemma ofMembers_reordered (h : Reordered table ms ms') :
    ofMembers table (ms.filterMap (Member.read table)) = ofMembers table (ms'.filterMap (Member.read table)) := by
  have hkeys : Column.withKeys ((ms.filterMap (Member.read table)).flatMap Member.keyColumns) =
      Column.withKeys ((ms'.filterMap (Member.read table)).flatMap Member.keyColumns) := by
    funext c
    have hmem : c.name ∈ (ms.filterMap (Member.read table)).flatMap Member.keyColumns ↔
        c.name ∈ (ms'.filterMap (Member.read table)).flatMap Member.keyColumns := by
      rw [mem_keyColumns_iff, mem_keyColumns_iff]
      exact ⟨.of_perm h.perm, .of_perm h.perm.symm⟩
    simp only [Column.withKeys, List.contains_iff_mem, hmem]
  rw [ofMembers_eq, ofMembers_eq, hkeys, filterMap_given_of_givers _ h.columns,
    filterMap_given_of_givers _ h.constraints, filterMap_given_of_givers _ h.foreignKeys]

lemma columns_ofMembers (table : String) (ms : List (List Char)) :
    List.Forall₂ (Gives table ms) (givers table Member.column? ms)
      (ofMembers table (ms.filterMap (Member.read table))).columns := by
  rw [ofMembers_eq, List.forall₂_map_right_iff]
  refine (forall₂_filterMap _ ms).imp fun d c hc => ?_
  exact gives_withKeys (fun n => mem_keyColumns_iff) (readColumn_of_given hc)

lemma read_intercalate (h : ∀ m ∈ ms, SelfContained m) :
    read table ([','].intercalate ms) = ofMembers table (ms.filterMap (Member.read table)) := by
  have hmembers : members ([','].intercalate ms) = ms :=
    members_intercalate blanks_nil blanks_nil (.of_forall fun m hm => neat_iff.mpr (h m hm))
  rw [read, hmembers]

/-- A table is the same for reordered members. A column is a key exactly if its definition says so or a key
of the table lists its name, wherever that stands, and a key is never marked as not null besides. -/
theorem read_reordered (hms : ∀ m ∈ ms, SelfContained m) (h : Reordered table ms ms') :
    read table ([','].intercalate ms) = read table ([','].intercalate ms') ∧
      List.Forall₂ (Gives table ms) (givers table Member.column? ms)
        (read table ([','].intercalate ms)).columns := by
  have hms' : ∀ m ∈ ms', SelfContained m := fun m hm => hms m (h.perm.symm.subset hm)
  rw [read_intercalate hms, read_intercalate hms']
  exact ⟨ofMembers_reordered h, columns_ofMembers table ms⟩

theorem read_reordered_key_first :
    read "T" ([','].intercalate (["ID NUMBER(9,2)", "CONSTRAINT P PRIMARY KEY (ID)", "NAME DATE NOT NULL",
        "CONSTRAINT U UNIQUE (ID, NAME)"].map String.toList)) =
      read "T" ([','].intercalate (["CONSTRAINT P PRIMARY KEY (ID)", "CONSTRAINT U UNIQUE (ID, NAME)",
        "ID NUMBER(9,2)", "NAME DATE NOT NULL"].map String.toList)) := by
  refine (read_reordered ?_ ⟨?_, ?_, ?_, ?_⟩).1 <;> decide +kernel

end TableDefinition

end SchemaAtlas
