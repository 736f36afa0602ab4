import Mathlib.Data.List.Induction
import SchemaAtlas.Proofs.Schema.Folding
import SchemaAtlas.Proofs.Schema.OfDump

/-! What is left of a sequence of declarations: at the first place of each name its last definition, and
every foreign key. -/

namespace SchemaAtlas

open SchemaAtlas.Ddl

namespace Declaration

def definition? : Declaration → Option TableDefinition
  | table d => if d.columns = [] then none else some d
  | foreignKey _ => none

def keys : Declaration → List ForeignKey
  | table d => if d.columns = [] then [] else d.foreignKeys
  | foreignKey k => [k]

def Columnless : Declaration → Prop
  | table d => d.columns = []
  | foreignKey _ => False

instance : DecidablePred Columnless
  | table d => inferInstanceAs (Decidable (d.columns = []))
  | foreignKey _ => inferInstanceAs (Decidable False)

end Declaration

namespace Schema

variable {s : Schema} {ds : List Declaration} {d : Declaration}

lemma declare_columnless (h : d.Columnless) : s.declare d = s := by
  cases d with
  | table d =>
    have hd : d.columns.isEmpty = true := List.isEmpty_iff.mpr h
    rw [declare, if_pos hd]
  | foreignKey k => exact h.elim

lemma declare_eq (s : Schema) (d : Declaration) : s.declare d =
    ⟨d.definition?.elim s.tables fun e => putTable e.table s.tables, s.relationships ++ d.keys⟩ := by
  cases d with
  | table d =>
    by_cases hd : d.columns = []
    · rw [declare_columnless (d := .table d) hd]
      simp [Declaration.definition?, Declaration.keys, hd]
    · simp [declare, Declaration.definition?, Declaration.keys, hd]
  | foreignKey k => rfl

lemma find?_cons_name {α : Type} (f : α → String) (a : α) (as : List α) (name : String) :
    (a :: as).find? (f · == name) = if f a = name then some a else as.find? (f · == name) := by
  by_cases h : f a = name
  · rw [List.find?_cons_of_pos (by simpa using h), if_pos h]
  · rw [List.find?_cons_of_neg (by simpa using h), if_neg h]

lemma find?_putTable (t : Table) (ts : List Table) (name : String) :
    (putTable t ts).find? (·.name == name) =
      if t.name = name then some t else ts.find? (·.name == name) := by
  induction ts with
  | nil => exact find?_cons_name Table.name t [] name
  | cons u us ih =>
    rw [find?_cons_name Table.name u us]
    by_cases hu : u.name = t.name
    · rw [putTable, if_pos hu, find?_cons_name Table.name t us, hu]
      split <;> rfl
    · rw [putTable, if_neg hu, find?_cons_name Table.name u, ih]
      by_cases hn : u.name = name
      · have ht : t.name ≠ name := fun h => hu (hn.trans h.symm)
        rw [if_pos hn, if_pos hn, if_neg ht]
      · rw [if_neg hn, if_neg hn]

lemma eraseDups_append_singleton (names : List String) (name : String) :
    (names ++ [name]).eraseDups =
      if name ∈ names.eraseDups then names.eraseDups else names.eraseDups ++ [name] := by
  rw [List.eraseDups_append]
  by_cases h : name ∈ names
  · simp [List.removeAll, h]
  · simp [List.removeAll, h, List.eraseDups_cons]

structure Holds (s : Schema) (ds : List Declaration) : Prop where
  names : s.names = ((ds.filterMap Declaration.definition?).map (·.name)).eraseDups
  table? : ∀ name, s.table? name =
    ((ds.filterMap Declaration.definition?).reverse.find? (·.name == name)).map (·.table)
  relationships : s.relationships = ds.flatMap Declaration.keys

lemma holds_nil : Holds {} [] := ⟨rfl, fun _ => rfl, rfl⟩

lemma Holds.declare (h : s.Holds ds) (d : Declaration) : (s.declare d).Holds (ds ++ [d]) := by
  have hkeys : (s.declare d).relationships = (ds ++ [d]).flatMap Declaration.keys := by
    rw [declare_eq, List.flatMap_append, ← h.relationships, List.flatMap_singleton]
  cases hd : d.definition? with
  | none =>
    have hdefinitions : (ds ++ [d]).filterMap Declaration.definition? =
        ds.filterMap Declaration.definition? := by simp [hd]
    have htables : (s.declare d).tables = s.tables := by rw [declare_eq, hd]; rfl
    refine ⟨?_, fun name => ?_, hkeys⟩
    · rw [hdefinitions, ← h.names, Schema.names, htables, Schema.names]
    · rw [hdefinitions, ← h.table?, Schema.table?, htables, Schema.table?]
  | some e =>
    have hdefinitions : (ds ++ [d]).filterMap Declaration.definition? =
        ds.filterMap Declaration.definition? ++ [e] := by simp [hd]
    have htables : (s.declare d).tables = putTable e.table s.tables := by rw [declare_eq, hd]; rfl
    have hname : e.table.name = e.name := rfl
    refine ⟨?_, fun name => ?_, hkeys⟩
    · have hnames := h.names
      rw [Schema.names] at hnames
      rw [hdefinitions, Schema.names, htables, names_putTable, List.map_append, List.map_singleton,
        eraseDups_append_singleton, hnames, hname]
    · have htable := h.table? name
      rw [Schema.table?] at htable
      rw [hdefinitions, Schema.table?, htables, find?_putTable, List.reverse_concat,
        find?_cons_name TableDefinition.name, htable, hname]
      split <;> rfl

theorem holds_ofDeclarations (ds : List Declaration) : (ofDeclarations ds).Holds ds := by
  induction ds using List.reverseRecOn with
  | nil => exact holds_nil
  | append_singleton ds d ih =>
    rw [ofDeclarations_append]
    exact ih.declare d

lemma ofDeclarations_filter (ds : List Declaration) :
    ofDeclarations (ds.filter fun d => ¬d.Columnless) = ofDeclarations ds := by
  induction ds using List.reverseRecOn with
  | nil => rfl
  | append_singleton ds d ih =>
    rw [List.filter_append, ofDeclarations_append, ofDeclarations_append, ih]
    by_cases hd : d.Columnless
    · simp [hd, declare_columnless hd]
    · simp [hd]

end Schema

def Statement.inlineKeys (s : Statement) : List ForeignKey :=
  let d := TableDefinition.read (Name.clean s.token) s.body
  if d.name = "" ∨ d.columns = [] then [] else d.foreignKeys

lemma Statement.flatMap_keys_finding (s : Statement) :
    s.finding.declaration?.toList.flatMap Declaration.keys = s.inlineKeys := by
  by_cases hname : Name.clean s.token = ""
  · simp [finding_of_unnamed hname, Finding.declaration?, inlineKeys, hname]
  · by_cases hcolumns : (TableDefinition.read (Name.clean s.token) s.body).columns = []
    · simp [finding_of_named hname, Finding.declaration?, Declaration.keys, inlineKeys, hcolumns]
    · simp [finding_of_named hname, Finding.declaration?, Declaration.keys, inlineKeys, hname, hcolumns]

lemma Dump.declarations_eq (sql : List Char) : Dump.declarations sql =
    ((Statement.scan sql).flatMap fun s => s.finding.declaration?.toList) ++
      (AddedKey.scan sql).map Declaration.foreignKey := by
  have hkeys : ((AddedKey.scan sql).map fun k => Finding.declaration (.foreignKey k)).filterMap
      Finding.declaration? = (AddedKey.scan sql).map Declaration.foreignKey := by
    rw [List.filterMap_map, ← List.filterMap_eq_map]
    rfl
  rw [declarations, findings, findingsOf, List.filterMap_append, hkeys, List.filterMap_map,
    List.filterMap_eq_flatMap_toList]
  rfl

namespace Schema

lemma relationships_ofDump (sql : List Char) : (ofDump sql).relationships =
    (Statement.scan sql).flatMap Statement.inlineKeys ++ AddedKey.scan sql := by
  have hinline : ((Statement.scan sql).flatMap fun s => s.finding.declaration?.toList).flatMap
      Declaration.keys = (Statement.scan sql).flatMap Statement.inlineKeys := by
    rw [List.flatMap_assoc]
    exact List.flatMap_congr fun s _ => s.flatMap_keys_finding
  have hadded : ((AddedKey.scan sql).map Declaration.foreignKey).flatMap Declaration.keys =
      AddedKey.scan sql := by
    simp [List.flatMap_map, Declaration.keys]
  rw [ofDump, (holds_ofDeclarations _).relationships, Dump.declarations_eq, List.flatMap_append,
    hinline, hadded]

/-- The last definition of a name stands at the place of its first one, and no foreign key is lost. -/
theorem ofDeclarations_last_definition (ds : List Declaration) :
    (ofDeclarations ds).names = ((ds.filterMap Declaration.definition?).map (·.name)).eraseDups ∧
    (ofDeclarations ds).names.Nodup ∧
    (∀ name, (ofDeclarations ds).table? name =
      ((ds.filterMap Declaration.definition?).reverse.find? (·.name == name)).map fun d =>
        ⟨d.name, d.columns.map fun c => { c with isNotNull := c.isNotNull && !c.isPrimaryKey },
          d.constraints⟩) ∧
    ofDeclarations (ds.filter fun d => ¬d.Columnless) = ofDeclarations ds ∧
    (ofDeclarations ds).relationships = ds.flatMap Declaration.keys ∧
    ∀ sql, (ofDump sql).relationships =
      (Statement.scan sql).flatMap Statement.inlineKeys ++ AddedKey.scan sql := by
  obtain ⟨hnames, htable, hkeys⟩ := holds_ofDeclarations ds
  exact ⟨hnames, nodup_names_ofDeclarations ds, htable, ofDeclarations_filter ds, hkeys,
    relationships_ofDump⟩

end Schema

end SchemaAtlas
