import SchemaAtlas.Proofs.Schema.LastDefinition

/-! The columns of a table are those of the last statement on it, under the names that their definitions begin
with. Nothing keeps these names apart: two identifiers that are cleaned to one name give two columns of it. -/

namespace SchemaAtlas

open SchemaAtlas.Text SchemaAtlas.Ddl

namespace Ddl

def isColumn (d : List Char) : Bool := !isConstraint d && (readColumn d).isSome

lemma column?_read (table : String) (d : List Char) : ((Member.read table d).bind Member.column?).map (·.name) =
    if isColumn d then some (Name.clean (firstWord d)) else none := by
  unfold Member.read isColumn
  cases hclause : isConstraint d with
  | true => cases Clause.read table d <;> rfl
  | false =>
    cases hcolumn : readColumn d with
    | none => rfl
    | some c => exact congrArg some (name_of_readColumn hcolumn)

end Ddl

lemma TableDefinition.names_columns_read (name : String) (body : List Char) :
    (read name body).columns.map (·.name) =
      ((members body).filter isColumn).map fun d => Name.clean (firstWord d) := by
  have hkeys (keys : List String) : Column.name ∘ Column.withKeys keys = Column.name :=
    funext (Column.name_withKeys keys)
  rw [read, ofMembers, List.map_map, hkeys, List.filterMap_filterMap, List.map_filterMap,
    funext (column?_read name), ← List.filterMap_eq_map, List.filterMap_filter]
  rfl

lemma TableDefinition.names_columns_table (d : TableDefinition) :
    d.table.columns.map (·.name) = d.columns.map (·.name) := List.map_map ..

namespace Statement

variable (st : Statement)

def columnDefinitions : List (List Char) := (members st.body).filter isColumn

def columnNames : List String := st.columnDefinitions.map fun d => Name.clean (firstWord d)

structure Defines (name : String) : Prop where
  name_eq : Name.clean st.token = name
  name_ne_empty : name ≠ ""
  columns_ne_nil : st.columnDefinitions ≠ []

instance (name : String) : Decidable (st.Defines name) :=
  decidable_of_iff (Name.clean st.token = name ∧ name ≠ "" ∧ st.columnDefinitions ≠ [])
    ⟨fun ⟨h, hn, hc⟩ => ⟨h, hn, hc⟩, fun ⟨h, hn, hc⟩ => ⟨h, hn, hc⟩⟩

def definition? : Option TableDefinition := st.finding.declaration?.bind Declaration.definition?

variable {st}

lemma columns_read_eq_nil_iff (name : String) :
    (TableDefinition.read name st.body).columns = [] ↔ st.columnDefinitions = [] := by
  rw [← List.map_eq_nil_iff (f := Column.name), TableDefinition.names_columns_read, List.map_eq_nil_iff]
  rfl

lemma definition?_of_defines {name : String} (h : st.Defines name) :
    st.definition? = some (TableDefinition.read name st.body) := by
  obtain ⟨rfl, hname, hcolumns⟩ := h
  rw [definition?, finding_of_named hname]
  exact if_neg (mt (columns_read_eq_nil_iff _).mp hcolumns)

lemma any_definition?_iff {name : String} : st.definition?.any (·.name == name) = true ↔ st.Defines name := by
  constructor
  · intro h
    obtain ⟨d, hd, hname⟩ := (Option.any_eq_true _ _).mp h
    by_cases htoken : Name.clean st.token = ""
    · simp [definition?, finding_of_unnamed htoken, Finding.declaration?] at hd
    · rw [definition?, finding_of_named htoken] at hd
      change (if _ then _ else _) = _ at hd
      split at hd
      · cases hd
      · next hcolumns =>
        cases hd
        obtain rfl : Name.clean st.token = name := by simpa using hname
        exact ⟨rfl, htoken, mt (columns_read_eq_nil_iff _).mpr hcolumns⟩
  · intro h
    rw [definition?_of_defines h]
    simp

end Statement

namespace Dump

def definer? (sql : List Char) (name : String) : Option Statement :=
  (Statement.scan sql).reverse.find? (·.Defines name)

lemma definitions_eq (sql : List Char) : (declarations sql).filterMap Declaration.definition? =
    (Statement.scan sql).filterMap Statement.definition? := by
  have hkeys : ((AddedKey.scan sql).map Declaration.foreignKey).filterMap Declaration.definition? = [] := by
    simp [List.filterMap_map, Declaration.definition?]
  rw [declarations_eq, List.filterMap_append, hkeys, List.append_nil, ← List.filterMap_eq_flatMap_toList,
    List.filterMap_filterMap]
  rfl

end Dump

namespace Schema

lemma table?_ofDump (sql : List Char) (name : String) : (ofDump sql).table? name =
    (Dump.definer? sql name).map fun st => (TableDefinition.read name st.body).table := by
  have hdefines : (fun st : Statement => st.definition?.any (·.name == name)) = (·.Defines name) :=
    funext fun st => Bool.eq_iff_iff.mpr (Statement.any_definition?_iff.trans (decide_eq_true_iff ..).symm)
  rw [ofDump, (holds_ofDeclarations _).table?, Dump.definitions_eq, ← List.filterMap_reverse, List.find?_filterMap,
    hdefines, ← Dump.definer?]
  cases hdefiner : Dump.definer? sql name with
  | none => rfl
  | some st =>
    have hst : st.Defines name := by simpa using List.find?_some hdefiner
    rw [Option.bind_some, Statement.definition?_of_defines hst, Option.map_some, Option.map_some]

lemma columnNames_ofDump {sql : List Char} {t : Table} (ht : t ∈ (ofDump sql).tables) :
    (Dump.definer? sql t.name).map Statement.columnNames = some (t.columns.map (·.name)) := by
  have hsound : (ofDump sql).WellFormed := wellFormed_ofDeclarations (Dump.sound_declarations sql)
  have htable := (hsound.table?_iff t.name t).mpr ⟨ht, rfl⟩
  rw [table?_ofDump, Option.map_eq_some_iff] at htable
  obtain ⟨st, hst, htable⟩ := htable
  rw [hst, ← htable, TableDefinition.names_columns_table, TableDefinition.names_columns_read]
  rfl

/-- A table has the columns of its last statement, and their names are distinct exactly if its definitions
begin with words for distinct names. -/
theorem nodup_columns_ofDump_iff (sql : List Char) :
    (ofDump sql).tables.map (fun t => some (t.columns.map (·.name))) =
        (ofDump sql).names.map (fun name => (Dump.definer? sql name).map Statement.columnNames) ∧
      ((∀ t ∈ (ofDump sql).tables, (t.columns.map (·.name)).Nodup) ↔
        ∀ name ∈ (ofDump sql).names, ∀ st ∈ Dump.definer? sql name,
          st.columnDefinitions.Pairwise fun d d' => Name.clean (firstWord d) ≠ Name.clean (firstWord d')) := by
  constructor
  · rw [names, List.map_map]
    exact List.map_congr_left fun t ht => (columnNames_ofDump ht).symm
  · rw [names, List.forall_mem_map]
    refine forall₂_congr fun t ht => ?_
    obtain ⟨st, hst, hnames⟩ := Option.map_eq_some_iff.mp (columnNames_ofDump ht)
    rw [hst, ← hnames, Statement.columnNames, List.Nodup, List.pairwise_map]
    simp

theorem not_nodup_columns_ofDump :
    ∃ t ∈ (ofDump "CREATE TABLE EMP (DEPT# NUMBER, DEPT_NUM NUMBER);".toList).tables,
      t.columns.map (·.name) = ["DEPT_NUM", "DEPT_NUM"] ∧ ¬ (t.columns.map (·.name)).Nodup := by
  decide +kernel

end Schema

end SchemaAtlas
