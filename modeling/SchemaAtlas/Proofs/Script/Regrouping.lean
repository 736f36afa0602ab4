import SchemaAtlas.Proofs.Schema.LastDefinition
import SchemaAtlas.Proofs.Script.Listing

/-! The schema of what is extracted from a listing. The extracted text lists the same statements in
another order, which keeps the statements of a kind in their order. -/

namespace SchemaAtlas.Script

open SchemaAtlas.Text SchemaAtlas.Ddl SchemaAtlas.Extract

def extracted (sql : List Char) : List Char := (Extract.text (sections sql)).toList

def ofKind (items : List Item) : Kind → List Item
  | .createTable => items.filter (·.act = .createTable)
  | .alterTable => (items.filter (·.act = .alterTable)).filter fun x => !addsConstraint x.text
  | .constraint => (items.filter (·.act = .alterTable)).filter fun x => addsConstraint x.text
  | .index => items.filter (·.act = .createIndex)

def regrouped (items : List Item) : List Item := Kind.all.flatMap (ofKind items)

lemma ofKind_listed (items : List Item) (k : Kind) :
    Extract.ofKind (listed items) k = (ofKind items k).map Item.text := by
  have hstatements (a : Act) := statements_listed a items
  cases k with
  | createTable => exact hstatements .createTable
  | alterTable =>
    change (statements Act.alterTable.starts (listed items)).filter (!addsConstraint ·) = _
    rw [hstatements, List.filter_map]
    rfl
  | constraint =>
    change (statements Act.alterTable.starts (listed items)).filter addsConstraint = _
    rw [hstatements, List.filter_map]
    rfl
  | index => exact hstatements .createIndex

lemma filter_acts_perm (items : List Item) :
    (items.filter (·.act = .createTable) ++ (items.filter (·.act = .alterTable) ++
      items.filter (·.act = .createIndex))).Perm items := by
  induction items with
  | nil => exact List.Perm.nil
  | cons x xs ih =>
    cases hx : x.act with
    | createTable => simpa [hx] using ih
    | alterTable =>
      have hmiddle := List.perm_middle.trans (ih.cons x)
      simpa [hx] using hmiddle
    | createIndex =>
      rw [← List.append_assoc] at ih
      have hmiddle := List.perm_middle.trans (ih.cons x)
      simpa [hx] using hmiddle

lemma regrouped_perm (items : List Item) : (regrouped items).Perm items := by
  refine List.Perm.trans ?_ (filter_acts_perm items)
  -- the alterations are split in two, and the part that adds no named constraint comes first
  have hadditions := List.perm_append_comm.trans
    (List.filter_append_perm (fun x => addsConstraint x.text) (items.filter (·.act = .alterTable)))
  have hindexes := hadditions.append_right (items.filter (·.act = .createIndex))
  rw [List.append_assoc] at hindexes
  simpa [regrouped, Kind.all, ofKind] using hindexes.append_left (items.filter (·.act = .createTable))

section Run

variable {α : Type} {F : List Char → List α} {g : Item → Option α}

theorem Reads.run_extracted (h : Skims F) (ht : SkipsTitles F) (hF : Reads F g) (items : List Item) :
    F (extracted (listed items)) = (regrouped items).filterMap g := by
  have hsections : sections (listed items) = Kind.all.map fun k => k.section (listed items) := rfl
  have hclosed : ∀ k ∈ Kind.all, ∀ t ∈ Extract.ofKind (listed items) k, Closed F t := by
    intro k _
    rw [ofKind_listed]
    exact (hF.items h _).1
  rw [extracted, hsections, h.text_kinds ht hclosed, regrouped, List.filterMap_flatMap]
  refine List.flatMap_congr fun k _ => ?_
  rw [ofKind_listed]
  exact (hF.items h _).2

end Run

lemma filterMap_statement?_regrouped (items : List Item) :
    (regrouped items).filterMap Item.statement? = items.filterMap Item.statement? := by
  have hother {x : Item} (hx : x.act ≠ .createTable) : x.statement? = none := by
    cases x with
    | creation t plain => exact absurd rfl hx
    | addition | indexing => rfl
  have hnone : ∀ k ≠ Kind.createTable, (ofKind items k).filterMap Item.statement? = [] := by
    intro k hk
    refine List.filterMap_eq_nil_iff.mpr fun x hx => hother ?_
    cases k <;> simp_all [ofKind]
  have htables : (ofKind items .createTable).filterMap Item.statement? =
      items.filterMap Item.statement? := by
    rw [ofKind, List.filterMap_filter]
    refine List.filterMap_congr fun x _ => ?_
    by_cases hx : x.act = .createTable
    · simp [hx]
    · simp [hx, hother hx]
  rw [regrouped, List.filterMap_flatMap, Kind.all, List.flatMap_cons, htables]
  simp [hnone]

lemma tables_ofDeclarations_append_keys (ds : List Declaration) (ks : List ForeignKey) :
    (Schema.ofDeclarations (ds ++ ks.map Declaration.foreignKey)).tables =
      (Schema.ofDeclarations ds).tables := by
  rw [Schema.ofDeclarations_append, Schema.foldl_declare_keys]

lemma tables_ofDump_eq {sql sql' : List Char} (h : Statement.scan sql = Statement.scan sql') :
    (Schema.ofDump sql).tables = (Schema.ofDump sql').tables := by
  simp only [Schema.ofDump, Dump.declarations_eq, tables_ofDeclarations_append_keys, h]

/-- What is extracted from a listing has the tables of the listing and its inline keys in their order.
Of the keys that are added to tables the unnamed ones may come to stand before the named ones. -/
theorem ofDump_extracted (items : List Item) :
    (Schema.ofDump (extracted (listed items))).tables = (Schema.ofDump (listed items)).tables ∧
    ∃ inline added added', inline = (Statement.scan (listed items)).flatMap Statement.inlineKeys ∧
      added = items.filterMap Item.foreignKey? ∧ added'.Perm added ∧
      (Schema.ofDump (listed items)).relationships = inline ++ added ∧
      (Schema.ofDump (extracted (listed items))).relationships = inline ++ added' := by
  have hscan : Statement.scan (extracted (listed items)) = Statement.scan (listed items) := by
    rw [Reads.run_extracted skims_scan skipsTitles_scan Item.scan_text, scan_listed,
      filterMap_statement?_regrouped]
  have hadded : AddedKey.scan (extracted (listed items)) =
      (regrouped items).filterMap Item.foreignKey? :=
    Reads.run_extracted skims_addedKeys skipsTitles_addedKeys Item.addedKeys_text items
  refine ⟨tables_ofDump_eq hscan, _, _, (regrouped items).filterMap Item.foreignKey?, rfl, rfl,
    (regrouped_perm items).filterMap _, ?_, ?_⟩
  · rw [Schema.relationships_ofDump, addedKeys_listed]
  · rw [Schema.relationships_ofDump, hscan, hadded]

end SchemaAtlas.Script
