import SchemaAtlas.Proofs.Ddl.ColumnWords
import SchemaAtlas.Proofs.Schema.WellFormed
import SchemaAtlas.Proofs.Text.Searching

/-! The schema of a dump is well formed, whatever the text. Everything that is read from the text is
cleaned or comes from a fixed list, and this is carried from the readers to the declarations. -/

namespace SchemaAtlas

open SchemaAtlas.Text SchemaAtlas.Ddl

lemma TypeCategory.label_mem (c : TypeCategory) :
    c.label ∈ ["STRING", "NUMBER", "DATE", "LOB", "OTHER"] := by
  cases c <;> decide

namespace Ddl

lemma columnNames_ne_nil (s : List Char) : columnNames s ≠ [] := by simp [columnNames]

lemma clean_of_mem_columnNames {s : List Char} {name : String} (h : name ∈ columnNames s) :
    Name.Clean name := by
  obtain ⟨piece, _, rfl⟩ := List.mem_map.mp h
  exact Name.clean_clean piece

structure Reference.Sound (r : Reference) : Prop where
  columns_ne_nil : r.columns ≠ []
  columns_clean : ∀ name ∈ r.columns, Name.Clean name
  target_clean : Name.Clean r.target
  targetColumns_ne_nil : r.targetColumns ≠ []
  targetColumns_clean : ∀ name ∈ r.targetColumns, Name.Clean name

lemma Reference.sound_of_read {s r : List Char} {k : Reference} (h : read s = some (k, r)) :
    k.Sound := by
  simp only [read, Option.bind_eq_bind, Option.bind_eq_some_iff] at h
  obtain ⟨s₁, _, s₂, _, ⟨columns, s₃⟩, _, s₄, _, ⟨target, s₅⟩, _, ⟨targetColumns, s₆⟩, _, h⟩ := h
  cases h
  exact ⟨columnNames_ne_nil _, fun _ => clean_of_mem_columnNames, Name.clean_clean _,
    columnNames_ne_nil _, fun _ => clean_of_mem_columnNames⟩

lemma Reference.Sound.ofTable {k : Reference} (h : k.Sound) {source : String}
    (hs : Name.Clean source) : (k.ofTable source).Sound :=
  ⟨hs, h.columns_ne_nil, h.columns_clean, h.target_clean, h.targetColumns_ne_nil, h.targetColumns_clean⟩

lemma Reference.sound_of_beforeDelimiter {s r : List Char} {k : Reference}
    (h : beforeDelimiter s = some (k, r)) : k.Sound := by
  induction s with
  | nil => simp [beforeDelimiter] at h
  | cons c s ih =>
    rw [beforeDelimiter] at h
    rcases orElse_eq_some.mp h with hr | ⟨_, h⟩
    · exact sound_of_read hr
    · split at h
      · simp at h
      · exact ih h

lemma AddedKey.sound_of_read {s r : List Char} {k : ForeignKey} (h : read s = some (k, r)) :
    k.Sound := by
  simp only [read, Option.bind_eq_bind, Option.bind_eq_some_iff] at h
  obtain ⟨s₁, _, s₂, _, ⟨table, s₃⟩, _, s₄, _, s₅, _, ⟨q, s₆⟩, hq, h⟩ := h
  cases h
  have hsound : q.Sound := by
    unfold constraint at hq
    split at hq
    · exact Reference.sound_of_beforeDelimiter hq
    · exact Reference.sound_of_read hq
  exact hsound.ofTable (Name.clean_clean table)

lemma readColumn_sound {d : List Char} {c : Column} (h : readColumn d = some c) : c.Sound := by
  obtain ⟨-, hname, rfl⟩ := readColumn_eq_some.mp h
  refine ⟨Name.clean_clean _, ?_, TypeCategory.label_mem _, ?_⟩
  · intro hempty
    have hnil : (Name.clean (firstWord d)).toList = [] := congrArg String.toList hempty
    rw [Name.clean, String.toList_ofList] at hnil
    exact hname.named hnil
  · rintro ⟨hprimary, hnull⟩
    exact (of_decide_eq_true hnull).2 (of_decide_eq_true hprimary)

def Clause.Sound : Clause → Prop
  | .primaryKey _ => True
  | .foreignKey k => k.Sound
  | .unique columns => columns ≠ [] ∧ ∀ name ∈ columns, Name.Clean name
  | .check => True

def Member.Sound : Member → Prop
  | .column c => c.Sound
  | .clause c => c.Sound

lemma Clause.sound_of_read {table : String} (ht : Name.Clean table) {d : List Char} {c : Clause}
    (h : read table d = some c) : c.Sound := by
  unfold read at h
  split at h
  · obtain ⟨p, _, rfl⟩ := Option.map_eq_some_iff.mp h
    trivial
  split at h
  · obtain ⟨⟨k, r⟩, hk, rfl⟩ := Option.map_eq_some_iff.mp h
    obtain ⟨x, s, _, hread⟩ := Pattern.exists_of_first? hk
    exact (Reference.sound_of_read hread).ofTable ht
  split at h
  · cases h
    exact ⟨columnNames_ne_nil _, fun _ => clean_of_mem_columnNames⟩
  · obtain ⟨p, _, rfl⟩ := Option.map_eq_some_iff.mp h
    trivial

lemma Member.sound_of_read {table : String} (ht : Name.Clean table) {d : List Char} {m : Member}
    (h : read table d = some m) : m.Sound := by
  unfold read at h
  split at h
  · obtain ⟨c, hc, rfl⟩ := Option.map_eq_some_iff.mp h
    exact Clause.sound_of_read ht hc
  · obtain ⟨c, hc, rfl⟩ := Option.map_eq_some_iff.mp h
    exact readColumn_sound hc

end Ddl

lemma Column.Sound.withKeys {c : Column} (h : c.Sound) (keys : List String) :
    (c.withKeys keys).Sound := by
  unfold Column.withKeys
  split
  · exact ⟨h.name_clean, h.name_ne_empty, h.type_label, by simp⟩
  · exact h

lemma TableDefinition.sound_ofMembers {name : String} (hc : Name.Clean name) (hne : name ≠ "")
    {ms : List Member} (h : ∀ m ∈ ms, m.Sound) : (ofMembers name ms).Sound where
  name_clean := hc
  name_ne_empty := hne
  columns_sound := by
    intro c hm
    obtain ⟨c', hc', rfl⟩ := List.mem_map.mp hm
    obtain ⟨m, hm, hcol⟩ := List.mem_filterMap.mp hc'
    have hsound := h m hm
    cases m with
    | column d =>
      cases hcol
      exact Column.Sound.withKeys hsound _
    | clause d => cases hcol
  constraints_sound := by
    intro c hm
    obtain ⟨m, hm, hcon⟩ := List.mem_filterMap.mp hm
    have hsound := h m hm
    cases m with
    | column d => cases hcon
    | clause d =>
      cases d with
      | primaryKey columns => cases hcon
      | foreignKey k => cases hcon
      | unique columns =>
        cases hcon
        exact .inl ⟨rfl, hsound⟩
      | check =>
        cases hcon
        exact .inr ⟨rfl, rfl⟩
  foreignKeys_sound := by
    intro k hm
    obtain ⟨m, hm, hkey⟩ := List.mem_filterMap.mp hm
    have hsound := h m hm
    cases m with
    | column d => cases hkey
    | clause d =>
      cases d with
      | foreignKey k' =>
        cases hkey
        exact hsound
      | primaryKey columns => cases hkey
      | unique columns => cases hkey
      | check => cases hkey

lemma TableDefinition.sound_read {name : String} (hc : Name.Clean name) (hne : name ≠ "")
    (body : List Char) : (read name body).Sound := by
  refine sound_ofMembers hc hne fun m hm => ?_
  obtain ⟨d, _, hd⟩ := List.mem_filterMap.mp hm
  exact Member.sound_of_read hc hd

lemma Statement.finding_of_unnamed {s : Statement} (h : Name.clean s.token = "") :
    s.finding = .unnamed s.token := by
  simp [finding, h]

lemma Statement.finding_of_named {s : Statement} (h : Name.clean s.token ≠ "") :
    s.finding = .declaration (.table (TableDefinition.read (Name.clean s.token) s.body)) := by
  simp [finding, h]

lemma Dump.sound_declarations (sql : List Char) : ∀ d ∈ declarations sql, d.Sound := by
  intro d h
  obtain ⟨f, hf, hd⟩ := List.mem_filterMap.mp h
  rcases List.mem_append.mp hf with hf | hf
  · obtain ⟨s, _, rfl⟩ := List.mem_map.mp hf
    by_cases hne : Name.clean s.token = ""
    · rw [Statement.finding_of_unnamed hne] at hd
      cases hd
    · rw [Statement.finding_of_named hne] at hd
      cases hd
      exact TableDefinition.sound_read (Name.clean_clean _) hne _
  · obtain ⟨k, hk, rfl⟩ := List.mem_map.mp hf
    cases hd
    obtain ⟨s, r, hread⟩ := Pattern.exists_of_mem_all hk
    exact AddedKey.sound_of_read hread

theorem Schema.wellFormed_ofDump (sql : List Char) : (Schema.ofDump sql).WellFormed :=
  wellFormed_ofDeclarations (Dump.sound_declarations sql)

end SchemaAtlas
