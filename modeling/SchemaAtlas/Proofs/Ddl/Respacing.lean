import SchemaAtlas.Proofs.Ddl.TableMembers

/-! A run of blanks in a table body can be exchanged for another. Only where it stands between the two words
of a key phrase does it matter whether it is one blank, as the phrase is looked for with one. -/

namespace SchemaAtlas

attribute [ext] Column

namespace Ddl

open SchemaAtlas.Text

def keyPhrases : List (List Char × List Char) :=
  [("PRIMARY".toList, "KEY".toList), ("FOREIGN".toList, "KEY".toList), ("NOT".toList, "NULL".toList)]

lemma capitals_keyPhrases : ∀ p ∈ keyPhrases, Capitals p.1 ∧ Capitals p.2 := by decide

/-- One phrase begins at the end of the first text and goes on at the start of the second. -/
def Spans (x y : List Char) : Prop := ∃ p ∈ keyPhrases, p.1 <:+ upper x ∧ p.2 <+: upper y

lemma Spans.mono {x y x' y' : List Char} (h : Spans x y) (hx : x <:+ x') (hy : y <+: y') : Spans x' y' := by
  obtain ⟨a, rfl⟩ := hx
  obtain ⟨b, rfl⟩ := hy
  obtain ⟨p, hp, hfirst, hsecond⟩ := h
  rw [Spans, upper_append, upper_append]
  exact ⟨p, hp, hfirst.trans (List.suffix_append _ _), hsecond.trans (List.prefix_append _ _)⟩

theorem mentions_run_iff {p : String} {a b x y w : List Char} (hp : p.toList = a ++ ' ' :: b) (ha : Capitals a)
    (hb : Capitals b) (hw : Gap w) : mentions p (x ++ (w ++ y)) = true ↔
      mentions p x = true ∨ mentions p y = true ∨ w = [' '] ∧ a <:+ upper x ∧ b <+: upper y := by
  simp only [mentions, contains_iff, hp, upper_append, hw.2.upper]
  exact infix_run_iff ha.1 ha.solid hb.1 hb.solid hw

section Readers

variable {w w' s s' : List Char} (hw : Gap w) (hw' : Gap w')

include hw hw'

lemma rel_phrase {k l : List Char} (hk : Solid k) (hl : Solid l) (h : Respaced w w' s s') :
    Option.Rel (Respaced w w') (phrase k l s) (phrase k l s') :=
  rel_bind (rel_keywordBlanks hw hw' hk h) fun _ _ => rel_keyword hw hw' hl

lemma rel_readPrimaryKey (h : Respaced w w' s s') :
    Option.Rel (Follows w w') (Clause.readPrimaryKey s) (Clause.readPrimaryKey s') :=
  rel_bind (rel_keywordBlanks hw hw' (by decide) h) fun _ _ h =>
    rel_bind (rel_keyword hw hw' (by decide) h) fun _ _ h => rel_enclosed hw hw' (h.skipBlanks hw hw')

lemma rel_readReference (h : Respaced w w' s s') :
    Option.Rel (Follows w w') (Reference.read s) (Reference.read s') := by
  refine rel_bind (rel_keywordBlanks hw hw' (by decide) h) fun _ _ h => ?_
  refine rel_bind (rel_keyword hw hw' (by decide) h) fun _ _ h => ?_
  refine rel_bind (rel_enclosed hw hw' (h.skipBlanks hw hw')) ?_
  rintro ⟨columns, _⟩ ⟨_, _⟩ ⟨rfl, h⟩
  refine rel_bind (rel_keywordBlanks hw hw' (by decide) (h.skipBlanks hw hw')) fun _ _ h => ?_
  refine rel_bind (rel_run1 hw hw' (fun c hc => by simp [hc]) h) ?_
  rintro ⟨target, _⟩ ⟨_, _⟩ ⟨rfl, h⟩
  refine rel_bind (rel_enclosed hw hw' (h.skipBlanks hw hw')) ?_
  rintro ⟨targetColumns, _⟩ ⟨_, _⟩ ⟨rfl, h⟩
  exact .some ⟨rfl, h⟩

lemma rel_readUnique (h : Respaced w w' s s') : Option.Rel Eq (Clause.readUnique s) (Clause.readUnique s') := by
  refine rel_bind (rel_keyword hw hw' (by decide) h) fun _ _ h => ?_
  refine rel_bind (rel_enclosed hw hw' (h.skipBlanks hw hw')) ?_
  rintro ⟨columns, _⟩ ⟨_, _⟩ ⟨rfl, -⟩
  exact .some rfl

lemma rel_readCheck (h : Respaced w w' s s') :
    Option.Rel (Respaced w w') (Clause.readCheck s) (Clause.readCheck s') :=
  rel_bind (rel_keyword hw hw' (by decide) h) fun _ _ h => rel_char hw hw' (by decide) (h.skipBlanks hw hw')

lemma rel_constraintWord (h : Respaced w w' s s') :
    Option.Rel (Respaced w w') (constraintWord s) (constraintWord s') :=
  rel_filter (rel_keyword hw hw' (by decide) h) fun _ _ h => h.atWordEnd hw hw'

lemma isConstraint_respaced (h : Respaced w w' s s') : isConstraint s = isConstraint s' := by
  have hword : (firstAtWord constraintWord true s).isSome = (firstAtWord constraintWord true s').isSome :=
    isSome_eq_of_rel (rel_firstAtWord hw hw' .same
      (fun c t hc => by rw [constraintWord, keyword_blank (by decide) (by decide) hc]; rfl)
      (fun _ _ => rel_constraintWord hw hw') h true)
  have hkey {k : List Char} (hk : Solid k) : ((phrase k "KEY".toList s).filter atWordEnd).isSome =
      ((phrase k "KEY".toList s').filter atWordEnd).isSome :=
    isSome_eq_of_rel (rel_filter (rel_phrase hw hw' hk (by decide) h) fun _ _ h => h.atWordEnd hw hw')
  rw [isConstraint_eq, isConstraint_eq, hword, hkey (by decide), hkey (by decide)]

lemma readPrimaryKey_respaced (h : Respaced w w' s s') :
    Option.Rel (Follows w w') (Clause.primaryKeyPattern.first? s) (Clause.primaryKeyPattern.first? s') := by
  refine rel_first? hw hw' (fun c t hc => ?_) (fun _ _ => rel_readPrimaryKey hw hw') h
  change Clause.readPrimaryKey _ = none
  rw [Clause.readPrimaryKey, keywordBlanks, keyword_blank (by decide) (by decide) hc]
  rfl

lemma readReference_respaced (h : Respaced w w' s s') :
    Option.Rel (Follows w w') (Reference.pattern.first? s) (Reference.pattern.first? s') := by
  refine rel_first? hw hw' (fun c t hc => ?_) (fun _ _ => rel_readReference hw hw') h
  change Reference.read _ = none
  rw [Reference.read, keywordBlanks, keyword_blank (by decide) (by decide) hc]
  rfl

lemma readUnique_respaced (h : Respaced w w' s s') :
    Option.Rel Eq (firstAtWord Clause.readUnique true s) (firstAtWord Clause.readUnique true s') := by
  refine rel_firstAtWord hw hw' (fun _ => rfl) (fun c t hc => ?_) (fun _ _ => rel_readUnique hw hw') h true
  rw [Clause.readUnique, keyword_blank (by decide) (by decide) hc]
  rfl

lemma readCheck_respaced (h : Respaced w w' s s') :
    Option.Rel (Respaced w w') (firstAtWord Clause.readCheck true s) (firstAtWord Clause.readCheck true s') := by
  refine rel_firstAtWord hw hw' .same (fun c t hc => ?_) (fun _ _ => rel_readCheck hw hw') h true
  rw [Clause.readCheck, keyword_blank (by decide) (by decide) hc]
  rfl

lemma rel_readColumn (h : Respaced w w' s s') :
    Option.Rel (fun c c' : Column => c.name = c'.name ∧ c.type = c'.type) (readColumn s) (readColumn s') := by
  refine rel_bind (rel_run1 hw hw' (fun _ => id) (h.skipBlanks hw hw')) ?_
  rintro ⟨raw, _⟩ ⟨_, _⟩ ⟨rfl, h⟩
  refine rel_bind (rel_blanks1 hw hw' h) fun _ _ h => ?_
  refine rel_bind (rel_run1 hw hw' (fun c hc => by simp [hc]) h) ?_
  rintro ⟨type, _⟩ ⟨_, _⟩ ⟨rfl, -⟩
  dsimp only
  split
  · exact .none
  · exact .some ⟨rfl, rfl⟩

lemma isColumn_respaced (h : Respaced w w' s s') : isColumn s = isColumn s' := by
  rw [isColumn, isColumn, isConstraint_respaced hw hw' h, isSome_eq_of_rel (rel_readColumn hw hw' h)]

end Readers

section Members

variable {w w' x y : List Char} (hw : Gap w) (hw' : Gap w') (hx : Shut x)
  (hspan : (w = [' '] ↔ w' = [' ']) ∨ ¬Spans x y)

include hw hw' hspan

lemma mentions_respaced {p : String} {q : List Char × List Char} (hq : q ∈ keyPhrases)
    (hp : p.toList = q.1 ++ ' ' :: q.2) : mentions p (x ++ (w ++ y)) = mentions p (x ++ (w' ++ y)) := by
  obtain ⟨ha, hb⟩ := capitals_keyPhrases q hq
  rw [Bool.eq_iff_iff, mentions_run_iff hp ha hb hw, mentions_run_iff hp ha hb hw']
  rcases hspan with hblank | hno
  · rw [hblank]
  · have hno : ¬(q.1 <:+ upper x ∧ q.2 <+: upper y) := fun h => hno ⟨q, hq, h⟩
    simp only [hno, and_false]

include hx

lemma readColumn_respaced : readColumn (x ++ (w ++ y)) = readColumn (x ++ (w' ++ y)) := by
  have hprimary := mentions_respaced hw hw' hspan (p := "PRIMARY KEY") (q := ("PRIMARY".toList, "KEY".toList))
    (by decide) (by decide)
  have hnull := mentions_respaced hw hw' hspan (p := "NOT NULL") (q := ("NOT".toList, "NULL".toList)) (by decide)
    (by decide)
  have hrel := rel_readColumn hw hw' (.run hx y)
  generalize hc : readColumn (x ++ (w ++ y)) = o, hc' : readColumn (x ++ (w' ++ y)) = o' at hrel
  cases hrel with
  | none => rfl
  | @some c c' h =>
    obtain ⟨hkey, hflag⟩ := flags_of_readColumn hc
    obtain ⟨hkey', hflag'⟩ := flags_of_readColumn hc'
    rw [hprimary] at hkey
    rw [hprimary, hnull] at hflag
    exact congrArg some (Column.ext h.1 h.2 (hkey.trans hkey'.symm) (hflag.trans hflag'.symm))

lemma readClause_respaced (table : String) :
    Clause.read table (x ++ (w ++ y)) = Clause.read table (x ++ (w' ++ y)) := by
  have hrun : Respaced w w' (x ++ (w ++ y)) (x ++ (w' ++ y)) := .run hx y
  have hprimary := mentions_respaced hw hw' hspan (p := "PRIMARY KEY") (q := ("PRIMARY".toList, "KEY".toList))
    (by decide) (by decide)
  have hforeign := mentions_respaced hw hw' hspan (p := "FOREIGN KEY") (q := ("FOREIGN".toList, "KEY".toList))
    (by decide) (by decide)
  have hunique := map_eq_of_rel (f := id) (readUnique_respaced hw hw' hrun) fun _ _ => id
  rw [Option.map_id, id_eq, id_eq] at hunique
  rw [Clause.read, Clause.read, hprimary, hforeign, hunique,
    map_eq_of_rel (readPrimaryKey_respaced hw hw' hrun) fun p q h => by rw [h.1],
    map_eq_of_rel (readReference_respaced hw hw' hrun) fun p q h => by rw [h.1],
    map_eq_of_rel (f := fun _ => Clause.check) (readCheck_respaced hw hw' hrun) fun _ _ _ => rfl]

theorem readMember_respaced (table : String) :
    Member.read table (x ++ (w ++ y)) = Member.read table (x ++ (w' ++ y)) := by
  rw [Member.read, Member.read, isConstraint_respaced hw hw' (.run hx y), readClause_respaced hw hw' hx hspan,
    readColumn_respaced hw hw' hx hspan]

end Members

section Bodies

variable {w w' x y : List Char} (hw : Gap w) (hw' : Gap w')

lemma columns_read_of_readColumn (table : String) {d : List Char} {c : Column} (hneat : Neat d)
    (hclause : isConstraint d = false) (h : readColumn d = some c) :
    (TableDefinition.read table d).columns = [c] := by
  have hmembers : members d = [d] := by
    have hlisting : Listing [d] ([] ++ (d ++ [])) := .last (by decide) (by decide)
    simpa using members_of_listing hlisting (by simpa using hneat)
  have hmember : Member.read table d = some (.column c) := by
    rw [Member.read, hclause, h]
    rfl
  rw [TableDefinition.read, hmembers, List.filterMap_cons_some hmember]
  rfl

include hw hw'

lemma Neat.respaced (h : Neat (x ++ (w ++ y))) (hx : x ≠ []) (hy : y ≠ []) : Neat (x ++ (w' ++ y)) := by
  have hback (b : List Char) : Bars isBlank (x ++ (b ++ y)).reverse ↔ Bars isBlank y.reverse := by
    rw [List.reverse_append, List.reverse_append, List.append_assoc, bars_append_iff (by simpa using hy)]
  refine ⟨by simp [hx], ⟨?_, ?_⟩, ?_⟩
  · exact (bars_append_iff hx).mpr ((bars_append_iff hx).mp h.tight.1)
  · exact (hback w').mpr ((hback w).mp h.tight.2)
  · exact (whole_run_iff hw'.2).mpr ((whole_run_iff hw.2).mp h.whole)

structure Flagged (x w y : List Char) : Prop where
  neat : Neat (x ++ (w ++ y))
  column : isColumn (x ++ (w ++ y)) = true
  spans : "PRIMARY".toList <:+ upper x ∧ "KEY".toList <+: upper y ∨
    "NOT".toList <:+ upper x ∧ "NULL".toList <+: upper y
  before : mentions "PRIMARY KEY" x = false ∧ mentions "NOT NULL" x = false
  after : mentions "PRIMARY KEY" y = false ∧ mentions "NOT NULL" y = false

omit hw hw' in
lemma Flagged.ne_nil (h : Flagged x w y) : x ≠ [] ∧ y ≠ [] := by
  constructor
  · rintro rfl
    rcases h.spans with h | h <;> exact absurd h.1 (by decide)
  · rintro rfl
    rcases h.spans with h | h <;> exact absurd h.2 (by decide)

lemma Flagged.respaced (h : Flagged x w y) (hx : Shut x) : Flagged x w' y :=
  ⟨h.neat.respaced hw hw' h.ne_nil.1 h.ne_nil.2, isColumn_respaced hw hw' (.run hx y) ▸ h.column, h.spans,
    h.before, h.after⟩

omit hw'

lemma Flagged.mentions_iff (h : Flagged x w y) :
    (mentions "PRIMARY KEY" (x ++ (w ++ y)) = true ↔
      w = [' '] ∧ "PRIMARY".toList <:+ upper x ∧ "KEY".toList <+: upper y) ∧
    (mentions "NOT NULL" (x ++ (w ++ y)) = true ↔
      w = [' '] ∧ "NOT".toList <:+ upper x ∧ "NULL".toList <+: upper y) := by
  constructor
  · rw [mentions_run_iff (a := "PRIMARY".toList) (b := "KEY".toList) rfl (by decide) (by decide) hw,
      h.before.1, h.after.1]
    simp
  · rw [mentions_run_iff (a := "NOT".toList) (b := "NULL".toList) rfl (by decide) (by decide) hw, h.before.2,
      h.after.2]
    simp

lemma Flagged.exists_column (h : Flagged x w y) (table : String) :
    ∃ c, (TableDefinition.read table (x ++ (w ++ y))).columns = [c] ∧
      ((c.isPrimaryKey || c.isNotNull) = true ↔ w = [' ']) := by
  have hcolumn := h.column
  rw [isColumn, Bool.and_eq_true, Bool.not_eq_true', Option.isSome_iff_exists] at hcolumn
  obtain ⟨hclause, c, hc⟩ := hcolumn
  refine ⟨c, columns_read_of_readColumn table h.neat hclause hc, ?_⟩
  obtain ⟨hkey, hflag⟩ := flags_of_readColumn hc
  obtain ⟨hprimary, hnull⟩ := h.mentions_iff hw
  have hflags : (c.isPrimaryKey || c.isNotNull) =
      (mentions "PRIMARY KEY" (x ++ (w ++ y)) || mentions "NOT NULL" (x ++ (w ++ y))) := by
    rw [hkey, hflag]
    cases mentions "PRIMARY KEY" (x ++ (w ++ y)) <;> simp
  rw [hflags, Bool.or_eq_true, hprimary, hnull, ← and_or_left, and_iff_left h.spans]

end Bodies

/-- Any gap in a table body outside parentheses may be exchanged for another, unless it stands between the
words of a phrase and one of both is one blank. In a body of one column, the exchange of one blank for
another gap takes the key or the mark of the column away. -/
theorem read_respaced (table : String) {pre post w w' : List Char} (hpre : Shut pre) (hw : Gap w) (hw' : Gap w') :
    ((w = [' '] ↔ w' = [' ']) ∨ ¬Spans pre post →
      TableDefinition.read table (pre ++ (w ++ post)) = TableDefinition.read table (pre ++ (w' ++ post))) ∧
    (Flagged pre w post →
      (TableDefinition.read table (pre ++ (w ++ post)) = TableDefinition.read table (pre ++ (w' ++ post)) ↔
        (w = [' '] ↔ w' = [' ']))) := by
  have hread (h : (w = [' '] ↔ w' = [' ']) ∨ ¬Spans pre post) :
      TableDefinition.read table (pre ++ (w ++ post)) = TableDefinition.read table (pre ++ (w' ++ post)) := by
    obtain ⟨before, after, hmembers | ⟨x, y, hx, hy, hmembers⟩⟩ := members_run pre post
    · rw [TableDefinition.read, TableDefinition.read, hmembers w hw, hmembers w' hw']
    · have hspan : (w = [' '] ↔ w' = [' ']) ∨ ¬Spans x y := h.imp_right (mt fun hs => hs.mono hx hy)
      rw [TableDefinition.read, TableDefinition.read, hmembers w hw, hmembers w' hw', List.filterMap_append,
        List.filterMap_append, List.filterMap_cons, List.filterMap_cons,
        readMember_respaced hw hw' (hpre.suffix hx) hspan]
  refine ⟨hread, fun hflagged => ⟨fun h => ?_, fun h => hread (.inl h)⟩⟩
  obtain ⟨c, hc, hflag⟩ := hflagged.exists_column hw table
  obtain ⟨c', hc', hflag'⟩ := (hflagged.respaced hw hw' hpre).exists_column hw' table
  obtain rfl : c = c' := by
    rw [h, hc'] at hc
    exact (List.cons.inj hc).1.symm
  exact hflag.symm.trans hflag'

theorem read_respaced_notNull :
    TableDefinition.read "T" "ID NUMBER(9) NOT\tNULL, B DATE".toList =
      TableDefinition.read "T" "ID NUMBER(9) NOT \n NULL, B DATE".toList ∧
    TableDefinition.read "T" "ID NUMBER(9) NOT NULL".toList ≠
      TableDefinition.read "T" "ID NUMBER(9) NOT\tNULL".toList := by
  have hflagged : Flagged "ID NUMBER(9) NOT".toList [' '] "NULL".toList :=
    ⟨by decide +kernel, by decide +kernel, by decide +kernel, by decide +kernel, by decide +kernel⟩
  have hpre : Shut "ID NUMBER(9) NOT".toList := by decide +kernel
  have htab : Gap ['\t'] := by decide
  constructor
  · have h := (@read_respaced "T" _ "NULL, B DATE".toList _ " \n ".toList hpre htab (by decide)).1
      (.inl (by decide))
    exact h
  · intro h
    have hiff := (@read_respaced "T" _ "NULL".toList _ _ hpre (by decide) htab).2 hflagged
    exact absurd (hiff.mp h) (by decide)

theorem read_ne_respaced :
    (TableDefinition.read "T" "ID NUMBER, PRIMARY KEY (ID)".toList).columns.map (·.isPrimaryKey) = [true] ∧
    (TableDefinition.read "T" "ID NUMBER, PRIMARY\tKEY (ID)".toList).columns.map (·.isPrimaryKey) = [false] ∧
    (TableDefinition.read "T" "ID NUMBER NOT NULL".toList).columns.map (·.isNotNull) = [true] ∧
    (TableDefinition.read "T" "ID NUMBER NOT  NULL".toList).columns.map (·.isNotNull) = [false] ∧
    (TableDefinition.read "T" "CONSTRAINT C FOREIGN KEY (ID) REFERENCES R (X)".toList).foreignKeys =
      [⟨"T", ["ID"], "R", ["X"]⟩] ∧
    (TableDefinition.read "T" "CONSTRAINT C FOREIGN\nKEY (ID) REFERENCES R (X)".toList).foreignKeys = [] := by
  decide +kernel

end Ddl

end SchemaAtlas
