import Mathlib.Tactic.Common
import SchemaAtlas.Files.Directories

/-! What becomes of the files of a tree. Making directories leaves every file as it is, and writing changes
only the file at the place that the path stands for. Directories stay, so that a path that led to a file
leads there from then on. -/

namespace SchemaAtlas.Files

lemma bind_eq_ok {ε α β : Type} {x : Except ε α} {f : α → Except ε β} {b : β} :
    x >>= f = .ok b ↔ ∃ a, x = .ok a ∧ f a = .ok b := by
  cases x <;> simp [bind, Except.bind]

lemma Tree.onPath_eq_ok {α : Type} {path : String} {x : Except Problem α} {a : α} :
    onPath path x = .ok a ↔ path.toList.contains '\x00' = false ∧ x = .ok a := by
  rw [onPath]
  cases path.toList.contains '\x00' <;> cases x <;> simp [Except.mapError]

def Place.enter (p : Place) (name : String) : Place :=
  if name = "." then p else if name = ".." then p.up else { p with names := name :: p.names }

lemma Place.eq_enter_of_step {p q : Place} {name : String} (h : p.step name = .ok q) : q = p.enter name := by
  rw [Place.step] at h
  rw [Place.enter]
  split at h
  · next hdot => rw [if_pos hdot, Except.ok.inj h]
  · next hdot =>
    rw [if_neg hdot]
    split at h
    · next hdots => rw [if_pos hdots, Except.ok.inj h]
    · next hdots =>
      rw [if_neg hdots]
      split at h
      · cases h
      · exact (Except.ok.inj h).symm

namespace Tree

variable {t t' t'' : Tree} {path : String} {p : Place} {c : Content}

def placeOf (t : Tree) (path : String) : Place := (namesOf path).foldl Place.enter (t.startOf path)

def file? (t : Tree) (p : Place) : Option Content :=
  match t.node? p with
  | some (.file c) => some c
  | _ => none

lemma file?_eq_some : t.file? p = some c ↔ t.node? p = some (.file c) := by
  rw [file?]
  rcases t.node? p with _ | _ | d <;> simp

lemma names_ne_nil_of_node? (h : t.node? p ≠ some .directory) : p.names ≠ [] :=
  mt node?_of_names_nil h

structure Keeps (t t' : Tree) : Prop where
  here : t'.here? = t.here?
  directory : ∀ p, t.node? p = some .directory → t'.node? p = some .directory

lemma Keeps.refl (t : Tree) : Keeps t t := ⟨rfl, fun _ => id⟩

lemma Keeps.trans (h : Keeps t t') (h' : Keeps t' t'') : Keeps t t'' :=
  ⟨h'.here.trans h.here, fun p hp => h'.directory p (h.directory p hp)⟩

lemma Keeps.startOf (h : Keeps t t') (path : String) : t'.startOf path = t.startOf path := by
  rw [Tree.startOf, Tree.startOf, workingDirectory, workingDirectory, h.here]

lemma Keeps.placeOf (h : Keeps t t') (path : String) : t'.placeOf path = t.placeOf path := by
  rw [Tree.placeOf, Tree.placeOf, h.startOf]

lemma keeps_put_file (h : t.node? p ≠ some .directory) : Keeps t (t.put p (.file c)) := by
  refine ⟨rfl, fun q hq => ?_⟩
  have hne : q ≠ p := by
    rintro rfl
    exact h hq
  rwa [node?_put_of_ne hne]

lemma keeps_put_directory (hp : p.names ≠ []) : Keeps t (t.put p .directory) := by
  refine ⟨rfl, fun q hq => ?_⟩
  by_cases h : q = p
  · rw [h, node?_put_self hp]
  · rwa [node?_put_of_ne h]

lemma file?_put_file (hp : p.names ≠ []) (q : Place) :
    (t.put p (.file c)).file? q = if q = p then some c else t.file? q := by
  by_cases h : q = p
  · rw [if_pos h, h, file?, node?_put_self hp]
  · rw [if_neg h, file?, node?_put_of_ne h, file?]

lemma file?_put_directory (h : t.node? p = none) (q : Place) : (t.put p .directory).file? q = t.file? q := by
  by_cases hq : q = p
  · have hp : p.names ≠ [] := names_ne_nil_of_node? (t := t) (by simp [h])
    rw [hq, file?, node?_put_self hp, file?, h]
  · rw [file?, node?_put_of_ne hq, file?]

lemma eq_foldl_of_follow {names : List String} {q : Place} (h : t.follow p names = .ok q) :
    q = names.foldl Place.enter p := by
  induction names generalizing p with
  | nil => exact (Except.ok.inj h).symm
  | cons name names ih =>
    rw [follow, bind_eq_ok] at h
    obtain ⟨r, hstep, h⟩ := h
    rw [List.foldl_cons, ← Place.eq_enter_of_step hstep]
    split at h
    · exact ih h
    · cases h
    · cases h

lemma Keeps.follow (hk : Keeps t t') {names : List String} {q : Place} (h : t.follow p names = .ok q) :
    t'.follow p names = .ok q := by
  induction names generalizing p with
  | nil => exact h
  | cons name names ih =>
    rw [Tree.follow, bind_eq_ok] at h ⊢
    obtain ⟨r, hstep, h⟩ := h
    refine ⟨r, hstep, ?_⟩
    split at h
    · next hnode =>
      rw [hk.directory r hnode]
      exact ih h
    · cases h
    · cases h

lemma follow_of_target {d : Place} {name : String} {slashed : Bool}
    (h : t.target path = .ok (.entry d name slashed)) :
    (namesOf path).getLast? = some name ∧ t.follow (t.startOf path) (namesOf path).dropLast = .ok d := by
  rw [target] at h
  split at h
  · cases h
  split at h
  · split at h <;> cases h
  · next last hlast =>
    obtain ⟨q, hfollow, h⟩ := bind_eq_ok.mp h
    obtain ⟨rfl, rfl, -⟩ := Target.entry.inj (Except.ok.inj h)
    exact ⟨hlast, hfollow⟩

lemma placeOf_of_target {d : Place} {name : String} {slashed : Bool}
    (h : t.target path = .ok (.entry d name slashed)) : t.placeOf path = d.enter name := by
  obtain ⟨hlast, hfollow⟩ := follow_of_target h
  obtain ⟨names, hnames⟩ := List.getLast?_eq_some_iff.mp hlast
  rw [hnames, List.dropLast_concat] at hfollow
  rw [placeOf, hnames, List.foldl_append, ← eq_foldl_of_follow hfollow]
  rfl

lemma Keeps.target (hk : Keeps t t') {x : Target} (h : t.target path = .ok x) : t'.target path = .ok x := by
  rw [Tree.target] at h ⊢
  split at h
  · cases h
  · next hlimit =>
    rw [if_neg hlimit]
    split at h
    · exact h
    · obtain ⟨q, hfollow, h⟩ := bind_eq_ok.mp h
      exact bind_eq_ok.mpr ⟨q, hk.startOf path ▸ hk.follow hfollow, h⟩

def Leads (t : Tree) (path : String) : Prop :=
  path.toList.contains '\x00' = false ∧
    ∃ d name, t.target path = .ok (.entry d name false) ∧ d.step name = .ok (t.placeOf path)

lemma Leads.keeps (h : t.Leads path) (hk : Keeps t t') : t'.Leads path := by
  obtain ⟨hzero, d, name, htarget, hstep⟩ := h
  exact ⟨hzero, d, name, hk.target htarget, by rwa [hk.placeOf]⟩

lemma Leads.look (h : t.Leads path) (hc : t.file? (t.placeOf path) = some c) : t.look path = .ok (.file c) := by
  obtain ⟨hzero, d, name, htarget, hstep⟩ := h
  rw [Tree.look, onPath_eq_ok, bind_eq_ok]
  refine ⟨hzero, _, htarget, ?_⟩
  rw [nodeAt, bind_eq_ok]
  refine ⟨_, hstep, ?_⟩
  simp [file?_eq_some.mp hc]

structure KeepsFiles (t t' : Tree) : Prop extends Keeps t t' where
  file : ∀ p, t'.file? p = t.file? p

lemma KeepsFiles.refl (t : Tree) : KeepsFiles t t := ⟨.refl t, fun _ => rfl⟩

lemma KeepsFiles.trans (h : KeepsFiles t t') (h' : KeepsFiles t' t'') : KeepsFiles t t'' :=
  ⟨h.toKeeps.trans h'.toKeeps, fun p => (h'.file p).trans (h.file p)⟩

lemma keepsFiles_makeDirectory (h : t.makeDirectory path = .ok t') : KeepsFiles t t' := by
  rw [makeDirectory, onPath_eq_ok, bind_eq_ok] at h
  obtain ⟨-, x, -, h⟩ := h
  cases x with
  | base => cases h
  | entry d name slashed =>
    rw [makeAt] at h
    split at h
    · cases h
    · obtain ⟨p, -, h⟩ := bind_eq_ok.mp h
      cases hnode : t.node? p with
      | some n => simp [hnode] at h
      | none =>
        rw [hnode] at h
        obtain rfl := Except.ok.inj h
        have hp : p.names ≠ [] := names_ne_nil_of_node? (t := t) (by simp [hnode])
        exact ⟨keeps_put_directory hp, file?_put_directory hnode⟩

lemma keepsFiles_makeOrKeep (t : Tree) (path : String) : KeepsFiles t (t.makeOrKeep path).tree := by
  rw [makeOrKeep]
  split
  · next h => exact keepsFiles_makeDirectory h
  · exact .refl t

lemma keepsFiles_andThen {e : Effect} (h : KeepsFiles t e.tree) {next : Tree → Effect}
    (hnext : ∀ u, KeepsFiles u (next u).tree) : KeepsFiles t (e.andThen next).tree := by
  rw [Effect.andThen]
  split
  · exact h.trans (hnext e.tree)
  · exact h

lemma keepsFiles_ensureNames (t : Tree) (anchor : Anchor) (names : List String) :
    KeepsFiles t (t.ensureNames anchor names).tree := by
  induction names with
  | nil => exact keepsFiles_makeOrKeep t _
  | cons name above ih =>
    rw [ensureNames]
    split
    · next h => exact keepsFiles_makeDirectory h
    · split
      · exact keepsFiles_andThen ih fun u => keepsFiles_makeOrKeep u _
      · exact .refl t

lemma keepsFiles_ensure (t : Tree) (path : Path) : KeepsFiles t (t.ensure path).tree :=
  keepsFiles_ensureNames t _ _

lemma tree_overlooked (e : Effect) :
    (if _ : e.fault?.any isInTheWay = true then (⟨e.tree, none⟩ : Effect) else e).tree = e.tree := by
  split <;> rfl

lemma keepsFiles_makeAll (t : Tree) (path : List Char) : KeepsFiles t (t.makeAll path).tree := by
  fun_induction makeAll t path with
  | case1 | case4 => exact keepsFiles_makeOrKeep t _
  | case2 _ _ _ _ e e' _ ih =>
    have he : e'.tree = e.tree := tree_overlooked e
    rw [he]
    exact ih
  | case3 _ _ _ _ _ e e' _ ih =>
    have he : e'.tree = e.tree := tree_overlooked e
    exact keepsFiles_andThen (he ▸ ih) fun u => keepsFiles_makeOrKeep u _

lemma write_eq_ok (h : t.write path c = .ok t') : t.Leads path ∧ t.node? (t.placeOf path) ≠ some .directory ∧
    t' = t.put (t.placeOf path) (.file c) := by
  rw [write, onPath_eq_ok, bind_eq_ok] at h
  obtain ⟨hzero, x, htarget, h⟩ := h
  cases x with
  | base => cases h
  | entry d name slashed =>
    rw [writeAt] at h
    split at h
    · cases h
    · next hname =>
      obtain ⟨-, rfl⟩ := Bool.or_eq_false_iff.mp (eq_false_of_ne_true hname)
      obtain ⟨p, hstep, h⟩ := bind_eq_ok.mp h
      obtain rfl : p = t.placeOf path :=
        (Place.eq_enter_of_step hstep).trans (placeOf_of_target htarget).symm
      split at h
      · cases h
      · next hnode => exact ⟨⟨hzero, d, name, htarget, hstep⟩, hnode, (Except.ok.inj h).symm⟩

def lastAt (t : Tree) (ws : List (String × Content)) (p : Place) : Option Content :=
  (ws.map fun w => (t.placeOf w.1, w.2)).reverse.lookup p

/-- A later tree, in which each of the paths leads to the content that is written last to its place, and
every other file is as it was. -/
structure Wrote (ws : List (String × Content)) (t t' : Tree) : Prop extends Keeps t t' where
  file : ∀ p, t'.file? p = (t.lastAt ws p).or (t.file? p)
  leads : ∀ w ∈ ws, t'.Leads w.1

lemma lastAt_append (t : Tree) (ws ws' : List (String × Content)) (p : Place) :
    t.lastAt (ws ++ ws') p = (t.lastAt ws' p).or (t.lastAt ws p) := by
  rw [lastAt, List.map_append, List.reverse_append, List.lookup_append]
  rfl

lemma lastAt_eq_none_iff {ws : List (String × Content)} :
    t.lastAt ws p = none ↔ ∀ w ∈ ws, t.placeOf w.1 ≠ p := by
  rw [lastAt, List.lookup_eq_none_iff]
  constructor
  · intro h w hw he
    simpa [he] using h (t.placeOf w.1, w.2) (List.mem_reverse.mpr (List.mem_map_of_mem hw))
  · intro h q hq
    obtain ⟨w, hw, rfl⟩ := List.mem_map.mp (List.mem_reverse.mp hq)
    simpa using Ne.symm (h w hw)

theorem lastAt_eq_some_iff {ws : List (String × Content)} : t.lastAt ws p = some c ↔
    ∃ xs path ys, ws = xs ++ (path, c) :: ys ∧ t.placeOf path = p ∧ ∀ w ∈ ys, t.placeOf w.1 ≠ p := by
  rw [lastAt, List.lookup_eq_some_iff]
  constructor
  · rintro ⟨as, bs, he, has⟩
    rw [List.reverse_eq_iff, List.reverse_append, List.reverse_cons, List.append_assoc, List.singleton_append]
      at he
    obtain ⟨xs, r, rfl, -, hr⟩ := List.map_eq_append_iff.mp he
    obtain ⟨⟨path, c'⟩, ys, rfl, hw, hys⟩ := List.map_eq_cons_iff.mp hr
    obtain ⟨hp, rfl⟩ := Prod.mk.inj hw
    refine ⟨xs, path, ys, rfl, hp, fun w hm heq => ?_⟩
    have hmem : (t.placeOf w.1, w.2) ∈ as := by
      rw [← List.mem_reverse, ← hys]
      exact List.mem_map_of_mem hm
    simpa [heq] using has _ hmem
  · rintro ⟨xs, path, ys, rfl, rfl, hys⟩
    refine ⟨(ys.map fun w => (t.placeOf w.1, w.2)).reverse, (xs.map fun w => (t.placeOf w.1, w.2)).reverse,
      by simp, ?_⟩
    intro q hq
    obtain ⟨w, hw, rfl⟩ := List.mem_map.mp (List.mem_reverse.mp hq)
    simpa using Ne.symm (hys w hw)

lemma Keeps.lastAt (h : Keeps t t') (ws : List (String × Content)) : t'.lastAt ws = t.lastAt ws := by
  funext p
  simp only [Tree.lastAt, h.placeOf]

lemma KeepsFiles.wrote (h : KeepsFiles t t') : Wrote [] t t' := ⟨h.toKeeps, h.file, by simp⟩

lemma wrote_write (h : t.write path c = .ok t') : Wrote [(path, c)] t t' := by
  obtain ⟨hleads, hnode, rfl⟩ := write_eq_ok h
  have hkeeps : Keeps t (t.put (t.placeOf path) (.file c)) := keeps_put_file hnode
  refine ⟨hkeeps, fun p => ?_, by simpa using hleads.keeps hkeeps⟩
  rw [file?_put_file (names_ne_nil_of_node? hnode)]
  by_cases hp : p = t.placeOf path
  · simp [hp, lastAt]
  · have hbeq : (p == t.placeOf path) = false := beq_false_of_ne hp
    simp [hp, lastAt, List.lookup_cons, hbeq]

namespace Wrote

variable {ws ws' : List (String × Content)}

lemma append (h : Wrote ws t t') (h' : Wrote ws' t' t'') : Wrote (ws ++ ws') t t'' := by
  refine ⟨h.toKeeps.trans h'.toKeeps, fun p => ?_, fun w hw => ?_⟩
  · rw [h'.file, h.file, h.toKeeps.lastAt, lastAt_append, Option.or_assoc]
  · rcases List.mem_append.mp hw with hw | hw
    · exact (h.leads w hw).keeps h'.toKeeps
    · exact h'.leads w hw

theorem file_of_ne (h : Wrote ws t t') (hp : ∀ w ∈ ws, t.placeOf w.1 ≠ p) : t'.file? p = t.file? p := by
  rw [h.file, lastAt_eq_none_iff.mpr hp, Option.none_or]

theorem look (h : Wrote ws t t') {w : String × Content} (hw : w ∈ ws) :
    ∃ c, t.lastAt ws (t.placeOf w.1) = some c ∧ t'.look w.1 = .ok (.file c) := by
  have hsome : t.lastAt ws (t.placeOf w.1) ≠ none := fun hnone => lastAt_eq_none_iff.mp hnone w hw rfl
  obtain ⟨c, hc⟩ := Option.ne_none_iff_exists'.mp hsome
  refine ⟨c, hc, (h.leads w hw).look ?_⟩
  rw [h.placeOf, h.file, hc, Option.some_or]

end Wrote

end Tree

end SchemaAtlas.Files
