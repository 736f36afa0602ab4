import SchemaAtlas.Files.Tree

/-!
# Making directories

A directory is made together with the ones above it that are missing, and one that is there already
is kept. This is done in two ways: along the names of a path in lexical form, and along the text of a
path as it is given. What was made before a failure stays.
-/

namespace SchemaAtlas.Files

structure Effect where
  tree : Tree
  fault? : Option Fault := none
deriving DecidableEq

namespace Effect

def andThen (e : Effect) (next : Tree → Effect) : Effect :=
  match e.fault? with
  | none => next e.tree
  | some _ => e

@[simp] theorem andThen_none (t : Tree) (next : Tree → Effect) :
    andThen ⟨t, none⟩ next = next t := rfl

end Effect

namespace Tree

def makeOrKeep (t : Tree) (path : String) : Effect :=
  -- a fault does not count where the directory is there
  match t.makeDirectory path with
  | .ok t' => ⟨t', none⟩
  | .error f => ⟨t, if t.hasDirectory path then none else some f⟩

def isMissing : Fault → Bool
  | .file .missing _ => true
  | _ => false

def isInTheWay : Fault → Bool
  | .file .alreadyExists _ => true
  | _ => false

/-- Makes the directory of a path, given by its anchor and its names with the last one first. Those
above it are made only after the attempt to make the directory itself. -/
def ensureNames (t : Tree) (anchor : Anchor) : List String → Effect
  | [] => t.makeOrKeep (Path.text ⟨anchor, []⟩)
  | name :: above =>
    let path := Path.text ⟨anchor, (name :: above).reverse⟩
    match t.makeDirectory path with
    | .ok t' => ⟨t', none⟩
    | .error f =>
      if isMissing f then (t.ensureNames anchor above).andThen (·.makeOrKeep path)
      else ⟨t, if t.hasDirectory path then none else some f⟩

def ensure (t : Tree) (path : Path) : Effect := t.ensureNames path.anchor path.names.reverse

/-- The text up to the last slash, with the slashes at its end taken off unless there is nothing
else, and the text after that slash. -/
def splitLast (path : List Char) : List Char × List Char :=
  let head := path.reverse.dropWhile (· != '/')
  let bare := head.dropWhile (· == '/')
  ((if bare.isEmpty then head else bare).reverse, (path.reverse.takeWhile (· != '/')).reverse)

def splitDirectory (path : List Char) : List Char × List Char :=
  let (head, last) := splitLast path
  if last.isEmpty then splitLast head else (head, last)

theorem length_splitLast_le (path : List Char) :
    (splitLast path).1.length + (splitLast path).2.length ≤ path.length := by
  have hlen : (path.reverse.dropWhile (· != '/')).length +
      (path.reverse.takeWhile (· != '/')).length = path.length := by
    rw [Nat.add_comm, ← List.length_append, List.takeWhile_append_dropWhile, List.length_reverse]
  have hbare := (List.dropWhile_suffix (· == '/') (l := path.reverse.dropWhile (· != '/'))).length_le
  simp only [splitLast, List.length_reverse]
  split <;> omega

theorem length_splitDirectory_lt {path : List Char} (h : (splitDirectory path).2 ≠ []) :
    (splitDirectory path).1.length < path.length := by
  have hpath := length_splitLast_le path
  unfold splitDirectory at *
  simp only at *
  split at h
  · next hlast =>
    rw [if_pos hlast]
    have hhead := length_splitLast_le (splitLast path).1
    have hpos := List.length_pos_iff.mpr h
    omega
  · next hlast =>
    rw [if_neg hlast]
    have hpos : 0 < (splitLast path).2.length := List.length_pos_iff.mpr h
    show (splitLast path).1.length < path.length
    omega

/-- Makes the directory of a path as it is given. Those above it are made first, as far as they are
missing. -/
def makeAll (t : Tree) (path : List Char) : Effect :=
  let text := String.ofList path
  if h : (splitDirectory path).1 ≠ [] ∧ (splitDirectory path).2 ≠ [] then
    if t.has (String.ofList (splitDirectory path).1) then t.makeOrKeep text
    else
      have := length_splitDirectory_lt h.2
      let e := t.makeAll (splitDirectory path).1
      let e := if e.fault?.any isInTheWay then ⟨e.tree, none⟩ else e
      if (splitDirectory path).2 = ['.'] then e else e.andThen (·.makeOrKeep text)
  else t.makeOrKeep text
termination_by path.length

end Tree

end SchemaAtlas.Files
