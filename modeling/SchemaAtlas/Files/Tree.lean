import SchemaAtlas.Fault
import SchemaAtlas.Files.Path
import SchemaAtlas.Word.Document

/-!
# File trees

Directories and files, and what can be done with them by path: looking at one, making a directory,
writing and reading a file. A path is followed name by name, and each name but the last must lead to
a directory.
-/

namespace SchemaAtlas.Files

inductive Content where
  | bytes (bytes : List UInt8)
  | word (document : Word.Document)
deriving DecidableEq

def Content.ofText (s : String) : Content := .bytes s.toUTF8.toList

inductive Node where
  | directory
  | file (content : Content)
deriving DecidableEq

inductive Base where
  | above (levels : Nat)
  | root
deriving DecidableEq, Repr

/-- A place in a file tree: a base and the names that lead down from it, the innermost first. -/
structure Place where
  base : Base
  names : List String := []
deriving DecidableEq, Repr

namespace Place

def workingDirectory : Place := ⟨.above 0, []⟩

def up : Place → Place
  | ⟨base, _ :: names⟩ => ⟨base, names⟩
  | ⟨.above levels, []⟩ => ⟨.above (levels + 1), []⟩
  | ⟨.root, []⟩ => ⟨.root, []⟩

def nameLimit : Nat := 255

def step (p : Place) (name : String) : Except Problem Place :=
  if name = "." then .ok p
  else if name = ".." then .ok p.up
  else if nameLimit < name.utf8ByteSize then .error .nameTooLong
  else .ok { p with names := name :: p.names }

end Place

structure Tree where
  entries : List (Place × Node) := []
  -- the names that lead from the root to the working directory, the innermost first, where they are known
  here? : Option (List String) := none
deriving DecidableEq

inductive Target where
  | base
  | entry (directory : Place) (name : String) (slashed : Bool)
deriving DecidableEq, Repr

def isDots (name : String) : Bool := name == "." || name == ".."

namespace Tree

def node? (t : Tree) (p : Place) : Option Node :=
  if p.names = [] then some .directory else t.entries.lookup p

def put (t : Tree) (p : Place) (n : Node) : Tree :=
  { t with entries := (p, n) :: t.entries.filter (·.1 ≠ p) }

def follow (t : Tree) (p : Place) : List String → Except Problem Place
  | [] => .ok p
  | name :: names => do
    let q ← p.step name
    match t.node? q with
    | some .directory => t.follow q names
    | some (.file _) => .error .notDirectory
    | none => .error .missing

def pathLimit : Nat := 4095

def workingDirectory (t : Tree) : Place :=
  match t.here? with
  | some names => ⟨.root, names⟩
  | none => .workingDirectory

def startOf (t : Tree) (path : String) : Place :=
  if path.toList.head? = some '/' then ⟨.root, []⟩ else t.workingDirectory

def namesOf (path : String) : List String :=
  ((Text.cutAt '/' path.toList).filter (· ≠ [])).map String.ofList

def target (t : Tree) (path : String) : Except Problem Target :=
  if pathLimit < path.utf8ByteSize then .error .nameTooLong
  else
    match (namesOf path).getLast? with
    | none => if path = "" then .error .missing else .ok .base
    | some name => do
      let directory ← t.follow (t.startOf path) (namesOf path).dropLast
      return .entry directory name (path.toList.getLast? = some '/')

def nodeAt (t : Tree) : Target → Except Problem Node
  | .base => .ok .directory
  | .entry directory name slashed => do
    let place ← directory.step name
    match t.node? place with
    | none => .error .missing
    | some .directory => .ok .directory
    | some (.file content) => if slashed then .error .notDirectory else .ok (.file content)

def makeAt (t : Tree) : Target → Except Problem Tree
  | .base => .error .alreadyExists
  | .entry directory name _ =>
    if isDots name then .error .alreadyExists
    else do
      let place ← directory.step name
      match t.node? place with
      | some _ => .error .alreadyExists
      | none => .ok (t.put place .directory)

def writeAt (t : Tree) (content : Content) : Target → Except Problem Tree
  | .base => .error .isDirectory
  | .entry directory name slashed =>
    if isDots name || slashed then .error .isDirectory
    else do
      let place ← directory.step name
      match t.node? place with
      | some .directory => .error .isDirectory
      | _ => .ok (t.put place (.file content))

def onPath {α : Type} (path : String) (result : Except Problem α) : Except Fault α :=
  if path.toList.contains '\x00' then .error .zeroInPath
  else result.mapError (Fault.file · path)

def look (t : Tree) (path : String) : Except Fault Node := onPath path (t.target path >>= t.nodeAt)

def makeDirectory (t : Tree) (path : String) : Except Fault Tree :=
  onPath path (t.target path >>= t.makeAt)

def write (t : Tree) (path : String) (content : Content) : Except Fault Tree :=
  onPath path (t.target path >>= t.writeAt content)

def hasDirectory (t : Tree) (path : String) : Bool :=
  match t.look path with
  | .ok .directory => true
  | _ => false

def has (t : Tree) (path : String) : Bool := (t.look path).isOk

theorem node?_of_names_nil {t : Tree} {p : Place} (h : p.names = []) : t.node? p = some .directory := by
  simp [node?, h]

theorem lookup_filter_ne {p q : Place} (h : q ≠ p) (entries : List (Place × Node)) :
    (entries.filter (·.1 ≠ p)).lookup q = entries.lookup q := by
  induction entries with
  | nil => rfl
  | cons entry entries ih =>
    obtain ⟨r, n⟩ := entry
    by_cases hr : r = p
    · have hq : (q == r) = false := by simpa [hr] using h
      simp only [hr, ne_eq, not_true_eq_false, decide_false, Bool.false_eq_true,
        not_false_eq_true, List.filter_cons_of_neg]
      rw [List.lookup_cons, ← hr, hq]
      simpa [hr] using ih
    · rw [List.filter_cons_of_pos (by simpa using hr), List.lookup_cons, List.lookup_cons, ih]

theorem node?_put_self {t : Tree} {p : Place} {n : Node} (h : p.names ≠ []) :
    (t.put p n).node? p = some n := by
  simp [node?, put, h]

theorem node?_put_of_ne {t : Tree} {p q : Place} {n : Node} (h : q ≠ p) :
    (t.put p n).node? q = t.node? q := by
  have hq : (q == p) = false := by simpa using h
  by_cases hn : q.names = []
  · simp [node?, hn]
  · simp only [node?, put, hn, if_false, List.lookup_cons, hq]
    exact lookup_filter_ne h t.entries

end Tree

end SchemaAtlas.Files
