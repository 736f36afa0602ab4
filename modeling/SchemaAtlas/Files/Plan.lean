import SchemaAtlas.Files.Directories
import SchemaAtlas.Log
import SchemaAtlas.Report.Markdown

/-!
# Plans

What a command is going to say, to record and to write, as a list of steps. A plan is carried out on a
file tree step by step, and ends at the first step that fails.
-/

namespace SchemaAtlas.Files

inductive Step where
  | say (line : String)
  | record (record : Log.Record)
  -- writes a text, in a directory that is made if need be
  | writeText (path : Path) (text : String)
  -- saves a Word document, in a directory that is there
  | saveWord (path : String) (document : Word.Document)
  -- saves the source of a drawing, in a directory that is made if need be
  | saveDrawing (path : String) (source : String)
  | fail (fault : Fault)
deriving DecidableEq

abbrev Plan := List Step

/-- What has come of a plan: the lines said, the records, the paths of the files written, the tree, and the
fault that ended it. -/
structure Outcome where
  said : List String := []
  log : List Log.Record := []
  paths : List Path := []
  tree : Tree
  fault? : Option Fault := none
deriving DecidableEq

def Outcome.andThen (o : Outcome) (next : Tree → Outcome) : Outcome :=
  match o.fault? with
  | some _ => o
  | none =>
    let n := next o.tree
    { n with said := o.said ++ n.said, log := o.log ++ n.log, paths := o.paths ++ n.paths }

namespace Tree

def writeEffect (t : Tree) (path : String) (content : Content) : Effect :=
  match t.write path content with
  | .ok t' => ⟨t', none⟩
  | .error f => ⟨t, some f⟩

def writeText (t : Tree) (path : Path) (text : String) : Effect :=
  (t.ensure path.parent).andThen (·.writeEffect path.text (.ofText text))

def saveDrawing (t : Tree) (path source : String) : Effect :=
  let directory := (splitLast path.toList).1
  (if directory.isEmpty then ⟨t, none⟩ else t.makeAll directory).andThen
    (·.writeEffect path (.ofText source))

end Tree

def writtenRecord (path : Path) : Log.Record := ⟨.info, .writing, s!"Written: {path.text}"⟩

/-- What is recorded when a text could not be written. Only what the file system says is recorded. -/
def failureLog (path : Path) : Option Fault → List Log.Record
  | some (.file problem place) =>
    [⟨.error, .writing, s!"Failed to write {path.text}: " ++ (Fault.file problem place).message⟩]
  | _ => []

def writtenPath (path : Path) (fault? : Option Fault) : List Path := if fault?.isNone then [path] else []

def Step.run (t : Tree) : Step → Outcome
  | say line => { said := [line], tree := t }
  | record r => { log := [r], tree := t }
  | writeText path text =>
    let e := t.writeText path text
    { log := failureLog path e.fault?, paths := writtenPath path e.fault?, tree := e.tree, fault? := e.fault? }
  | saveWord path document =>
    let e := t.writeEffect path (.word document)
    { paths := writtenPath (.ofText path) e.fault?, tree := e.tree, fault? := e.fault? }
  | saveDrawing path source =>
    let e := t.saveDrawing path source
    { paths := writtenPath (.ofText path) e.fault?, tree := e.tree, fault? := e.fault? }
  | fail fault => { tree := t, fault? := some fault }

namespace Plan

def run : Plan → Tree → Outcome
  | [], t => { tree := t }
  | step :: steps, t => (step.run t).andThen (run steps)

def ofText (path : Path) (text : String) : Plan :=
  [.writeText path text, .record (writtenRecord path)]

def documentPath (directory : Path) (d : Report.Document) : Path :=
  Path.within directory (.ofText d.filename)

def ofDocuments (directory : Path) (documents : List Report.Document) : Plan :=
  documents.flatMap fun d => ofText (documentPath directory d) d.content

theorem run_cons (step : Step) (steps : Plan) (t : Tree) :
    run (step :: steps) t = (step.run t).andThen (run steps) := rfl

end Plan

end SchemaAtlas.Files
