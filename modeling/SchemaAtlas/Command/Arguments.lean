import SchemaAtlas.Text.Digits
import SchemaAtlas.Text.Lines

/-!
# Arguments of the command

One argument names the dump, and options say what is made of it. An option is known by its name, a
long one also by the beginning of its name if no other option begins so. A value follows its option as
the next argument, behind `=`, or right behind a single letter. Single letters may stand together.
-/

namespace SchemaAtlas.Command

open SchemaAtlas.Text

inductive Flag where
  | help | renderImage | verbose
deriving DecidableEq, Repr

inductive Slot where
  | output | outputDirectory | extract | word | drawing
deriving DecidableEq, Repr

inductive Choice where
  | flag (f : Flag)
  | slot (s : Slot)
deriving DecidableEq, Repr

def optionNames : List (List Char × Choice) :=
  [("-h".toList, .flag .help), ("--help".toList, .flag .help),
    ("-o".toList, .slot .output), ("--output".toList, .slot .output),
    ("--output-dir".toList, .slot .outputDirectory), ("--extract".toList, .slot .extract),
    ("--docx".toList, .slot .word), ("--graphviz".toList, .slot .drawing),
    ("--render-image".toList, .flag .renderImage),
    ("-v".toList, .flag .verbose), ("--verbose".toList, .flag .verbose)]

inductive Ending where
  | complete
  | value (s : Slot) (text : List Char)
  -- the value is the next argument
  | awaits (s : Slot)
  -- something that names no option
  | stray
  -- a value behind an option that takes none
  | malformed
deriving DecidableEq, Repr

inductive Token where
  | plain (text : String)
  -- the first double hyphen; all arguments behind it are plain
  | separator
  | options (flags : List Flag) (ending : Ending)
deriving DecidableEq, Repr

def Choice.bare : Choice → Token
  | flag f => .options [f] .complete
  | slot s => .options [] (.awaits s)

/-- Reads letters that stand together. Those behind a letter that takes a value are its value, and every
one before it must name an option. -/
def readLetters (flags : List Flag) : List Char → List Flag × Ending
  | [] => (flags, .complete)
  | c :: s =>
    match optionNames.lookup ['-', c] with
    | none => (flags, .malformed)
    | some (.slot slot) => (flags, if s.isEmpty then .awaits slot else .value slot s)
    | some (.flag f) => readLetters (flags ++ [f]) s

def Choice.withLetters (letters : List Char) : Choice → Token
  | flag f =>
    let (flags, ending) := readLetters [f] letters
    .options flags ending
  | slot s => .options [] (.value s letters)

/-- An option with a text behind an equals sign. Behind a single letter without a value the text is read
as further letters, if there is any. -/
def Choice.withValue (name value : List Char) : Choice → Token
  | flag f =>
    if name.length = 2 ∧ value ≠ [] then (Choice.flag f).withLetters value
    else .options [] .malformed
  | slot s => .options [] (.value s value)

def isNumeral (s : List Char) : Bool := !s.isEmpty && s.all fun c => (digit? c).isSome

def isNegativeNumber : List Char → Bool
  | '-' :: s =>
    let s := if s.getLast? = some '\n' then s.dropLast else s
    match cutOnce '.' s with
    | (whole, none) => isNumeral whole
    | (whole, some fraction) => (whole.isEmpty || isNumeral whole) && isNumeral fraction
  | _ => false

def unnamed (argument : List Char) : Token :=
  if isNegativeNumber argument || argument.contains ' ' then .plain (String.ofList argument)
  else .options [] .stray

def longToken (argument : List Char) : Option Token :=
  let (name, value) := cutOnce '=' argument
  match optionNames.filter fun o => name.isPrefixOf o.1 with
  | [] => some (unnamed argument)
  | [(found, choice)] => some (value.elim choice.bare (choice.withValue found))
  | _ => none

def shortToken (argument : List Char) : Token :=
  match optionNames.lookup (argument.take 2) with
  | some choice => choice.withLetters (argument.drop 2)
  | none => unnamed argument

def token (argument : String) : Option Token :=
  match argument.toList with
  | '-' :: c :: s =>
    let whole := '-' :: c :: s
    match optionNames.lookup whole, cutOnce '=' whole with
    | some choice, _ => some choice.bare
    | none, (name, value) =>
      match value, optionNames.lookup name with
      | some value, some choice => some (choice.withValue name value)
      | _, _ => if c = '-' then longToken whole else some (shortToken whole)
  | _ => some (.plain argument)

def tokens : List String → Option (List Token)
  | [] => some []
  | "--" :: arguments => some (.separator :: arguments.map .plain)
  | argument :: arguments => do return (← token argument) :: (← tokens arguments)

structure Request where
  input : String
  output : String := "database_der.md"
  outputDirectory : Option String := none
  extract : Option String := none
  word : Option String := none
  drawing : Option String := none
  renderImage : Bool := false
  verbose : Bool := false
deriving DecidableEq, Repr

def Request.set (r : Request) (s : Slot) (value : String) : Request :=
  match s with
  | .output => { r with output := value }
  | .outputDirectory => { r with outputDirectory := some value }
  | .extract => { r with extract := some value }
  | .word => { r with word := some value }
  | .drawing => { r with drawing := some value }

def Request.raise (r : Request) : Flag → Request
  | .help => r
  | .renderImage => { r with renderImage := true }
  | .verbose => { r with verbose := true }

inductive Reading where
  | request (r : Request)
  | help
  | refused
deriving DecidableEq, Repr

structure Progress where
  request : Request := { input := "" }
  -- whether the dump has been named
  named : Bool := false
  -- whether there was an argument that means nothing
  stray : Bool := false
deriving DecidableEq, Repr

namespace Progress

def finish (p : Progress) : Reading :=
  if p.named && !p.stray then .request p.request else .refused

def addStray (p : Progress) : Progress := { p with stray := true }

def addPlain (p : Progress) (text : String) : Progress :=
  if p.named then p.addStray else { p with request := { p.request with input := text }, named := true }

def raise (p : Progress) (flags : List Flag) : Progress :=
  { p with request := flags.foldl Request.raise p.request }

def set (p : Progress) (s : Slot) (value : String) : Progress :=
  { p with request := p.request.set s value }

def inlineText (value : List Char) : String := if value = ['-', '-'] then "" else String.ofList value

def take (p : Progress) : List Token → Reading
  -- help ends the reading at once; a double hyphen next to the name of the dump is part of it
  | [] => p.finish
  | .plain text :: .separator :: ts =>
    (if p.named then p.addStray else p.addPlain text).take ts
  | .plain text :: ts => (p.addPlain text).take ts
  | .separator :: ts => if p.named then p.addStray.take ts else p.take ts
  | .options flags (.awaits s) :: .plain text :: ts =>
    if flags.contains .help then .help else ((p.raise flags).set s text).take ts
  | .options _ (.awaits _) :: _ => .refused
  | .options _ .malformed :: _ => .refused
  | .options flags ending :: ts =>
    if flags.contains .help then .help
    else match ending with
      | .value s text => ((p.raise flags).set s (inlineText text)).take ts
      | .stray => (p.raise flags).addStray.take ts
      | _ => (p.raise flags).take ts

end Progress

def read (arguments : List String) : Reading :=
  match tokens arguments with
  | some ts => ({} : Progress).take ts
  | none => .refused

end SchemaAtlas.Command
