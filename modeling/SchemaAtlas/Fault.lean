import SchemaAtlas.Json.Value
import SchemaAtlas.Text.Escape

/-!
# Failures

Why a request could not be answered. Every cause has one text. A problem is what a file system says of a
path that it cannot use as it is asked to.
-/

namespace SchemaAtlas

namespace Files

inductive Problem where
  | missing | alreadyExists | notDirectory | isDirectory | nameTooLong
deriving DecidableEq, Repr

def Problem.number : Problem → Nat
  | missing => 2
  | alreadyExists => 17
  | notDirectory => 20
  | isDirectory => 21
  | nameTooLong => 36

def Problem.text : Problem → String
  | missing => "No such file or directory"
  | alreadyExists => "File exists"
  | notDirectory => "Not a directory"
  | isDirectory => "Is a directory"
  | nameTooLong => "File name too long"

end Files

inductive Fault where
  | unknownTable (name : String)
  | noSuchRelationship
  -- tables cannot be spread over partitions of size zero
  | zeroPartitionSize
  -- a text for a Word document has a character that no such document can hold
  | unfitForWord
  | malformedInteger (text : String)
  | integerTooLong (digits : Nat)
  | unknownLogLevel (name : String)
  | partitionSizeTooSmall (size : Int)
  | thresholdTooSmall (threshold : Int)
  | secretMissing
  | file (problem : Files.Problem) (path : String)
  -- no path holds the character of code zero
  | zeroInPath
  | noDrawingProgram
  -- a header is a single line
  | brokenHeader
  | contentTooLong
  -- values stand inside each other too deep; the container is the first one that is too deep
  | nestedTooDeep (container : Json.Container)
deriving DecidableEq, Repr

def integerDigitLimit : Nat := 4300

def shownIntegerLength : Nat := 200

def shortened (length : Nat) (s : String) : String := String.ofList (s.toList.take length)

def Fault.message : Fault → String
  | unknownTable name => Text.quoted name.toList
  | noSuchRelationship => "tuple index out of range"
  | zeroPartitionSize => "division by zero"
  | unfitForWord =>
    "All strings must be XML compatible: Unicode or ASCII, no NULL bytes or control characters"
  | malformedInteger text =>
    "invalid literal for int() with base 10: " ++
      shortened shownIntegerLength (Text.quoted text.toList)
  | integerTooLong digits =>
    s!"Exceeds the limit ({integerDigitLimit} digits) for integer string conversion: " ++
      s!"value has {digits} digits; use sys.set_int_max_str_digits() to increase the limit"
  | unknownLogLevel name => s!"Unknown level: {Text.quoted name.toList}"
  | partitionSizeTooSmall size => s!"DER_PARTITION_SIZE must be positive, got {size}"
  | thresholdTooSmall threshold =>
    s!"DER_PARTITION_THRESHOLD must not be negative, got {threshold}"
  | secretMissing => "Production configuration is missing: SECRET_KEY"
  | file problem path => s!"[Errno {problem.number}] {problem.text}: {Text.quoted path.toList}"
  | zeroInPath => "embedded null byte"
  | noDrawingProgram =>
    "failed to execute PosixPath('dot'), make sure the Graphviz executables are on your systems' PATH"
  | brokenHeader => "Header values must not contain newline characters."
  | contentTooLong =>
    "413 Request Entity Too Large: The data value transmitted exceeds the capacity limit."
  | nestedTooDeep container =>
    s!"maximum recursion depth exceeded while decoding a JSON {container.name} from a unicode string"

end SchemaAtlas
