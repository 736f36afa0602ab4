import SchemaAtlas.Json.Encoding
import SchemaAtlas.Settings.Basic
import SchemaAtlas.Web.Target

/-!
# Requests

What a request asks for, by its method and its path, and the JSON value that it brings.
-/

namespace SchemaAtlas.Web

open SchemaAtlas.Text

structure Request where
  method : String
  target : String
  contentType : String
  body : List UInt8
deriving DecidableEq, Repr

def Request.fault? (r : Request) : Option Fault :=
  if r.contentType.toList.any fun c => c == '\r' || c == '\n' then some .brokenHeader else none

inductive Endpoint where
  | parse | diagrams | documentation | extraction
deriving DecidableEq, Repr

def Endpoint.all : List Endpoint := [.parse, .diagrams, .documentation, .extraction]

def Endpoint.path : Endpoint → String
  | parse => "/api/parse_sql"
  | diagrams => "/api/generate_der"
  | documentation => "/api/generate_doc"
  | extraction => "/api/extract"

inductive Resource where
  | endpoint (e : Endpoint)
  -- a file to be fetched; there are none
  | file
deriving DecidableEq, Repr

def Resource.methods : Resource → List String
  | endpoint _ => ["POST", "OPTIONS"]
  | file => ["GET", "HEAD", "OPTIONS"]

def filesPath : List Char := "/static/".toList

def isFilePath (path : List Char) : Bool :=
  match path.drop filesPath.length with
  | c :: s => filesPath.isPrefixOf path && c != '/' && !s.contains '\n'
  | [] => false

def resource? (path : List Char) : Option Resource :=
  match Endpoint.all.find? fun e => e.path.toList == path with
  | some e => some (.endpoint e)
  | none => if isFilePath path then some .file else none

inductive Route where
  | to (r : Resource)
  -- to a resource, once slashes are merged
  | detour
  -- to a resource that does not understand the method
  | refused
  | nowhere
deriving DecidableEq, Repr

def Request.verb (r : Request) : String := String.ofList (upper r.method.toList)

def Request.route (r : Request) : Route :=
  let path := pathOf r.target
  match resource? path, resource? (mergeSlashes path) with
  | some found, _ => if found.methods.contains r.verb then .to found else .refused
  | none, some found => if found.methods.contains r.verb then .detour else .refused
  | none, none => .nowhere

def isSpaceOrTab (c : Char) : Bool := c == ' ' || c == '\t'

def mediaType (contentType : String) : List Char :=
  let s := (cutOnce ';' contentType.toList).1.dropWhile isSpaceOrTab
  (s.reverse.dropWhile isSpaceOrTab).reverse.map Char.toLower

def isJson (mediaType : List Char) : Bool :=
  mediaType == "application/json".toList ||
    ("application/".toList.isPrefixOf mediaType && "+json".toList.isSuffixOf mediaType)

/-- The JSON value of a request, if it brings one. The length of a body is looked at only where the body
may hold such a value. -/
def Request.value? (r : Request) (maxContentLength : Int) : Except Fault (Option Json.Value) :=
  if !isJson (mediaType r.contentType) then .ok none
  else if !r.body.isEmpty && maxContentLength < r.body.length then .error .contentTooLong
  else match Json.ofBytes r.body with
    | .ok v => .ok (some v)
    | .error .malformed => .ok none
    | .error (.tooDeep container) => .error (.nestedTooDeep container)

def sql? (v : Json.Value) : Option (List Point) :=
  match v.member? "sql" with
  | some (.string s) => if s.all fun p => p.char?.any isBlank then none else some s
  | _ => none

end SchemaAtlas.Web
