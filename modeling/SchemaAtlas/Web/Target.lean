import SchemaAtlas.Text.Digits
import SchemaAtlas.Text.Lines

/-!
# Targets

The target of a request is a path, perhaps with a scheme and a host before it and a query behind it.
Control characters and spaces before a target count for nothing, and neither do tabs and line ends
inside it. What is left of a target behind its host is read as a target once more, so that a host may
stand behind a host.
-/

namespace SchemaAtlas.Web

open SchemaAtlas.Text

def isLineOrTab (c : Char) : Bool := c == '\t' || c == '\r' || c == '\n'

def tidy (s : List Char) : List Char := (s.dropWhile (· ≤ ' ')).filter (!isLineOrTab ·)

def isSchemeChar (c : Char) : Bool := c.isAlphanum || c == '+' || c == '-' || c == '.'

def withoutScheme (s : List Char) : List Char :=
  match cutOnce ':' s with
  | (scheme, some rest) =>
    if scheme.head?.any Char.isAlpha && scheme.all isSchemeChar then rest else s
  | (_, none) => s

def withoutHost : List Char → List Char
  | '/' :: '/' :: s => s.dropWhile fun c => !(c == '/' || c == '?' || c == '#')
  | s => s

def hierarchy (s : List Char) : List Char :=
  (cutOnce '?' (cutOnce '#' (withoutHost (withoutScheme (tidy s)))).1).1

def percentDecode : List Char → List Char
  | '%' :: a :: b :: s =>
    match hexValue? a, hexValue? b with
    | some high, some low =>
      if high < 8 then Char.ofNat (high * 16 + low) :: percentDecode s
      else '%' :: a :: b :: percentDecode s
    | _, _ => '%' :: percentDecode (a :: b :: s)
  | c :: s => c :: percentDecode s
  | [] => []

def pathOf (target : String) : List Char :=
  '/' :: (percentDecode (hierarchy (hierarchy target.toList))).dropWhile (· == '/')

def mergeSlashes : List Char → List Char
  | c :: d :: s =>
    if c = '/' ∧ d = '/' then mergeSlashes (d :: s) else c :: mergeSlashes (d :: s)
  | s => s

end SchemaAtlas.Web
