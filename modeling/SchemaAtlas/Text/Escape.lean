import SchemaAtlas.Text.Digits
import SchemaAtlas.Text.Point
import SchemaAtlas.Text.Printable

/-!
# Escaped text

Text in quotes for messages, and text in markup. Single quotes are used, unless the text holds a single
quote and no double one. The quote in use and the backslash are escaped, and so is every unprintable
character and every lone surrogate, by its code in hexadecimal digits. In markup the characters that have a
meaning there are written as references.
-/

namespace SchemaAtlas.Text

def quoteFor (s : List Char) : Char := if s.contains '\'' && !s.contains '"' then '"' else '\''

def escapeChar (quote c : Char) : List Char :=
  if c == quote || c == '\\' then ['\\', c]
  else if c == '\n' then ['\\', 'n']
  else if c == '\r' then ['\\', 'r']
  else if c == '\t' then ['\\', 't']
  else if isPrintable c then [c]
  else if c.toNat < 0x100 then '\\' :: 'x' :: hexDigits 2 c.toNat
  else if c.toNat < 0x10000 then '\\' :: 'u' :: hexDigits 4 c.toNat
  else '\\' :: 'U' :: hexDigits 8 c.toNat

def quoted (s : List Char) : String :=
  let quote := quoteFor s
  String.ofList (quote :: s.flatMap (escapeChar quote) ++ [quote])

def escapePoint (quote : Char) : Point → List Char
  | .char c => escapeChar quote c
  | .surrogate place => '\\' :: 'u' :: hexDigits 4 (Point.surrogate place).code

def quotedPoints (s : List Point) : String :=
  let quote := quoteFor (s.filterMap Point.char?)
  String.ofList (quote :: s.flatMap (escapePoint quote) ++ [quote])

namespace Markup

def escapeChar : Char → List Char
  | '&' => ['&', 'a', 'm', 'p', ';']
  | '<' => ['&', 'l', 't', ';']
  | '>' => ['&', 'g', 't', ';']
  | '"' => ['&', 'q', 'u', 'o', 't', ';']
  | '\'' => ['&', '#', 'x', '2', '7', ';']
  | c => [c]

def escape (s : String) : String := String.ofList (s.toList.flatMap escapeChar)

@[simp] theorem toList_escape (s : String) : (escape s).toList = s.toList.flatMap escapeChar := by
  simp [escape]

end Markup

end SchemaAtlas.Text
