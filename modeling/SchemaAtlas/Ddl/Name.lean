import SchemaAtlas.Text.Blank

/-!
# Names

Identifiers of a dump are turned into names over `A`-`Z`, `a`-`z`, `0`-`9` and `_`, so that every
diagram and document can hold them. Quotes are dropped, a dot becomes `_` and `#` becomes `_NUM`.
-/

namespace SchemaAtlas.Name

open SchemaAtlas.Text

def isQuote (c : Char) : Bool := c == '"' || c == '\x60' || c == '[' || c == ']'

def isNameChar (c : Char) : Bool := c.isAlphanum || c == '_'

def substitute (p : Char → Bool) (w s : List Char) : List Char :=
  s.flatMap fun c => if p c then w else [c]

def cleanChars (s : List Char) : List Char :=
  -- quotes go after the blanks around them, so that blanks inside of quotes become `_`
  let unquoted := substitute isQuote [] (trim s)
  let undotted := substitute (· == '.') ['_'] unquoted
  let unsharped := substitute (· == '#') ['_', 'N', 'U', 'M'] undotted
  substitute (!isNameChar ·) ['_'] unsharped

def clean (s : List Char) : String := String.ofList (cleanChars s)

theorem mem_substitute {p : Char → Bool} {w s : List Char} {d : Char} (h : d ∈ substitute p w s) :
    d ∈ w ∨ d ∈ s ∧ p d = false := by
  obtain ⟨c, hc, hd⟩ := List.mem_flatMap.mp h
  split at hd
  · exact .inl hd
  · next hp =>
    obtain rfl := List.mem_singleton.mp hd
    exact .inr ⟨hc, Bool.eq_false_iff.mpr hp⟩

theorem isNameChar_of_mem_cleanChars {s : List Char} {d : Char} (h : d ∈ cleanChars s) :
    isNameChar d = true := by
  rcases mem_substitute h with hd | ⟨_, hd⟩
  · exact List.mem_singleton.mp hd ▸ rfl
  · simpa using hd

end SchemaAtlas.Name
