import SopDocs.Markdown.Source
import SopDocs.Markdown.EntityTable
/-!
Two ways to write a character: a backslash before punctuation of ASCII, and a reference by name or
number.
-/

namespace SopDocs.Markdown

/-- The digits of a numeric reference before its semicolon, with the rest after the semicolon. -/
def numericReference? (base limit : Nat) (isDigit : Char → Bool) (gs : List Glyph) :
    Option (Nat × List Glyph) :=
  let digits := gs.takeWhile fun g => isDigit g.char
  match gs.dropWhile fun g => isDigit g.char with
  | g :: rest =>
    if g.char = ';' ∧ digits ≠ [] ∧ digits.length ≤ limit then
      some (digits.foldl (fun n d => n * base + (hexValue d.char)) 0, rest)
    else none
  | [] => none
where
  /-- The value of a hexadecimal digit. -/
  hexValue (c : Char) : Nat :=
    if c.isDigit then c.toNat - '0'.toNat else c.toLower.toNat - 'a'.toNat + 10

def isHexDigit (c : Char) : Bool :=
  c.isDigit || ('a' ≤ c && c ≤ 'f') || ('A' ≤ c && c ≤ 'F')

/-- The character of a numeric reference; one that no text may hold is replaced. -/
def referencedChar (n : Nat) : Char :=
  if n ≤ 0x08 ∨ n = 0x0B ∨ (0x0E ≤ n ∧ n ≤ 0x1F) ∨ (0x7F ≤ n ∧ n ≤ 0x9F) ∨
      (0xD800 ≤ n ∧ n ≤ 0xDFFF) ∨ (0xFDD0 ≤ n ∧ n ≤ 0xFDEF) ∨ 0xFFFE ≤ n % 0x10000 ∨ 0x10FFFF < n then '\ufffd'
  else Char.ofNat n

def longestName : Nat := 31

/-- The characters of a named reference, with the rest after its semicolon. -/
def namedReference? (gs : List Glyph) : Option (List Char × List Glyph) :=
  let name := gs.takeWhile (·.char.isAlphanum)
  match gs.dropWhile (·.char.isAlphanum) with
  | g :: rest =>
    if g.char = ';' ∧ name.length ≤ longestName then
      let key := String.ofList (name.map (·.char))
      (entities.find? (·.1 == key)).map fun e => (e.2.map Char.ofNat, rest)
    else none
  | [] => none

/-- A character reference at the start of a text, without its `&`. -/
def reference? (gs : List Glyph) : Option (List Char × List Glyph) :=
  match gs with
  | g :: r =>
    if g.char = '#' then
      match r with
      | h :: t =>
        if h.char = 'x' ∨ h.char = 'X' then
          (numericReference? 16 6 isHexDigit t).map fun p => ([referencedChar p.1], p.2)
        else (numericReference? 10 7 Char.isDigit r).map fun p => ([referencedChar p.1], p.2)
      | [] => none
    else namedReference? gs
  | [] => none

/-- A text with its escapes and references resolved; `fuel` bounds its length. -/
def unescapeFuel : Nat → List Glyph → List Char
  | 0, _ => []
  | _ + 1, [] => []
  | fuel + 1, g :: r =>
    if g.char = '\\' then
      match r with
      | h :: t => if isAsciiPunctuation h.char then h.char :: unescapeFuel fuel t
        else '\\' :: unescapeFuel fuel r
      | [] => ['\\']
    else if g.char = '&' then
      match reference? r with
      | some (cs, rest) => cs ++ unescapeFuel fuel rest
      | none => '&' :: unescapeFuel fuel r
    else g.text ++ unescapeFuel fuel r

/-- A text with its escapes and references resolved. -/
def unescape (gs : List Glyph) : List Char := unescapeFuel gs.length gs

end SopDocs.Markdown
