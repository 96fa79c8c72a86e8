import SopDocs.Text.CodePoints
/-!
White space in the sense of Unicode, and what is read by cutting at it: trimmed text and words.
Zero-width spaces and the byte order mark are not white space.
-/

namespace SopDocs.Text

/-- The characters with the property White_Space. -/
def blankRanges : List (Nat × Nat) := [
    (0x9, 0xD), (0x20, 0x20), (0x85, 0x85), (0xA0, 0xA0), (0x1680, 0x1680), (0x2000, 0x200A),
    (0x2028, 0x2029), (0x202F, 0x202F), (0x205F, 0x205F), (0x3000, 0x3000)]

def isBlank (c : Char) : Bool := inRanges blankRanges c

def trimStart (s : List Char) : List Char := s.dropWhile isBlank

def trimEnd (s : List Char) : List Char := (s.reverse.dropWhile isBlank).reverse

/-- The text between its first and its last character that is not blank. -/
def trim (s : List Char) : List Char := trimEnd (trimStart s)

def trimmed (s : String) : String := String.ofList (trim s.toList)

/-- The first maximal run of characters that are not blank. -/
def firstWord? (s : List Char) : Option (List Char) :=
  match trimStart s with
  | [] => none
  | c :: r => some ((c :: r).takeWhile (! isBlank ·))

/-- Removes every leading and trailing `mark`. -/
def stripMark (mark : Char) (s : List Char) : List Char :=
  ((s.dropWhile (· == mark)).reverse.dropWhile (· == mark)).reverse

end SopDocs.Text
