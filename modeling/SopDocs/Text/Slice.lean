/-!
Parts of a text by byte offsets in UTF-8.
-/

namespace SopDocs.Text

/-- The rest of a text after a number of bytes; none within a character or beyond the end. -/
def byteDrop? : List Char → Nat → Option (List Char)
  | s, 0 => some s
  | [], _ + 1 => none
  | c :: r, n + 1 => if c.utf8Size ≤ n + 1 then byteDrop? r (n + 1 - c.utf8Size) else none

/-- A number of bytes at the start of a text; none if the end is within a character or beyond it. -/
def byteTake? : List Char → Nat → Option (List Char)
  | _, 0 => some []
  | [], _ + 1 => none
  | c :: r, n + 1 =>
    if c.utf8Size ≤ n + 1 then (byteTake? r (n + 1 - c.utf8Size)).map (c :: ·) else none

/-- The text between two byte offsets. -/
def byteSlice? (s : List Char) (start stop : Nat) : Option (List Char) :=
  if start ≤ stop then (byteDrop? s start).bind (byteTake? · (stop - start)) else none

end SopDocs.Text
