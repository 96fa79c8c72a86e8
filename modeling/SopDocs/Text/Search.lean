/-!
Finding one text in another, and cutting a text at a mark.
-/

namespace SopDocs.Text

/-- Whether `needle` occurs in the text. -/
def occurs (needle : List Char) : List Char → Bool
  | [] => needle.isEmpty
  | c :: r => needle.isPrefixOf (c :: r) || occurs needle r

def contains (text needle : String) : Bool := occurs needle.toList text.toList

def startsWith (text start : String) : Bool := start.toList.isPrefixOf text.toList

/-- The pieces between the characters that `cut` accepts; one more piece than cuts. -/
def pieces (cut : Char → Bool) : List Char → List (List Char)
  | [] => [[]]
  | c :: r =>
    if cut c then [] :: pieces cut r
    else match pieces cut r with
      | [] => [[c]]
      | p :: ps => (c :: p) :: ps

/-- What follows `start`, if the text begins with it. -/
def dropStart? (start : List Char) (s : List Char) : Option (List Char) :=
  match start, s with
  | [], s => some s
  | _ :: _, [] => none
  | a :: start, c :: s => if a = c then dropStart? start s else none

theorem dropStart?_eq_some_iff {start s r : List Char} :
    dropStart? start s = some r ↔ s = start ++ r := by
  induction start generalizing s with
  | nil => simp [dropStart?, eq_comm]
  | cons a start ih =>
    cases s with
    | nil => simp [dropStart?]
    | cons c s =>
      by_cases h : a = c
      · subst h; simp [dropStart?, ih]
      · simp [dropStart?, h, Ne.symm h]

theorem pieces_ne_nil (cut : Char → Bool) (s : List Char) : pieces cut s ≠ [] := by
  cases s with
  | nil => simp [pieces]
  | cons c r =>
    unfold pieces
    split
    · simp
    · split <;> simp

/-- Texts joined by a separator. -/
def joined (separator : String) (parts : List String) : String := separator.intercalate parts

end SopDocs.Text
