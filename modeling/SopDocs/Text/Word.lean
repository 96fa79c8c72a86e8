import SopDocs.Text.WordTable
import SopDocs.Text.CodePoints
/-!
Words and decimal digits in the sense of Unicode. A word is a maximal run of word characters.
-/

namespace SopDocs.Text

def isWordChar (c : Char) : Bool :=
  if c.toNat < 128 then c.isAlphanum || c == '_' else inRanges wordRanges c

/-- A decimal digit of any script. -/
def isDecimalDigit (c : Char) : Bool :=
  if c.toNat < 128 then c.isDigit else inRanges digitRanges c

/-- Puts `c` in front of the first word, or opens a new one when a boundary lies between them. -/
def joinWord (c : Char) (joined : Bool) (ws : List (List Char)) : List (List Char) :=
  match joined, ws with
  | true, w :: r => (c :: w) :: r
  | _, ws => [c] :: ws

/-- The words of a text, in order. -/
def words : List Char → List (List Char)
  | [] => []
  | c :: r =>
    if isWordChar c then joinWord c ((r.head?.map isWordChar).getD false) (words r) else words r

/-- The value of a run of ASCII digits. -/
def digitsValue (ds : List Char) : Nat :=
  ds.foldl (fun n c => 10 * n + (c.toNat - '0'.toNat)) 0

theorem isDigit_iff {c : Char} : c.isDigit = true ↔ '0' ≤ c ∧ c ≤ '9' := by
  simp only [Char.isDigit, Bool.and_eq_true, decide_eq_true_eq]
  exact Iff.rfl

theorem isDecimalDigit_of_isDigit {c : Char} (h : c.isDigit = true) : isDecimalDigit c = true := by
  have : c.toNat < 128 := by
    simp only [Char.isDigit, ge_iff_le, Bool.and_eq_true, decide_eq_true_eq] at h
    have := UInt32.le_iff_toNat_le.1 h.2
    simp only [Char.toNat]
    exact Nat.lt_of_le_of_lt this (by decide)
  simp [isDecimalDigit, this, h]

end SopDocs.Text
