import Mathlib.Algebra.Field.Rat
import SopDocs.Json.Reader

/-!
# JSON as it is written

The grammar of JSON texts, apart from any way of reading them. A term keeps what a value leaves
out: how a number is written, and the members of an object in their order, with keys that come
again. A string stands for characters, so half of a surrogate pair spells nothing.
-/

namespace SopDocs.Json

/-- White space between the parts of a text. -/
def Blank (w : List Char) : Prop := ∀ c ∈ w, c ∈ [' ', '\t', '\n', '\r']

/-! ### Numbers -/

/-- Decimal digits, at least one. -/
def Digits (ds : List Char) : Prop := ds ≠ [] ∧ ∀ c ∈ ds, c.isDigit = true

/-- The power of ten of a number: a letter, a sign or none, and digits. -/
structure Exponent where
  mark : Char
  sign : Option Char
  digits : List Char
  mark_mem : mark ∈ ['e', 'E']
  sign_mem : ∀ c ∈ sign, c ∈ ['+', '-']
  digits_spec : Digits digits

/-- A number as it is written. The part before the point starts with a zero only if it is one. -/
structure Numeral where
  negative : Bool
  whole : List Char
  fraction : Option (List Char)
  exponent : Option Exponent
  whole_spec : Digits whole
  whole_zero : ∀ r, whole = '0' :: r → r = []
  fraction_spec : ∀ ds ∈ fraction, Digits ds

def Exponent.text (e : Exponent) : List Char := e.mark :: (e.sign.toList ++ e.digits)

def fractionText : Option (List Char) → List Char
  | none => []
  | some ds => '.' :: ds

def exponentPart (e : Option Exponent) : List Char := (e.map Exponent.text).getD []

namespace Numeral

/-- What stands behind the sign. -/
def unsignedText (n : Numeral) : List Char :=
  n.whole ++ (fractionText n.fraction ++ exponentPart n.exponent)

def text (n : Numeral) : List Char := (if n.negative then ['-'] else []) ++ n.unsignedText

/-- The number before the point, without its sign. -/
def magnitude (n : Numeral) : Nat := Nat.ofDigitChars 10 n.whole 0

/-- The power of ten that the digits of a number count. -/
def scale (n : Numeral) : Int :=
  let power : Int := match n.exponent with
    | none => 0
    | some e =>
      let size : Int := Nat.ofDigitChars 10 e.digits 0
      if e.sign = some '-' then -size else size
  power - (n.fraction.getD []).length

/-- The number that is written. -/
def value (n : Numeral) : Rat :=
  let digits : Rat := Nat.ofDigitChars 10 (n.whole ++ n.fraction.getD []) 0
  (if n.negative then -digits else digits) * 10 ^ n.scale

/-- The number that digits write. -/
def ofDigits (whole : List Char) (hwhole : Digits whole) (hzero : ∀ r, whole = '0' :: r → r = []) :
    Numeral where
  negative := false
  whole
  fraction := none
  exponent := none
  whole_spec := hwhole
  whole_zero := hzero
  fraction_spec _ h := absurd h (Option.not_mem_none _)

/-- Whether a number is written as digits only, and is at most the bound. -/
def IsUnsigned (n : Numeral) (bound : Nat) : Prop :=
  n.negative = false ∧ n.fraction = none ∧ n.exponent = none ∧ n.magnitude ≤ bound

end Numeral

/-! ### Strings -/

/-- Whether a character is the hexadecimal digit of a number. -/
def IsHexDigit (v : Nat) (c : Char) : Prop :=
  "0123456789abcdef".toList[v]? = some c ∨ "0123456789ABCDEF".toList[v]? = some c

/-- Four hexadecimal digits and their number. -/
inductive HexDigits : Nat → List Char → Prop where
  | mk {v₁ v₂ v₃ v₄ : Nat} {c₁ c₂ c₃ c₄ : Char} (h₁ : IsHexDigit v₁ c₁) (h₂ : IsHexDigit v₂ c₂)
      (h₃ : IsHexDigit v₃ c₃) (h₄ : IsHexDigit v₄ c₄) :
      HexDigits (((v₁ * 16 + v₂) * 16 + v₃) * 16 + v₄) [c₁, c₂, c₃, c₄]

/-- The escapes of one letter with the characters they stand for. -/
def namedEscapes : List (Char × Char) := [
  ('"', '"'), ('\\', '\\'), ('/', '/'), ('b', '\x08'), ('f', '\x0c'), ('n', '\n'), ('r', '\r'),
  ('t', '\t')]

/-- The ways to write a character of a string. A character beyond the basic plane is itself or a
pair of surrogates, and a surrogate by itself is no character. -/
inductive WrittenChar : Char → List Char → Prop where
  | plain {c : Char} (hcontrol : 0x20 ≤ c.toNat) (hquote : c ≠ '"') (hslash : c ≠ '\\') :
      WrittenChar c [c]
  | named {mark c : Char} (h : (mark, c) ∈ namedEscapes) : WrittenChar c ['\\', mark]
  | unit {n : Nat} {ds : List Char} (h : HexDigits n ds) (hscalar : n < 0xD800 ∨ 0xDFFF < n) :
      WrittenChar (Char.ofNat n) ('\\' :: 'u' :: ds)
  | pair {high low : Nat} {hs ls : List Char} (hhigh : HexDigits high hs)
      (hlow : HexDigits low ls) (hhighRange : 0xD800 ≤ high ∧ high ≤ 0xDBFF)
      (hlowRange : 0xDC00 ≤ low ∧ low ≤ 0xDFFF) :
      WrittenChar (Char.ofNat (0x10000 + (high - 0xD800) * 0x400 + (low - 0xDC00)))
        ('\\' :: 'u' :: (hs ++ '\\' :: 'u' :: ls))

/-- The ways to write a string between its quotes. -/
inductive WrittenText : List Char → List Char → Prop where
  | nil : WrittenText [] []
  | cons {c : Char} {cs s t : List Char} (hchar : WrittenChar c s) (htext : WrittenText cs t) :
      WrittenText (c :: cs) (s ++ t)

/-! ### Terms -/

/-- What a text says, with its numbers as they are written and its members as they come. -/
inductive Term where
  | null
  | bool (value : Bool)
  | number (numeral : Numeral)
  | string (text : String)
  | array (items : List Term)
  | object (members : List (String × Term))

/-- What stands before an item or a member: white space, and a comma unless it is the first. -/
inductive Lead : Bool → List Char → Prop where
  | first {w : List Char} (hw : Blank w) : Lead true w
  | later {v w : List Char} (hv : Blank v) (hw : Blank w) : Lead false (v ++ ',' :: w)

mutual
/-- The ways to write a term. -/
inductive Term.Written : Term → List Char → Prop where
  | null : Term.Written .null "null".toList
  | true : Term.Written (.bool true) "true".toList
  | false : Term.Written (.bool false) "false".toList
  | number (n : Numeral) : Term.Written (.number n) n.text
  | string {text : String} {t : List Char} (h : WrittenText text.toList t) :
      Term.Written (.string text) ('"' :: (t ++ ['"']))
  | array {items : List Term} {t : List Char} (h : WrittenItems true items t) :
      Term.Written (.array items) ('[' :: t)
  | object {members : List (String × Term)} {t : List Char} (h : WrittenMembers true members t) :
      Term.Written (.object members) ('\x7b' :: t)

/-- The ways to write items up to the bracket behind them; the first one has no comma before it. -/
inductive WrittenItems : Bool → List Term → List Char → Prop where
  | close {first : Bool} {w : List Char} (hw : Blank w) : WrittenItems first [] (w ++ [']'])
  | item {first : Bool} {l s t : List Char} {item : Term} {items : List Term}
      (hlead : Lead first l) (hitem : Term.Written item s) (hitems : WrittenItems false items t) :
      WrittenItems first (item :: items) (l ++ (s ++ t))

/-- The ways to write members up to the brace behind them. -/
inductive WrittenMembers : Bool → List (String × Term) → List Char → Prop where
  | close {first : Bool} {w : List Char} (hw : Blank w) : WrittenMembers first [] (w ++ ['\x7d'])
  | member {first : Bool} {l k v w s t : List Char} {key : String} {value : Term}
      {members : List (String × Term)} (hlead : Lead first l) (hkey : WrittenText key.toList k)
      (hv : Blank v) (hw : Blank w) (hvalue : Term.Written value s)
      (hmembers : WrittenMembers false members t) :
      WrittenMembers first ((key, value) :: members)
        (l ++ ('"' :: (k ++ '"' :: (v ++ ':' :: (w ++ (s ++ t))))))
end

/-- A text that holds a term and white space around it. -/
def Says (text : String) (term : Term) : Prop :=
  ∃ v s w, Blank v ∧ term.Written s ∧ Blank w ∧ text.toList = v ++ (s ++ w)

/-- Whether an object of a term has a key twice. -/
inductive Term.RepeatsKey : Term → Prop where
  | here {members : List (String × Term)} (h : ¬ (members.map (·.1)).Nodup) :
      Term.RepeatsKey (.object members)
  | item {items : List Term} {item : Term} (hmem : item ∈ items) (h : item.RepeatsKey) :
      Term.RepeatsKey (.array items)
  | member {members : List (String × Term)} {member : String × Term} (hmem : member ∈ members)
      (h : member.2.RepeatsKey) : Term.RepeatsKey (.object members)

/-! ### White space and the ends of parts -/

theorem isSpace_iff {c : Char} : isSpace c = true ↔ c ∈ [' ', '\t', '\n', '\r'] := by
  simp [isSpace]
  tauto

theorem skipSpace_append {w : List Char} (hw : Blank w) (s : List Char) :
    skipSpace (w ++ s) = skipSpace s :=
  List.dropWhile_append_of_pos fun c hc => isSpace_iff.mpr (hw c hc)

theorem skipSpace_cons {c : Char} (hc : isSpace c = false) (s : List Char) :
    skipSpace (c :: s) = c :: s :=
  List.dropWhile_cons_of_neg (by simp [hc])

/-- The white space that is skipped can be told from the text. -/
theorem exists_blank_append_skipSpace (s : List Char) : ∃ w, Blank w ∧ s = w ++ skipSpace s := by
  refine ⟨s.takeWhile isSpace, fun c hc => ?_, List.takeWhile_append_dropWhile.symm⟩
  exact isSpace_iff.mp (List.all_eq_true.mp List.all_takeWhile c hc)

theorem blank_nil : Blank [] := fun _ hc => absurd hc List.not_mem_nil

end SopDocs.Json
