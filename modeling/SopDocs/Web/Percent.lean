import SopDocs.Text.Search
import SopDocs.Text.Utf8
/-!
Percent encoding of bytes, and form encoding of the parameters of a query.
-/

namespace SopDocs.Web

open Text

/-- The upper-case hexadecimal digit of a value below 16. -/
def upperHexDigit (n : Nat) : Char := if n < 10 then Char.ofNat (48 + n) else Char.ofNat (55 + n)

def encodeByte (n : Nat) : List Char := ['%', upperHexDigit (n / 16), upperHexDigit (n % 16)]

def encodeChar (c : Char) : List Char := (utf8Bytes c).flatMap encodeByte

/-- Controls and characters beyond ASCII are encoded in every part of a URL. -/
def isPrintableAscii (c : Char) : Bool := 0x20 ≤ c.toNat && c.toNat < 0x7F

/-- Encodes controls, characters beyond ASCII, and the given ones. -/
def encode (special : List Char) (s : List Char) : List Char :=
  s.flatMap fun c => if isPrintableAscii c && !special.contains c then [c] else encodeChar c

/-- Characters that are encoded in a fragment. -/
def fragmentSpecial : List Char := [' ', '"', '<', '>', '\x60']

/-- Characters that are encoded in a path. -/
def pathSpecial : List Char := fragmentSpecial ++ ['#', '?', '\x7b', '\x7d']

/-- Characters that are encoded in a query. -/
def querySpecial : List Char := [' ', '"', '#', '<', '>', '\'']

/-- Characters that are encoded in a user name or a password. -/
def userSpecial : List Char := pathSpecial ++ ['/', ':', ';', '=', '@', '[', '\\', ']', '^', '|']

/-- A name or value of a query parameter: letters, digits and four marks stay, a space is a plus. -/
def formEncode (s : List Char) : List Char :=
  s.flatMap fun c =>
    if c == ' ' then ['+']
    else if c.toNat < 0x80 && (c.isAlphanum || "*-._".toList.contains c) then [c]
    else encodeChar c

def hexDigitValue? (c : Char) : Option Nat :=
  if c.isDigit then some (c.toNat - 48)
  else if 'a' ≤ c ∧ c ≤ 'f' then some (c.toNat - 87)
  else if 'A' ≤ c ∧ c ≤ 'F' then some (c.toNat - 55)
  else none

/-- The bytes of a text, each percent-encoded one decoded. -/
def decodeBytes : List Char → List Nat
  | [] => []
  | '%' :: a :: b :: r =>
    match hexDigitValue? a, hexDigitValue? b with
    | some x, some y => (16 * x + y) :: decodeBytes r
    | _, _ => 0x25 :: decodeBytes (a :: b :: r)
  | c :: r => utf8Bytes c ++ decodeBytes r

end SopDocs.Web
