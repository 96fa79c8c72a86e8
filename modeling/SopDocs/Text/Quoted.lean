import SopDocs.Text.PrintTable
import SopDocs.Text.CodePoints
/-!
Quoted text for messages. A quote, a backslash and the common controls have short escapes; any other
character without a form of its own is spelled by its code point.
-/

namespace SopDocs.Text

/-- Whether a character stands for itself inside quotes. -/
def isPlain (c : Char) : Bool :=
  if c.toNat < 128 then 0x20 ≤ c.toNat && c.toNat < 0x7F
  else !inRanges extenderRanges c && !inRanges unprintableRanges c

/-- Lower-case hexadecimal digits. -/
def hexDigits (n : Nat) : List Char := Nat.toDigits 16 n

def quoteChar (c : Char) : List Char :=
  match c with
  | '\x00' => ['\\', '0']
  | '\t' => ['\\', 't']
  | '\n' => ['\\', 'n']
  | '\r' => ['\\', 'r']
  | '"' => ['\\', '"']
  | '\\' => ['\\', '\\']
  | c => if isPlain c then [c] else "\\u\x7b".toList ++ hexDigits c.toNat ++ "\x7d".toList

def quoted (s : String) : String :=
  String.ofList ('"' :: (s.toList.flatMap quoteChar ++ ['"']))

/-- Quoted texts in brackets of the given kind. -/
def quotedAll (opening closing : String) (items : List String) : String :=
  opening ++ ", ".intercalate (items.map quoted) ++ closing

end SopDocs.Text
