import SopDocs.Json.Number
import SopDocs.Json.Value
/-!
Writing JSON text, on one line or with one member to a line. Only quotes, backslashes and control
characters are escaped.
-/

namespace SopDocs.Json

def hexDigit (n : Nat) : Char := if n < 10 then Char.ofNat (48 + n) else Char.ofNat (87 + n)

def escapeChar (c : Char) : List Char :=
  match c with
  | '"' => ['\\', '"']
  | '\\' => ['\\', '\\']
  | '\x08' => ['\\', 'b']
  | '\x0c' => ['\\', 'f']
  | '\n' => ['\\', 'n']
  | '\r' => ['\\', 'r']
  | '\t' => ['\\', 't']
  | c =>
    if c.toNat < 0x20 then ['\\', 'u', '0', '0', hexDigit (c.toNat / 16), hexDigit (c.toNat % 16)]
    else [c]

def stringText (s : String) : String :=
  String.ofList ('"' :: (s.toList.flatMap escapeChar ++ ['"']))

mutual
/-- A value on one line, without spaces. -/
def Value.compact : Value → String
  | .null => "null"
  | .bool b => if b then "true" else "false"
  | .int n => toString n
  | .float x => floatText x
  | .string s => stringText s
  | .array items => "[" ++ compactItems items ++ "]"
  | .object members => "\x7b" ++ compactMembers members ++ "\x7d"

def compactItems : List Value → String
  | [] => ""
  | [v] => v.compact
  | v :: r => v.compact ++ "," ++ compactItems r

def compactMembers : List (String × Value) → String
  | [] => ""
  | [(k, v)] => stringText k ++ ":" ++ v.compact
  | (k, v) :: r => stringText k ++ ":" ++ v.compact ++ "," ++ compactMembers r
end

/-- Two spaces per level. -/
def indentation (level : Nat) : String := String.ofList (List.replicate (2 * level) ' ')

mutual
/-- A value over several lines; empty lists and objects stay on one. -/
def Value.prettyAt (level : Nat) : Value → String
  | .array [] => "[]"
  | .array items => "[\n" ++ prettyItems (level + 1) items ++ "\n" ++ indentation level ++ "]"
  | .object [] => "\x7b\x7d"
  | .object members =>
    "\x7b\n" ++ prettyMembers (level + 1) members ++ "\n" ++ indentation level ++ "\x7d"
  | .null => "null"
  | .bool b => if b then "true" else "false"
  | .int n => toString n
  | .float x => floatText x
  | .string s => stringText s

def prettyItems (level : Nat) : List Value → String
  | [] => ""
  | [v] => indentation level ++ v.prettyAt level
  | v :: r => indentation level ++ v.prettyAt level ++ ",\n" ++ prettyItems level r

def prettyMembers (level : Nat) : List (String × Value) → String
  | [] => ""
  | [(k, v)] => indentation level ++ stringText k ++ ": " ++ v.prettyAt level
  | (k, v) :: r =>
    indentation level ++ stringText k ++ ": " ++ v.prettyAt level ++ ",\n" ++ prettyMembers level r
end

def Value.pretty (v : Value) : String := v.prettyAt 0

end SopDocs.Json
