import SopDocs.Json.Fault
import SopDocs.Json.Number
import SopDocs.Json.Value
/-!
Reading JSON text. Values nest at most `depth - 1` levels deep; the depth drives the recursion, and
the lists inside one value are bounded by the length of the text. A repeated key keeps its last
value.
-/

namespace SopDocs.Json

/-- A fault noticed at the next character, which has not been read. -/
def faultAtNext {α : Type} (cause : Cause) (rest : List Char) : Except Fault (α × List Char) :=
  .error ⟨cause, rest, 1⟩

/-- A fault noticed after the last character read. -/
def faultHere {α : Type} (cause : Cause) (rest : List Char) : Except Fault (α × List Char) :=
  .error ⟨cause, rest, 0⟩

def isSpace (c : Char) : Bool := c == ' ' || c == '\n' || c == '\t' || c == '\r'

def skipSpace (s : List Char) : List Char := s.dropWhile isSpace

def readLiteral (value : Value) : List Char → List Char → Except Fault (Value × List Char)
  | [], s => .ok (value, s)
  | _ :: _, [] => faultHere .endInValue []
  | a :: w, c :: s =>
    if a = c then readLiteral value w s else .error ⟨.expectedLiteral, c :: s, 1⟩

def hexValue? (c : Char) : Option Nat :=
  if '0' ≤ c ∧ c ≤ '9' then some (c.toNat - '0'.toNat)
  else if 'a' ≤ c ∧ c ≤ 'f' then some (c.toNat - 'a'.toNat + 10)
  else if 'A' ≤ c ∧ c ≤ 'F' then some (c.toNat - 'A'.toNat + 10)
  else none

/-- The four hexadecimal digits of an escape. -/
def readHex (s : List Char) : Except Fault (Nat × List Char) :=
  match s with
  | a :: b :: c :: d :: r =>
    match hexValue? a, hexValue? b, hexValue? c, hexValue? d with
    | some a, some b, some c, some d => .ok (((a * 16 + b) * 16 + c) * 16 + d, r)
    | _, _, _, _ => .error ⟨.invalidEscape, s, 4⟩
  | _ => if byteSize s < 4 then faultHere .endInString [] else .error ⟨.invalidEscape, s, 4⟩

/-- The second half of an escaped character beyond the basic plane. -/
def readLowSurrogate (high : Nat) (s : List Char) : Except Fault (Char × List Char) :=
  match s with
  | [] => faultHere .endInString []
  | '\\' :: [] => faultHere .endInString []
  | '\\' :: 'u' :: r => do
    let (low, r) ← readHex r
    if 0xDC00 ≤ low ∧ low ≤ 0xDFFF then
      .ok (Char.ofNat (0x10000 + (high - 0xD800) * 0x400 + (low - 0xDC00)), r)
    else faultHere .loneSurrogate r
  | '\\' :: r => .error ⟨.unfinishedEscape, r, 1⟩
  | s => .error ⟨.unfinishedEscape, s, 1⟩

/-- The character of an escape, after its backslash. -/
def readEscape (s : List Char) : Except Fault (Char × List Char) :=
  match s with
  | [] => faultHere .endInString []
  | '"' :: r => .ok ('"', r)
  | '\\' :: r => .ok ('\\', r)
  | '/' :: r => .ok ('/', r)
  | 'b' :: r => .ok ('\x08', r)
  | 'f' :: r => .ok ('\x0c', r)
  | 'n' :: r => .ok ('\n', r)
  | 'r' :: r => .ok ('\r', r)
  | 't' :: r => .ok ('\t', r)
  | 'u' :: r => do
    let (n, r) ← readHex r
    if 0xDC00 ≤ n ∧ n ≤ 0xDFFF then faultHere .loneSurrogate r
    else if 0xD800 ≤ n ∧ n ≤ 0xDBFF then readLowSurrogate n r
    else .ok (Char.ofNat n, r)
  | s => .error ⟨.invalidEscape, s, 1⟩

/-- The rest of a string after its opening quote. -/
def readString : Nat → List Char → List Char → Except Fault (String × List Char)
  | 0, _, s => faultHere .endInString s
  | fuel + 1, done, s =>
    match s with
    | [] => faultHere .endInString []
    | '"' :: r => .ok (String.ofList done.reverse, r)
    | '\\' :: r => do
      let (c, r) ← readEscape r
      readString fuel (c :: done) r
    | c :: r =>
      if c.toNat < 0x20 then faultHere .controlCharacter r else readString fuel (c :: done) r

/-- Digits of an exponent after its sign; a value beyond 32 bits is reported as none. -/
def readExponentDigits (s : List Char) : Except Fault (Option Nat × List Char) :=
  match s with
  | [] => faultHere .endInValue []
  | c :: r =>
    if c.isDigit then
      let rec more (n : Nat) : List Char → Option Nat × List Char
        | [] => (some n, [])
        | c :: r =>
          if c.isDigit then
            let m := 10 * n + (c.toNat - '0'.toNat)
            if 2 ^ 31 - 1 < m then (none, r) else more m r
          else (some n, c :: r)
      .ok (more (c.toNat - '0'.toNat) r)
    else .error ⟨.invalidNumber, c :: r, 1⟩

def makeFloat (positive : Bool) (significand : Nat) (exponent : Int) (rest : List Char) :
    Except Fault (Value × List Char) :=
  match floatOfParts positive significand exponent with
  | some x => .ok (.float x, rest)
  | none => faultHere .numberOutOfRange rest

/-- The exponent part, after its letter. -/
def readExponent (positive : Bool) (significand : Nat) (start : Int) (s : List Char) :
    Except Fault (Value × List Char) := do
  let (raise, s) := match s with
    | '+' :: r => (true, r)
    | '-' :: r => (false, r)
    | s => (true, s)
  let (e, r) ← readExponentDigits s
  match e with
  | some e => makeFloat positive significand (if raise then start + e else start - e) r
  | none =>
    if significand ≠ 0 ∧ raise = true then faultHere .numberOutOfRange r
    else .ok (.float ⟨!positive, ⟨0, Decimal.minExponent⟩⟩, r.dropWhile Char.isDigit)

def isExponentMark (c : Char) : Bool := c == 'e' || c == 'E'

/-- What may follow the digits of a float. -/
def finishFloat (positive : Bool) (significand : Nat) (exponent : Int) (s : List Char) :
    Except Fault (Value × List Char) :=
  match s with
  | c :: r =>
    if isExponentMark c then readExponent positive significand exponent r
    else makeFloat positive significand exponent s
  | [] => makeFloat positive significand exponent []

/-- Digits after the point; `seen` says whether there was one. A digit that no longer fits the
significand ends the part that counts. -/
def readFraction (positive : Bool) :
    Bool → Nat → Int → List Char → Except Fault (Value × List Char)
  | seen, significand, exponent, c :: r =>
    if c.isDigit then
      let m := 10 * significand + (c.toNat - '0'.toNat)
      if maxUnsigned < m then
        finishFloat positive significand exponent ((c :: r).dropWhile Char.isDigit)
      else readFraction positive true m (exponent - 1) r
    else if seen then finishFloat positive significand exponent (c :: r)
    else faultAtNext .invalidNumber (c :: r)
  | true, significand, exponent, [] => finishFloat positive significand exponent []
  | false, _, _, [] => faultAtNext .endInValue []

/-- Digits beyond a full significand only raise the exponent. -/
def readLongInteger (positive : Bool) (significand : Nat) (s : List Char) :
    Except Fault (Value × List Char) :=
  let exponent : Int := ((s.takeWhile Char.isDigit).length : Nat)
  match s.dropWhile Char.isDigit with
  | '.' :: r => readFraction positive false significand exponent r
  | r => finishFloat positive significand exponent r

/-- What may follow the digits of an integer. -/
def finishInteger (positive : Bool) (significand : Nat) (s : List Char) :
    Except Fault (Value × List Char) :=
  match s with
  | '.' :: r => readFraction positive false significand 0 r
  | c :: r =>
    if isExponentMark c then readExponent positive significand 0 r
    else integer s
  | [] => integer []
where
  integer (rest : List Char) : Except Fault (Value × List Char) :=
    match signedInteger? positive significand with
    | some n => .ok (.int n, rest)
    | none => makeFloat positive significand 0 rest

def readInteger (positive : Bool) : Nat → List Char → Except Fault (Value × List Char)
  | significand, [] => finishInteger positive significand []
  | significand, c :: r =>
    if c.isDigit then
      let m := 10 * significand + (c.toNat - '0'.toNat)
      if maxUnsigned < m then readLongInteger positive significand (c :: r)
      else readInteger positive m r
    else finishInteger positive significand (c :: r)

/-- A number after its sign. -/
def readNumber (positive : Bool) (s : List Char) : Except Fault (Value × List Char) :=
  match s with
  | [] => faultHere .endInValue []
  | '0' :: r =>
    match r with
    | c :: _ => if c.isDigit then faultAtNext .invalidNumber r else finishInteger positive 0 r
    | [] => finishInteger positive 0 []
  | c :: r =>
    if c.isDigit then readInteger positive (c.toNat - '0'.toNat) r
    else .error ⟨.invalidNumber, s, 1⟩

/-- The items of a list, from its first character or from the comma after an item. -/
def readItems {α : Type} (item : List Char → Except Fault (α × List Char)) :
    Nat → Bool → List α → List Char → Except Fault (List α × List Char)
  | 0, _, _, s => faultAtNext .endInList s
  | fuel + 1, first, done, s =>
    match skipSpace s with
    | [] => faultAtNext .endInList []
    | ']' :: r => .ok (done.reverse, r)
    | c :: r => do
      let s ←
        if first then pure (c :: r)
        else if c = ',' then
          match skipSpace r with
          | [] => .error ⟨.endInValue, [], 1⟩
          | ']' :: r => .error ⟨.trailingComma, ']' :: r, 1⟩
          | s => pure s
        else .error ⟨.expectedListEnd, c :: r, 1⟩
      let (v, s) ← item s
      readItems item fuel false (v :: done) s

/-- The members of an object, from its first character or from the comma after a member. One of
them is read behind its opening quote, with what those before it came to. -/
def readMembers {α : Type} (member : α → List Char → Except Fault (α × List Char)) :
    Nat → Bool → α → List Char → Except Fault (α × List Char)
  | 0, _, _, s => faultAtNext .endInObject s
  | fuel + 1, first, done, s =>
    match skipSpace s with
    | [] => faultAtNext .endInObject []
    | '}' :: r => .ok (done, r)
    | c :: r => do
      let s ←
        if first then
          if c = '"' then pure r else .error ⟨.keyNotString, c :: r, 1⟩
        else if c = ',' then
          match skipSpace r with
          | [] => .error ⟨.endInValue, [], 1⟩
          | '"' :: r => pure r
          | '}' :: r => .error ⟨.trailingComma, '}' :: r, 1⟩
          | s => .error ⟨.keyNotString, s, 1⟩
        else .error ⟨.expectedObjectEnd, c :: r, 1⟩
      let (done, s) ← member done s
      readMembers member fuel false done s

/-- The colon between a key and its value. -/
def readColon (s : List Char) : Except Fault (List Char) :=
  match skipSpace s with
  | [] => .error ⟨.endInObject, [], 1⟩
  | ':' :: r => .ok r
  | s => .error ⟨.expectedColon, s, 1⟩

/-- A member that is put to those before it, in place of one with its key. -/
def readMember (item : List Char → Except Fault (Value × List Char)) (size : Nat)
    (done : List (String × Value)) (s : List Char) :
    Except Fault (List (String × Value) × List Char) := do
  let (key, s) ← readString size [] s
  let s ← readColon s
  let (v, s) ← item s
  return (Sorted.put key v done, s)

/-- One value. `size` bounds the length of the text. -/
def readValue (size : Nat) : Nat → List Char → Except Fault (Value × List Char)
  | 0, s => faultAtNext .tooDeep s
  | depth + 1, s =>
    match skipSpace s with
    | [] => faultAtNext .endInValue []
    | 'n' :: r => readLiteral .null "ull".toList r
    | 't' :: r => readLiteral (.bool true) "rue".toList r
    | 'f' :: r => readLiteral (.bool false) "alse".toList r
    | '-' :: r => readNumber false r
    | '"' :: r => do
      let (t, r) ← readString size [] r
      return (.string t, r)
    | '[' :: r =>
      if depth = 0 then faultAtNext .tooDeep ('[' :: r)
      else do
        let (items, r) ← readItems (readValue size depth) size true [] r
        return (.array items, r)
    | '{' :: r =>
      if depth = 0 then faultAtNext .tooDeep ('{' :: r)
      else do
        let (members, r) ← readMembers (readMember (readValue size depth) size) size true [] r
        return (.object members, r)
    | c :: r => if c.isDigit then readNumber true (c :: r) else faultAtNext .expectedValue (c :: r)

/-- The depth of values that texts of any origin may have. -/
def standardDepth : Nat := 128

/-- Reads a text that holds one thing and nothing else. The length of the text bounds its parts. -/
def readWhole {α : Type} (read : Nat → List Char → Except Fault (α × List Char))
    (text : List Char) : Except Fault α := do
  let (a, r) ← read (text.length + 1) text
  match skipSpace r with
  | [] => return a
  | r => .error ⟨.trailingCharacters, r, 1⟩

/-- Reads a text that holds one value. -/
def readText (depth : Nat) (text : List Char) : Except Fault Value :=
  readWhole (readValue · depth) text

/-- The value of a text, or the message of its fault. -/
def parse (text : String) : Except String Value :=
  match readText standardDepth text.toList with
  | .ok v => .ok v
  | .error fault => .error (fault.message text.toList)

end SopDocs.Json
