import SopDocs.Json.Reader
/-!
Reading records: objects of which some members are kept, known by their keys. A kept member that
comes again is a fault. Any other one is passed over without a value being made of it: its numbers
have any size, its strings may hold half of a surrogate pair, and it may nest as deep as it likes.
-/

namespace SopDocs.Json

/-! ### Passing over -/

/-- The rest of an escape that is passed over, after its backslash. -/
def skipEscape (s : List Char) : Except Fault (List Char) :=
  match s with
  | [] => .error ⟨.endInString, [], 0⟩
  | 'u' :: r => (readHex r).map (·.2)
  | c :: r => if c ∈ "\"\\/bfnrt".toList then .ok r else .error ⟨.invalidEscape, r, 0⟩

/-- The rest of a string that is passed over, after its opening quote. -/
def skipString : Nat → List Char → Except Fault (List Char)
  | 0, s => .error ⟨.endInString, s, 0⟩
  | fuel + 1, s =>
    match s with
    | [] => .error ⟨.endInString, [], 0⟩
    | '"' :: r => .ok r
    | '\\' :: r => do
      let r ← skipEscape r
      skipString fuel r
    | c :: r => if c.toNat < 0x20 then .error ⟨.controlCharacter, r, 0⟩ else skipString fuel r

/-- Digits, at least one. -/
def skipDigits (s : List Char) : Except Fault (List Char) :=
  match s with
  | c :: r => if c.isDigit then .ok (r.dropWhile Char.isDigit) else .error ⟨.invalidNumber, s, 1⟩
  | [] => .error ⟨.invalidNumber, [], 1⟩

/-- The digits before the point: a zero starts no others. -/
def skipWhole (s : List Char) : Except Fault (List Char) :=
  match s with
  | '0' :: c :: r => if c.isDigit then .error ⟨.invalidNumber, c :: r, 1⟩ else .ok (c :: r)
  | s => skipDigits s

/-- The point with the digits behind it, if there is one. -/
def skipFraction (s : List Char) : Except Fault (List Char) :=
  match s with
  | '.' :: r => skipDigits r
  | s => .ok s

/-- The exponent, if there is one. -/
def skipExponent (s : List Char) : Except Fault (List Char) :=
  match s with
  | c :: r =>
    if isExponentMark c then
      skipDigits (match r with
        | '+' :: r => r
        | '-' :: r => r
        | r => r)
    else .ok s
  | [] => .ok []

/-- A number after its sign. -/
def skipNumber (s : List Char) : Except Fault (List Char) := do
  let s ← skipWhole s
  let s ← skipFraction s
  skipExponent s

/-- A member that is passed over. -/
def skipMember (item : List Char → Except Fault (Unit × List Char)) (size : Nat) (_ : Unit)
    (s : List Char) : Except Fault (Unit × List Char) := do
  let s ← skipString size s
  let s ← readColon s
  item s

/-- One value, of which nothing is kept. `size` bounds the length of the text. -/
def skipValue (size : Nat) : Nat → List Char → Except Fault (Unit × List Char)
  | 0, s => faultAtNext .tooDeep s
  | depth + 1, s =>
    match skipSpace s with
    | [] => faultAtNext .endInValue []
    | 'n' :: r => (readLiteral .null "ull".toList r).map fun p => ((), p.2)
    | 't' :: r => (readLiteral (.bool true) "rue".toList r).map fun p => ((), p.2)
    | 'f' :: r => (readLiteral (.bool false) "alse".toList r).map fun p => ((), p.2)
    | '-' :: r => (skipNumber r).map fun r => ((), r)
    | '"' :: r => (skipString size r).map fun r => ((), r)
    | '[' :: r => (readItems (skipValue size depth) size true [] r).map fun p => ((), p.2)
    | '{' :: r => readMembers (skipMember (skipValue size depth) size) size true () r
    | c :: r =>
      if c.isDigit then (skipNumber (c :: r)).map fun r => ((), r)
      else faultAtNext .expectedValue (c :: r)

/-! ### Records -/

/-- A member of a record: it is kept if its key is that of a field. -/
def readField (fields : List String) (item : List Char → Except Fault (Value × List Char))
    (size : Nat) (done : List (String × Value)) (s : List Char) :
    Except Fault (List (String × Value) × List Char) := do
  let (key, s) ← readString size [] s
  if key ∈ fields then
    if Sorted.contains key done then faultHere (.repeatedField key) s
    else
      let s ← readColon s
      let (v, s) ← item s
      return (Sorted.put key v done, s)
  else
    let s ← readColon s
    let (_, s) ← skipValue size size s
    return (done, s)

/-- One value, with only the fields of it if it is an object. -/
def readRecord (fields : List String) (size : Nat) : Nat → List Char →
    Except Fault (Value × List Char)
  | 0, s => faultAtNext .tooDeep s
  | depth + 1, s =>
    match skipSpace s with
    | '{' :: r =>
      if depth = 0 then faultAtNext .tooDeep ('{' :: r)
      else do
        let (members, r) ← readMembers (readField fields (readValue size depth) size) size true [] r
        return (.object members, r)
    | s => readValue size (depth + 1) s

/-- A list of records. -/
def readRecords (fields : List String) (size : Nat) : Nat → List Char →
    Except Fault (List Value × List Char)
  | 0, s => faultAtNext .tooDeep s
  | depth + 1, s =>
    match skipSpace s with
    | '[' :: r =>
      if depth = 0 then faultAtNext .tooDeep ('[' :: r)
      else readItems (readRecord fields size depth) size true [] r
    | [] => faultAtNext .endInValue []
    | s => faultAtNext .expectedValue s

end SopDocs.Json
