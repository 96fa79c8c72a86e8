/-!
Why a text is not JSON, and where this is noticed. A fault keeps the unread rest of the text and the
number of bytes already looked at beyond it; lines and columns are computed from that.
-/

namespace SopDocs.Json

inductive Cause where
  | endInValue
  | endInList
  | endInObject
  | endInString
  | expectedValue
  | expectedLiteral
  | expectedColon
  | expectedListEnd
  | expectedObjectEnd
  | keyNotString
  | trailingComma
  | trailingCharacters
  | invalidNumber
  | numberOutOfRange
  | invalidEscape
  | loneSurrogate
  | unfinishedEscape
  | controlCharacter
  | tooDeep
  | repeatedField (key : String)
deriving DecidableEq, Inhabited

def Cause.message : Cause → String
  | endInValue => "EOF while parsing a value"
  | endInList => "EOF while parsing a list"
  | endInObject => "EOF while parsing an object"
  | endInString => "EOF while parsing a string"
  | expectedValue => "expected value"
  | expectedLiteral => "expected ident"
  | expectedColon => "expected `:`"
  | expectedListEnd => "expected `,` or `]`"
  | expectedObjectEnd => "expected `,` or `\x7d`"
  | keyNotString => "key must be a string"
  | trailingComma => "trailing comma"
  | trailingCharacters => "trailing characters"
  | invalidNumber => "invalid number"
  | numberOutOfRange => "number out of range"
  | invalidEscape => "invalid escape"
  | loneSurrogate => "lone leading surrogate in hex escape"
  | unfinishedEscape => "unexpected end of hex escape"
  | controlCharacter => "control character (\\u0000-\\u001F) found while parsing a string"
  | tooDeep => "recursion limit exceeded"
  | repeatedField key => s!"duplicate field `{key}`"

structure Fault where
  cause : Cause
  rest : List Char
  ahead : Nat

/-- Number of bytes of a text in UTF-8. -/
def byteSize (s : List Char) : Nat := (s.map Char.utf8Size).foldl (· + ·) 0

/-- The bytes of the text up to `index`, as far as lines are concerned: every byte of a character
other than a line feed counts as one column. -/
def lineColumn : List Char → Nat → Nat → Nat → Nat × Nat
  | [], _, line, column => (line, column)
  | c :: r, index, line, column =>
    if index = 0 then (line, column)
    else if c = '\n' then lineColumn r (index - 1) (line + 1) 0
    else if index < c.utf8Size then (line, column + index)
    else lineColumn r (index - c.utf8Size) line (column + c.utf8Size)

/-- Line and column, counted from 1 and 0, of a fault in `text`. -/
def Fault.position (text : List Char) (fault : Fault) : Nat × Nat :=
  lineColumn text (byteSize text - byteSize fault.rest + fault.ahead) 1 0

def Fault.message (text : List Char) (fault : Fault) : String :=
  let (line, column) := fault.position text
  s!"{fault.cause.message} at line {line} column {column}"

end SopDocs.Json
