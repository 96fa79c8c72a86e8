import SopDocs.Failure
import SopDocs.Text.Utf8
/-!
Glob patterns for paths. A pattern is matched against the bytes of a whole path, and only `**` as a
whole component knows about slashes: a star or a question mark matches them too. Braces group
alternatives and may be nested; a backslash takes the next character as it is.
-/

namespace SopDocs

namespace Glob

/-- Bounds of a run of characters, both included. -/
abbrev CharRange := Char × Char

inductive Token where
  | literal (c : Char)
  | anyByte
  | anyText
  /-- `**` at the start, with the slash after it: nothing, or directories. -/
  | leadingDirs
  /-- `**` at the end, with the slash before it: anything below. -/
  | trailingDirs
  /-- `**` in the middle, with both slashes. -/
  | innerDirs
  | charClass (negated : Bool) (ranges : List CharRange)
  | group (branches : List (List Token))
deriving Inhabited

/-! ### Matching -/

def slash : Nat := 0x2F

/-- Runs of bytes that a class of characters stands for: a range from the last byte of its first
character to the first byte of its last one, and the other bytes of both by themselves. -/
def byteRanges (r : CharRange) : List (Nat × Nat) :=
  let low := Text.utf8Bytes r.1
  let high := Text.utf8Bytes r.2
  if r.1 = r.2 then low.map fun b => (b, b)
  else (low.dropLast ++ high.drop 1).map (fun b => (b, b)) ++ [(low.getLastD 0, high.headD 0)]

def inClass (ranges : List CharRange) (b : Nat) : Bool :=
  (ranges.flatMap byteRanges).any fun r => r.1 ≤ b && b ≤ r.2

/-- Whether the rest after any number of bytes satisfies `k`. -/
def afterAny (k : List Nat → Bool) : List Nat → Bool
  | [] => k []
  | b :: r => k (b :: r) || afterAny k r

/-- Whether a slash comes next and the rest after it satisfies `k`. -/
def afterSlash (k : List Nat → Bool) : List Nat → Bool
  | [] => false
  | b :: r => b == slash && k r

def afterLiteral (k : List Nat → Bool) : List Nat → List Nat → Bool
  | [], s => k s
  | _ :: _, [] => false
  | a :: w, b :: s => a == b && afterLiteral k w s

mutual
/-- A group of branches without content stands for nothing. -/
def Token.isVoid : Token → Bool
  | .group branches => allBranchesVoid branches
  | _ => false

def allVoid : List Token → Bool
  | [] => true
  | t :: r => t.isVoid && allVoid r

def allBranchesVoid : List (List Token) → Bool
  | [] => true
  | branch :: r => allVoid branch && allBranchesVoid r
end

mutual
/-- Whether a token matches a start of the bytes such that the rest satisfies `k`. -/
def Token.accepts (k : List Nat → Bool) : Token → List Nat → Bool
  | .literal c, s => afterLiteral k (Text.utf8Bytes c) s
  | .anyByte, [] => false
  | .anyByte, _ :: r => k r
  | .anyText, s => afterAny k s
  | .leadingDirs, s => k s || afterAny (afterSlash k) s
  | .trailingDirs, s => afterSlash (afterAny k) s
  | .innerDirs, s => afterSlash (fun r => k r || afterAny (afterSlash k) r) s
  | .charClass _ _, [] => false
  | .charClass negated ranges, b :: r => (inClass ranges b != negated) && k r
  | .group branches, s => (allBranchesVoid branches && k s) || anyAccepts k branches s

/-- Tokens one after another. -/
def allAccept (k : List Nat → Bool) : List Token → List Nat → Bool
  | [], s => k s
  | t :: r, s => t.accepts (allAccept k r) s

/-- One of several branches; a branch that stands for nothing does not count. -/
def anyAccepts (k : List Nat → Bool) : List (List Token) → List Nat → Bool
  | [], _ => false
  | branch :: r, s => (!allVoid branch && allAccept k branch s) || anyAccepts k r s
end

/-- Whether tokens match a whole text. -/
def matchesBytes (tokens : List Token) (s : List Nat) : Bool :=
  match tokens with
  | [.leadingDirs] => true
  | tokens => allAccept List.isEmpty tokens s

/-! ### Reading -/

/-- Characters of a class up to its closing bracket: the ranges so far in reverse, and whether a
dash waits for the end of a range. -/
def readClass (first inRange : Bool) (done : List CharRange) :
    List Char → Except GlobFault (List CharRange × List Char)
  | [] => .error .unclosedClass
  | c :: r =>
    if c = ']' ∧ !first then
      .ok ((if inRange then ('-', '-') :: done else done).reverse, r)
    else if c = '-' ∧ !first ∧ !inRange then readClass false true done r
    else if inRange then
      match done with
      | (low, _) :: rest =>
        if c < low then .error (.invalidRange low c) else readClass false false ((low, c) :: rest) r
      | [] => readClass false false [(c, c)] r
    else readClass false false ((c, c) :: done) r

/-- A class after its opening bracket. -/
def readWholeClass (s : List Char) : Except GlobFault (Token × List Char) :=
  let (negated, s) := match s with
    | '!' :: r => (true, r)
    | '^' :: r => (true, r)
    | s => (false, s)
  (readClass true false [] s).map fun (ranges, r) => (.charClass negated ranges, r)

/-- What has been read of the open groups: the branch at work in reverse, and for each open group
around it the finished branches and the branch it stands in. -/
structure Pending where
  branch : List Token
  outer : List (List (List Token) × List Token)

namespace Pending

def push (p : Pending) (t : Token) : Pending := { p with branch := t :: p.branch }

def pushAll (p : Pending) (ts : List Token) : Pending := ts.foldl push p

def openGroup (p : Pending) : Pending := ⟨[], ([], p.branch) :: p.outer⟩

def nextBranch? (p : Pending) : Option Pending :=
  match p.outer with
  | [] => none
  | (done, around) :: r => some ⟨[], (done ++ [p.branch.reverse], around) :: r⟩

def closeGroup? (p : Pending) : Option Pending :=
  match p.outer with
  | [] => none
  | (done, around) :: r => some ⟨.group (done ++ [p.branch.reverse]) :: around, r⟩

def inGroup (p : Pending) : Bool := !p.outer.isEmpty

/-- Replaces the slash before a pair of stars. -/
def replaceSlash (p : Pending) (t : Token) : Pending :=
  match p.branch with
  | .leadingDirs :: _ => p
  | .trailingDirs :: _ => p
  | _ :: r => { p with branch := t :: r }
  | [] => p.push t

/-- Takes a pair of stars in, given the character before it; the answer tells whether a slash after
it is part of it. -/
def pushStars (p : Pending) (before : Option Char) (next : Option Char) : Pending × Bool :=
  let plain := (p.pushAll [.anyText, .anyText], false)
  if p.branch.isEmpty then
    match next with
    | none => (p.push .leadingDirs, false)
    | some '/' => (p.push .leadingDirs, true)
    | some _ => plain
  else if before ≠ some '/' ∧ !(p.inGroup && (before == some ',' || before == some '\x7b')) then
    plain
  else
    match next with
    | none => (p.replaceSlash .trailingDirs, false)
    | some '/' => (p.replaceSlash .innerDirs, true)
    | some c =>
      if p.inGroup && (c == ',' || c == '\x7d') then (p.replaceSlash .trailingDirs, false)
      else plain

end Pending

/-- Reads tokens; `before` is the character before the rest. The bound is the length of the text. -/
def readTokens : Nat → Option Char → Pending → List Char → Except GlobFault Pending
  | 0, _, p, _ => .ok p
  | _ + 1, _, p, [] => .ok p
  | bound + 1, before, p, c :: r =>
    match c with
    | '?' => readTokens bound c (p.push .anyByte) r
    | '*' =>
      match r with
      | '*' :: r =>
        match p.pushStars before r.head? with
        | (p, true) => readTokens bound '/' p (r.drop 1)
        | (p, false) => readTokens bound '*' p r
      | r => readTokens bound c (p.push .anyText) r
    | '[' => do
      let (t, r) ← readWholeClass r
      readTokens bound ']' (p.push t) r
    | '\x7b' => readTokens bound c p.openGroup r
    | '\x7d' =>
      match p.closeGroup? with
      | none => .error .unopenedGroup
      | some p => readTokens bound c p r
    | ',' =>
      match p.nextBranch? with
      | none => readTokens bound c (p.push (.literal ',')) r
      | some p => readTokens bound c p r
    | '\\' =>
      match r with
      | [] => .error .danglingEscape
      | d :: r => readTokens bound d (p.push (.literal d)) r
    | c => readTokens bound c (p.push (.literal c)) r

end Glob

structure Glob where
  tokens : List Glob.Token
deriving Inhabited

namespace Glob

/-- Reads a pattern. -/
def parse (pattern : String) : Except GlobFault Glob := do
  let p ← readTokens pattern.length none ⟨[], []⟩ pattern.toList
  if p.inGroup then throw .unclosedGroup else return ⟨p.branch.reverse⟩

/-- Whether the pattern matches a whole path, as it is spelled. -/
def matchesPath (g : Glob) (path : Path) : Bool :=
  matchesBytes g.tokens (Text.utf8 path.text.toList)

/-- Reads patterns; the first malformed one is the failure. -/
def parseAll (patterns : List String) : Except Failure (List Glob) :=
  patterns.mapM fun pattern => match parse pattern with
    | .ok g => .ok g
    | .error fault => .error (.invalidGlob pattern fault)

end Glob

end SopDocs
