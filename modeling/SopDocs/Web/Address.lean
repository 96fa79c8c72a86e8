import SopDocs.Text.Search
import SopDocs.Text.Word
import SopDocs.Web.Percent
/-!
Numeric hosts. An IPv4 address has up to four numbers in decimal, octal or hexadecimal, the last one
filling the remaining bytes; an IPv6 address has eight groups, of which one run of zeros may be left
out.
-/

namespace SopDocs.Web

/-- The digits of a number with its base given by how it starts. -/
def numberBase : List Char → Nat × List Char
  | '0' :: 'x' :: r => (16, r)
  | '0' :: 'X' :: r => (16, r)
  | '0' :: c :: r => (8, c :: r)
  | s => (10, s)

/-- Value of digits in a base; an empty text is zero. -/
def numberValue? (base : Nat) (s : List Char) : Option Nat :=
  s.foldlM (fun n c => do
    let d ← hexDigitValue? c
    if d < base then some (base * n + d) else none) 0

def ipv4Number? (s : List Char) : Option Nat :=
  if s = [] then none else numberValue? (numberBase s).1 (numberBase s).2

/-- The labels of a domain, without the empty one after a final dot. -/
def labelsOf (domain : List Char) : List (List Char) :=
  let parts := Text.pieces (· == '.') domain
  match parts.reverse with
  | [] :: a :: r => (a :: r).reverse
  | _ => parts

/-- Whether a domain has to be an IPv4 address: its last label is a number. -/
def endsInNumber (domain : List Char) : Bool :=
  match (labelsOf domain).getLast? with
  | none => false
  | some [] => false
  | some label => label.all Char.isDigit || (ipv4Number? label).isSome

/-- The value of an IPv4 address. -/
def ipv4? (domain : List Char) : Option Nat := do
  let labels := labelsOf domain
  if 4 < labels.length then none
  else
    let numbers ← labels.mapM ipv4Number?
    match numbers.reverse with
    | [] => none
    | last :: front =>
      if front.any (255 < ·) || Nat.pow 256 (4 - front.length) ≤ last then none
      else
        some (front.reverse.foldr (fun n (acc : Nat × Nat) =>
          (acc.1 + n * Nat.pow 256 acc.2, acc.2 + 1)) (last, 4 - front.length)).1

def ipv4Text (n : Nat) : List Char :=
  ".".intercalate ([n / 16777216 % 256, n / 65536 % 256, n / 256 % 256, n % 256].map toString)
    |>.toList

/-- A group of an IPv6 address: one to four hexadecimal digits. -/
def ipv6Group? (s : List Char) : Option Nat :=
  if s = [] ∨ 4 < s.length then none else numberValue? 16 s

/-- The two groups of a dotted address at the end of an IPv6 address. -/
def dottedGroups? (s : List Char) : Option (List Nat) := do
  let parts := Text.pieces (· == '.') s
  let numbers ← parts.mapM fun p =>
    if p ≠ [] ∧ p.all Char.isDigit ∧ (p.length = 1 ∨ p.head? ≠ some '0') ∧ Text.digitsValue p ≤ 255
    then some (Text.digitsValue p) else none
  match numbers with
  | [a, b, c, d] => some [256 * a + b, 256 * c + d]
  | _ => none

/-- The groups on one side of the gap; only the last one may be dotted. -/
def ipv6Side? (dotted : Bool) (s : List Char) : Option (List Nat) :=
  if s = [] then some []
  else
    let parts := Text.pieces (· == ':') s
    match parts.reverse with
    | [] => none
    | last :: front => do
      let groups ← front.reverse.mapM ipv6Group?
      if dotted && last.contains '.' then return groups ++ (← dottedGroups? last)
      else return groups ++ [← ipv6Group? last]

/-- Cuts a text at the first pair of colons. -/
def cutGap? : List Char → Option (List Char × List Char)
  | ':' :: ':' :: r => some ([], r)
  | c :: r => (cutGap? r).map fun (a, b) => (c :: a, b)
  | [] => none

/-- The eight groups of an IPv6 address. -/
def ipv6? (s : List Char) : Option (List Nat) :=
  match cutGap? s with
  | none => do
    let groups ← ipv6Side? true s
    if groups.length = 8 then some groups else none
  | some (left, right) => do
    let a ← ipv6Side? false left
    let b ← ipv6Side? true right
    if a.length + b.length ≤ 7 then some (a ++ List.replicate (8 - a.length - b.length) 0 ++ b)
    else none

/-- Length of the run of zeros at the start of a list. -/
def zeroRun (groups : List Nat) : Nat := (groups.takeWhile (· == 0)).length

/-- Start and length of the first longest run of at least two zeros. -/
def longestZeros (groups : List Nat) : Option (Nat × Nat) :=
  let runs := (List.range 8).map fun i => (i, zeroRun (groups.drop i))
  runs.foldl (fun best run =>
    if run.2 < 2 then best
    else match best with
      | none => some run
      | some b => if b.2 < run.2 then some run else best) none

def groupText (n : Nat) : List Char := Nat.toDigits 16 n

def groupsText (groups : List Nat) : List Char :=
  [':'].intercalate (groups.map groupText)

def ipv6Text (groups : List Nat) : List Char :=
  match longestZeros groups with
  | none => groupsText groups
  | some (i, n) => groupsText (groups.take i) ++ ':' :: ':' :: groupsText (groups.drop (i + n))

end SopDocs.Web
