import SopDocs.Text.Word
/-!
Days of the proleptic Gregorian calendar, written as year, month and day with dots between. Days are
counted from the first day of year 0.
-/

namespace SopDocs

structure Date where
  year : Nat
  month : Nat
  day : Nat
deriving DecidableEq, Inhabited

namespace Date

def isLeap (year : Nat) : Bool := year % 4 == 0 && (year % 100 != 0 || year % 400 == 0)

def daysInMonth (year month : Nat) : Nat :=
  match month with
  | 2 => if isLeap year then 29 else 28
  | 4 | 6 | 9 | 11 => 30
  | _ => 31

/-- Whether the date is a day of the calendar. -/
def isReal (d : Date) : Bool :=
  1 ≤ d.month && d.month ≤ 12 && 1 ≤ d.day && d.day ≤ daysInMonth d.year d.month

/-- Days of the years before `year`. -/
def daysBeforeYear (year : Nat) : Nat :=
  365 * year + (year + 3) / 4 - (year + 99) / 100 + (year + 399) / 400

/-- Days of the months before `month` of a year. -/
def daysBeforeMonth (year month : Nat) : Nat :=
  ((List.range (month - 1)).map fun m => daysInMonth year (m + 1)).foldl (· + ·) 0

/-- The number of days before a date. -/
def dayNumber (d : Date) : Nat :=
  daysBeforeYear d.year + daysBeforeMonth d.year d.month + (d.day - 1)

/-- Days from one date to another; negative if the other is earlier. -/
def daysUntil (d e : Date) : Int := (e.dayNumber : Int) - d.dayNumber

/-- Digits of a number, padded with zeros to a width. -/
def padded (width n : Nat) : List Char :=
  let ds := Nat.toDigits 10 n
  List.replicate (width - ds.length) '0' ++ ds

def render (separator : Char) (d : Date) : String :=
  String.ofList (padded 4 d.year ++ separator :: padded 2 d.month ++ separator :: padded 2 d.day)

/-- The written form of the documents: `YYYY.MM.DD`. -/
def text (d : Date) : String := d.render '.'

/-- Year, month and day digits at the start of a text, for any notion of digit. -/
def fields? (isDigit : Char → Bool) (s : List Char) :
    Option (List Char × List Char × List Char × List Char) :=
  match s with
  | y₁ :: y₂ :: y₃ :: y₄ :: '.' :: m₁ :: m₂ :: '.' :: d₁ :: d₂ :: r =>
    if [y₁, y₂, y₃, y₄, m₁, m₂, d₁, d₂].all isDigit then
      some ([y₁, y₂, y₃, y₄], [m₁, m₂], [d₁, d₂], r)
    else none
  | _ => none

/-- Whether a text starts with four, two and two decimal digits, dots between them. -/
def startsLikeDate (s : String) : Bool := (fields? Text.isDecimalDigit s.toList).isSome

/-- Reads a text that is a date and nothing else. -/
def parse? (s : String) : Option Date :=
  match fields? Char.isDigit s.toList with
  | some (y, m, d, []) =>
    let date : Date := ⟨Text.digitsValue y, Text.digitsValue m, Text.digitsValue d⟩
    if date.isReal then some date else none
  | _ => none

end Date

end SopDocs
