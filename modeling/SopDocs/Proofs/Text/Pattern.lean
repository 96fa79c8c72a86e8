import SopDocs.Conventions

/-!
# What a pattern finds

A pattern is a text that describes texts. Its parts are single characters, counts behind them,
marks for the start and the end of what is searched, and parentheses around what is captured. A
character with a meaning of its own stands for itself behind a backslash. A pattern is found
where its parts, one after the other, take what follows.

A text in which each such character has its backslash is found where the text itself stands.
-/

namespace SopDocs

namespace Pattern

open Conventions (patternMarks literalPattern)

/-! ### The parts of a pattern -/

/-- What takes one character. -/
inductive Single where
  | char (c : Char)
  | digit
  | any

/-- How many characters in a row. -/
inductive Count where
  | exactly (n : Nat)
  | atLeast (n : Nat)

inductive Mark where
  | start
  | stop
  | opening
  | closing

/-- What stands in a pattern, counts by themselves. -/
inductive Symbol where
  | single (single : Single)
  | count (count : Count)
  | mark (mark : Mark)

/-- A part of a pattern, counts with what they count. -/
inductive Item where
  | run (single : Single) (count : Count)
  | mark (mark : Mark)

/-- What a character behind a backslash stands for. -/
def escaped? (c : Char) : Option Single :=
  if c = 'd' then some .digit
  else if patternMarks.contains c then some (.char c)
  else none

/-- What a character without a backslash stands for. -/
def symbol? (c : Char) : Option Symbol :=
  match c with
  | '^' => some (.mark .start)
  | '$' => some (.mark .stop)
  | '(' => some (.mark .opening)
  | ')' => some (.mark .closing)
  | '.' => some (.single .any)
  | '*' => some (.count (.atLeast 0))
  | '+' => some (.count (.atLeast 1))
  | c => if patternMarks.contains c then none else some (.single (.char c))

/-- Cuts a pattern into symbols; none if it holds anything else. -/
def symbols? : List Char → Option (List Symbol)
  | [] => some []
  | '\\' :: c :: r => (escaped? c).bind fun single => (symbols? r).map (.single single :: ·)
  | '\x7b' :: d :: '\x7d' :: r =>
    if d.isDigit then (symbols? r).map (.count (.exactly (Text.digitsValue [d])) :: ·) else none
  | c :: r => (symbol? c).bind fun symbol => (symbols? r).map (symbol :: ·)

/-- Puts each count to the character in front of it. -/
def items? : List Symbol → Option (List Item)
  | [] => some []
  | .single single :: .count count :: r => (items? r).map (.run single count :: ·)
  | .single single :: r => (items? r).map (.run single (.exactly 1) :: ·)
  | .count _ :: _ => none
  | .mark mark :: r => (items? r).map (.mark mark :: ·)

/-- The parts of a pattern, in order. -/
def parse? (pattern : List Char) : Option (List Item) := (symbols? pattern).bind items?

/-! ### Matching -/

def Single.Accepts : Single → Char → Prop
  | .char a, c => c = a
  | .digit, c => Text.isDecimalDigit c = true
  | .any, c => c ≠ '\n'

def Count.Allows : Count → Nat → Prop
  | .exactly n, k => k = n
  | .atLeast n, k => n ≤ k

/-- A place in the text that is searched. -/
structure State where
  before : List Char
  rest : List Char
  /-- How much stood before each parenthesis that is still open. -/
  opened : List Nat
  captured : List (List Char)

/-- Goes on over a part of the text. -/
def State.take (s : State) (taken rest : List Char) : State :=
  { s with before := s.before ++ taken, rest }

/-- What one part of a pattern does. -/
def Step : Item → State → State → Prop
  | .run single count, s, t => ∃ taken rest, s.rest = taken ++ rest ∧
      (∀ c ∈ taken, single.Accepts c) ∧ count.Allows taken.length ∧ t = s.take taken rest
  | .mark .start, s, t => s.before = [] ∧ t = s
  | .mark .stop, s, t => s.rest = [] ∧ t = s
  | .mark .opening, s, t => t = { s with opened := s.before.length :: s.opened }
  | .mark .closing, s, t => ∃ n opened, s.opened = n :: opened ∧
      t = { s with opened, captured := s.captured ++ [s.before.drop n] }

def Steps : List Item → State → State → Prop
  | [], s, t => t = s
  | item :: items, s, t => ∃ u, Step item s u ∧ Steps items u t

/-- The pattern is found somewhere in the text, with these parts of it captured. -/
def Finds (pattern : String) (text : List Char) (captured : List (List Char)) : Prop :=
  ∃ items, parse? pattern.toList = some items ∧ ∃ before rest t, text = before ++ rest ∧
    Steps items ⟨before, rest, [], []⟩ t ∧ t.captured = captured

/-! ### Reading literal text -/

/-- The symbols of a text that stands for itself. -/
def literalSymbols (s : List Char) : List Symbol := s.map fun c => .single (.char c)

/-- The parts of a text that stands for itself. -/
def literalItems (s : List Char) : List Item := s.map fun c => .run (.char c) (.exactly 1)

theorem escaped?_of_mark {c : Char} (h : c ∈ patternMarks) : escaped? c = some (.char c) := by
  have hd : c ≠ 'd' := by
    rintro rfl
    revert h
    decide
  rw [escaped?, if_neg hd, if_pos (List.contains_iff_mem.mpr h)]

theorem symbol?_of_not_mark {c : Char} (h : c ∉ patternMarks) :
    symbol? c = some (.single (.char c)) := by
  have hmark : patternMarks.contains c = false := by simpa using h
  unfold symbol?
  split
  case h_8 => rw [hmark]; rfl
  all_goals exact absurd (by decide) h

/-- Neither a backslash nor a brace is a symbol by itself. -/
theorem symbols?_cons {c : Char} {symbol : Symbol} (h : symbol? c = some symbol) (r : List Char) :
    symbols? (c :: r) = (symbols? r).map (symbol :: ·) := by
  rw [symbols?, h, Option.bind_some]
  · rintro d - rfl -
    cases h
  · rintro d - rfl -
    cases h

theorem symbols?_escape (c : Char) (r : List Char) :
    symbols? ((if patternMarks.contains c then ['\\', c] else [c]) ++ r) =
      (symbols? r).map (.single (.char c) :: ·) := by
  by_cases h : c ∈ patternMarks
  · rw [if_pos (List.contains_iff_mem.mpr h)]
    simp only [List.cons_append, List.nil_append, symbols?, escaped?_of_mark h, Option.bind_some]
  · rw [if_neg (by simpa using h), List.singleton_append, symbols?_cons (symbol?_of_not_mark h)]

theorem symbols?_literal (s : String) (r : List Char) :
    symbols? ((literalPattern s).toList ++ r) =
      (symbols? r).map (literalSymbols s.toList ++ ·) := by
  unfold literalPattern
  rw [String.toList_ofList]
  induction s.toList with
  | nil => simp [literalSymbols]
  | cons c s ih =>
    rw [List.flatMap_cons, List.append_assoc, symbols?_escape, ih, Option.map_map]
    rfl

/-- No count stands behind a character that another one follows. -/
theorem items?_literal (s : List Char) (single : Single) (r : List Symbol) :
    items? (literalSymbols s ++ .single single :: r) =
      (items? (.single single :: r)).map (literalItems s ++ ·) := by
  induction s with
  | nil => simp [literalSymbols, literalItems]
  | cons c s ih =>
    have hnext : items? (.single (.char c) :: (literalSymbols s ++ .single single :: r)) =
        (items? (literalSymbols s ++ .single single :: r)).map
          (.run (.char c) (.exactly 1) :: ·) := by
      cases s with
      | nil => rfl
      | cons d s => rfl
    show items? (.single (.char c) :: (literalSymbols s ++ .single single :: r)) = _
    rw [hnext, ih, Option.map_map]
    rfl

theorem parse?_mark {c : Char} {mark : Mark} (h : symbol? c = some (.mark mark))
    (r : List Char) : parse? (c :: r) = (parse? r).map (.mark mark :: ·) := by
  rw [parse?, symbols?_cons h, parse?]
  cases symbols? r <;> rfl

/-- A text that stands for itself, with four digits behind it. -/
theorem parse?_literal_digits (s : String) (r : List Char) :
    parse? ((literalPattern s).toList ++ '\\' :: 'd' :: '\x7b' :: '4' :: '\x7d' :: r) =
      (parse? r).map (literalItems s.toList ++ .run .digit (.exactly 4) :: ·) := by
  have hdigits : symbols? ('\\' :: 'd' :: '\x7b' :: '4' :: '\x7d' :: r) =
      (symbols? r).map fun symbols => .single .digit :: .count (.exactly 4) :: symbols := by
    have hvalue : Text.digitsValue ['4'] = 4 := by decide
    have hdigit : '4'.isDigit = true := by decide
    have hclass : escaped? 'd' = some .digit := rfl
    rw [symbols?, symbols?, hvalue, if_pos hdigit, hclass, Option.bind_some, Option.map_map]
    rfl
  rw [parse?, symbols?_literal, hdigits, parse?]
  cases symbols? r with
  | none => rfl
  | some symbols =>
    simp only [Option.map_some, Option.bind_some, items?_literal, items?, Option.map_map]
    rfl

/-! ### Matching literal text -/

theorem steps_append {xs ys : List Item} {s t : State} :
    Steps (xs ++ ys) s t ↔ ∃ u, Steps xs s u ∧ Steps ys u t := by
  induction xs generalizing s with
  | nil => simp [Steps]
  | cons x xs ih =>
    simp only [List.cons_append, Steps, ih]
    constructor
    · rintro ⟨u, hx, v, hxs, hys⟩
      exact ⟨v, ⟨u, hx, hxs⟩, hys⟩
    · rintro ⟨v, ⟨u, hx, hxs⟩, hys⟩
      exact ⟨u, hx, v, hxs, hys⟩

theorem step_char {c : Char} {s t : State} :
    Step (.run (.char c) (.exactly 1)) s t ↔ ∃ rest, s.rest = c :: rest ∧ t = s.take [c] rest := by
  constructor
  · rintro ⟨taken, rest, hrest, hchars, hlength, rfl⟩
    obtain ⟨a, rfl⟩ := List.length_eq_one_iff.mp hlength
    obtain rfl : a = c := hchars a List.mem_cons_self
    exact ⟨rest, hrest, rfl⟩
  · rintro ⟨rest, hrest, rfl⟩
    exact ⟨[c], rest, hrest, fun a ha => List.mem_singleton.mp ha, rfl, rfl⟩

theorem State.take_take (s : State) (a b rest rest' : List Char) :
    (s.take a rest).take b rest' = s.take (a ++ b) rest' := by
  simp only [State.take, List.append_assoc]

/-- A text that stands for itself is found where it stands. -/
theorem steps_literalItems {a : List Char} {s t : State} :
    Steps (literalItems a) s t ↔ ∃ rest, s.rest = a ++ rest ∧ t = s.take a rest := by
  induction a generalizing s with
  | nil =>
    simp only [literalItems, List.map_nil, Steps, List.nil_append, State.take, List.append_nil]
    exact ⟨fun h => ⟨s.rest, rfl, h⟩, fun ⟨rest, hrest, h⟩ => by rw [h, ← hrest]⟩
  | cons c a ih =>
    show (∃ u, Step (.run (.char c) (.exactly 1)) s u ∧ Steps (literalItems a) u t) ↔ _
    simp only [step_char, ih]
    constructor
    · rintro ⟨_, ⟨rest, hrest, rfl⟩, rest', hrest', rfl⟩
      refine ⟨rest', ?_, State.take_take s [c] a rest rest'⟩
      rw [hrest, show rest = a ++ rest' from hrest']
      rfl
    · rintro ⟨rest, hrest, rfl⟩
      exact ⟨_, ⟨a ++ rest, hrest, rfl⟩, rest, rfl, (State.take_take s [c] a _ rest).symm⟩

/-- A pattern that is held to the start looks nowhere else. -/
theorem finds_iff_of_start {pattern : String} {items : List Item} {text : List Char}
    {captured : List (List Char)} (h : parse? pattern.toList = some (.mark .start :: items)) :
    Finds pattern text captured ↔
      ∃ t, Steps items ⟨[], text, [], []⟩ t ∧ t.captured = captured := by
  unfold Finds
  simp only [h, Option.some.injEq, exists_eq_left', Steps, Step]
  constructor
  · rintro ⟨before, rest, t, rfl, ⟨_, ⟨rfl, rfl⟩, hsteps⟩, hcaptured⟩
    exact ⟨t, hsteps, hcaptured⟩
  · rintro ⟨t, hsteps, hcaptured⟩
    exact ⟨[], text, t, rfl, ⟨_, ⟨rfl, rfl⟩, hsteps⟩, hcaptured⟩

end Pattern

end SopDocs
