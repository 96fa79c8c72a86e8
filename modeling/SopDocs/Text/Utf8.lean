/-!
The bytes of characters in UTF-8, and characters read from bytes.
-/

namespace SopDocs.Text

/-- The bytes of a character in UTF-8. -/
def utf8Bytes (c : Char) : List Nat :=
  let n := c.toNat
  if n < 0x80 then [n]
  else if n < 0x800 then [0xC0 + n / 0x40, 0x80 + n % 0x40]
  else if n < 0x10000 then [0xE0 + n / 0x1000, 0x80 + n / 0x40 % 0x40, 0x80 + n % 0x40]
  else [0xF0 + n / 0x40000, 0x80 + n / 0x1000 % 0x40, 0x80 + n / 0x40 % 0x40, 0x80 + n % 0x40]

def utf8 (s : List Char) : List Nat := s.flatMap utf8Bytes

/-- Reads a continuation byte. -/
def continuation? (n : Nat) : Option Nat := if 0x80 ≤ n ∧ n < 0xC0 then some (n - 0x80) else none

/-- The characters of bytes in UTF-8; none if they are not well formed. -/
def decodeUtf8? : List Nat → Option (List Char)
  | [] => some []
  | a :: r =>
    if a < 0x80 then (decodeUtf8? r).map (Char.ofNat a :: ·)
    else
      match r with
      | b :: r =>
        if 0xC2 ≤ a ∧ a < 0xE0 then do
          let y ← continuation? b
          let rest ← decodeUtf8? r
          return Char.ofNat ((a - 0xC0) * 0x40 + y) :: rest
        else
          match r with
          | c :: r =>
            if 0xE0 ≤ a ∧ a < 0xF0 then do
              let y ← continuation? b
              let z ← continuation? c
              let n := ((a - 0xE0) * 0x40 + y) * 0x40 + z
              if n < 0x800 ∨ (0xD800 ≤ n ∧ n < 0xE000) then none
              else do
                let rest ← decodeUtf8? r
                return Char.ofNat n :: rest
            else
              match r with
              | d :: r =>
                if 0xF0 ≤ a ∧ a < 0xF5 then do
                  let y ← continuation? b
                  let z ← continuation? c
                  let w ← continuation? d
                  let n := (((a - 0xF0) * 0x40 + y) * 0x40 + z) * 0x40 + w
                  if n < 0x10000 ∨ 0x10FFFF < n then none
                  else do
                    let rest ← decodeUtf8? r
                    return Char.ofNat n :: rest
                else none
              | [] => none
          | [] => none
      | [] => none

end SopDocs.Text
