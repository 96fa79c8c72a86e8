import SopDocs.Markdown.Source
import SopDocs.Text.Search
/-!
Addresses that are links as they stand: in angle brackets, after `http://`, `https://` or `www.`,
and mail addresses. Punctuation at the end of a bare address is not a part of it.
-/

namespace SopDocs.Markdown.Autolink

/-! ### In angle brackets -/

def isSchemeChar (c : Char) : Bool := c.isAlphanum || c == '+' || c == '-' || c == '.'

def isUriChar (c : Char) : Bool :=
  0x20 < c.toNat && c != '<' && c != '>' && c.toNat != 0x7F

/-- Characters of the local part of a mail address. -/
def isLocalChar (c : Char) : Bool :=
  c.isAlphanum || "#$%&'*+-./=?^_\x60\x7b|\x7d~".toList.contains c

def longestScheme : Nat := 32

def longestDomainLabel : Nat := 63

/-- The rest after an end bracket. -/
def afterBracket? (gs : List Glyph) : Option (List Glyph) :=
  match gs with
  | [] => none
  | g :: r => if g.char == '>' then some r else none

/-- An address with a scheme of its own. -/
def uri? (gs : List Glyph) : Option (List Glyph × List Glyph) :=
  let scheme := gs.takeWhile fun g => isSchemeChar g.char
  let rest := gs.dropWhile fun g => isSchemeChar g.char
  if (scheme.head?.map (·.char.isAlpha)).getD false && 2 ≤ scheme.length &&
      scheme.length ≤ longestScheme && rest.head?.map (·.char) == some ':' then
    (afterBracket? (rest.dropWhile fun g => isUriChar g.char)).map fun r =>
      (scheme ++ rest.takeWhile (fun g => isUriChar g.char), r)
  else none

/-- Whether a text may stand between the dots of a domain. -/
def isDomainLabel (cs : List Char) : Bool :=
  !cs.isEmpty && cs.head? != some '-' && cs.getLast? != some '-' && cs.length ≤ longestDomainLabel

/-- A mail address in angle brackets. -/
def email? (gs : List Glyph) : Option (List Glyph × List Glyph) :=
  let localPart := gs.takeWhile fun g => isLocalChar g.char
  match gs.dropWhile fun g => isLocalChar g.char with
  | [] => none
  | at_ :: r =>
    let isDomainChar (g : Glyph) := g.char.isAlphanum || g.char == '-' || g.char == '.'
    let domain := r.takeWhile isDomainChar
    if at_.char == '@' && !localPart.isEmpty &&
        (Text.pieces (· == '.') (domain.map (·.char))).all isDomainLabel then
      (afterBracket? (r.dropWhile isDomainChar)).map fun rest => (localPart ++ at_ :: domain, rest)
    else none

/-- The address in angle brackets whose opening one is already read: what precedes it in the target,
the address and the rest. -/
def bracketed? (gs : List Glyph) : Option (String × List Glyph × List Glyph) :=
  match uri? gs with
  | some (text, r) => some ("", text, r)
  | none => (email? gs).map fun (text, r) => ("mailto:", text, r)

/-! ### Bare web addresses -/

/-- Whether a text is the end of an address: punctuation only, up to white space or `<`. Within a
character reference, `letters` says whether a letter was read. -/
def isTrail (letters : Option Bool) : List Glyph → Bool
  | [] => letters.isNone
  | g :: r =>
    match letters with
    | some seen =>
      if g.char.isAlpha then isTrail (some true) r
      else if g.char == ';' && seen then isTrail none r
      else false
    | none =>
      if "!\"')*,.:;?_~".toList.contains g.char then isTrail none r
      else if g.char == '&' then isTrail (some false) r
      else if g.char == ']' then
        match r with
        | [] => true
        | h :: _ => h.isBlank || h.char == '(' || h.char == '[' || isTrail none r
      else g.char == '<' || flankOf g.char == .blank

/-- The rest after the domain of an address. An underscore may not be in its last two parts: `last`
and `previous` say whether they hold one. -/
def afterDomain? (last previous seen : Bool) : List Glyph → Option (List Glyph)
  | [] => if last || previous || !seen then none else some []
  | g :: r =>
    if (g.char == '.' || g.char == '_') && !isTrail none (g :: r) then
      if g.char == '_' then afterDomain? true previous seen r else afterDomain? false last seen r
    else if g.char == '-' then afterDomain? last previous seen r
    else if flankOf g.char == .other then afterDomain? last previous true r
    else if last || previous || !seen then none
    else some (g :: r)

/-- The rest after the path of an address. A closing parenthesis belongs to it while fewer of them
were read than opening ones. -/
def afterPath (opened closed : Nat) : List Glyph → List Glyph
  | [] => []
  | g :: r =>
    if g.char == '(' then afterPath (opened + 1) closed r
    else if g.char == ')' then
      if closed < opened || !isTrail none (g :: r) then afterPath opened (closed + 1) r else g :: r
    else if "!\"&'*,.:;<?]_~".toList.contains g.char then
      if isTrail none (g :: r) then g :: r else afterPath opened closed r
    else if flankOf g.char == .blank then g :: r
    else afterPath opened closed r

/-- The rest after the domain and the path of an address. -/
def afterAddress? (gs : List Glyph) : Option (List Glyph) :=
  (afterDomain? false false false gs).map (afterPath 0 0)

/-- An address with its scheme: what precedes it in the target, and the rest. -/
def schemeRest? (previous : Option Char) (gs : List Glyph) : Option (String × List Glyph) :=
  let scheme := gs.takeWhile (·.char.isAlpha)
  let name := scheme.map (·.char.toLower)
  let rest := gs.dropWhile (·.char.isAlpha)
  if (previous.map Char.isAlpha).getD false then none
  else if (name == "http".toList || name == "https".toList) &&
      (rest.take 3).map (·.char) == "://".toList then
    (afterAddress? (rest.drop 3)).map fun r => ("", r)
  else none

/-- Whether an address may start at `www.` after a character. -/
def mayPrecedeHost (previous : Option Char) : Bool :=
  match previous with
  | none => true
  | some c => "\t\n (*_[]~".toList.contains c

/-- An address that starts at `www.`: what precedes it in the target, and the rest. -/
def hostRest? (previous : Option Char) (gs : List Glyph) : Option (String × List Glyph) :=
  if mayPrecedeHost previous && (gs.take 4).map (·.char.toLower) == "www.".toList &&
      !(gs.drop 4).isEmpty then
    (afterAddress? gs).map fun r => ("http://", r)
  else none

/-- A bare web address: what precedes it in the target, and the rest. -/
def bare? (previous : Option Char) (gs : List Glyph) : Option (String × List Glyph) :=
  (schemeRest? previous gs).or (hostRest? previous gs)

/-! ### Bare mail addresses -/

/-- Characters before the `@` of a bare mail address. -/
def isMailboxChar (c : Char) : Bool := c.isAlphanum || c == '+' || c == '-' || c == '.' || c == '_'

/-- The domain of a mail address and the rest. A dot belongs to it only before a letter or digit. -/
def mailDomain (slashes : Bool) : List Glyph → List Glyph × List Glyph
  | [] => ([], [])
  | g :: r =>
    let c := g.char
    if c.isAlphanum || c == '-' || c == '_' || (slashes && c == '/') ||
        (c == '.' && (r.head?.map (·.char.isAlphanum)).getD false) then
      let (domain, rest) := mailDomain slashes r
      (g :: domain, rest)
    else ([], g :: r)

/-- A domain with a dot and a letter at its end, and the rest. -/
def mailDomain? (slashes : Bool) (gs : List Glyph) : Option (List Glyph × List Glyph) :=
  let (domain, rest) := mailDomain slashes gs
  if domain.any (·.char == '.') && (domain.getLast?.map (·.char.isAlpha)).getD false then
    some (domain, rest)
  else none

/-- The text before an `@`, last character first, cut where the address starts: what precedes the
address in the target, whether slashes may follow, the address and what is before it. -/
def mailStart? (before : List Glyph) : Option (String × Bool × List Glyph × List Glyph) :=
  let mailbox := before.takeWhile fun g => isMailboxChar g.char
  match before.dropWhile fun g => isMailboxChar g.char with
  | [] => if mailbox.isEmpty then none else some ("mailto:", false, mailbox, [])
  | g :: r =>
    if mailbox.isEmpty || g.char == '/' then none
    else
      let scheme := r.takeWhile (·.char.isAlphanum)
      let name := (scheme.map (·.char.toLower)).reverse
      if g.char == ':' && (name == "xmpp".toList || name == "mailto".toList) then
        some ("", name == "xmpp".toList, mailbox ++ g :: scheme, r.dropWhile (·.char.isAlphanum))
      else some ("mailto:", false, mailbox, g :: r)

/-- A piece of text: plain, or an address with what precedes it in the target. -/
inductive Part where
  | plain (gs : List Glyph)
  | address (start : String) (gs : List Glyph)
deriving DecidableEq, Inhabited

/-- Cuts mail addresses out of a text; `before` is the text since the last one, last character
first. The character after an address does not belong to another one. -/
def mailParts : Nat → List Glyph → List Glyph → List Part
  | 0, before, _ => [.plain before.reverse]
  | _, before, [] => [.plain before.reverse]
  | fuel + 1, before, g :: r =>
    let found := if g.char == '@' then
        (mailStart? before).bind fun (start, slashes, address, rest) =>
          (mailDomain? slashes r).map fun (domain, r) =>
            (start, address.reverse ++ g :: domain, rest, r)
      else none
    match found with
    | some (start, address, rest, r) =>
      .plain rest.reverse :: .address start address ::
        mailParts fuel (r.take 1) (r.drop 1)
    | none => mailParts fuel (g :: before) r

/-- The parts of a text between and in mail addresses. -/
def parts (gs : List Glyph) : List Part :=
  if gs.any (·.char == '@') then mailParts gs.length [] gs else [.plain gs]

end SopDocs.Markdown.Autolink
