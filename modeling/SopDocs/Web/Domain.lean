import SopDocs.Text.Case
import SopDocs.Text.Composition
import SopDocs.Web.Address
import SopDocs.Web.DomainTable
import SopDocs.Web.Label
import SopDocs.Web.Punycode
/-!
Hosts of URLs. A domain may hold characters of all scripts; they are folded, and each label beyond
ASCII is written in ASCII with a mark in front.
-/

namespace SopDocs.Web

open Text

inductive HostFault where
  | empty
  | notDomain
  | notIpv4
  | notIpv6
deriving DecidableEq, Inhabited

def HostFault.message : HostFault → String
  | empty => "empty host"
  | notDomain => "invalid international domain name"
  | notIpv4 => "invalid IPv4 address"
  | notIpv6 => "invalid IPv6 address"

/-- Characters that no domain holds. -/
def isForbiddenInDomain (c : Char) : Bool :=
  c.toNat ≤ 0x20 || c.toNat == 0x7F || "%#/:<>?@[\\]^|".toList.contains c

/-- The image of a character from the rows of images. -/
def rowImage? (n : Nat) : Option (List Char) :=
  domainRows.findSome? fun (first, images) =>
    if first ≤ n then (images[n - first]?).map fun image => [Char.ofNat image] else none

/-- What a character of a domain becomes; none for one that is not allowed. -/
def domainImage? (c : Char) : Option (List Char) :=
  let n := c.toNat
  if n < 0x80 then some [c.toLower]
  else if inRanges disallowedRanges c then none
  else if inRanges ignoredRanges c then some []
  else
    match domainRuns.findSome? (·.image? n) with
    | some image => some [Char.ofNat image]
    | none =>
      match rowImage? n with
      | some image => some image
      | none =>
        match domainSequences.find? (·.1 == n) with
        | some (_, image) => some (image.map Char.ofNat)
        | none => some [c]

/-- A domain with all characters folded and composed. -/
def foldedDomain? (s : List Char) : Option (List Char) :=
  (s.mapM domainImage?).map fun images => compose images.flatten

def isAscii (s : List Char) : Bool := s.all (·.toNat < 0x80)

/-- How labels that stand for others start. -/
def encodedMark : List Char := "xn--".toList

/-- Whether folding leaves a label as it is. -/
def isFolded (label : List Char) : Bool := foldedDomain? label == some label

/-- The label that a folded one stands for. -/
def decodedLabel? (label : List Char) : Option (List Char) :=
  if !encodedMark.isPrefixOf label then some label
  else if !isAscii label then none
  else
    match Punycode.decode? (label.drop encodedMark.length) with
    | none => none
    | some decoded => if isAscii decoded || !isFolded decoded then none else some decoded

def isAllowedLabel (label : List Char) : Bool :=
  isAscii label || (!startsWithMark label && joinersFit [] label)

def encodedLabel (label : List Char) : List Char :=
  if isAscii label then label else encodedMark ++ Punycode.encode label

/-- The ASCII form of a domain. -/
def asciiDomain? (s : List Char) : Option (List Char) :=
  match foldedDomain? s with
  | none => none
  | some folded =>
    if folded.any isForbiddenInDomain then none
    else
      match (pieces (· == '.') folded).mapM decodedLabel? with
      | none => none
      | some labels =>
        if labels.all isAllowedLabel &&
            (!labels.any hasRightToLeft || labels.all hasOneDirection) then
          some (['.'].intercalate (labels.map encodedLabel))
        else none

/-- The normal form of a host. -/
def hostText (s : List Char) : Except HostFault (List Char) :=
  match s with
  | '[' :: r =>
    if r.getLast? = some ']' then
      match ipv6? r.dropLast with
      | some groups => .ok ('[' :: (ipv6Text groups ++ [']']))
      | none => .error .notIpv6
    else .error .notIpv6
  | s =>
    match (decodeUtf8? (decodeBytes s)).bind asciiDomain? with
    | none => .error .notDomain
    | some [] => .error .empty
    | some domain =>
      if endsInNumber domain then
        match ipv4? domain with
        | some n => .ok (ipv4Text n)
        | none => .error .notIpv4
      else .ok domain

end SopDocs.Web
