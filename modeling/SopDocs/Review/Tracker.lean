import SopDocs.Json.Record
import SopDocs.Json.Writer
import SopDocs.Review.Reminder
import SopDocs.Web.Exchange
/-!
The issue tracker of a repository. Open issues come in pages; the first page that is not full is the
last one. What the tracker lists besides issues are pull requests, which are left out.
-/

namespace SopDocs.Review

open Web (Exchange Request Response Transport Url)

/-- Why the tracker gives no result. -/
inductive TrackerFault where
  | invalidRepository (repository : String)
  | invalidToken
  | invalidUrl (address : String) (fault : Web.UrlFault)
  | network (fault : Web.NetworkFault)
  | refused (status : Nat) (url : Url)
  | unexpectedContent (url : Url)
deriving DecidableEq, Inhabited

def TrackerFault.message : TrackerFault → String
  | invalidRepository repository => s!"Invalid repository '{repository}', expected 'owner/name'"
  | invalidToken => "Failed to build HTTP client: failed to parse header value"
  | invalidUrl address fault => s!"Invalid URL: {address}: {fault.message}"
  | network fault => s!"Network error: {fault.message}"
  | refused status url => s!"HTTP error {Web.statusText status} from {url.text}"
  | unexpectedContent url => s!"Network error: error decoding response body for url ({url.text})"

/-- The tracker of one repository. -/
structure Tracker where
  base : String
  owner : String
  name : String
  token : String
deriving DecidableEq, Inhabited

/-- Owner and name of a repository: two parts that are not empty, with one slash between. -/
def splitRepository? (repository : String) : Option (String × String) :=
  match Text.pieces (· == '/') repository.toList with
  | [owner, name] =>
    if owner = [] ∨ name = [] then none else some (String.ofList owner, String.ofList name)
  | _ => none

/-- Whether a character may stand in the value of a header. -/
def isHeaderChar (c : Char) : Bool := c == '\t' || (0x20 ≤ c.toNat && c.toNat != 0x7F)

namespace Tracker

/-- Where trackers are if nothing else is said. -/
def standardBase : String := "https://api.github.com"

def ofRepository (base repository token : String) : Except TrackerFault Tracker :=
  match splitRepository? repository with
  | none => .error (.invalidRepository repository)
  | some (owner, name) =>
    if token.toList.all isHeaderChar then .ok ⟨base, owner, name, token⟩ else .error .invalidToken

/-- The address of the issues, as it is put together. -/
def issuesAddress (tracker : Tracker) : String :=
  let base := String.ofList ((tracker.base.toList.reverse.dropWhile (· == '/')).reverse)
  s!"{base}/repos/{tracker.owner}/{tracker.name}/issues"

def issuesUrl (tracker : Tracker) : Except TrackerFault Url :=
  match Url.parse tracker.issuesAddress with
  | .ok url => .ok url
  | .error fault => .error (.invalidUrl tracker.issuesAddress fault)

def request (tracker : Tracker) (method : Web.Method) (url : Url) (body : Option Json.Value) :
    Request where
  method
  url
  accept := "application/vnd.github+json"
  authorization := some s!"Bearer {tracker.token}"
  body

/-- Sends a request; a result is what is read of the body of a response with a success status. -/
def ask {α : Type} (transport : Transport) (request : Request) (read : String → Option α) :
    Exchange (Except TrackerFault α) :=
  (Web.send transport request).map fun
    | .error fault => .error (.network fault)
    | .ok response =>
      if Web.isSuccess response.status then
        match read response.body with
        | some content => .ok content
        | none => .error (.unexpectedContent request.url)
      else .error (.refused response.status request.url)

/-- An entry of a page. -/
structure Item where
  issue : Issue
  isPullRequest : Bool
deriving DecidableEq, Inhabited

/-- Whether something is said about a pull request. -/
def marksPullRequest : Option Json.Value → Bool
  | none => false
  | some .null => false
  | some _ => true

def itemOfFields? (number title url : Option Json.Value) (pullRequest : Option Json.Value) :
    Option Item :=
  match number, title, url with
  | some (.int n), some (.string title), some (.string url) =>
    if 0 ≤ n then some ⟨⟨n.toNat, title, url⟩, marksPullRequest pullRequest⟩ else none
  | _, _, _ => none

/-- What is read of an entry. -/
def itemFields : List String := ["number", "title", "html_url", "pull_request"]

/-- The item of an entry: a record, or the list of its values in their order. -/
def itemOf? : Json.Value → Option Item
  | .object members =>
    itemOfFields? (Sorted.get? "number" members) (Sorted.get? "title" members)
      (Sorted.get? "html_url" members) (Sorted.get? "pull_request" members)
  | .array [number, title, url] => itemOfFields? number title url none
  | .array [number, title, url, pullRequest] => itemOfFields? number title url pullRequest
  | _ => none

/-- The item of a text that holds one entry. -/
def readItem? (text : String) : Option Item :=
  (Json.readWhole (Json.readRecord itemFields · Json.standardDepth) text.toList).toOption.bind
    itemOf?

/-- The items of a text that holds a list of entries. -/
def readItems? (text : String) : Option (List Item) :=
  (Json.readWhole (Json.readRecords itemFields · Json.standardDepth) text.toList).toOption.bind
    (·.mapM itemOf?)

/-- The issues among the entries of a page. -/
def issuesOf (items : List Item) : List Issue :=
  (items.filter (! ·.isPullRequest)).map (·.issue)

/-- Entries that a full page holds. -/
def pageSize : Nat := 100

/-- Pages are numbered by words. -/
def lastPage : Nat := UInt64.size - 1

def pageUrl (url : Url) (label : String) (page : Nat) : Url :=
  (((url.addParameter "state" "open").addParameter "labels" label).addParameter "per_page"
    (toString pageSize)).addParameter "page" (toString page)

def page (tracker : Tracker) (transport : Transport) (url : Url) (label : String) (number : Nat) :
    Exchange (Except TrackerFault (List Item)) :=
  ask transport (tracker.request .get (pageUrl url label number) none) readItems?

/-- The issues on the pages from a number on, at most `pages` pages. -/
def issuesFrom (tracker : Tracker) (transport : Transport) (url : Url) (label : String) :
    Nat → Nat → Exchange (Except TrackerFault (List Issue))
  | 0, _ => .done (.ok [])
  | pages + 1, number =>
    (tracker.page transport url label number).andThen fun
      | .error fault => .done (.error fault)
      | .ok items =>
        if items.length < pageSize then .done (.ok (issuesOf items))
        else (issuesFrom tracker transport url label pages (number + 1)).map fun rest =>
          rest.map (issuesOf items ++ ·)

/-- All open issues with a label. -/
def openIssues (tracker : Tracker) (transport : Transport) (label : String) :
    Exchange (Except TrackerFault (List Issue)) :=
  match tracker.issuesUrl with
  | .error fault => .done (.error fault)
  | .ok url => tracker.issuesFrom transport url label lastPage 1

def draftJson (draft : Draft) : Json.Value :=
  .object [
    ("title", .string draft.title),
    ("body", .string draft.body),
    ("labels", .array (draft.labels.map .string))]

/-- Creates an issue. -/
def create (tracker : Tracker) (transport : Transport) (draft : Draft) :
    Exchange (Except TrackerFault Issue) :=
  match tracker.issuesUrl with
  | .error fault => .done (.error fault)
  | .ok url =>
    (ask transport (tracker.request .post url (some (draftJson draft))) readItem?).map fun item =>
      item.map (·.issue)

end Tracker

end SopDocs.Review
