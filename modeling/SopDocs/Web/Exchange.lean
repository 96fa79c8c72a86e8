import SopDocs.Json.Value
import SopDocs.Web.Status
import SopDocs.Web.Url
/-!
Exchanges with servers. A transport answers single requests; redirections are followed here, up to a
limit. The requests of an exchange are part of its value, so what is sent can be told as well as
what comes back.
-/

namespace SopDocs.Web

inductive Method where
  | head
  | get
  | post
deriving DecidableEq, Inhabited

def Method.name : Method → String
  | head => "HEAD"
  | get => "GET"
  | post => "POST"

/-- How all requests name their sender. -/
def userAgent : String := "soplint/0.1.0"

structure Request where
  method : Method
  url : Url
  accept : String
  authorization : Option String
  body : Option Json.Value
deriving Inhabited

/-- Method, path and query: what a server sees of the target of a request. -/
def Request.line (request : Request) : String :=
  request.method.name ++ " " ++ String.ofList request.url.resource

structure Response where
  status : Nat
  /-- The target of a redirection. -/
  location : Option String
  body : String
deriving DecidableEq, Inhabited

/-- Answers requests; none is a request without an answer. -/
abbrev Transport := Request → Option Response

/-- Why there is no response. -/
inductive NetworkFault where
  | notUrl
  | unsupported (address : String)
  | noAnswer (url : Url)
  | endlessRedirection (url : Url)
deriving DecidableEq, Inhabited

def NetworkFault.message : NetworkFault → String
  | notUrl => "builder error"
  | unsupported address => s!"builder error for url ({address})"
  | noAnswer url => s!"error sending request for url ({url.text})"
  | endlessRedirection url => s!"error following redirect for url ({url.text})"

/-- A result and the requests that led to it, in order. -/
structure Exchange (α : Type) where
  requests : List Request
  result : α

namespace Exchange

variable {α β : Type}

/-- A result that takes no request. -/
def done (result : α) : Exchange α := ⟨[], result⟩

/-- Goes on from the result of an exchange. -/
def andThen (exchange : Exchange α) (next : α → Exchange β) : Exchange β :=
  let rest := next exchange.result
  ⟨exchange.requests ++ rest.requests, rest.result⟩

def map (f : α → β) (exchange : Exchange α) : Exchange β := ⟨exchange.requests, f exchange.result⟩

end Exchange

/-- Where a response sends the client; a location that is no URL of the web is ignored. -/
def redirection? (url : Url) (response : Response) : Option Url :=
  if isRedirection response.status then
    response.location.bind fun location => (url.join location).toOption
  else none

/-- Greatest number of redirections that are followed. -/
def maxRedirections : Nat := 10

/-- Sends a request and follows at most `redirections` redirections with the same method. -/
def follow (transport : Transport) :
    Nat → Request → Exchange (Except NetworkFault Response)
  | redirections, request =>
    match transport request with
    | none => ⟨[request], .error (.noAnswer request.url)⟩
    | some response =>
      match redirection? request.url response with
      | none => ⟨[request], .ok response⟩
      | some url =>
        match redirections with
        | 0 => ⟨[request], .error (.endlessRedirection request.url)⟩
        | left + 1 =>
          let rest := follow transport left { request with url }
          ⟨request :: rest.requests, rest.result⟩

def send (transport : Transport) (request : Request) : Exchange (Except NetworkFault Response) :=
  follow transport maxRedirections request

end SopDocs.Web
