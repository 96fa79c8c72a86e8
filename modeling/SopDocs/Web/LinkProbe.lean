import SopDocs.Reference
import SopDocs.Web.Exchange
/-!
Looking up remote targets. A target is asked for without its content; a server that refuses this is
asked again for the whole. Only a target that the server does not know counts as missing.
-/

namespace SopDocs.Web

def probeRequest (method : Method) (url : Url) : Request where
  method
  url
  accept := "*/*"
  authorization := none
  body := none

/-- The final status of a URL. -/
def statusOf (transport : Transport) (url : Url) : Exchange (Except NetworkFault Nat) :=
  (send transport (probeRequest .head url)).andThen fun
    | .error fault => .done (.error fault)
    | .ok response =>
      if refusesMethod response.status then
        (send transport (probeRequest .get url)).map fun answer => answer.map (·.status)
      else .done (.ok response.status)

def outcomeOf : Except NetworkFault Nat → Reference.Outcome
  | .error fault => .unresolvable s!"Network error: {fault.message}"
  | .ok status =>
    if isSuccess status then .reachable
    else if status = notFoundStatus then .notFound
    else .unresolvable s!"HTTP status {statusText status}"

/-- Why a target that is no URL of the web cannot be asked for. -/
def faultOfTarget (target : String) : UrlFault → NetworkFault
  | .otherScheme => .unsupported target
  | _ => .notUrl

/-- Looks a target up. -/
def lookUp (transport : Transport) (target : String) : Exchange Reference.Outcome :=
  match Url.parse target with
  | .error fault => .done (outcomeOf (.error (faultOfTarget target fault)))
  | .ok url => (statusOf transport url).map outcomeOf

/-- The probe that a transport makes possible. -/
def probe (transport : Transport) : Reference.Probe := fun target =>
  (lookUp transport target).result

/-- The requests for looking up targets one after the other. -/
def probeRequests (transport : Transport) (targets : List String) : List Request :=
  targets.flatMap fun target => (lookUp transport target).requests

end SopDocs.Web
