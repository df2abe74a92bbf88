import GridOperator.Network.Url
import GridOperator.Script

/-!
# Requests over HTTP
-/

namespace GridOperator

/-- A request that sends a form. -/
structure HttpRequest where
  url : String
  body : String
  deriving DecidableEq

structure HttpResponse where
  status : Nat
  body : String
  deriving DecidableEq

/-- Requests, of which every one may stay without a response. -/
def http : Interface := ⟨HttpRequest, fun _ => Except HttpFailure HttpResponse⟩

namespace HttpRequest

/-- Sends a form to an address that can be one. -/
def send (r : HttpRequest) : Pass http HttpResponse := .ofScript <|
  if Url.isHttp r.url then do
    return (← Script.call (I := http) r).mapError .http
  else return .error (.http .address)

end HttpRequest

namespace HttpResponse

/-- The body of a response that is no refusal. Two of the codes say that there is none. -/
def accepted (r : HttpResponse) : Except Error String :=
  if 400 ≤ r.status ∧ r.status < 600 then .error (.http (.status r.status))
  else .ok (if r.status = 204 ∨ r.status = 304 then "" else r.body)

end HttpResponse

end GridOperator
