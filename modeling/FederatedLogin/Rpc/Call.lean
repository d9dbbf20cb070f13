import FederatedLogin.Http.Exchange
import FederatedLogin.Rpc.Message

/-! # Remote calls

One JSON-RPC call: a request is posted to an endpoint, and what comes back is a refusal, a response
or a failure. The body of a refusal is not read.
-/

namespace FederatedLogin.Rpc

inductive Failure where
  | transport (endpoint : String) (timedOut : Bool)
  | undecodable (endpoint : String) (status : Http.Status)

namespace Failure

def timedOut : Failure → Bool
  | .transport _ timedOut => timedOut
  | .undecodable .. => false

/-- The message up to what the transport or the decoder says about the failure. -/
def messageHead : Failure → String
  | .transport endpoint _ => "transport failure calling " ++ endpoint ++ ": "
  | .undecodable endpoint status =>
    "undecodable response from " ++ endpoint ++ " (HTTP " ++ status.describe ++ "): "

end Failure

inductive Reply where
  | denied (status : Http.Status)
  | response (status : Http.Status) (response : Response)

def httpRequest (endpoint : String) (r : Request) : Http.Request :=
  ⟨.post, endpoint, some r.toJson⟩

def interpret (endpoint : String) : Http.Delivery → Except Failure Reply
  | .failed timedOut => .error (.transport endpoint timedOut)
  | .answered status body =>
    if status.isDenial then .ok (.denied status)
    else match body with
      | none => .error (.transport endpoint false)
      | some bytes =>
        match Response.ofBytes? bytes with
        | some response => .ok (.response status response)
        | none => .error (.undecodable endpoint status)

def call (endpoint : String) (r : Request) : Http.Exchange (Except Failure Reply) := do
  return interpret endpoint (← Http.send (httpRequest endpoint r))

end FederatedLogin.Rpc
