import FederatedLogin.Http.Exchange
import FederatedLogin.Store.Fault

/-! # Actions of the server

Programs that both exchange messages with other services and use the store, and the worlds in which
they are run.
-/

namespace FederatedLogin.Server

inductive Call where
  | exchange (request : Http.Request)
  | store (call : Store.Call)

abbrev Call.Answer : Call → Type
  | .exchange _ => Http.Delivery
  | .store call => call.Answer

abbrev Action := Program Call Call.Answer

/-- Where the server is: whoever answers its requests, in some state, and its store. -/
structure World (u : Http.Upstream) where
  peer : u.State
  store : Store.Watched

/-- A world in which requests are answered from a script. -/
abbrev Surroundings := World .scripted

def World.answer {u : Http.Upstream} : (c : Call) → World u → c.Answer × World u
  | .exchange request, w =>
    let (delivery, peer) := u.answer request w.peer
    (delivery, { w with peer })
  | .store call, w =>
    let (a, store) := w.store.answer call
    (a, { w with store })

namespace Action

def ask (c : Call) : Action c.Answer := Program.ask c

def ofExchange (x : Http.Exchange α) : Action α :=
  x.translate fun request => ask (.exchange request)

def ofUse (u : Store.Use α) : Action α := u.translate fun call => ask (.store call)

def run {u : Http.Upstream} (a : Action α) (w : World u) : α × World u :=
  Program.run World.answer a w

end Action

end FederatedLogin.Server
