import FederatedLogin.Http.Status
import FederatedLogin.Http.Url
import FederatedLogin.Json.Basic
import FederatedLogin.Program
import FederatedLogin.Version

/-! # Outbound exchanges

Requests to other services and what becomes of them. Who answers them, and how, is open: an upstream
is any way of answering requests, which may keep a state. One of them is a peer with a script.
-/

namespace FederatedLogin.Http

abbrev Bytes := List UInt8

def userAgent : String := "fedlink/" ++ Version.number

inductive Method where
  | get
  | post
  deriving DecidableEq

def Method.name : Method → String
  | .get => "GET"
  | .post => "POST"

/-- An outbound request. A request with a body carries JSON. -/
structure Request where
  method : Method
  url : String
  body : Option Json

def Request.contentType (r : Request) : Option String := r.body.map fun _ => "application/json"

/-- What the sender of a request learns. The body is missing where the connection broke off while it
was being read. -/
inductive Delivery where
  | failed (timedOut : Bool)
  | answered (status : Status) (body : Option Bytes)

abbrev Exchange := Program Request fun _ => Delivery

def send (r : Request) : Exchange Delivery := Program.ask r

/-- Whoever answers requests, with all that lies between. Nothing is said of what is answered, at
whatever address, and it may depend on all that has been asked before. -/
structure Upstream where
  State : Type
  answer : Request → State → Delivery × State

def Upstream.run (u : Upstream) (x : Exchange α) (p : u.State) : α × u.State :=
  Program.run u.answer x p

/-! ## Scripts

A peer with a script answers each request with the next reply. Once the script has ended, or while
the peer cannot be reached, connections are dropped.
-/

inductive Reply where
  | respond (status : Status) (body : Bytes)
  | close
  | hang
  | truncate (status : Status)

def Reply.delivery : Reply → Delivery
  | .respond status body => .answered status (some (if status.isBodiless then [] else body))
  | .close => .failed false
  | .hang => .failed true
  | .truncate status => .answered status none

/-- A scripted peer and the requests that have reached it, in order. -/
structure Peer where
  reachable : Bool
  script : List Reply
  received : List Request

/-- Sends a request. One to an address other than an absolute URL of the web never leaves. -/
def Peer.deliver (r : Request) (p : Peer) : Delivery × Peer :=
  if p.reachable && Url.isWeb r.url then
    let received := p.received ++ [r]
    match p.script with
    | [] => (.failed false, { p with received })
    | reply :: script => (reply.delivery, { p with script, received })
  else (.failed false, p)

def Upstream.scripted : Upstream := ⟨Peer, Peer.deliver⟩

def Exchange.run (x : Exchange α) (p : Peer) : α × Peer := Upstream.scripted.run x p

end FederatedLogin.Http
