import FederatedLogin.Server.Login
import FederatedLogin.Server.Providers
import FederatedLogin.Version

/-! # Routes

Which request the server answers how. A path that is none of its own is not found, and a method that
a path does not take is refused with those that it does.
-/

namespace FederatedLogin.Server

structure Request where
  method : String
  /-- The path with what follows it, such as a query, or a URL with the path. -/
  target : String
  headers : Http.Headers
  body : Json.Bytes

inductive Route where
  | health
  | providers
  | odooLogin
  deriving DecidableEq

namespace Route

def all : List Route := [.health, .providers, .odooLogin]

def path : Route → String
  | .health => "/health"
  | .providers => "/auth/providers"
  | .odooLogin => "/auth/odoo/login"

/-- A target from its path on, which may stand behind a scheme and an authority. -/
def fromPath : List Char → List Char
  | '/' :: s => '/' :: s
  | s =>
    match s.dropWhile Http.Url.isSchemeChar with
    | ':' :: '/' :: '/' :: s => s.dropWhile fun c => c != '/' && c != '?' && c != '#'
    | _ => []

/-- The route of a request target. What follows the path is ignored. -/
def ofTarget? (target : String) : Option Route :=
  let path := (fromPath target.toList).takeWhile fun c => c != '?' && c != '#'
  all.find? (·.path.toList == path)

/-- The methods that a route takes. One that is read can also be asked for its headers alone. -/
def methods : Route → List String
  | .health | .providers => ["GET", "HEAD"]
  | .odooLogin => ["POST"]

end Route

/-- The server's state other than its store. -/
structure App where
  providers : Providers
  granted : Entitlements
  session : Config.SessionConfig

namespace App

def ofConfig (c : Config.Resolved) (granted : Entitlements) : App where
  providers := .ofConfig c
  granted
  session := c.session

def health (app : App) : Response :=
  .json 200 (.ofMembers [("status", .string "healthy"), ("version", .string Version.number),
    ("odoo_configured", .bool app.providers.hasOdoo)])

def listProviders (app : App) : Response :=
  .json 200 (.ofMembers [("providers",
    .array ((app.providers.enabled app.granted).map fun p => .string p.tag))])

/-- The greatest number of bytes that are read from a body. -/
def maxBodySize : Nat := 2097152

def bodyTooLarge : Response :=
  .text 413 "Failed to buffer the request body: length limit exceeded"

def login (app : App) (r : Request) (spare : Provisioning.SpareNames) (now : Instant) :
    Action Response :=
  if r.body.length > maxBodySize then return bodyTooLarge
  else match accept app.providers.odoo r.body with
    | .error f => return f.response
    | .ok (settings, credentials) => do
      let result ← logIn settings credentials (clientContext r.headers) spare
      return loginResponse app.session now result

def handle (app : App) (r : Request) (spare : Provisioning.SpareNames) (now : Instant) :
    Action Response :=
  match Route.ofTarget? r.target with
  | none => return .notFound
  | some route =>
    if !route.methods.contains r.method then
      return .methodNotAllowed (",".intercalate route.methods)
    else do
      let response ← match route with
        | .health => pure app.health
        | .providers => pure app.listProviders
        | .odooLogin => app.login r spare now
      return if r.method == "HEAD" then response.headersOnly else response

end App

end FederatedLogin.Server
