import FederatedLogin.Odoo.Identity
import FederatedLogin.Server.Action
import FederatedLogin.Server.Client
import FederatedLogin.Server.Failure

/-! # Login requests

A login by password: the body is read, Odoo is asked, and the identity is provisioned. A session
cookie goes with the response.
-/

namespace FederatedLogin.Server

structure LoginBody where
  identifier : String
  secret : Option (Secret String)

/-- Reads the body of a login request. The secret may also be called a password. -/
def LoginBody.ofBytes? (s : Json.Bytes) : Option LoginBody := do
  let r ← Json.recordOfBytes? ["identifier", "secret"] [("password", "secret")] s
  return {
    identifier := ← Json.plainText? r "identifier"
    secret := (← r.read? "secret" Json.optionalText?).map Secret.mk }

/-- What a person logs in with: an identifier without blanks at its ends, not empty, and a secret
that is not blank. -/
structure Credentials where
  identifier : String
  secret : Secret String

def LoginBody.credentials (b : LoginBody) : Except Failure Credentials :=
  let identifier := Text.trim b.identifier
  if identifier.isEmpty then .error (.invalidRequest "identifier is required")
  else match b.secret.filter fun secret => !secret.isBlank with
    | some secret => .ok { identifier, secret }
    | none => .error (.invalidRequest "secret is required")

/-- The credentials in a body, up to what the parser says about a malformed one. -/
def Credentials.ofBytes (s : Json.Bytes) : Except Failure Credentials :=
  match LoginBody.ofBytes? s with
  | some body => body.credentials
  | none => .error (.invalidRequest "malformed login body: ")

def identityOf (identifier : String) : Except Odoo.LoginError Odoo.Outcome → Except Failure Identity
  | .error cause => .error (.odoo cause)
  | .ok .invalidCredentials => .error .invalidCredentials
  | .ok (.authenticated account) => (account.identity identifier).mapError .identity

/-- Logs a person in: Odoo is asked about the credentials and the identity is provisioned. -/
def logIn (settings : Odoo.Settings) (c : Credentials) (client : ClientContext)
    (spare : Provisioning.SpareNames) : Action (Except Failure Provisioning.Provisioned) := do
  let outcome ← .ofExchange (Odoo.login settings c.identifier c.secret).run
  match identityOf c.identifier outcome with
  | .error f => return .error f
  | .ok identity =>
    let result ← .ofUse (Provisioning.provision identity client spare)
    return result.mapError .provisioning

/-- The settings and credentials of a request. That Odoo is not configured is found before the body
is looked at. -/
def accept (odoo : Except Odoo.SettingsError Odoo.Settings) (body : Json.Bytes) :
    Except Failure (Odoo.Settings × Credentials) := do
  let settings ← odoo.mapError .configuration
  let credentials ← Credentials.ofBytes body
  return (settings, credentials)

def sessionCookie (c : Config.SessionConfig) (s : Session) (now : Instant) : String :=
  c.cookieName ++ "=" ++ s.token.expose ++ "; Path=/; HttpOnly; SameSite=Lax; Max-Age=" ++
    Text.decimal (s.maxAge now) ++ (if c.cookieSecure then "; Secure" else "")

def loginSummary (p : Provisioning.Provisioned) : Json :=
  let user := p.user.sanitized
  .ofMembers [("user_id", .string user.id.text), ("username", .string user.username),
    ("email", .string user.email), ("create", .bool p.created), ("updated_fields", .array [])]

def loginResponse (c : Config.SessionConfig) (now : Instant) :
    Except Failure Provisioning.Provisioned → Response
  | .error f => f.response
  | .ok p => (Response.json 200 (loginSummary p)).withCookie (sessionCookie c p.session now)

end FederatedLogin.Server
