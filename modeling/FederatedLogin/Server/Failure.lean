import FederatedLogin.Odoo.Login
import FederatedLogin.Provisioning
import FederatedLogin.Server.Response

/-! # Failures of a login

Why a login came to nothing, with the status and the code that the client is told. What the provider
or the store has said is kept from the client.
-/

namespace FederatedLogin.Server

inductive Failure where
  | invalidRequest (reason : String)
  | invalidCredentials
  | configuration (cause : Odoo.SettingsError)
  | odoo (cause : Odoo.LoginError)
  | identity (cause : IdentityError)
  | provisioning (cause : Provisioning.Failure)

namespace Failure

/-- The message in full, for those who run the server. -/
def message : Failure → String
  | .invalidRequest reason => "invalid request: " ++ reason
  | .invalidCredentials => "invalid credentials"
  | .configuration cause => cause.message
  | .odoo cause => cause.message
  | .identity cause => cause.message
  | .provisioning cause => cause.message

def storeStatus : StoreError → Http.Status
  | .conflict _ => 409
  | .notFound _ => 404
  | .invalid _ => 400
  | .unavailable _ => 503

def status : Failure → Http.Status
  | .invalidRequest _ => 400
  | .invalidCredentials | .identity _ => 401
  | .configuration _ => 500
  | .odoo (.userNotFound _) => 401
  | .odoo _ => 502
  | .provisioning cause => storeStatus cause.cause

/-- The code by which a client tells failures apart. -/
def code : Failure → String
  | .invalidRequest _ => "invalid_request"
  | .invalidCredentials | .identity _ => "invalid_credentials"
  | .configuration _ => "configuration_error"
  | .odoo (.userNotFound _) => "user_not_found"
  | .odoo (.transport ..) => "upstream_unavailable"
  | .odoo (.protocol ..) => "upstream_error"
  | .provisioning _ => "store_error"

def publicMessage : Failure → String
  | .odoo (.transport step _) => "Odoo is unreachable (" ++ step.name ++ ")"
  | .odoo (.protocol step _) => "Odoo returned an unusable response (" ++ step.name ++ ")"
  | .provisioning _ => "Failed to provision the local account"
  | .identity _ => "invalid credentials"
  | f => f.message

def response (f : Failure) : Response :=
  .json f.status (.ofMembers [("error", .string f.code), ("message", .string f.publicMessage)])

end Failure

end FederatedLogin.Server
