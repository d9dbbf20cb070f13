import FederatedLogin.Http.Header
import FederatedLogin.Http.Status
import FederatedLogin.Json.Basic

/-! # Responses

What the server answers to a request.
-/

namespace FederatedLogin.Server

inductive Body where
  | none
  | text (value : String)
  | json (value : Json)

def Body.contentType : Body → Option String
  | .none => Option.none
  | .text _ => some "text/plain; charset=utf-8"
  | .json _ => some "application/json"

structure Response where
  status : Http.Status
  contentType : Option String
  /-- The methods that are allowed, where the request's is not. -/
  allow : Option String
  setCookie : Option String
  body : Body

namespace Response

def ofBody (status : Http.Status) (body : Body) : Response where
  status
  contentType := body.contentType
  allow := none
  setCookie := none
  body

def json (status : Http.Status) (v : Json) : Response := ofBody status (.json v)

def text (status : Http.Status) (s : String) : Response := ofBody status (.text s)

def notFound : Response := ofBody 404 .none

def methodNotAllowed (allowed : String) : Response :=
  { ofBody 405 .none with allow := some allowed }

/-- The response without its body, as it is sent where only the headers are asked for. -/
def headersOnly (r : Response) : Response := { r with body := .none }

/-- Adds a cookie. One that cannot be sent as a header takes the place of the whole response. -/
def withCookie (cookie : String) (r : Response) : Response :=
  if Http.isHeaderValue cookie then { r with setCookie := some cookie }
  else text 500 "failed to parse header value"

end Response

end FederatedLogin.Server
