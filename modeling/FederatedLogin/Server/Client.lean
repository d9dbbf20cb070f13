import FederatedLogin.Http.Header
import FederatedLogin.Session
import FederatedLogin.Text.Lowercase

/-! # Clients

What the headers of a request tell about the client. Its address is the one that a proxy has
forwarded, and its agent tells whether it is a mobile device.
-/

namespace FederatedLogin.Server

def mobileMarkers : List String := ["mobile", "android", "iphone", "ipad"]

def isMobileAgent (agent : String) : Bool := mobileMarkers.any (Text.contains (Text.lower agent))

/-- The client's address: the first of those forwarded, or else one of two headers. -/
def clientAddress? (headers : Http.Headers) : Option String :=
  let forwarded := (headers.text? "x-forwarded-for").map fun s => Text.trim (Text.before ',' s)
  (forwarded.filter fun s => !s.isEmpty)
    |>.or ((headers.text? "x-real-ip").map Text.trim)
    |>.or ((headers.text? "cf-connecting-ip").map Text.trim)

def clientContext (headers : Http.Headers) : ClientContext where
  ipAddress := clientAddress? headers
  userAgent := headers.text? "user-agent"
  isMobile := (headers.text? "user-agent").any isMobileAgent

end FederatedLogin.Server
