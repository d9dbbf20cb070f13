import FederatedLogin.Secret
import FederatedLogin.Text.Ascii
import FederatedLogin.User

/-! # Sessions

A session is issued for each successful login and ends after thirty days. Its token is a secret of
256 bits.
-/

namespace FederatedLogin

structure SessionId where
  text : String
  deriving DecidableEq

structure ClientContext where
  ipAddress : Option String
  userAgent : Option String
  isMobile : Bool
  deriving DecidableEq

structure Session where
  id : SessionId
  userId : UserId
  token : Secret String
  client : ClientContext
  createdAt : Instant
  expiresAt : Instant
  deriving DecidableEq

namespace Session

def lifetimeDays : Int := 30

/-- The text of a token: 64 hexadecimal digits. -/
def tokenText (bits : Nat) : String := .ofList (Text.hexDigits 64 bits)

def issue (id : SessionId) (token : Secret String) (now : Instant) (userId : UserId)
    (client : ClientContext) : Session where
  id
  userId
  token
  client
  createdAt := now
  expiresAt := now.addDays lifetimeDays

/-- The seconds left until the session ends, or zero. -/
def maxAge (s : Session) (now : Instant) : Int := max 0 (now.secondsSince s.expiresAt)

/-- The form for debugging, which hides the token. -/
def debug (s : Session) : String :=
  "session " ++ s.id.text ++ " of " ++ s.userId.text ++ " with token " ++ s.token.debug

end Session

end FederatedLogin
