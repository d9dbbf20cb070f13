import FederatedLogin.Rpc.Message
import FederatedLogin.Http.Status
import FederatedLogin.Text.Lowercase

/-! # Rejected credentials

Odoo reports wrong credentials in several shapes: a refusal by status, a message with a telling
word, or an exception named in the error's data. Any other error is a failure of the service.
-/

namespace FederatedLogin.Odoo

inductive Verdict where
  | invalidCredentials
  | serviceFailure
  deriving DecidableEq

/-- The parts of a message that tell of a rejection. -/
def rejectionKeywords : List String :=
  ["wrong", "password", "access denied", "invalid", "authentication failed"]

/-- The part of an exception's name that tells of one. -/
def deniedExceptions : List String := ["accessdenied"]

/-- The parts of a message in the error's data that do. -/
def detailKeywords : List String := ["access denied", "invalid"]

/-- Whether a text, lower-cased, contains one of the keywords. -/
def mentions (keywords : List String) (s : String) : Bool :=
  keywords.any (Text.contains (Text.lower s))

def isRejection (e : Rpc.ErrorObject) : Bool :=
  mentions rejectionKeywords e.message ||
  (e.dataText? "name").any (mentions deniedExceptions) ||
  (e.dataText? "message").any (mentions detailKeywords)

/-- Judges an attempt that did not authenticate. An answer without an error rejects too. -/
def judge (status : Http.Status) (error : Option Rpc.ErrorObject) : Verdict :=
  if status.isDenial || error.all isRejection then .invalidCredentials else .serviceFailure

end FederatedLogin.Odoo
