import FederatedLogin.Json.Record

/-! # Providers

The external sources from which a person's identity comes. A provider's tag is stored with the users
it brought in.
-/

namespace FederatedLogin

inductive Provider where
  | odoo
  | openId
  deriving DecidableEq

namespace Provider

def all : List Provider := [.odoo, .openId]

def tag : Provider → String
  | .odoo => "odoo"
  | .openId => "openid"

def ofTag? (s : String) : Option Provider := all.find? (·.tag == s)

def ofJson? (v : Json) : Option Provider := v.choiceName?.bind ofTag?

def unknownMessage (s : String) : String := "unknown identity provider: " ++ s

end Provider

end FederatedLogin
