import FederatedLogin.Odoo.Account

/-! # Identities of Odoo accounts

The identity an account stands for. Its email is made from the id of the user, so that a change of
address at Odoo never leads to another local user.
-/

namespace FederatedLogin.Odoo

def emailDomain : String := "odoo.local"

def syntheticEmail (uid : Int) : String :=
  Provider.odoo.tag ++ "_" ++ Text.decimal uid ++ "@" ++ emailDomain

/-- The identity of an account, whose login is replaced by the typed identifier if it is blank. -/
def Account.identity (a : Account) (identifier : String) : Except IdentityError Identity := do
  if a.uid ≤ 0 then throw (.invalidExternalId (Text.decimal a.uid))
  let i ← Identity.new .odoo (Text.decimal a.uid) (syntheticEmail a.uid)
  return { i with
    loginName := if Text.isAllBlank a.login then identifier else a.login
    displayName := a.name
    firstName := a.name
    isPrivileged := a.isAdmin
    isSystemPrivileged := a.isSystem }.withOrganizations a.companies

end FederatedLogin.Odoo
