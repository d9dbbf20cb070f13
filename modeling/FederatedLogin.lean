import FederatedLogin.Main
import FederatedLogin.Oidc.Claims
import FederatedLogin.Server.Router
import FederatedLogin.Proofs.Odoo.Requests
import FederatedLogin.Proofs.Odoo.Outcome
import FederatedLogin.Proofs.Odoo.ListedSession
import FederatedLogin.Proofs.Provisioning.Overtaking
import FederatedLogin.Proofs.Provisioning.Conduct
import FederatedLogin.Proofs.Server.Logins
import FederatedLogin.Proofs.Store.Trace
import FederatedLogin.Proofs.Store.Frame
import FederatedLogin.Proofs.Provisioning.Calls
import FederatedLogin.Proofs.Provisioning.History
import FederatedLogin.Proofs.Provisioning.Memberships
import FederatedLogin.Proofs.Provisioning.Privileges
import FederatedLogin.Proofs.Provisioning.Joining
import FederatedLogin.Proofs.Provisioning.Provided
import FederatedLogin.Proofs.Provisioning.Teams
import FederatedLogin.Proofs.Provisioning.Enrolment
import FederatedLogin.Proofs.Provisioning.Retry
import FederatedLogin.Proofs.Odoo.Account
import FederatedLogin.Proofs.Config.Fields
import FederatedLogin.Proofs.Config.Precedence
import FederatedLogin.Proofs.Server.Outcome
import FederatedLogin.Proofs.Oidc.Identity
import FederatedLogin.Proofs.Provisioning.Returned
import FederatedLogin.Proofs.Oidc.Subjects
import FederatedLogin.Proofs.Provisioning.Origins
import FederatedLogin.Proofs.Config.Blanks
import FederatedLogin.Proofs.Config.Usable
import FederatedLogin.Proofs.Odoo.Secrecy
import FederatedLogin.Proofs.Server.Secrecy
import FederatedLogin.Proofs.Provisioning.Teamwork
import FederatedLogin.Proofs.Provisioning.Transition
import FederatedLogin.Proofs.Slug
import FederatedLogin.Proofs.Username.Form
import FederatedLogin.Proofs.Provisioning.Usernames
import FederatedLogin.Proofs.Provisioning.Rounds
import FederatedLogin.Proofs.Provisioning.Outage
import FederatedLogin.Proofs.Rpc.Loose
import FederatedLogin.Proofs.Odoo.Uid
import FederatedLogin.Proofs.Odoo.Companies
import FederatedLogin.Proofs.Odoo.Rejection
import FederatedLogin.Proofs.Text.Lowered
import FederatedLogin.Proofs.Text.Parts
import FederatedLogin.Proofs.Oidc.Normalized
import FederatedLogin.Proofs.Text.Words
import FederatedLogin.Proofs.Oidc.Discovery
import FederatedLogin.Proofs.Oidc.FullName
import FederatedLogin.Proofs.Server.SessionCookie
import FederatedLogin.Proofs.Server.ClientAddress
import FederatedLogin.Proofs.Server.Disclosure
import FederatedLogin.Proofs.Config.WrittenBack
import FederatedLogin.Proofs.Config.Variables
