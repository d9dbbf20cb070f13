import FederatedLogin.Store.Call

/-! # Faults

A store whose calls may be made to fail. Faults are scripted for each operation: the first call of
an operation takes the first fault in its name, and a call for which none is left goes through.
-/

namespace FederatedLogin.Store

inductive Operation where
  | findUserByEmail
  | createUser
  | findTeamByName
  | createTeam
  | addUserToTeam
  | setTeamRole
  | issueSession
  deriving DecidableEq

namespace Operation

def all : List Operation :=
  [.findUserByEmail, .createUser, .findTeamByName, .createTeam, .addUserToTeam, .setTeamRole,
    .issueSession]

def name : Operation → String
  | .findUserByEmail => "find_user_by_email"
  | .createUser => "create_user"
  | .findTeamByName => "find_team_by_name"
  | .createTeam => "create_team"
  | .addUserToTeam => "add_user_to_team"
  | .setTeamRole => "set_team_role"
  | .issueSession => "issue_session"

end Operation

def Call.operation : Call → Operation
  | .findUserByEmail _ => .findUserByEmail
  | .createUser _ => .createUser
  | .findTeamByName _ => .findTeamByName
  | .createTeam _ => .createTeam
  | .addUserToTeam .. => .addUserToTeam
  | .setTeamRole .. => .setTeamRole
  | .issueSession .. => .issueSession

/-- What happens to a call in place of its execution. -/
inductive Fault where
  /-- The call is executed after all. -/
  | pass
  | fail (error : StoreError)
  /-- A lookup reports that it has found nothing. Other calls are executed. -/
  | findNothing

/-- The answer that a fault gives to a call, if it keeps the call from being executed. -/
def Fault.answer? : Fault → (c : Call) → Option c.Answer
  | .pass, _ => none
  | .fail error, _ => some (.error error)
  | .findNothing, .findUserByEmail _ => some (.ok none)
  | .findNothing, .findTeamByName _ => some (.ok none)
  | .findNothing, _ => none

abbrev Faults := List (Operation × Fault)

/-- The next fault of an operation, and those that remain. -/
def Faults.take (op : Operation) (faults : Faults) : Fault × Faults :=
  match faults.lookup op with
  | some fault => (fault, faults.eraseP (·.1 == op))
  | none => (.pass, faults)

/-- A store with the faults that await it, the calls it has received and its source of what is
fresh. -/
structure Watched where
  store : Store
  faults : Faults
  calls : List Call
  fresh : Store → Fresh

namespace Watched

def answer (c : Call) (w : Watched) : c.Answer × Watched :=
  let (fault, faults) := w.faults.take c.operation
  let w := { w with faults, calls := w.calls ++ [c] }
  match fault.answer? c with
  | some a => (a, w)
  | none =>
    let (a, store) := w.store.answer (w.fresh w.store) c
    (a, { w with store })

def run (p : Use α) (w : Watched) : α × Watched := Program.run answer p w

end Watched

end FederatedLogin.Store
