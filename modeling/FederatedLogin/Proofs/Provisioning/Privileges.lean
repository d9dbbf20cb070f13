import FederatedLogin.Proofs.Provisioning.Memberships

/-! # Privileges

Nobody administers a team but by a run whose identity has both privileges, the email of the user and
an organization of the team's name. A run without them leaves every membership as it is.
-/

namespace FederatedLogin

theorem Identity.grantsTeamAdmin_iff {i : Identity} :
    i.grantsTeamAdmin = true ↔ i.isPrivileged = true ∧ i.isSystemPrivileged = true := by
  rw [grantsTeamAdmin, Bool.and_eq_true_iff]

namespace Store

theorem Effect.keepsMemberships {fresh : Fresh} {s t : Store} {c : Call} {a : c.Answer}
    (h : Effect fresh s c a t) (hc : ∀ team user role, c ≠ .setTeamRole team user role) :
    s.memberships <+: t.memberships := by
  cases h with
  | memberAdded => exact List.prefix_append _ _
  | roleSet team user role => exact absurd rfl (hc team user role)
  | _ => exact List.prefix_rfl

theorem keepsMemberships_of_disturbed {faults : Call → Fault → Prop} {s t : Store} {c : Call}
    {a : c.Answer} (h : disturbed faults s c a t)
    (hc : ∀ team user role, c ≠ .setTeamRole team user role) :
    s.memberships <+: t.memberships := by
  rcases h with h | ⟨_, _, _, rfl⟩
  · obtain ⟨_, _, he⟩ := effect_of_executes h
    exact he.keepsMemberships hc
  · exact List.prefix_rfl

end Store

namespace Provisioning

open Store (Call Fault disturbed executes)
open Program (Turn)

variable {ι : Type} [DecidableEq ι] {runs : ι → Run} {s : Store} {q : Pool ι}
  {log : List (Event ι)} {faults : Call → Fault → Prop}

/-- A run that has granted a membership, with the user and the team. -/
structure Grantor (runs : ι → Run) (log : List (Event ι)) (t : Store) (m : Membership) (k : ι)
    (u : User) (x : Team) : Prop where
  started : turnsOf k log ≠ []
  isPrivileged : (runs k).identity.isPrivileged = true
  isSystemPrivileged : (runs k).identity.isSystemPrivileged = true
  user : t.user? m.user = some u
  email : Text.sameIgnoringCase u.email (runs k).email = true
  team : t.team? m.team = some x
  organization : ∃ o ∈ (runs k).identity.organizations, Slug.ofName o.name = x.name

theorem History.exists_grantor (h : History (disturbed faults) runs .empty log q)
    {m : Membership} (hm : m ∈ q.store.memberships) (hrole : m.role = .admin) :
    ∃ k u x, Grantor runs log q.store m k u x := by
  have hadmin : q.store.HasRole m.team m.user .admin :=
    ⟨m, hm, rfl, rfl, TeamRole.includes_admin_iff.mpr hrole⟩
  rcases h.accounted.roles _ _ _ hadmin with ⟨_, hm, _⟩ | ⟨_, ⟨k, hk, rfl⟩, hrole, hbrings⟩
  · cases hm
  · obtain ⟨⟨u, hu, hid, hemail⟩, ⟨x, hx, hxid, hname⟩⟩ := hbrings
    have hsound := h.sound Store.sound_empty
    have hgrants := Identity.teamRole_eq_admin_iff.mp (TeamRole.includes_admin_iff.mp hrole)
    obtain ⟨hpriv, hsys⟩ := Identity.grantsTeamAdmin_iff.mp hgrants
    exact ⟨k, u, x, {
      started := hk
      isPrivileged := hpriv
      isSystemPrivileged := hsys
      user := hid ▸ hsound.user?_id hu
      email := hemail
      team := hxid ▸ hsound.team?_id hx
      organization := (mem_slugs.mp hname).2 }⟩

theorem Asks.grantsTeamAdmin {i : Identity} {client : ClientContext}
    {early : List (Turn Call.Answer)} {team : TeamId} {user : UserId} {role : TeamRole}
    (h : Asks i client early (.setTeamRole team user role)) : i.grantsTeamAdmin = true := by
  cases h with
  | grant hgrants => exact hgrants

theorem History.keepsMemberships (h : History (disturbed faults) runs s log q) {k : ι}
    (hk : (runs k).identity.isPrivileged = false ∨ (runs k).identity.isSystemPrivileged = false)
    {x : Turn Call.Answer} (hx : x ∈ turnsOf k log) :
    (∀ team user role, x.1 ≠ .setTeamRole team user role) ∧
      ∀ m m', disturbed faults m x.1 x.2 m' → m.memberships <+: m'.memberships := by
  obtain ⟨early, late, hturns⟩ := List.append_of_mem hx
  have hnever : ∀ team user role, x.1 ≠ .setTeamRole team user role := by
    intro team user role he
    obtain ⟨hpriv, hsys⟩ :=
      Identity.grantsTeamAdmin_iff.mp (he ▸ h.asks_of_turnsOf hturns).grantsTeamAdmin
    rcases hk with hk | hk
    · exact Bool.false_ne_true (hk.symm.trans hpriv)
    · exact Bool.false_ne_true (hk.symm.trans hsys)
  exact ⟨hnever, fun _ _ hc => Store.keepsMemberships_of_disturbed hc hnever⟩

/-- A role is set to that of an administrator alone, right after the store has reported less. -/
theorem Asks.of_setTeamRole {i : Identity} {client : ClientContext}
    {early : List (Turn Call.Answer)} {team : TeamId} {user : UserId} {role : TeamRole}
    (h : Asks i client early (.setTeamRole team user role)) :
    role = .admin ∧ ∃ before m, early = before ++ [⟨.addUserToTeam team user, .ok m⟩] ∧
      m.role ≠ .admin := by
  cases h with
  | grant _ _ _ _ hearly hrole => exact ⟨rfl, _, _, hearly, hrole⟩

/-- From the empty store on, in any order of the calls of any runs and whatever faults they meet
with, every administrator has been made one by a run whose identity has both privileges, the email
of the user and an organization of the team's name. A run that lacks a privilege never sets a role
and leaves every membership as it is, and no run sets a role but that of an administrator, where it
has just been told of a lower one. -/
theorem no_privilege_escalation (h : History (disturbed faults) runs .empty log q) :
    (∀ m ∈ q.store.memberships, m.role = .admin → ∃ k u x, Grantor runs log q.store m k u x) ∧
    (∀ k, (runs k).identity.isPrivileged = false ∨ (runs k).identity.isSystemPrivileged = false →
      ∀ x ∈ turnsOf k log, (∀ team user role, x.1 ≠ .setTeamRole team user role) ∧
        ∀ m m', disturbed faults m x.1 x.2 m' → m.memberships <+: m'.memberships) ∧
    ∀ k early late team user role answer,
      turnsOf k log = early ++ ⟨.setTeamRole team user role, answer⟩ :: late →
      role = .admin ∧ ∃ before m, early = before ++ [⟨.addUserToTeam team user, .ok m⟩] ∧
        m.role ≠ .admin :=
  ⟨fun _ hm hrole => h.exists_grantor hm hrole, fun _ hk _ hx => h.keepsMemberships hk hx,
    fun _ _ _ _ _ _ _ hturns => (h.asks_of_turnsOf hturns).of_setTeamRole⟩

/-- Two people of one organization, which they write differently. The first of them has both
privileges. -/
def colleagues (k : Fin 2) : Run where
  identity := ⟨.odoo, name, true, k == 0, "", name, name ++ "@x", "", "", name,
    [⟨7, if k == 0 then "Night Watch" else "NIGHT watch"⟩]⟩
  client := ⟨none, none, false⟩
  firstSerial := 2 * k
  secondSerial := 2 * k + 1
where
  name := if k == 0 then "ada" else "bob"

/-- The second finds no team, but cannot create it, for the first has done so in between. -/
def colleaguesTurns : List (Fin 2 × Fresh) :=
  let fresh (id : String) : Fresh := ⟨⟨id⟩, ⟨id⟩, ⟨id⟩, ⟨id⟩, ⟨0⟩⟩
  [(0, fresh "1"), (1, fresh "2"), (0, fresh "3"), (1, fresh "4"), (0, fresh "5"), (1, fresh "6"),
    (0, fresh "7"), (1, fresh "8"), (0, fresh "9"), (1, fresh "10"), (0, fresh "11"),
    (1, fresh "12"), (1, fresh "13"), (0, fresh "14")]

def colleaguesStore : Store where
  users := [user "3" "ada", user "4" "bob"]
  teams := [.ofNew ⟨"9"⟩ ⟨0⟩ ⟨"night-watch", "Night Watch"⟩]
  memberships := [⟨⟨"9"⟩, ⟨"3"⟩, .admin, ⟨0⟩⟩, ⟨⟨"9"⟩, ⟨"4"⟩, .member, ⟨0⟩⟩]
  sessions := [session "5" "3", session "6" "4"]
where
  user (id name : String) : User :=
    .ofNew ⟨id⟩ ⟨0⟩ ⟨name, name ++ "@x", "", "", .odoo, name⟩
  session (id user : String) : Session := .issue ⟨id⟩ ⟨id⟩ ⟨0⟩ ⟨user⟩ ⟨none, none, false⟩

def colleaguesResult (k : Fin 2) : Provisioned :=
  if k = 0 then
    ⟨colleaguesStore.user "3" "ada", true, colleaguesStore.session "5" "3", ["night-watch"]⟩
  else ⟨colleaguesStore.user "4" "bob", true, colleaguesStore.session "6" "4", ["night-watch"]⟩

theorem colleagues_finish : ∃ log q,
    Interleaving executes colleagues (.start colleagues .empty) log q ∧
      q.store = colleaguesStore ∧ ∀ k, q.rest k = .done (.ok (colleaguesResult k)) := by
  have h : ∀ k, ((Pool.start colleagues .empty).play? colleagues colleaguesTurns).map
      (fun played => (played.2.rest k).result?) = some (some (.ok (colleaguesResult k))) := by
    decide +kernel
  have hstore : ((Pool.start colleagues .empty).play? colleagues colleaguesTurns).map
      (fun played => played.2.store) = some colleaguesStore := by
    decide +kernel
  obtain ⟨log, q, hplay, hresults⟩ := Pool.exists_play? h
  rw [hplay] at hstore
  exact ⟨log, q, .of_play? hplay, Option.some.inj hstore, hresults⟩

/-- The one administrator owes the role to the first run. -/
theorem colleagues_one_grantor : ∃ log q,
    Interleaving executes colleagues (.start colleagues .empty) log q ∧
      q.store.memberships = [⟨⟨"9"⟩, ⟨"3"⟩, .admin, ⟨0⟩⟩, ⟨⟨"9"⟩, ⟨"4"⟩, .member, ⟨0⟩⟩] ∧
      (∃ u x, Grantor colleagues log q.store ⟨⟨"9"⟩, ⟨"3"⟩, .admin, ⟨0⟩⟩ 0 u x) ∧
      ∀ x ∈ turnsOf 1 log, ∀ team user role, x.1 ≠ .setTeamRole team user role := by
  obtain ⟨log, q, h, hq, _⟩ := colleagues_finish
  obtain ⟨hadmins, hlacking, _⟩ :=
    no_privilege_escalation (h.history.withFaults fun _ _ => True)
  have hmembers : q.store.memberships = colleaguesStore.memberships := congrArg _ hq
  obtain ⟨k, u, x, hgrantor⟩ := hadmins ⟨⟨"9"⟩, ⟨"3"⟩, .admin, ⟨0⟩⟩
    (hmembers ▸ List.mem_cons_self) rfl
  obtain rfl : k = 0 := by simpa [colleagues] using hgrantor.isSystemPrivileged
  exact ⟨log, q, h, hmembers, ⟨u, x, hgrantor⟩, fun x hx => (hlacking 1 (.inr rfl) x hx).1⟩

end Provisioning

end FederatedLogin
