import FederatedLogin.Proofs.Provisioning.Retry
import FederatedLogin.Proofs.Provisioning.Teamwork

/-! # What a run does to a store

A run that has the store for itself ends in a store that the one before and the identity determine,
up to ids, times and the token. All that is neither the user's nor a missing team is left as it was.
-/

namespace FederatedLogin

namespace Store

theorem Reachable.run {start s : Store} {α : Type} (source : Source)
    (h : Reachable executes start s) (p : Use α) :
    Reachable executes start (p.run source.answer s).2 := by
  induction p generalizing s with
  | done a => exact h
  | call c next ih => exact ih _ (h.call (executes_answer (source.isNew s) c))

end Store

namespace Provisioning

open Store (Reachable Source executes)

/-- A store has come from another by a run for an identity, with a result. -/
structure Provisions (i : Identity) (client : ClientContext) (spare : SpareNames) (s : Store)
    (p : Provisioned) (t : Store) : Prop where
  user : Registers i spare s p.user p.created t.users
  session : t.sessions = s.sessions ++ [p.session] ∧ p.session.userId = p.user.id ∧
    p.session.client = client
  synced : p.teams = slugs i.organizations
  teams : ∃ added, t.teams = s.teams ++ added ∧ (added.map (·.name)).Nodup ∧
    (∀ name, (∃ x ∈ added, x.name = name) ↔
      name ∈ slugs i.organizations ∧ s.teamByName? name = none) ∧
    ∀ x ∈ added, ∃ o, i.organizations.find? (Slug.ofName ·.name == x.name) = some o ∧
      x.displayName = o.name
  places : ∀ name ∈ slugs i.organizations, ∃ x m, t.teamByName? name = some x ∧
    t.membership? x.id p.user.id = some m ∧ Promotes i (s.membership? x.id p.user.id) m
  others : ∀ team user,
    (user = p.user.id → ∀ x ∈ t.teams, x.id = team → x.name ∉ slugs i.organizations) →
    t.membership? team user = s.membership? team user

section Provisions

variable {i : Identity} {client : ClientContext} {spare : SpareNames} {source : Source}
  {s t : Store} {u : User} {created : Bool} {users : List User} {session : Session}

theorem provisions_of_joined (hu : Registers i spare s u created users)
    (hj : Joined i u.id i.organizations
      { s with users, sessions := s.sessions ++ [session] } t)
    (huser : session.userId = u.id) (hclient : session.client = client) :
    Provisions i client spare s ⟨u, created, session, slugs i.organizations⟩ t where
  user := by
    rw [hj.users]
    exact hu
  session := ⟨hj.sessions, huser, hclient⟩
  synced := rfl
  teams := by
    obtain ⟨added, ht, hadded, hfirst⟩ := hj.teams
    refine ⟨added, ht, ?_, hadded, hfirst⟩
    have hnames := hj.sound.teamNames
    rw [ht, List.map_append] at hnames
    exact (List.nodup_append.mp hnames).2.1
  places name hname := by
    obtain ⟨x, hx, rfl⟩ := hj.exists_team hname
    obtain ⟨m, hm, hpromotes⟩ := hj.placed x hx hname
    exact ⟨x, m, hj.sound.mem_iff_teamByName?.mpr ⟨hx, rfl⟩, hm, hpromotes⟩
  others := hj.others

theorem provision_provisions (source : Source) (client : ClientContext) (hs : s.Sound)
    (hemail : i.email ≠ "") (hfirst : spare.first ≠ "") (hsecond : spare.second ≠ "")
    (hspare : HasSpare i spare s) :
    ∃ p t, (provision i client spare).run source.answer s = (.ok p, t) ∧
      Provisions i client spare s p t := by
  obtain ⟨u, created, users, hu, hrun⟩ := establish_run source client hemail hfirst hsecond hspare
  let session := issued source { s with users } u.id client
  let m : Store := { s with users, sessions := s.sessions ++ [session] }
  have hsound : m.Sound := by
    have h := hs.run source (establish i client spare)
    rwa [hrun] at h
  obtain ⟨t, hjoin, hj⟩ := joinTeams_joined (i := i) source hsound (Store.user?_ne_none_iff.mpr
    ⟨u, List.mem_of_find?_eq_some hu.settled.found, rfl⟩) i.organizations
  exact ⟨⟨u, created, session, slugs i.organizations⟩, t, provision_run_eq hrun hjoin,
    provisions_of_joined hu hj rfl rfl⟩

end Provisions

/-- A run without faults for an identity with an email succeeds in every reachable store, and what
it does to the store is determined by the store and the identity. -/
theorem provision_transition {s : Store} (hs : Reachable executes .empty s) {i : Identity}
    (hemail : i.email ≠ "") (source : Source) (client : ClientContext) (first second : Nat)
    (hspare : HasSpare i ⟨Username.generated first, Username.generated second⟩ s) :
    ∃ p t, (provision i client ⟨Username.generated first, Username.generated second⟩).run
        source.answer s = (.ok p, t) ∧
      Reachable executes .empty t ∧
      Provisions i client ⟨Username.generated first, Username.generated second⟩ s p t := by
  generalize hnames : SpareNames.mk (Username.generated first) (Username.generated second) = spare
    at hspare ⊢
  have hfirst : spare.first ≠ "" := by
    rw [← hnames]
    exact Username.generated_ne_empty first
  have hsecond : spare.second ≠ "" := by
    rw [← hnames]
    exact Username.generated_ne_empty second
  obtain ⟨p, t, hrun, h⟩ :=
    provision_provisions source client hs.sound hemail hfirst hsecond hspare
  refine ⟨p, t, hrun, ?_, h⟩
  have ht := hs.run source (provision i client spare)
  rwa [hrun] at ht

def fullNewcomer : Identity := { newcomer with firstName := "Roberta", lastName := "Co" }

/-- The newcomer, whose name somebody else has, gets a generated one and administers the one team
that two of the organizations share. -/
theorem newcomer_transition :
    Reachable executes .empty bobStore ∧
    ∃ p t, (provision fullNewcomer ⟨none, none, true⟩
          ⟨Username.generated 0, Username.generated 1⟩).run Server.lengthening.answer bobStore =
        (.ok p, t) ∧
      Provisions fullNewcomer ⟨none, none, true⟩
        ⟨Username.generated 0, Username.generated 1⟩ bobStore p t ∧
      p.created = true ∧ p.user.username = Username.generated 1 ∧
      p.user.email = "odoo_42@odoo.local" ∧ p.user.firstName = "Roberta" ∧
      p.user.lastName = "Co" ∧ p.user.authService = .odoo ∧ p.user.authData = some "42" ∧
      t.teams.map (fun x => (x.name, x.displayName)) = [("night-watch", "Night Watch")] ∧
      t.memberships.map (·.role) = [.admin] := by
  have hstart : Reachable executes .empty bobStore := Reachable.start.after (by decide)
  obtain ⟨p, t, hrun, -, h⟩ := provision_transition hstart (i := fullNewcomer) (by decide)
    Server.lengthening ⟨none, none, true⟩ 0 1 (fun _ _ => by decide +kernel)
  have hcheck : ∀ x, (provision fullNewcomer ⟨none, none, true⟩
        ⟨Username.generated 0, Username.generated 1⟩).run Server.lengthening.answer bobStore = x →
      x.1.toOption.map (fun p => (p.created, p.user.username, p.user.email)) =
          some (true, Username.generated 1, "odoo_42@odoo.local") ∧
        x.1.toOption.map (fun p => (p.user.firstName, p.user.lastName)) =
          some ("Roberta", "Co") ∧
        x.1.toOption.map (fun p => (p.user.authService, p.user.authData)) =
          some (.odoo, some "42") ∧
        x.2.teams.map (fun x => (x.name, x.displayName)) = [("night-watch", "Night Watch")] ∧
        x.2.memberships.map (·.role) = [.admin] := by
    rintro _ rfl
    decide +kernel
  obtain ⟨haccount, hnames, hauth, hteams, hroles⟩ := hcheck _ hrun
  simp only [Except.toOption, Option.map_some, Option.some_inj, Prod.mk.injEq]
    at haccount hnames hauth
  obtain ⟨hcreated, hname, hemail⟩ := haccount
  exact ⟨hstart, p, t, hrun, h, hcreated, hname, hemail, hnames.1, hnames.2, hauth.1, hauth.2,
    hteams, hroles⟩

end Provisioning

end FederatedLogin
