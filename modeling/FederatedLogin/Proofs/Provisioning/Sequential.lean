import FederatedLogin.Proofs.Provisioning.Conduct
import FederatedLogin.Proofs.Store.Reachable
import FederatedLogin.Proofs.Username

/-! # Runs one at a time

A run that has the store for itself always succeeds. It returns the user of its email, whom it has
created if there was none, and leaves all other users as they were.
-/

namespace FederatedLogin

namespace Store

section Users

variable {s t : Store} {email : String} {u : User}

theorem userByEmail?_congr_users (h : t.users = s.users) (email : String) :
    t.userByEmail? email = s.userByEmail? email := by
  rw [userByEmail?, h]
  rfl

theorem userByEmail?_mono (h : s.users <+: t.users) (hu : s.userByEmail? email = some u) :
    t.userByEmail? email = some u := by
  obtain ⟨added, h⟩ := h
  rw [userByEmail?] at hu ⊢
  rw [← h, List.find?_append, hu, Option.some_or]

theorem userByEmail?_snoc (hnone : s.userByEmail? u.email = none) :
    { s with users := s.users ++ [u] }.userByEmail? u.email = some u := by
  rw [userByEmail?] at hnone ⊢
  rw [List.find?_append, hnone, Option.none_or, List.find?_singleton]
  exact if_pos (Text.sameIgnoringCase_refl u.email)

theorem createUser_cases (fresh : Fresh) (new : NewUser) (hname : new.username ≠ "")
    (hemail : new.email ≠ "") (hfree : s.userByEmail? new.email = none) :
    (s.hasUsername new.username = true ∧ ∃ what,
      s.createUser fresh new = (.error (.conflict what), s)) ∨
    (s.hasUsername new.username = false ∧
      s.createUser fresh new = (.ok (.ofNew fresh.userId fresh.now new),
        { s with users := s.users ++ [.ofNew fresh.userId fresh.now new] })) := by
  cases hu : s.hasUsername new.username with
  | true =>
    exact .inl ⟨rfl, _, by simp [createUser, String.isEmpty_iff, hname, hemail, hfree, hu]; rfl⟩
  | false => exact .inr ⟨rfl, by simp [createUser, String.isEmpty_iff, hname, hemail, hfree, hu]⟩

theorem issueSession_of_mem (fresh : Fresh) (client : ClientContext) (hu : u ∈ s.users) :
    s.issueSession fresh u.id client =
      (.ok (.issue fresh.sessionId fresh.token fresh.now u.id client), { s with sessions :=
        s.sessions ++ [.issue fresh.sessionId fresh.token fresh.now u.id client] }) := by
  have hfound := user?_ne_none_iff.mpr ⟨u, hu, rfl⟩
  simp [issueSession, hfound]

end Users

section Runs

variable {α : Type} {s : Store} (source : Source)

theorem Effect.keepsUsers {fresh : Fresh} {t : Store} {c : Call} {a : c.Answer}
    (h : Effect fresh s c a t) : s.users <+: t.users := by
  cases h with
  | userCreated => exact List.prefix_append _ _
  | _ => exact List.prefix_rfl

theorem run_keepsUsers (p : Use α) (s : Store) : s.users <+: (p.run source.answer s).2.users := by
  induction p generalizing s with
  | done a => exact List.prefix_rfl
  | call c next ih => exact (effect_answer (source.fresh s) s c).keepsUsers.trans (ih _ _)

theorem Sound.run (hs : s.Sound) (p : Use α) : (p.run source.answer s).2.Sound := by
  induction p generalizing s with
  | done a => exact hs
  | call c next ih => exact ih _ (hs.effect (source.isNew s) (effect_answer _ s c))

end Runs

end Store

namespace Provisioning

open Store (Call Use Source)
open Program (bind_eq run_bind)

variable {source : Source} {s t : Store} {i : Identity} {client : ClientContext}
  {spare : SpareNames} {u : User} {created : Bool}

theorem users_of_effect {fresh : Fresh} {c : Call} {a : c.Answer} (h : Store.Effect fresh s c a t)
    (hc : IsTeamCall c) : t.users = s.users := by
  cases h <;> first | rfl | cases hc

theorem users_run (source : Source) {α : Type} {p : Use α} (hp : p.MakesOnly IsTeamCall)
    (s : Store) : (p.run source.answer s).2.users = s.users := by
  induction hp generalizing s with
  | done a => rfl
  | @call c next hc _ ih =>
    exact (ih _ _).trans (users_of_effect (Store.effect_answer (source.fresh s) s c) hc)

theorem teams_of_effect {fresh : Fresh} {c : Call} {a : c.Answer} (h : Store.Effect fresh s c a t)
    (hc : ¬ IsTeamCall c) : t.teams = s.teams ∧ t.memberships = s.memberships := by
  cases h <;> first | exact ⟨rfl, rfl⟩ | exact absurd trivial hc

theorem teams_run (source : Source) {α : Type} {p : Use α}
    (hp : p.MakesOnly fun c => ¬ IsTeamCall c) (s : Store) :
    (p.run source.answer s).2.teams = s.teams ∧
      (p.run source.answer s).2.memberships = s.memberships := by
  induction hp generalizing s with
  | done a => exact ⟨rfl, rfl⟩
  | @call c next hc _ ih =>
    obtain ⟨hteams, hmembers⟩ := teams_of_effect (Store.effect_answer (source.fresh s) s c) hc
    obtain ⟨hteams', hmembers'⟩ := ih (source.answer c s).1 (source.answer c s).2
    exact ⟨hteams'.trans hteams, hmembers'.trans hmembers⟩

/-- A store has come from another by a run that has got a user for an identity. -/
structure Settled (i : Identity) (s : Store) (u : User) (created : Bool) (t : Store) : Prop where
  users : t.users = s.users ++ if created then [u] else []
  found : t.userByEmail? i.email = some u
  created_iff : created = true ↔ s.userByEmail? i.email = none
  email : created = true → u.email = i.email

theorem Settled.of_users {t' : Store} (h : Settled i s u created t) (ht : t'.users = t.users) :
    Settled i s u created t' :=
  { h with
    users := ht.trans h.users
    found := (Store.userByEmail?_congr_users ht i.email).trans h.found }

theorem settled_found (h : s.userByEmail? i.email = some u) : Settled i s u false s where
  users := (List.append_nil _).symm
  found := h
  created_iff := by simp [h]
  email := nofun

theorem settled_created (h : s.userByEmail? i.email = none) (hu : u.email = i.email) :
    Settled i s u true { s with users := s.users ++ [u] } where
  users := rfl
  found := by
    rw [← hu] at h ⊢
    exact Store.userByEmail?_snoc h
  created_iff := iff_of_true rfl h
  email _ := hu

theorem run_ask_bind {α : Type} (c : Call) (f : c.Answer → Use α) (s : Store) :
    (ask c >>= f).run source.answer s =
      (f (source.answer c s).1).run source.answer (source.answer c s).2 :=
  rfl

def made (source : Source) (s : Store) (new : NewUser) : User :=
  .ofNew (source.fresh s).userId (source.fresh s).now new

theorem answer_lookup {found : Option User} {email : String} (h : s.userByEmail? email = found) :
    source.answer (.findUserByEmail email) s = (.ok found, s) :=
  congrArg (fun found => (Except.ok found, s)) h

theorem answer_createUser (source : Source) {username : String} (hname : username ≠ "")
    (hemail : i.email ≠ "") (hnone : s.userByEmail? i.email = none) :
    (s.hasUsername username = true ∧ ∃ what,
      source.answer (.createUser (newUser i username)) s = (.error (.conflict what), s)) ∨
    (s.hasUsername username = false ∧ source.answer (.createUser (newUser i username)) s =
      (.ok (made source s (newUser i username)),
        { s with users := s.users ++ [made source s (newUser i username)] })) :=
  Store.createUser_cases (source.fresh s) (newUser i username) hname hemail hnone

/-- The username for a new user: the identity's own, or a generated one where that is in use. -/
def nameFor (i : Identity) (spare : SpareNames) (s : Store) : String :=
  if s.hasUsername (i.localUsername spare.first) then spare.second
  else i.localUsername spare.first

/-- A user who has just been made for an identity, under a username. -/
structure MadeFor (i : Identity) (username : String) (u : User) : Prop where
  username : u.username = username
  email : u.email = i.email
  firstName : u.firstName = i.firstName
  lastName : u.lastName = i.lastName
  authService : u.authService = i.provider
  authData : u.authData = some i.authKey
  updatedAt : u.updatedAt = u.createdAt

theorem madeFor_made (source : Source) (s : Store) (i : Identity) (username : String) :
    MadeFor i username (made source s (newUser i username)) :=
  ⟨rfl, rfl, rfl, rfl, rfl, rfl, rfl⟩

/-- The user that a store has for an identity or gets for it, whether it is new, and the users that
there are then. -/
inductive Registers (i : Identity) (spare : SpareNames) (s : Store) :
    User → Bool → List User → Prop where
  | found {u : User} : s.userByEmail? i.email = some u → Registers i spare s u false s.users
  | created {u : User} : s.userByEmail? i.email = none → MadeFor i (nameFor i spare s) u →
      Registers i spare s u true (s.users ++ [u])

theorem Registers.settled {users : List User} (h : Registers i spare s u created users) :
    Settled i s u created { s with users } := by
  cases h with
  | found hfound => exact settled_found hfound
  | created hnone hu => exact settled_created hnone hu.email

theorem resolveConflict_run (source : Source) (hemail : i.email ≠ "") (hsecond : spare.second ≠ "")
    (hnone : s.userByEmail? i.email = none) (hfree : s.hasUsername spare.second = false) :
    (resolveConflict i spare).run source.answer s =
      (.ok (made source s (newUser i spare.second), true),
        { s with users := s.users ++ [made source s (newUser i spare.second)] }) := by
  rcases answer_createUser source hsecond hemail hnone with ⟨htaken, _⟩ | ⟨_, hcreated⟩
  · exact absurd (htaken.symm.trans hfree) (by decide)
  rw [resolveConflict, run_ask_bind, answer_lookup hnone]
  dsimp only
  rw [run_ask_bind, hcreated]
  rfl

/-- The second generated name is free where a run comes to need it. -/
def HasSpare (i : Identity) (spare : SpareNames) (s : Store) : Prop :=
  s.userByEmail? i.email = none → s.hasUsername (i.localUsername spare.first) = true →
    s.hasUsername spare.second = false

theorem findOrCreateUser_registers (source : Source) (hemail : i.email ≠ "")
    (hfirst : spare.first ≠ "") (hsecond : spare.second ≠ "") (hspare : HasSpare i spare s) :
    ∃ u created users,
      (findOrCreateUser i spare).run source.answer s = (.ok (u, created), { s with users }) ∧
      Registers i spare s u created users := by
  rw [findOrCreateUser, run_ask_bind]
  cases hlookup : s.userByEmail? i.email with
  | some u =>
    rw [answer_lookup hlookup]
    exact ⟨u, false, s.users, rfl, .found hlookup⟩
  | none =>
    rw [answer_lookup hlookup]
    dsimp only
    rw [run_ask_bind]
    have hregisters : Registers i spare s _ true _ :=
      .created hlookup (madeFor_made source s i (nameFor i spare s))
    rcases answer_createUser source (i.localUsername_ne_empty hfirst) hemail hlookup
      with ⟨htaken, what, hconflict⟩ | ⟨hfree, hcreated⟩
    · rw [nameFor, if_pos htaken] at hregisters
      rw [hconflict]
      exact ⟨_, true, _,
        resolveConflict_run source hemail hsecond hlookup (hspare hlookup htaken), hregisters⟩
    · rw [nameFor, hfree, if_neg Bool.false_ne_true] at hregisters
      rw [hcreated]
      exact ⟨_, true, _, rfl, hregisters⟩

/-- Without a free name for a new user the search for one, or the creation of one, fails. -/
theorem findOrCreateUser_fails (source : Source) (hemail : i.email ≠ "") (hfirst : spare.first ≠ "")
    (hsecond : spare.second ≠ "") (hspare : ¬ HasSpare i spare s) :
    ∃ f, (findOrCreateUser i spare).run source.answer s = (.error f, s) := by
  simp only [HasSpare, Classical.not_imp, Bool.not_eq_false] at hspare
  obtain ⟨hnone, htaken, htaken'⟩ := hspare
  rcases answer_createUser source (i.localUsername_ne_empty hfirst) hemail hnone
    with ⟨-, what, hconflict⟩ | ⟨hfree, -⟩
  swap
  · exact absurd (htaken.symm.trans hfree) (by decide)
  rcases answer_createUser source hsecond hemail hnone with ⟨-, what', hconflict'⟩ | ⟨hfree, -⟩
  swap
  · exact absurd (htaken'.symm.trans hfree) (by decide)
  rw [findOrCreateUser, run_ask_bind, answer_lookup hnone]
  dsimp only
  rw [run_ask_bind, hconflict]
  dsimp only
  rw [resolveConflict, run_ask_bind, answer_lookup hnone]
  dsimp only
  rw [run_ask_bind, hconflict']
  exact ⟨_, rfl⟩

def issued (source : Source) (s : Store) (user : UserId) (client : ClientContext) : Session :=
  .issue (source.fresh s).sessionId (source.fresh s).token (source.fresh s).now user client

theorem openSession_run (client : ClientContext) (hu : u ∈ s.users) :
    (openSession client (.ok (u, created))).run source.answer s =
      (.ok ⟨u, created, issued source s u.id client, []⟩,
        { s with sessions := s.sessions ++ [issued source s u.id client] }) := by
  have hissue : source.answer (.issueSession u client) s =
      (.ok (issued source s u.id client),
        { s with sessions := s.sessions ++ [issued source s u.id client] }) :=
    Store.issueSession_of_mem (source.fresh s) client hu
  rw [openSession, run_ask_bind, hissue]
  rfl

theorem establish_run (source : Source) (client : ClientContext) (hemail : i.email ≠ "")
    (hfirst : spare.first ≠ "") (hsecond : spare.second ≠ "") (hspare : HasSpare i spare s) :
    ∃ u created users, Registers i spare s u created users ∧
      (establish i client spare).run source.answer s =
        (.ok ⟨u, created, issued source { s with users } u.id client, []⟩,
          { s with users, sessions :=
            s.sessions ++ [issued source { s with users } u.id client] }) := by
  obtain ⟨u, created, users, hrun, hu⟩ :=
    findOrCreateUser_registers source hemail hfirst hsecond hspare
  refine ⟨u, created, users, hu, ?_⟩
  rw [establish, bind_eq, run_bind, hrun,
    openSession_run client (List.mem_of_find?_eq_some hu.settled.found)]

theorem provision_run_eq {p : Provisioned} {m : Store} {names : List String}
    (h : (establish i client spare).run source.answer s = (.ok p, m))
    (hjoin : (joinTeams i p.user.id i.organizations).run source.answer m = (names, t)) :
    (provision i client spare).run source.answer s = (.ok { p with teams := names }, t) := by
  rw [provision_eq_joinAfter, bind_eq, run_bind, h, joinAfter, bind_eq, run_bind, hjoin]
  rfl

/-- A run that has the store for itself succeeds. -/
theorem provision_run (source : Source) (i : Identity) (client : ClientContext) (spare : SpareNames)
    (s : Store) (hemail : i.email ≠ "") (hfirst : spare.first ≠ "")
    (hsecond : spare.second ≠ "") (hspare : HasSpare i spare s) :
    ∃ p t, (provision i client spare).run source.answer s = (.ok p, t) ∧
      Settled i s p.user p.created t ∧ ∃ bits, p.session.token = ⟨Session.tokenText bits⟩ := by
  obtain ⟨u, created, users, hu, hrun⟩ := establish_run source client hemail hfirst hsecond hspare
  have husers := users_run source (joinTeams_makesOnly i u.id i.organizations)
    ((establish i client spare).run source.answer s).2
  rw [hrun] at husers
  exact ⟨_, _, provision_run_eq hrun rfl, hu.settled.of_users husers, source.token _⟩

/-- The one thing that a run which has the store for itself can fail for. -/
theorem provision_succeeds_iff (source : Source) (client : ClientContext) (s : Store)
    (hemail : i.email ≠ "") (hfirst : spare.first ≠ "") (hsecond : spare.second ≠ "") :
    (∃ p t, (provision i client spare).run source.answer s = (.ok p, t)) ↔ HasSpare i spare s := by
  constructor
  · rintro ⟨p, t, hrun⟩
    by_contra hspare
    obtain ⟨f, hfails⟩ := findOrCreateUser_fails source hemail hfirst hsecond hspare
    rw [provision, bind_eq, run_bind, hfails] at hrun
    cases hrun
  · intro hspare
    obtain ⟨p, t, hrun, -⟩ := provision_run source i client spare s hemail hfirst hsecond hspare
    exact ⟨p, t, hrun⟩

/-! ## The session of a run -/

theorem sessions_of_effect {fresh : Fresh} {c : Call} {a : c.Answer}
    (h : Store.Effect fresh s c a t) :
    t.sessions = s.sessions ++ [⟨c, a⟩].filterMap issuedSession? := by
  cases h <;> first | rfl | exact (List.append_nil _).symm

theorem sessions_run (source : Source) {α : Type} (p : Use α) (s : Store) :
    (p.run source.answer s).2.sessions =
      s.sessions ++ (p.turns source.answer s).filterMap issuedSession? := by
  induction p generalizing s with
  | done a => exact (List.append_nil _).symm
  | call c next ih =>
    have hfirst : (source.answer c s).2.sessions =
        s.sessions ++ [⟨c, (source.answer c s).1⟩].filterMap issuedSession? :=
      sessions_of_effect (Store.effect_answer (source.fresh s) s c)
    rw [Program.run, Program.turns, ih, hfirst, List.append_assoc, ← List.filterMap_append]
    rfl

theorem exists_effect_of_mem_turns {source : Source} {α : Type} {p : Use α} {s : Store} {c : Call}
    {a : c.Answer} (h : ⟨c, a⟩ ∈ p.turns source.answer s) :
    ∃ fresh s' t, Store.Effect fresh s' c a t := by
  induction p generalizing s with
  | done _ => cases h
  | call c' next ih =>
    rcases List.mem_cons.mp h with he | h
    · cases he
      exact ⟨_, _, _, Store.effect_answer (source.fresh s) s c⟩
    · exact ih _ h

theorem ProvisionPath.issue_mem {turns : List (Program.Turn Call.Answer)} {p : Provisioned}
    (h : ProvisionPath i client spare turns (.ok p)) :
    ⟨.issueSession p.user client, .ok p.session⟩ ∈ turns := by
  cases h with
  | provisioned _ _ _ => exact List.mem_append_right _ List.mem_cons_self

theorem provision_session {p : Provisioned}
    (h : (provision i client spare).run source.answer s = (.ok p, t)) :
    t.sessions = s.sessions ++ [p.session] ∧ p.session.userId = p.user.id ∧
      p.session.client = client := by
  have hpath : ProvisionPath i client spare ((provision i client spare).turns source.answer s)
      (.ok p) := by
    have hrun := Program.path_run source.answer (provision i client spare) s
    rw [h] at hrun
    exact provisionPath_of_path hrun
  constructor
  · have hsessions := sessions_run source (provision i client spare) s
    rwa [h, hpath.issuedSessions] at hsessions
  · obtain ⟨fresh, s', t', heffect⟩ := exists_effect_of_mem_turns hpath.issue_mem
    generalize p.session = x at heffect ⊢
    cases heffect with
    | sessionIssued _ _ _ => exact ⟨rfl, rfl⟩

end Provisioning

end FederatedLogin
