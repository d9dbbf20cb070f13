import FederatedLogin.Proofs.Program.Path
import FederatedLogin.Provisioning

/-! # Paths of a run

Every course that a run of the provisioning can take, whatever the store answers: the calls it
makes, the answers it has got, and how it ends.
-/

namespace FederatedLogin.Provisioning

open Store (Call Use)
open Program (Path Turn path_done_iff path_call_done_iff path_bind_done_iff)

/-- The turns up to a conflict over the user whom an identity proposes. -/
def conflictTurns (i : Identity) (spare : SpareNames) (what : String) : List (Turn Call.Answer) :=
  [⟨.findUserByEmail i.email, .ok none⟩,
    ⟨.createUser (newUser i (i.localUsername spare.first)), .error (.conflict what)⟩]

/-- How the search for a user, or the creation of one, can go. -/
inductive UserPath (i : Identity) (spare : SpareNames) :
    List (Turn Call.Answer) → Except Failure (User × Bool) → Prop where
  | lookupFailed (e : StoreError) :
      UserPath i spare [⟨.findUserByEmail i.email, .error e⟩] (.error ⟨.findUser, e⟩)
  | found (u : User) :
      UserPath i spare [⟨.findUserByEmail i.email, .ok (some u)⟩] (.ok (u, false))
  | created (u : User) :
      UserPath i spare [⟨.findUserByEmail i.email, .ok none⟩,
        ⟨.createUser (newUser i (i.localUsername spare.first)), .ok u⟩] (.ok (u, true))
  | refused (e : StoreError) : (∀ what, e ≠ .conflict what) →
      UserPath i spare [⟨.findUserByEmail i.email, .ok none⟩,
        ⟨.createUser (newUser i (i.localUsername spare.first)), .error e⟩] (.error ⟨.createUser, e⟩)
  | relookupFailed (what : String) (e : StoreError) :
      UserPath i spare (conflictTurns i spare what ++ [⟨.findUserByEmail i.email, .error e⟩])
        (.error ⟨.findUser, e⟩)
  | foundThen (what : String) (u : User) :
      UserPath i spare (conflictTurns i spare what ++ [⟨.findUserByEmail i.email, .ok (some u)⟩])
        (.ok (u, false))
  | retried (what : String) (u : User) :
      UserPath i spare (conflictTurns i spare what ++ [⟨.findUserByEmail i.email, .ok none⟩,
        ⟨.createUser (newUser i spare.second), .ok u⟩]) (.ok (u, true))
  | retryRefused (what : String) (e : StoreError) :
      UserPath i spare (conflictTurns i spare what ++ [⟨.findUserByEmail i.email, .ok none⟩,
        ⟨.createUser (newUser i spare.second), .error e⟩]) (.error ⟨.createUser, e⟩)

section User

variable {i : Identity} {spare : SpareNames} {turns : List (Turn Call.Answer)}
  {r : Except Failure (User × Bool)}

theorem userPath_of_resolveConflict {what : String}
    (h : Path (resolveConflict i spare) turns (.done r)) :
    UserPath i spare (conflictTurns i spare what ++ turns) r := by
  obtain ⟨found, rest, rfl, hfound⟩ := path_call_done_iff.mp h
  match found with
  | .error e =>
    obtain ⟨rfl, he⟩ := path_done_iff.mp hfound
    cases he
    exact .relookupFailed what e
  | .ok (some u) =>
    obtain ⟨rfl, he⟩ := path_done_iff.mp hfound
    cases he
    exact .foundThen what u
  | .ok none =>
    obtain ⟨created, rest, rfl, hcreated⟩ := path_call_done_iff.mp hfound
    match created with
    | .error e =>
      obtain ⟨rfl, he⟩ := path_done_iff.mp hcreated
      cases he
      exact .retryRefused what e
    | .ok u =>
      obtain ⟨rfl, he⟩ := path_done_iff.mp hcreated
      cases he
      exact .retried what u

theorem userPath_of_path (h : Path (findOrCreateUser i spare) turns (.done r)) :
    UserPath i spare turns r := by
  obtain ⟨found, rest, rfl, hfound⟩ := path_call_done_iff.mp h
  match found with
  | .error e =>
    obtain ⟨rfl, he⟩ := path_done_iff.mp hfound
    cases he
    exact .lookupFailed e
  | .ok (some u) =>
    obtain ⟨rfl, he⟩ := path_done_iff.mp hfound
    cases he
    exact .found u
  | .ok none =>
    obtain ⟨created, rest, rfl, hcreated⟩ := path_call_done_iff.mp hfound
    match created with
    | .ok u =>
      obtain ⟨rfl, he⟩ := path_done_iff.mp hcreated
      cases he
      exact .created u
    | .error (.conflict what) => exact userPath_of_resolveConflict hcreated
    | .error (.notFound what) =>
      obtain ⟨rfl, he⟩ := path_done_iff.mp hcreated
      cases he
      exact .refused _ nofun
    | .error (.invalid what) =>
      obtain ⟨rfl, he⟩ := path_done_iff.mp hcreated
      cases he
      exact .refused _ nofun
    | .error (.unavailable what) =>
      obtain ⟨rfl, he⟩ := path_done_iff.mp hcreated
      cases he
      exact .refused _ nofun

end User

/-- How a run can go, by what its search for the user has come to. -/
inductive ProvisionPath (i : Identity) (client : ClientContext) (spare : SpareNames) :
    List (Turn Call.Answer) → Except Failure Provisioned → Prop where
  | noUser {turns : List (Turn Call.Answer)} {f : Failure} : UserPath i spare turns (.error f) →
      ProvisionPath i client spare turns (.error f)
  | noSession {turns : List (Turn Call.Answer)} {user : User} {created : Bool} (e : StoreError) :
      UserPath i spare turns (.ok (user, created)) →
      ProvisionPath i client spare (turns ++ [⟨.issueSession user client, .error e⟩])
        (.error ⟨.issueSession, e⟩)
  | provisioned {turns joined : List (Turn Call.Answer)} (p : Provisioned) :
      UserPath i spare turns (.ok (p.user, p.created)) →
      Path (joinTeams i p.user.id i.organizations) joined (.done p.teams) →
      ProvisionPath i client spare (turns ++ ⟨.issueSession p.user client, .ok p.session⟩ :: joined)
        (.ok p)

theorem provisionPath_of_path {i : Identity} {client : ClientContext} {spare : SpareNames}
    {turns : List (Turn Call.Answer)} {r : Except Failure Provisioned}
    (h : Path (provision i client spare) turns (.done r)) :
    ProvisionPath i client spare turns r := by
  obtain ⟨first, found, rest, rfl, hfirst, hrest⟩ := path_bind_done_iff.mp h
  have hu := userPath_of_path hfirst
  match found with
  | .error f =>
    obtain ⟨rfl, he⟩ := path_done_iff.mp hrest
    cases he
    rw [List.append_nil]
    exact .noUser hu
  | .ok (user, created) =>
    obtain ⟨issued, joined, rfl, hissued⟩ := path_call_done_iff.mp hrest
    match issued with
    | .error e =>
      obtain ⟨rfl, he⟩ := path_done_iff.mp hissued
      cases he
      exact .noSession e hu
    | .ok session =>
      obtain ⟨joined, teams, rest, rfl, hjoined, hdone⟩ :=
        (path_bind_done_iff (p := joinTeams i user.id i.organizations)).mp hissued
      obtain ⟨rfl, he⟩ := path_done_iff.mp hdone
      cases he
      rw [List.append_nil]
      exact .provisioned ⟨user, created, session, teams⟩ hu hjoined

/-! ## The team of an organization -/

inductive TeamPath (slug : String) (o : Organization) :
    List (Turn Call.Answer) → Option Team → Prop where
  | lookupFailed (e : StoreError) : TeamPath slug o [⟨.findTeamByName slug, .error e⟩] none
  | found (x : Team) : TeamPath slug o [⟨.findTeamByName slug, .ok (some x)⟩] (some x)
  | created (x : Team) : TeamPath slug o
      [⟨.findTeamByName slug, .ok none⟩, ⟨.createTeam ⟨slug, o.name⟩, .ok x⟩] (some x)
  | refused (e : StoreError) : (∀ what, e ≠ .conflict what) → TeamPath slug o
      [⟨.findTeamByName slug, .ok none⟩, ⟨.createTeam ⟨slug, o.name⟩, .error e⟩] none
  | relookupFailed (what : String) (e : StoreError) : TeamPath slug o
      [⟨.findTeamByName slug, .ok none⟩, ⟨.createTeam ⟨slug, o.name⟩, .error (.conflict what)⟩,
        ⟨.findTeamByName slug, .error e⟩] none
  | relooked (what : String) (found : Option Team) : TeamPath slug o
      [⟨.findTeamByName slug, .ok none⟩, ⟨.createTeam ⟨slug, o.name⟩, .error (.conflict what)⟩,
        ⟨.findTeamByName slug, .ok found⟩] found

inductive RoundPath (user : UserId) (o : Organization) :
    List (Turn Call.Answer) → Option String → Prop where
  | noSlug : Slug.ofName o.name = "" → RoundPath user o [] none
  | noTeam {turns : List (Turn Call.Answer)} : Slug.ofName o.name ≠ "" →
      TeamPath (Slug.ofName o.name) o turns none → RoundPath user o turns none
  | refused {turns : List (Turn Call.Answer)} {x : Team} (e : StoreError) :
      Slug.ofName o.name ≠ "" → TeamPath (Slug.ofName o.name) o turns (some x) →
      RoundPath user o (turns ++ [⟨.addUserToTeam x.id user, .error e⟩]) none
  | joined {turns : List (Turn Call.Answer)} {x : Team} (m : Membership) :
      Slug.ofName o.name ≠ "" → TeamPath (Slug.ofName o.name) o turns (some x) →
      RoundPath user o (turns ++ [⟨.addUserToTeam x.id user, .ok m⟩]) (some (Slug.ofName o.name))
  | granted {turns : List (Turn Call.Answer)} {x : Team} (m : Membership)
      (a : Except StoreError Unit) : Slug.ofName o.name ≠ "" →
      TeamPath (Slug.ofName o.name) o turns (some x) →
      RoundPath user o (turns ++ [⟨.addUserToTeam x.id user, .ok m⟩,
        ⟨.setTeamRole x.id user .admin, a⟩]) (some (Slug.ofName o.name))

section Team

variable {i : Identity} {user : UserId} {o : Organization} {turns : List (Turn Call.Answer)}

theorem teamPath_of_path {slug : String} {found : Option Team}
    (h : Path (findOrCreateTeam? slug o) turns (.done found)) : TeamPath slug o turns found := by
  obtain ⟨sought, rest, rfl, hsought⟩ := path_call_done_iff.mp h
  match sought with
  | .error e =>
    obtain ⟨rfl, he⟩ := path_done_iff.mp hsought
    cases he
    exact .lookupFailed e
  | .ok (some x) =>
    obtain ⟨rfl, he⟩ := path_done_iff.mp hsought
    cases he
    exact .found x
  | .ok none =>
    obtain ⟨created, rest, rfl, hcreated⟩ := path_call_done_iff.mp hsought
    match created with
    | .ok x =>
      obtain ⟨rfl, he⟩ := path_done_iff.mp hcreated
      cases he
      exact .created x
    | .error (.conflict what) =>
      obtain ⟨resought, rest, rfl, hresought⟩ := path_call_done_iff.mp hcreated
      match resought with
      | .ok _ =>
        obtain ⟨rfl, he⟩ := path_done_iff.mp hresought
        cases he
        exact .relooked what _
      | .error e =>
        obtain ⟨rfl, he⟩ := path_done_iff.mp hresought
        cases he
        exact .relookupFailed what e
    | .error (.notFound what) =>
      obtain ⟨rfl, he⟩ := path_done_iff.mp hcreated
      cases he
      exact .refused _ nofun
    | .error (.invalid what) =>
      obtain ⟨rfl, he⟩ := path_done_iff.mp hcreated
      cases he
      exact .refused _ nofun
    | .error (.unavailable what) =>
      obtain ⟨rfl, he⟩ := path_done_iff.mp hcreated
      cases he
      exact .refused _ nofun

theorem roundPath_of_path {joined : Option String}
    (h : Path (joinTeam? i user o) turns (.done joined)) : RoundPath user o turns joined := by
  unfold joinTeam? at h
  dsimp only at h
  split at h
  next hempty =>
    obtain ⟨rfl, he⟩ := path_done_iff.mp h
    cases he
    exact .noSlug (String.isEmpty_iff.mp hempty)
  next hslug =>
    have hslug : Slug.ofName o.name ≠ "" := by simpa [String.isEmpty_iff] using hslug
    obtain ⟨first, found, rest, rfl, hfirst, hrest⟩ := path_bind_done_iff.mp h
    have hteam := teamPath_of_path hfirst
    match found with
    | none =>
      obtain ⟨rfl, he⟩ := path_done_iff.mp hrest
      cases he
      rw [List.append_nil]
      exact .noTeam hslug hteam
    | some x =>
      obtain ⟨added, rest, rfl, hadded⟩ := path_call_done_iff.mp hrest
      match added with
      | .error e =>
        obtain ⟨rfl, he⟩ := path_done_iff.mp hadded
        cases he
        exact .refused e hslug hteam
      | .ok m =>
        obtain ⟨granted, _, last, rfl, hgranted, hdone⟩ :=
          (path_bind_done_iff (p := grantAdmin i x.id user m.role)).mp hadded
        obtain ⟨rfl, he⟩ := path_done_iff.mp hdone
        cases he
        rw [List.append_nil]
        unfold grantAdmin at hgranted
        split at hgranted
        next =>
          obtain ⟨a, rest, rfl, hset⟩ := path_call_done_iff.mp hgranted
          obtain ⟨rfl, _⟩ := path_done_iff.mp hset
          exact .granted m a hslug hteam
        next =>
          obtain ⟨rfl, _⟩ := path_done_iff.mp hgranted
          exact .joined m hslug hteam

end Team

/-! ## What a path has made -/

/-- A call that neither creates a user nor issues a session. -/
def IsTeamCall : Call → Prop
  | .findTeamByName _ | .createTeam _ | .addUserToTeam _ _ | .setTeamRole _ _ _ => True
  | .findUserByEmail _ | .createUser _ | .issueSession _ _ => False

theorem findOrCreateTeam?_makesOnly (slug : String) (o : Organization) :
    (findOrCreateTeam? slug o).MakesOnly IsTeamCall := by
  refine .call trivial fun found => ?_
  match found with
  | .error _ => exact .done _
  | .ok (some _) => exact .done _
  | .ok none =>
    refine .call trivial fun created => ?_
    match created with
    | .ok _ => exact .done _
    | .error (.conflict _) =>
      refine .call trivial fun found => ?_
      match found with
      | .error _ => exact .done _
      | .ok _ => exact .done _
    | .error (.notFound _) => exact .done _
    | .error (.invalid _) => exact .done _
    | .error (.unavailable _) => exact .done _

theorem grantAdmin_makesOnly (i : Identity) (team : TeamId) (user : UserId) (role : TeamRole) :
    (grantAdmin i team user role).MakesOnly IsTeamCall := by
  unfold grantAdmin
  split
  next => exact .call trivial fun _ => .done _
  next => exact .done _

theorem joinTeam?_makesOnly (i : Identity) (user : UserId) (o : Organization) :
    (joinTeam? i user o).MakesOnly IsTeamCall := by
  unfold joinTeam?
  dsimp only
  split
  next => exact .done _
  next =>
    refine (findOrCreateTeam?_makesOnly _ o).bind fun found => ?_
    match found with
    | none => exact .done _
    | some team =>
      refine .call trivial fun added => ?_
      match added with
      | .error _ => exact .done _
      | .ok membership => exact (grantAdmin_makesOnly i team.id user _).bind fun _ => .done _

theorem joinTeams_makesOnly (i : Identity) (user : UserId) (os : List Organization) :
    (joinTeams i user os).MakesOnly IsTeamCall := by
  induction os with
  | nil => exact .done _
  | cons o os ih => exact (joinTeam?_makesOnly i user o).bind fun _ => ih.bind fun _ => .done _

def createdUser? : Turn Call.Answer → Option User
  | ⟨.createUser _, .ok u⟩ => some u
  | _ => none

def issuedSession? : Turn Call.Answer → Option Session
  | ⟨.issueSession _ _, .ok x⟩ => some x
  | _ => none

theorem createdUser?_of_isTeamCall {t : Turn Call.Answer} (h : IsTeamCall t.1) :
    createdUser? t = none := by
  obtain ⟨c, a⟩ := t
  cases c <;> first | rfl | cases h

theorem issuedSession?_of_isTeamCall {t : Turn Call.Answer} (h : IsTeamCall t.1) :
    issuedSession? t = none := by
  obtain ⟨c, a⟩ := t
  cases c <;> first | rfl | cases h

theorem UserPath.createdUsers {i : Identity} {spare : SpareNames} {turns : List (Turn Call.Answer)}
    {r : Except Failure (User × Bool)} (h : UserPath i spare turns r) {u : User} :
    u ∈ turns.filterMap createdUser? ↔ r = .ok (u, true) := by
  cases h <;> simp [conflictTurns, createdUser?, eq_comm]

theorem UserPath.issuedSessions {i : Identity} {spare : SpareNames}
    {turns : List (Turn Call.Answer)} {r : Except Failure (User × Bool)}
    (h : UserPath i spare turns r) : turns.filterMap issuedSession? = [] := by
  cases h <;> rfl

section Provision

variable {i : Identity} {client : ClientContext} {spare : SpareNames}
  {turns : List (Turn Call.Answer)} {r : Except Failure Provisioned}

theorem joinTeams_filterMap {β : Type} {g : Turn Call.Answer → Option β}
    (hg : ∀ t, IsTeamCall t.1 → g t = none) {user : UserId} {os : List Organization}
    {q : Use (List String)} (h : Path (joinTeams i user os) turns q) : turns.filterMap g = [] :=
  List.filterMap_eq_nil_iff.mpr fun t ht =>
    hg t ((joinTeams_makesOnly i user os).of_path h t ht)

theorem ProvisionPath.issuedSessions (h : ProvisionPath i client spare turns r) :
    turns.filterMap issuedSession? = (r.toOption.map (·.session)).toList := by
  cases h with
  | noUser hu => exact hu.issuedSessions
  | noSession e hu =>
    rw [List.filterMap_append, hu.issuedSessions]
    rfl
  | provisioned p hu hj =>
    rw [List.filterMap_append, hu.issuedSessions, List.filterMap_cons,
      joinTeams_filterMap (fun _ => issuedSession?_of_isTeamCall) hj]
    rfl

/-- The users whom a run has created, unless it has failed over the session. -/
theorem ProvisionPath.createdUsers (h : ProvisionPath i client spare turns r)
    (hs : ∀ e, r ≠ .error ⟨.issueSession, e⟩) {u : User} :
    u ∈ turns.filterMap createdUser? ↔ ∃ p, r = .ok p ∧ p.created = true ∧ p.user = u := by
  cases h with
  | noUser hu =>
    rw [hu.createdUsers]
    simp
  | noSession e _ => exact absurd rfl (hs e)
  | provisioned p hu hj =>
    rw [List.filterMap_append, List.mem_append, hu.createdUsers, List.filterMap_cons,
      joinTeams_filterMap (fun _ => createdUser?_of_isTeamCall) hj]
    simp [createdUser?, and_comm]

end Provision

theorem eq_of_retryRefused {i : Identity} {client : ClientContext} {spare : SpareNames}
    {what : String} {e : StoreError} {turns : List (Turn Call.Answer)}
    {r : Except Failure Provisioned}
    (h : Path (provision i client spare) (conflictTurns i spare what ++
      ⟨.findUserByEmail i.email, .ok none⟩ :: ⟨.createUser (newUser i spare.second), .error e⟩ ::
        turns) (.done r)) : r = .error ⟨.createUser, e⟩ := by
  have hdone : Path (.done (.error ⟨.createUser, e⟩)) turns (.done r) := h.tail.tail.tail.tail
  obtain ⟨_, he⟩ := path_done_iff.mp hdone
  cases he
  rfl

end FederatedLogin.Provisioning
