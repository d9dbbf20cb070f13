import FederatedLogin.Proofs.Provisioning.Path

/-! # The conduct of a run

What a run asks of those it works with: a store of users, an issuer of sessions and a store of
teams. Each may answer anything. The first two decide how the run ends; the store of teams is asked
last, and what it answers shows in the list of teams alone.
-/

namespace FederatedLogin.Provisioning

open Store (Call Use)
open Program (Path Turn path_run bind_eq turns_bind run_bind)

instance : (c : Call) → Decidable (IsTeamCall c)
  | .findTeamByName _ | .createTeam _ | .addUserToTeam _ _ | .setTeamRole _ _ _ => isTrue trivial
  | .findUserByEmail _ | .createUser _ | .issueSession _ _ => isFalse id

/-! ## What was asked -/

def lookup? : Turn Call.Answer → Option (String × Except StoreError (Option User))
  | ⟨.findUserByEmail email, a⟩ => some (email, a)
  | _ => none

def attempt? : Turn Call.Answer → Option (NewUser × Except StoreError User)
  | ⟨.createUser new, a⟩ => some (new, a)
  | _ => none

def issue? : Turn Call.Answer → Option ((User × ClientContext) × Except StoreError Session)
  | ⟨.issueSession user client, a⟩ => some ((user, client), a)
  | _ => none

/-- The answers that end a run with a failure, given the turns before: an error, unless it is a
conflict over the first user that is asked for. -/
inductive Fatal (early : List (Turn Call.Answer)) : Turn Call.Answer → Failure → Prop where
  | firstLookup (email : String) (e : StoreError) : early.filterMap lookup? = [] →
      Fatal early ⟨.findUserByEmail email, .error e⟩ ⟨.findUser, e⟩
  | firstAttempt (new : NewUser) (e : StoreError) : early.filterMap attempt? = [] →
      (∀ what, e ≠ .conflict what) → Fatal early ⟨.createUser new, .error e⟩ ⟨.createUser, e⟩
  | secondLookup (email : String) (e : StoreError) (new : NewUser) (what : String) :
      early.filterMap attempt? = [(new, .error (.conflict what))] →
      Fatal early ⟨.findUserByEmail email, .error e⟩ ⟨.findUser, e⟩
  | secondAttempt (new : NewUser) (e : StoreError) (new' : NewUser) (what : String)
      (first : String × Except StoreError (Option User)) (email : String) :
      early.filterMap attempt? = [(new', .error (.conflict what))] →
      early.filterMap lookup? = [first, (email, .ok none)] →
      Fatal early ⟨.createUser new, .error e⟩ ⟨.createUser, e⟩
  | session (user : User) (client : ClientContext) (e : StoreError) :
      Fatal early ⟨.issueSession user client, .error e⟩ ⟨.issueSession, e⟩

def error? : Turn Call.Answer → Option StoreError
  | ⟨_, .error e⟩ => some e
  | ⟨_, .ok _⟩ => none

/-- The users that a run may ask for, one after the other. They differ in the username alone. -/
def proposals (i : Identity) (spare : SpareNames) : List NewUser :=
  let new : NewUser := {
    username := i.localUsername spare.first
    email := i.email
    firstName := i.firstName
    lastName := i.lastName
    authService := i.provider
    authData := i.authKey }
  [new, { new with username := spare.second }]

/-- The course of a run whose search for the user, or the creation of one, comes to `found`. A
session is asked for if there is a user, and teams if there is a session. -/
inductive Course (i : Identity) (client : ClientContext) (spare : SpareNames) :
    (found : Except Failure (User × Bool)) → List (Turn Call.Answer) →
      Except Failure Provisioned → Prop where
  | noUser {turns : List (Turn Call.Answer)} {f : Failure} : UserPath i spare turns (.error f) →
      Course i client spare (.error f) turns (.error f)
  | noSession {turns : List (Turn Call.Answer)} {user : User} {created : Bool} (e : StoreError) :
      UserPath i spare turns (.ok (user, created)) →
      Course i client spare (.ok (user, created))
        (turns ++ [⟨.issueSession user client, .error e⟩]) (.error ⟨.issueSession, e⟩)
  | provisioned {turns joined : List (Turn Call.Answer)} (p : Provisioned) :
      UserPath i spare turns (.ok (p.user, p.created)) → (∀ t ∈ joined, IsTeamCall t.1) →
      Course i client spare (.ok (p.user, p.created))
        (turns ++ ⟨.issueSession p.user client, .ok p.session⟩ :: joined) (.ok p)

/-- How a run conducts itself that makes the given turns and comes to a result, where its search for
the user, or the creation of one, comes to `found`. -/
structure Conduct (i : Identity) (client : ClientContext) (spare : SpareNames)
    (found : Except Failure (User × Bool)) (turns : List (Turn Call.Answer))
    (r : Except Failure Provisioned) : Prop where
  course : Course i client spare found turns r
  fails : ∀ f, r = .error f → ∃ early t, turns = early ++ [t] ∧ Fatal early t f
  stops : ∀ early t late f, turns = early ++ t :: late → Fatal early t f → r = .error f ∧ late = []
  lookups : (turns.filterMap lookup?).map (·.1) <+: [i.email, i.email]
  attempts : (turns.filterMap attempt?).map (·.1) <+: proposals i spare
  issues : (turns.filterMap issue?).map (·.1) = (found.toOption.map fun x => (x.1, client)).toList
  returns : ∀ p, r = .ok p → found = .ok (p.user, p.created) ∧
    turns.filterMap issue? = [((p.user, client), .ok p.session)]
  teams : ∀ early t late, turns = early ++ t :: late → IsTeamCall t.1 →
    early.filterMap issuedSession? ≠ []

/-! ## The search for a user -/

section User

variable {i : Identity} {spare : SpareNames} {turns early late : List (Turn Call.Answer)}
  {t : Turn Call.Answer} {f : Failure} {r : Except Failure (User × Bool)}

theorem Fatal.error? (h : Fatal early t f) : error? t = some f.cause := by
  cases h <;> rfl

theorem not_fatal_of_error?_eq_none (h : error? t = none) : ¬ Fatal early t f := by
  intro hf
  exact Option.some_ne_none _ (hf.error?.symm.trans h)

theorem not_fatal_of_conflict {new : NewUser} {what : String}
    (h : early.filterMap attempt? = []) :
    ¬ Fatal early ⟨.createUser new, .error (.conflict what)⟩ f := by
  intro hf
  cases hf with
  | firstAttempt _ _ _ hne => exact hne what rfl
  | secondAttempt _ _ _ _ _ _ hc _ => exact List.cons_ne_nil _ _ (hc.symm.trans h)

theorem Fatal.unique {f' : Failure} (h : Fatal early t f) (h' : Fatal early t f') : f = f' := by
  cases h <;> cases h' <;> rfl

theorem Fatal.not_isTeamCall (h : Fatal early t f) : ¬ IsTeamCall t.1 := by
  cases h <;> exact id

/-- A search goes on as long as it finds nobody and meets with a conflict over the first name. -/
theorem UserPath.prefix_dropLast (hu : UserPath i spare turns r) :
    ∃ what, turns.dropLast <+: conflictTurns i spare what ++
      [⟨.findUserByEmail i.email, .ok none⟩] := by
  cases hu with
  | lookupFailed e => exact ⟨"", _, rfl⟩
  | found u => exact ⟨"", _, rfl⟩
  | created u => exact ⟨"", _, rfl⟩
  | refused e _ => exact ⟨"", _, rfl⟩
  | relookupFailed what e => exact ⟨what, _, rfl⟩
  | foundThen what u => exact ⟨what, _, rfl⟩
  | retried what u => exact ⟨what, _, rfl⟩
  | retryRefused what e => exact ⟨what, _, rfl⟩

theorem snoc_prefix_snoc {a : Turn Call.Answer} {l : List (Turn Call.Answer)}
    (h : early ++ [t] <+: l ++ [a]) : early = l ∧ t = a ∨ early ++ [t] <+: l := by
  rcases List.prefix_concat_iff.mp h with h | h
  · obtain ⟨hl, ha⟩ := List.append_inj' h rfl
    exact .inl ⟨hl, List.singleton_inj.mp ha⟩
  · exact .inr h

theorem not_fatal_of_prefix_conflict {what : String}
    (h : early ++ [t] <+: conflictTurns i spare what ++ [⟨.findUserByEmail i.email, .ok none⟩]) :
    ¬ Fatal early t f := by
  rcases snoc_prefix_snoc h with ⟨_, rfl⟩ | h
  · exact not_fatal_of_error?_eq_none rfl
  rcases snoc_prefix_snoc (l := [_]) h with ⟨rfl, rfl⟩ | h
  · exact not_fatal_of_conflict rfl
  rcases snoc_prefix_snoc (l := []) h with ⟨_, rfl⟩ | h
  · exact not_fatal_of_error?_eq_none rfl
  · exact absurd (List.prefix_nil.mp h)
      (List.append_ne_nil_of_right_ne_nil _ (List.cons_ne_nil _ _))

theorem UserPath.exists_fatal (hu : UserPath i spare turns (.error f)) :
    ∃ early t, turns = early ++ [t] ∧ Fatal early t f := by
  cases hu with
  | lookupFailed e => exact ⟨[], _, rfl, .firstLookup _ e rfl⟩
  | refused e hne => exact ⟨[_], _, rfl, .firstAttempt _ e rfl hne⟩
  | relookupFailed what e =>
    exact ⟨conflictTurns i spare what, _, rfl, .secondLookup _ e _ what rfl⟩
  | retryRefused what e =>
    exact ⟨_, _, List.append_cons _ _ _, .secondAttempt _ e _ what _ _ rfl rfl⟩

theorem UserPath.error?_getLast? {x : User × Bool} (hu : UserPath i spare turns (.ok x)) :
    turns.getLast?.bind error? = none := by
  cases hu <;> rfl

/-- Of the turns of a search, the last alone can be fatal, and then the search has failed. -/
theorem UserPath.eq_error_of_fatal (hu : UserPath i spare turns r) (ht : turns = early ++ t :: late)
    (hf : Fatal early t f) : r = .error f ∧ late = [] := by
  rcases List.eq_nil_or_concat late with rfl | ⟨late, last, rfl⟩
  · cases r with
    | error f' =>
      obtain ⟨_, _, he, hf'⟩ := hu.exists_fatal
      obtain ⟨rfl, ht'⟩ := List.append_inj' (he.symm.trans ht) rfl
      cases ht'
      exact ⟨congrArg _ (hf'.unique hf), rfl⟩
    | ok x =>
      have hok := hu.error?_getLast?
      rw [ht, List.getLast?_concat] at hok
      exact absurd hf (not_fatal_of_error?_eq_none hok)
  · obtain ⟨what, hinitial⟩ := hu.prefix_dropLast
    have hlast : turns = (early ++ [t] ++ late) ++ [last] := by simpa using ht
    have hearly : early ++ [t] <+: turns.dropLast := ⟨late, by rw [hlast, List.dropLast_concat]⟩
    exact absurd hf (not_fatal_of_prefix_conflict (hearly.trans hinitial))

theorem UserPath.lookups (hu : UserPath i spare turns r) :
    (turns.filterMap lookup?).map (·.1) <+: [i.email, i.email] := by
  cases hu <;> exact ⟨_, rfl⟩

theorem UserPath.attempts (hu : UserPath i spare turns r) :
    (turns.filterMap attempt?).map (·.1) <+: proposals i spare := by
  cases hu <;> exact ⟨_, rfl⟩

theorem UserPath.issues (hu : UserPath i spare turns r) : turns.filterMap issue? = [] := by
  cases hu <;> rfl

theorem UserPath.not_isTeamCall (hu : UserPath i spare turns r) :
    ∀ t ∈ turns, ¬ IsTeamCall t.1 := by
  cases hu <;> simp [conflictTurns, IsTeamCall]

end User

/-! ## After the search -/

theorem of_isTeamCall {t : Turn Call.Answer} (h : IsTeamCall t.1) :
    lookup? t = none ∧ attempt? t = none ∧ issue? t = none := by
  obtain ⟨c, a⟩ := t
  cases c <;> first | exact ⟨rfl, rfl, rfl⟩ | cases h

/-- A turn that is not among the first of two parts of a run is in the second. -/
theorem exists_of_append_eq {turns rest early late : List (Turn Call.Answer)}
    {t : Turn Call.Answer} (h : turns ++ rest = early ++ t :: late)
    (hn : ∀ late', turns ≠ early ++ t :: late') :
    ∃ between, early = turns ++ between ∧ rest = between ++ t :: late := by
  rcases List.append_eq_append_iff.mp h with h | ⟨between, hb, hc⟩
  · exact h
  · cases between with
    | nil => exact ⟨[], by simpa using hb.symm, hc.symm⟩
    | cons u between =>
      obtain ⟨rfl, _⟩ := List.cons.inj hc
      exact absurd hb (hn between)

section Run

variable {i : Identity} {client : ClientContext} {spare : SpareNames}
  {turns joined : List (Turn Call.Answer)} {user : User} {created : Bool}

theorem filterMap_append_cons {β : Type} {g : Turn Call.Answer → Option β}
    (hg : ∀ t, IsTeamCall t.1 → g t = none) (hj : ∀ t ∈ joined, IsTeamCall t.1)
    (s : Turn Call.Answer) :
    (turns ++ s :: joined).filterMap g = turns.filterMap g ++ (g s).toList := by
  have hnil : joined.filterMap g = [] := List.filterMap_eq_nil_iff.mpr fun t ht => hg t (hj t ht)
  rw [List.filterMap_append, List.filterMap_cons, hnil]
  cases g s <;> rfl

theorem UserPath.conduct_noUser {f : Failure} (hu : UserPath i spare turns (.error f)) :
    Conduct i client spare (.error f) turns (.error f) where
  course := .noUser hu
  fails := by
    rintro _ ⟨⟩
    exact hu.exists_fatal
  stops early t late f ht hf := by
    obtain ⟨he, hlate⟩ := hu.eq_error_of_fatal ht hf
    cases he
    exact ⟨rfl, hlate⟩
  lookups := hu.lookups
  attempts := hu.attempts
  issues := by rw [hu.issues]; rfl
  returns _ hr := nomatch hr
  teams early t late ht hteam :=
    absurd hteam (hu.not_isTeamCall t (ht ▸ List.mem_append_right _ List.mem_cons_self))

section Asked

variable {r : Except Failure (User × Bool)} {a : Except StoreError Session}

theorem UserPath.lookups_asked (hu : UserPath i spare turns r)
    (hj : ∀ t ∈ joined, IsTeamCall t.1) :
    ((turns ++ ⟨.issueSession user client, a⟩ :: joined).filterMap lookup?).map (·.1) <+:
      [i.email, i.email] := by
  rw [filterMap_append_cons (fun _ ht => (of_isTeamCall ht).1) hj]
  exact (List.append_nil _).symm ▸ hu.lookups

theorem UserPath.attempts_asked (hu : UserPath i spare turns r)
    (hj : ∀ t ∈ joined, IsTeamCall t.1) :
    ((turns ++ ⟨.issueSession user client, a⟩ :: joined).filterMap attempt?).map (·.1) <+:
      proposals i spare := by
  rw [filterMap_append_cons (fun _ ht => (of_isTeamCall ht).2.1) hj]
  exact (List.append_nil _).symm ▸ hu.attempts

theorem UserPath.issues_asked (hu : UserPath i spare turns r)
    (hj : ∀ t ∈ joined, IsTeamCall t.1) :
    (turns ++ ⟨.issueSession user client, a⟩ :: joined).filterMap issue? =
      [((user, client), a)] := by
  rw [filterMap_append_cons (fun _ ht => (of_isTeamCall ht).2.2) hj, hu.issues]
  rfl

theorem UserPath.exists_of_isTeamCall (hu : UserPath i spare turns r)
    {s t : Turn Call.Answer} {early late : List (Turn Call.Answer)} (hs : ¬ IsTeamCall s.1)
    (ht : turns ++ s :: joined = early ++ t :: late) (hteam : IsTeamCall t.1) :
    ∃ between, early = turns ++ s :: between ∧ t ∈ joined := by
  obtain ⟨between, rfl, hb⟩ := exists_of_append_eq ht fun late' ht' =>
    hu.not_isTeamCall t (ht' ▸ List.mem_append_right _ List.mem_cons_self) hteam
  cases between with
  | nil =>
    obtain ⟨rfl, _⟩ := List.cons.inj hb
    exact absurd hteam hs
  | cons _ between =>
    obtain ⟨rfl, rfl⟩ := List.cons.inj hb
    exact ⟨between, rfl, List.mem_append_right _ List.mem_cons_self⟩

theorem UserPath.eq_of_fatal {x : User × Bool} (hu : UserPath i spare turns (.ok x))
    (hj : ∀ t ∈ joined, IsTeamCall t.1) {s t : Turn Call.Answer}
    {early late : List (Turn Call.Answer)} {f : Failure}
    (ht : turns ++ s :: joined = early ++ t :: late) (hf : Fatal early t f) :
    t = s ∧ late = joined := by
  obtain ⟨between, rfl, hb⟩ := exists_of_append_eq ht fun late' ht' => by
    cases (hu.eq_error_of_fatal ht' hf).1
  cases between with
  | nil =>
    obtain ⟨rfl, rfl⟩ := List.cons.inj hb
    exact ⟨rfl, rfl⟩
  | cons _ between =>
    obtain ⟨_, rfl⟩ := List.cons.inj hb
    exact absurd (hj t (List.mem_append_right _ List.mem_cons_self)) hf.not_isTeamCall

end Asked

theorem UserPath.conduct_noSession (hu : UserPath i spare turns (.ok (user, created)))
    (e : StoreError) : Conduct i client spare (.ok (user, created))
      (turns ++ [⟨.issueSession user client, .error e⟩]) (.error ⟨.issueSession, e⟩) where
  course := .noSession e hu
  fails := by
    rintro _ ⟨⟩
    exact ⟨turns, _, rfl, .session user client e⟩
  stops early t late f ht hf := by
    obtain ⟨rfl, rfl⟩ := hu.eq_of_fatal (List.forall_mem_nil _) ht hf
    exact ⟨congrArg _ ((Fatal.session user client e).unique hf), rfl⟩
  lookups := hu.lookups_asked (List.forall_mem_nil _)
  attempts := hu.attempts_asked (List.forall_mem_nil _)
  issues := by
    rw [hu.issues_asked (List.forall_mem_nil _)]
    rfl
  returns _ hr := nomatch hr
  teams early t late ht hteam := by
    obtain ⟨_, _, hnil⟩ := hu.exists_of_isTeamCall id ht hteam
    cases hnil

theorem UserPath.conduct_provisioned {p : Provisioned}
    (hu : UserPath i spare turns (.ok (p.user, p.created)))
    (hj : ∀ t ∈ joined, IsTeamCall t.1) : Conduct i client spare (.ok (p.user, p.created))
      (turns ++ ⟨.issueSession p.user client, .ok p.session⟩ :: joined) (.ok p) where
  course := .provisioned p hu hj
  fails _ hr := nomatch hr
  stops early t late f ht hf := by
    obtain ⟨rfl, _⟩ := hu.eq_of_fatal hj ht hf
    exact absurd hf (not_fatal_of_error?_eq_none rfl)
  lookups := hu.lookups_asked hj
  attempts := hu.attempts_asked hj
  issues := by
    rw [hu.issues_asked hj]
    rfl
  returns := by
    rintro _ ⟨⟩
    exact ⟨rfl, hu.issues_asked hj⟩
  teams early t late ht hteam := by
    obtain ⟨between, rfl, _⟩ := hu.exists_of_isTeamCall id ht hteam
    rw [List.filterMap_append, List.filterMap_cons, issuedSession?]
    exact List.append_ne_nil_of_right_ne_nil _ (List.cons_ne_nil _ _)

end Run

/-! ## The parts of a run -/

/-- What follows a search for the user, or the creation of one, but for the teams. -/
def openSession (client : ClientContext) :
    Except Failure (User × Bool) → Use (Except Failure Provisioned)
  | .error f => return .error f
  | .ok (user, created) => do
    match ← ask (.issueSession user client) with
    | .error e => return .error ⟨.issueSession, e⟩
    | .ok session => return .ok { user, created, session, teams := [] }

def joinAfter (i : Identity) : Except Failure Provisioned → Use (Except Failure Provisioned)
  | .error f => return .error f
  | .ok p => do
    let teams ← joinTeams i p.user.id i.organizations
    return .ok { p with teams }

def establish (i : Identity) (client : ClientContext) (spare : SpareNames) :
    Use (Except Failure Provisioned) :=
  findOrCreateUser i spare >>= openSession client

theorem provision_eq_joinAfter (i : Identity) (client : ClientContext) (spare : SpareNames) :
    provision i client spare = establish i client spare >>= joinAfter i := by
  rw [establish, bind_assoc, provision]
  refine congrArg (findOrCreateUser i spare >>= ·) (funext fun found => ?_)
  match found with
  | .error f => rfl
  | .ok (user, created) =>
    refine congrArg (Program.call _) (funext fun issued => ?_)
    match issued with
    | .error e => rfl
    | .ok session => rfl

theorem joinAfter_makesOnly (i : Identity) (r : Except Failure Provisioned) :
    (joinAfter i r).MakesOnly IsTeamCall := by
  match r with
  | .error f => exact .done _
  | .ok p => exact (joinTeams_makesOnly i p.user.id i.organizations).bind fun _ => .done _

section MakesOnly

variable {P : Call → Prop} {i : Identity} {client : ClientContext} {spare : SpareNames}

theorem resolveConflict_makesOnly (hfind : P (.findUserByEmail i.email))
    (hsecond : P (.createUser (newUser i spare.second))) :
    (resolveConflict i spare).MakesOnly P := by
  refine .call hfind fun found => ?_
  match found with
  | .error e => exact .done _
  | .ok (some u) => exact .done _
  | .ok none =>
    refine .call hsecond fun created => ?_
    match created with
    | .ok u => exact .done _
    | .error e => exact .done _

theorem findOrCreateUser_makesOnly (hfind : P (.findUserByEmail i.email))
    (hfirst : P (.createUser (newUser i (i.localUsername spare.first))))
    (hsecond : P (.createUser (newUser i spare.second))) :
    (findOrCreateUser i spare).MakesOnly P := by
  refine .call hfind fun found => ?_
  match found with
  | .error e => exact .done _
  | .ok (some u) => exact .done _
  | .ok none =>
    refine .call hfirst fun created => ?_
    match created with
    | .ok u => exact .done _
    | .error (.conflict what) => exact resolveConflict_makesOnly hfind hsecond
    | .error (.notFound what) => exact .done _
    | .error (.invalid what) => exact .done _
    | .error (.unavailable what) => exact .done _

theorem establish_makesOnly (hfind : P (.findUserByEmail i.email))
    (hfirst : P (.createUser (newUser i (i.localUsername spare.first))))
    (hsecond : P (.createUser (newUser i spare.second)))
    (hissue : ∀ u, P (.issueSession u client)) : (establish i client spare).MakesOnly P := by
  refine (findOrCreateUser_makesOnly hfind hfirst hsecond).bind fun found => ?_
  match found with
  | .error f => exact .done _
  | .ok (user, created) =>
    refine .call (hissue user) fun issued => ?_
    match issued with
    | .error e => exact .done _
    | .ok session => exact .done _

theorem establish_makesNoTeamCall (i : Identity) (client : ClientContext) (spare : SpareNames) :
    (establish i client spare).MakesOnly fun c => ¬ IsTeamCall c :=
  establish_makesOnly id id id fun _ => id

end MakesOnly

/-! ## Whole runs -/

theorem exists_conduct {i : Identity} {client : ClientContext} {spare : SpareNames}
    {turns : List (Turn Call.Answer)} {r : Except Failure Provisioned}
    (h : Path (provision i client spare) turns (.done r)) :
    ∃ found, Conduct i client spare found turns r := by
  cases provisionPath_of_path h with
  | noUser hu => exact ⟨_, hu.conduct_noUser⟩
  | noSession e hu => exact ⟨_, hu.conduct_noSession e⟩
  | provisioned p hu hj =>
    exact ⟨_, hu.conduct_provisioned ((joinTeams_makesOnly i _ _).of_path hj)⟩

/-! ## Two runs -/

/-- Surroundings in which the store of teams has a state of its own, and nobody else looks at it. -/
def apart {σ τ : Type} (own : (c : Call) → σ → c.Answer × σ)
    (teams : (c : Call) → σ × τ → c.Answer × τ) (c : Call) (x : σ × τ) : c.Answer × σ × τ :=
  if IsTeamCall c then
    let (a, t) := teams c x
    (a, x.1, t)
  else
    let (a, s) := own c x.1
    (a, s, x.2)

def ownTurns (turns : List (Turn Call.Answer)) : List (Turn Call.Answer) :=
  turns.filter fun t => ¬ IsTeamCall t.1

def withoutTeams (r : Except Failure Provisioned) : Except Failure Provisioned :=
  r.map fun p => { p with teams := [] }

theorem ownTurns_eq_self {turns : List (Turn Call.Answer)} (h : ∀ t ∈ turns, ¬ IsTeamCall t.1) :
    ownTurns turns = turns :=
  List.filter_eq_self.mpr fun t ht => decide_eq_true (h t ht)

theorem ownTurns_eq_nil {turns : List (Turn Call.Answer)} (h : ∀ t ∈ turns, IsTeamCall t.1) :
    ownTurns turns = [] :=
  List.filter_eq_nil_iff.mpr fun t ht => by simpa using h t ht

theorem withoutTeams_joinAfter {σ : Type} (answer : (c : Call) → σ → c.Answer × σ) (i : Identity)
    (r : Except Failure Provisioned) (s : σ) :
    withoutTeams ((joinAfter i r).run answer s).1 = withoutTeams r := by
  match r with
  | .error f => rfl
  | .ok p =>
    rw [joinAfter, bind_eq, run_bind]
    rfl

theorem withoutTeams_provision {σ : Type} (answer : (c : Call) → σ → c.Answer × σ) (i : Identity)
    (client : ClientContext) (spare : SpareNames) (s : σ) :
    withoutTeams ((provision i client spare).run answer s).1 =
      withoutTeams ((establish i client spare).run answer s).1 := by
  rw [provision_eq_joinAfter, bind_eq, run_bind, withoutTeams_joinAfter]

theorem exists_ok_of_withoutTeams {r : Except Failure Provisioned} {p : Provisioned}
    (h : withoutTeams r = withoutTeams (.ok p)) : ∃ p', r = .ok p' := by
  match r with
  | .error f => cases h
  | .ok p' => exact ⟨p', rfl⟩

section Apart

variable {σ τ : Type} (own : (c : Call) → σ → c.Answer × σ)
  (teams : (c : Call) → σ × τ → c.Answer × τ) (s : σ) (t : τ)

theorem run_apart {α : Type} {p : Use α} (hp : p.MakesOnly fun c => ¬ IsTeamCall c) :
    p.turns (apart own teams) (s, t) = p.turns own s ∧
      p.run (apart own teams) (s, t) = ((p.run own s).1, (p.run own s).2, t) := by
  induction hp generalizing s with
  | done a => exact ⟨rfl, rfl⟩
  | @call c next hc _ ih =>
    have ha : apart own teams c (s, t) = ((own c s).1, (own c s).2, t) := if_neg hc
    obtain ⟨hturns, hrun⟩ := ih (own c s).1 (own c s).2
    simp only [Program.turns, Program.run, ha, hturns, hrun, and_self]

/-- Up to its session a run is the same whatever the store of teams does, and what comes after
changes neither the result nor the turns with the others. -/
theorem provision_apart (i : Identity) (client : ClientContext) (spare : SpareNames) :
    ownTurns ((provision i client spare).turns (apart own teams) (s, t)) =
        (establish i client spare).turns own s ∧
      withoutTeams ((provision i client spare).run (apart own teams) (s, t)).1 =
        withoutTeams ((establish i client spare).run own s).1 := by
  have honly := establish_makesNoTeamCall i client spare
  obtain ⟨hturns, hrun⟩ := run_apart own teams s t honly
  rw [provision_eq_joinAfter, bind_eq, turns_bind, run_bind, hturns, hrun, withoutTeams_joinAfter]
  refine ⟨?_, rfl⟩
  have hteams := (joinAfter_makesOnly i _).of_path (path_run (apart own teams)
    (joinAfter i ((establish i client spare).run own s).1)
    (((establish i client spare).run own s).2, t))
  have hown := ownTurns_eq_self (honly.of_path (path_run own _ s))
  rw [ownTurns] at hown ⊢
  rw [List.filter_append, hown]
  exact (congrArg _ (ownTurns_eq_nil hteams)).trans (List.append_nil _)

end Apart

/-- Whatever those answer whom a run works with, it takes one of the courses, and fails on a fatal
answer and on no other, with the error of that answer and at once. What the store of teams answers
decides neither the result, apart from the teams, nor what is asked of the others. -/
theorem provision_conduct (i : Identity) (client : ClientContext) (spare : SpareNames) :
    (∀ {σ : Type} (answer : (c : Call) → σ → c.Answer × σ) (s : σ), ∃ found,
      Conduct i client spare found ((provision i client spare).turns answer s)
        ((provision i client spare).run answer s).1) ∧
    ∀ {σ τ τ' : Type} (own : (c : Call) → σ → c.Answer × σ)
      (teams : (c : Call) → σ × τ → c.Answer × τ) (teams' : (c : Call) → σ × τ' → c.Answer × τ')
      (s : σ) (t : τ) (t' : τ'),
      ownTurns ((provision i client spare).turns (apart own teams) (s, t)) =
          ownTurns ((provision i client spare).turns (apart own teams') (s, t')) ∧
        withoutTeams ((provision i client spare).run (apart own teams) (s, t)).1 =
          withoutTeams ((provision i client spare).run (apart own teams') (s, t')).1 := by
  refine ⟨fun answer s => exists_conduct (path_run answer _ s), ?_⟩
  intro σ τ τ' own teams teams' s t t'
  obtain ⟨hturns, hr⟩ := provision_apart own teams s t i client spare
  obtain ⟨hturns', hr'⟩ := provision_apart own teams' s t' i client spare
  exact ⟨hturns.trans hturns'.symm, hr.trans hr'.symm⟩

end FederatedLogin.Provisioning
