import FederatedLogin.Proofs.Odoo.Path

/-! # What a secret decides

Two logins that differ in nothing but the secret are answered alike, so they make the same requests
up to the places in which the secret is sent, and come to the same outcome.
-/

namespace FederatedLogin

/-! ## Programs side by side -/

namespace Program

section Parallel

variable {Call Answer α β ε : Type}

/-- Two programs with related calls that go on alike whatever they are answered. -/
inductive Parallel (R : Call → Call → Prop) :
    Program Call (fun _ => Answer) α → Program Call (fun _ => Answer) α → Prop where
  | done (a : α) : Parallel R (.done a) (.done a)
  | call {c c' : Call} {next next' : Answer → Program Call (fun _ => Answer) α} : R c c' →
      (∀ a, Parallel R (next a) (next' a)) → Parallel R (.call c next) (.call c' next')

variable {R : Call → Call → Prop}

theorem Parallel.bind {p p' : Program Call (fun _ => Answer) α}
    {f f' : α → Program Call (fun _ => Answer) β} (hp : Parallel R p p')
    (hf : ∀ a, Parallel R (f a) (f' a)) : Parallel R (p >>= f) (p' >>= f') := by
  induction hp with
  | done a => exact hf a
  | call hc _ ih => exact .call hc ih

theorem Parallel.exceptBind {x x' : ExceptT ε (Program Call fun _ => Answer) α}
    {f f' : α → ExceptT ε (Program Call fun _ => Answer) β} (hx : Parallel R x.run x'.run)
    (hf : ∀ a, Parallel R (f a).run (f' a).run) :
    Parallel R (x >>= f).run (x' >>= f').run := by
  refine hx.bind fun r => ?_
  cases r with
  | error e => exact .done _
  | ok a => exact hf a

section Answered

variable {σ σ' γ : Type} {S : σ → σ' → Prop} {answer : Call → σ → Answer × σ}
  {answer' : Call → σ' → Answer × σ'} {p p' : Program Call (fun _ => Answer) α} {s : σ} {s' : σ'}

/-- Where related calls are answered alike, parallel programs have one result. -/
theorem Parallel.run
    (hanswer : ∀ {c c' s s'}, R c c' → S s s' →
      (answer' c' s').1 = (answer c s).1 ∧ S (answer c s).2 (answer' c' s').2)
    (hp : Parallel R p p') (hs : S s s') :
    (p'.run answer' s').1 = (p.run answer s).1 ∧ S (p.run answer s).2 (p'.run answer' s').2 := by
  induction hp generalizing s s' with
  | done a => exact ⟨rfl, hs⟩
  | call hc _ ih =>
    obtain ⟨ha, hs⟩ := hanswer hc hs
    simp only [Program.run]
    rw [ha]
    exact ih _ hs

theorem Parallel.turns_map (view : Call → γ)
    (hanswer : ∀ {c c' s s'}, R c c' → S s s' →
      (answer' c' s').1 = (answer c s).1 ∧ S (answer c s).2 (answer' c' s').2)
    (hview : ∀ {c c'}, R c c' → view c' = view c) (hp : Parallel R p p') (hs : S s s') :
    (p'.turns answer' s').map (fun t => (view t.1, t.2)) =
      (p.turns answer s).map fun t => (view t.1, t.2) := by
  induction hp generalizing s s' with
  | done a => rfl
  | call hc _ ih =>
    obtain ⟨ha, hs⟩ := hanswer hc hs
    simp only [Program.turns, List.map_cons]
    rw [ha, hview hc]
    exact congrArg _ (ih _ hs)

end Answered

end Parallel

end Program

/-! ## The places of the secret -/

namespace Json

def mapMember (key : String) (f : Json → Json) : Json → Json
  | .object members => .object (members.map fun (k, v) => (k, if k = key then f v else v))
  | v => v

def setItem (i : Nat) (item : Json) : Json → Json
  | .array items => .array (items.set i item)
  | v => v

end Json

namespace Odoo

open Http (Peer Request Upstream)
open Program (Parallel)

def mapParams (f : Json → Json) (r : Request) : Request :=
  { r with body := r.body.map (Json.mapMember "params" f) }

/-- The request with `params.password` blacked out. -/
def redactPassword : Request → Request :=
  mapParams (Json.mapMember "password" fun _ => .string Secret.redacted)

/-- The request with `params.args[2]` blacked out. -/
def redactArgument : Request → Request :=
  mapParams (Json.mapMember "args" (Json.setItem 2 (.string Secret.redacted)))

/-- The requests of a login with the password of the first and the third argument of the later ones
blacked out. -/
def redacted : List Request → List Request
  | [] => []
  | first :: later => redactPassword first :: later.map redactArgument

def SameButArgument (r r' : Request) : Prop := redactArgument r' = redactArgument r

/-- Two requests that differ in one of the places of the secret at most. -/
def SameButSecret (r r' : Request) : Prop :=
  redactPassword r' = redactPassword r ∨ redactArgument r' = redactArgument r

theorem SameButSecret.url_eq {r r' : Request} (h : SameButSecret r r') : r'.url = r.url := by
  rcases h with h | h
  · exact (congrArg Request.url h :)
  · exact (congrArg Request.url h :)

/-! ## Upstreams side by side -/

/-- Two upstreams whose states stand in a relation are none the wiser for the secret: they answer
requests alike that differ in it alone, and their states stand in the relation still. -/
def AnswersAlike (u u' : Upstream) (S : u.State → u'.State → Prop) : Prop :=
  ∀ {r r' : Request} {p : u.State} {p' : u'.State}, SameButSecret r r' → S p p' →
    (u'.answer r' p').1 = (u.answer r p).1 ∧ S (u.answer r p).2 (u'.answer r' p').2

/-- Two peers with the same replies before them. -/
structure SameScript (p p' : Peer) : Prop where
  reachable : p'.reachable = p.reachable
  script : p'.script = p.script

/-- A script is gone through whatever the requests hold. -/
theorem answersAlike_scripted : AnswersAlike .scripted .scripted SameScript := by
  rintro r r' ⟨_, _, received⟩ ⟨reachable, script, received'⟩ h ⟨rfl, rfl⟩
  dsimp only [Upstream.scripted, Peer.deliver]
  rw [h.url_eq]
  split
  · cases script <;> exact ⟨rfl, rfl, rfl⟩
  · exact ⟨rfl, rfl, rfl⟩

/-- Two courses of a login in which the same is received, for requests that are the same but for the
secret. -/
structure SameCourse (turns turns' : Turns) : Prop where
  sent : redacted (turns'.map (·.1)) = redacted (turns.map (·.1))
  received : turns'.map (·.2) = turns.map (·.2)

section Requests

variable (s : Settings) (identifier : String) (secret secret' : Secret String) (uid : Int)

theorem redactPassword_authenticateRequest :
    redactPassword (authenticateRequest s identifier secret') =
      redactPassword (authenticateRequest s identifier secret) :=
  rfl

theorem sameButArgument_searchRequest (id : Int) (model : String) (domain : Json)
    (fields : List String) :
    SameButArgument (searchRequest s secret uid id model domain fields)
      (searchRequest s secret' uid id model domain fields) :=
  rfl

end Requests

/-! ## Steps -/

section Steps

variable {α : Type} (s : Settings) (secret secret' : Secret String) (uid : Int)

theorem parallel_fetch (step : Step) (row? : Json → Option α) (q : Query) :
    Parallel SameButArgument (fetch s uid secret step row? q).run
      (fetch s uid secret' step row? q).run := by
  refine Parallel.exceptBind (.call ?_ fun _ => .done _) fun _ => .done _
  exact sameButArgument_searchRequest s secret secret' uid step.requestId q.model q.domain q.fields

theorem parallel_fetchProfile :
    Parallel SameButArgument (fetchProfile s uid secret).run (fetchProfile s uid secret').run := by
  refine Parallel.exceptBind (parallel_fetch s secret secret' uid _ _ _) fun rows => ?_
  cases rows <;> exact .done _

theorem parallel_fetchOrganizations (ids : List Int) :
    Parallel SameButArgument (fetchOrganizations s uid secret ids).run
      (fetchOrganizations s uid secret' ids).run := by
  cases ids with
  | nil => exact .done _
  | cons id ids => exact (parallel_fetch s secret secret' uid _ _ _).exceptBind fun _ => .done _

theorem parallel_fetchStanding :
    Parallel SameButArgument (fetchStanding s uid secret).run
      (fetchStanding s uid secret').run := by
  refine Parallel.exceptBind (parallel_fetch s secret secret' uid _ _ _) fun rows => ?_
  cases rows with
  | nil => exact .done _
  | cons row rows =>
    exact (parallel_fetchOrganizations s secret secret' uid _).exceptBind fun _ => .done _

theorem parallel_standing (session : SessionInfo) :
    Parallel SameButArgument (standing s session secret).run (standing s session secret').run := by
  unfold standing
  split
  · exact (parallel_fetchStanding s secret secret' _).exceptBind fun _ => .done _
  · exact .done _

end Steps

/-! ## The login -/

def afterSession (s : Settings) (secret : Secret String) :
    Except LoginError (Option SessionInfo) → Http.Exchange (Except LoginError Outcome)
  | .error e => .done (.error e)
  | .ok none => .done (.ok .invalidCredentials)
  | .ok (some session) => ExceptT.run do
    let profile ← fetchProfile s session.uid secret
    let standing ← standing s session secret
    return .authenticated (accountOf session.uid profile standing)

theorem authenticate_run_eq (s : Settings) (identifier : String) (secret : Secret String) :
    (authenticate s identifier secret).run =
      .call (authenticateRequest s identifier secret) fun d => .done (sessionRead s d) := by
  refine congrArg (Program.call _) (funext fun d => ?_)
  unfold sessionRead
  change Program.bind (.done (replyOf .authenticate (Rpc.interpret s.authenticateUrl d))) _ = _
  cases replyOf .authenticate (Rpc.interpret s.authenticateUrl d) <;> rfl

theorem login_run_eq (s : Settings) (identifier : String) (secret : Secret String) :
    (login s identifier secret).run =
      .call (authenticateRequest s identifier secret) fun d =>
        afterSession s secret (sessionRead s d) := by
  unfold login
  rw [ExceptT.run_bind, authenticate_run_eq]
  refine congrArg (Program.call _) (funext fun d => ?_)
  dsimp only
  match sessionRead s d with
  | .error e => rfl
  | .ok none => rfl
  | .ok (some session) => rfl

theorem parallel_afterSession (s : Settings) (secret secret' : Secret String)
    (read : Except LoginError (Option SessionInfo)) :
    Parallel SameButArgument (afterSession s secret read) (afterSession s secret' read) := by
  match read with
  | .error e => exact .done _
  | .ok none => exact .done _
  | .ok (some session) =>
    refine (parallel_fetchProfile s secret secret' session.uid).exceptBind fun profile => ?_
    exact (parallel_standing s secret secret' session).exceptBind fun _ => .done _

section Login

variable {u u' : Upstream} {S : u.State → u'.State → Prop} {p : u.State} {p' : u'.State}

/-- Two runs of exchanges with upstreams whose states stand in a relation. They have one result, the
states stand in the relation still, and the course is the same but for the secret. -/
structure ExchangesAlike {α : Type} (S : u.State → u'.State → Prop) (x x' : Http.Exchange α)
    (p : u.State) (p' : u'.State) : Prop where
  result : (u'.run x' p').1 = (u.run x p).1
  state : S (u.run x p).2 (u'.run x' p').2
  course : SameCourse (x.turns u.answer p) (x'.turns u'.answer p')

/-- Where two upstreams answer alike, the outcome of a login does not depend on the secret, and what
is sent depends on it only in the places where the secret stands. -/
theorem login_exchangesAlike (s : Settings) (identifier : String) (secret secret' : Secret String)
    (hS : AnswersAlike u u' S) (hp : S p p') :
    ExchangesAlike S (login s identifier secret).run (login s identifier secret').run p p' := by
  have hfirst := redactPassword_authenticateRequest s identifier secret secret'
  generalize hr : authenticateRequest s identifier secret = r at hfirst
  generalize hr' : authenticateRequest s identifier secret' = r' at hfirst
  obtain ⟨hdelivery, hnext⟩ := hS (.inl hfirst) hp
  -- what follows the first delivery is parallel, as both logins have read the same from it
  have hparallel := parallel_afterSession s secret secret' (sessionRead s (u.answer r p).1)
  have hlater : ∀ {r r' : Request} {p : u.State} {p' : u'.State}, SameButArgument r r' → S p p' →
      (u'.answer r' p').1 = (u.answer r p).1 ∧ S (u.answer r p).2 (u'.answer r' p').2 :=
    fun h hp => hS (.inr h) hp
  obtain ⟨hresult, hstate⟩ := hparallel.run hlater hnext
  have hturns := hparallel.turns_map redactArgument hlater (fun h => h) hnext
  have hsent := congrArg (List.map Prod.fst) hturns
  have hreceived := congrArg (List.map Prod.snd) hturns
  simp only [List.map_map, Function.comp_def] at hsent hreceived
  rw [login_run_eq, login_run_eq, hr, hr']
  constructor
  case result =>
    simp only [Upstream.run, Program.run]
    rw [hdelivery, hresult]
  case state =>
    simp only [Upstream.run, Program.run]
    rwa [hdelivery]
  case course =>
    simp only [Program.turns]
    rw [hdelivery]
    constructor
    · simp only [List.map_cons, redacted, List.map_map, Function.comp_def, hfirst, hsent]
    · simp only [List.map_cons, hreceived]

end Login

end Odoo

end FederatedLogin
