import Mathlib.Logic.Function.Basic
import FederatedLogin.Proofs.Provisioning.Path
import FederatedLogin.Proofs.Store.Reachable
import FederatedLogin.Proofs.Username

/-! # Interleaved runs

Any number of runs of the provisioning over one store, which make their calls in any order, one call
at a time. What a run has done by itself is a path of its program; what all runs have done together
is a log, from which the users of the store can be read off.
-/

namespace FederatedLogin.Provisioning

open Store (Call Use Service executes)
open Program (Path Turn)

/-- What a run is started with. The serials are those of the usernames generated for it. -/
structure Run where
  identity : Identity
  client : ClientContext
  firstSerial : Nat
  secondSerial : Nat

namespace Run

def email (r : Run) : String := r.identity.email

def spare (r : Run) : SpareNames :=
  ⟨Username.generated r.firstSerial, Username.generated r.secondSerial⟩

def program (r : Run) : Use (Except Failure Provisioned) := provision r.identity r.client r.spare

/-- Whether a user whom the run creates under a generated name would be the only one of the name. -/
def NamesAnew (r : Run) (s : Store) : Call → Prop
  | .createUser new => new.username = r.spare.first ∨ new.username = r.spare.second →
      s.hasUsername new.username = false
  | _ => True

instance (r : Run) (s : Store) : (c : Call) → Decidable (r.NamesAnew s c)
  | .createUser new =>
    decidable_of_iff (¬ (new.username = r.spare.first ∨ new.username = r.spare.second) ∨
      s.hasUsername new.username = false) Decidable.imp_iff_not_or.symm
  | .findUserByEmail _ | .findTeamByName _ | .createTeam _ | .addUserToTeam _ _
  | .setTeamRole _ _ _ | .issueSession _ _ => isTrue trivial

end Run

/-- A store, and what each of the runs over it has still to do. -/
structure Pool (ι : Type) where
  store : Store
  rest : ι → Use (Except Failure Provisioned)

structure Event (ι : Type) where
  run : ι
  turn : Turn Call.Answer

variable {ι : Type}

def Pool.start (runs : ι → Run) (s : Store) : Pool ι := ⟨s, fun k => (runs k).program⟩

variable [DecidableEq ι]

/-- One run makes its next call, and goes on with the answer that the service gives. -/
inductive Step (service : Service) (runs : ι → Run) : Pool ι → Event ι → Pool ι → Prop where
  | call {s t : Store} {rest : ι → Use (Except Failure Provisioned)} {k : ι} {c : Call}
      {next : c.Answer → Use (Except Failure Provisioned)} {a : c.Answer} :
      rest k = .call c next → service s c a t → (runs k).NamesAnew s c →
      Step service runs ⟨s, rest⟩ ⟨k, c, a⟩ ⟨t, Function.update rest k (next a)⟩

/-- The runs go on from one pool to another, call by call in the order of the log. -/
inductive Interleaving (service : Service) (runs : ι → Run) :
    Pool ι → List (Event ι) → Pool ι → Prop where
  | stay (p : Pool ι) : Interleaving service runs p [] p
  | step {p q r : Pool ι} {e : Event ι} {log : List (Event ι)} : Step service runs p e q →
      Interleaving service runs q log r → Interleaving service runs p (e :: log) r

def turnsOf (k : ι) (log : List (Event ι)) : List (Turn Call.Answer) :=
  log.filterMap fun e => if e.run = k then some e.turn else none

theorem turnsOf_append (k : ι) (log log' : List (Event ι)) :
    turnsOf k (log ++ log') = turnsOf k log ++ turnsOf k log' := by
  rw [turnsOf, List.filterMap_append]; rfl

theorem turnsOf_cons_self (k : ι) (t : Turn Call.Answer) (log : List (Event ι)) :
    turnsOf k (⟨k, t⟩ :: log) = t :: turnsOf k log := by
  simp [turnsOf]

theorem turnsOf_cons_of_ne {j k : ι} (h : j ≠ k) (t : Turn Call.Answer) (log : List (Event ι)) :
    turnsOf k (⟨j, t⟩ :: log) = turnsOf k log := by
  simp [turnsOf, h]

theorem mem_turnsOf {k : ι} {t : Turn Call.Answer} {log : List (Event ι)} :
    t ∈ turnsOf k log ↔ ⟨k, t⟩ ∈ log := by
  simp only [turnsOf, List.mem_filterMap, Option.ite_none_right_eq_some, Option.some.injEq]
  constructor
  · rintro ⟨e, he, rfl, rfl⟩
    exact he
  · intro h
    exact ⟨_, h, rfl, rfl⟩

theorem exists_of_turnsOf_eq {k : ι} {log : List (Event ι)} {t : Turn Call.Answer}
    {early late : List (Turn Call.Answer)} (h : turnsOf k log = early ++ t :: late) :
    ∃ before after, log = before ++ ⟨k, t⟩ :: after ∧ turnsOf k before = early ∧
      turnsOf k after = late := by
  obtain ⟨before, rest, rfl, he, hr⟩ := List.filterMap_eq_append_iff.mp h
  obtain ⟨others, e, after, rfl, ho, ht, ha⟩ := List.filterMap_eq_cons_iff.mp hr
  obtain ⟨rfl, rfl⟩ : e.run = k ∧ e.turn = t := by
    simpa [Option.ite_none_right_eq_some] using ht
  refine ⟨before ++ others, after, by simp, ?_, ha⟩
  rw [turnsOf_append, turnsOf, he, turnsOf, List.filterMap_eq_nil_iff.mpr ho, List.append_nil]

namespace Interleaving

variable {service : Service} {runs : ι → Run} {p q : Pool ι} {log log' : List (Event ι)}

theorem append_iff : Interleaving service runs p (log ++ log') q ↔
    ∃ m, Interleaving service runs p log m ∧ Interleaving service runs m log' q := by
  induction log generalizing p with
  | nil =>
    constructor
    · intro h
      exact ⟨p, .stay p, h⟩
    · rintro ⟨m, hp, h⟩
      cases hp
      exact h
  | cons e log ih =>
    constructor
    · intro h
      cases h with
      | step he h =>
        obtain ⟨m, hm, hq⟩ := ih.mp h
        exact ⟨m, .step he hm, hq⟩
    · rintro ⟨m, hm, hq⟩
      cases hm with
      | step he hm => exact .step he (ih.mpr ⟨m, hm, hq⟩)

theorem exists_step {e : Event ι} (h : Interleaving service runs p (log ++ e :: log') q) :
    ∃ m m', Interleaving service runs p log m ∧ Step service runs m e m' ∧
      Interleaving service runs m' log' q := by
  obtain ⟨m, hm, h⟩ := append_iff.mp h
  cases h with
  | step he hq => exact ⟨m, _, hm, he, hq⟩

/-- By itself, every run follows its program. -/
theorem path (h : Interleaving service runs p log q) (k : ι) :
    Path (p.rest k) (turnsOf k log) (q.rest k) := by
  induction h with
  | stay p => exact .stay _
  | @step p q r e log he _ ih =>
    cases he with
    | @call s t rest j c next a hn _ _ =>
      dsimp only at ih ⊢
      by_cases hk : j = k
      · subst hk
        rw [Function.update_self] at ih
        rw [turnsOf_cons_self, hn]
        exact .turn ih
      · rw [Function.update_of_ne (Ne.symm hk)] at ih
        rwa [turnsOf_cons_of_ne hk]

theorem path_start {s : Store} (h : Interleaving service runs (.start runs s) log q) (k : ι) :
    Path (runs k).program (turnsOf k log) (q.rest k) :=
  h.path k

end Interleaving

/-! ## What the runs have made -/

def Event.creation? (e : Event ι) : Option (ι × User) :=
  (createdUser? e.turn).map fun u => (e.run, u)

/-- The users whom the runs have created, each with the run, in order. -/
def creations (log : List (Event ι)) : List (ι × User) := log.filterMap Event.creation?

theorem mem_creations {log : List (Event ι)} {k : ι} {u : User} :
    (k, u) ∈ creations log ↔ u ∈ (turnsOf k log).filterMap createdUser? := by
  simp only [creations, List.mem_filterMap, mem_turnsOf]
  constructor
  · rintro ⟨⟨j, t⟩, he, hu⟩
    obtain ⟨v, hv, hju⟩ := Option.map_eq_some_iff.mp hu
    cases hju
    exact ⟨t, he, hv⟩
  · rintro ⟨t, he, hu⟩
    exact ⟨⟨k, t⟩, he, by rw [Event.creation?, hu]; rfl⟩

theorem Step.made {runs : ι → Run} {p q : Pool ι} {e : Event ι} (h : Step executes runs p e q) :
    q.store.users = p.store.users ++ (createdUser? e.turn).toList ∧
      q.store.sessions = p.store.sessions ++ (issuedSession? e.turn).toList := by
  cases h with
  | call _ ht _ =>
    obtain ⟨fresh, _, he⟩ := Store.effect_of_executes ht
    cases he <;> simp [createdUser?, issuedSession?]

theorem Interleaving.users {runs : ι → Run} {p q : Pool ι} {log : List (Event ι)}
    (h : Interleaving executes runs p log q) :
    q.store.users = p.store.users ++ (creations log).map (·.2) := by
  induction h with
  | stay p => simp [creations]
  | @step p q r e log he _ ih =>
    rw [ih, he.made.1, List.append_assoc, creations, creations, List.filterMap_cons,
      Event.creation?]
    cases createdUser? e.turn <;> rfl

theorem Interleaving.sessions {runs : ι → Run} {p q : Pool ι} {log : List (Event ι)}
    (h : Interleaving executes runs p log q) :
    q.store.sessions = p.store.sessions ++ log.filterMap fun e => issuedSession? e.turn := by
  induction h with
  | stay p => simp
  | @step p q r e log he _ ih =>
    rw [ih, he.made.2, List.append_assoc, List.filterMap_cons]
    cases issuedSession? e.turn <;> rfl

/-! ## Running a schedule -/

variable (runs : ι → Run)

/-- The next call of a run, if it has one and nothing that is to be new is in use. -/
def Pool.turn? (p : Pool ι) (k : ι) (fresh : Fresh) : Option (Event ι × Pool ι) :=
  match p.rest k with
  | .done _ => none
  | .call c next =>
    if fresh.IsNewTo p.store ∧ (runs k).NamesAnew p.store c then
      let (a, t) := p.store.answer fresh c
      some (⟨k, c, a⟩, ⟨t, Function.update p.rest k (next a)⟩)
    else none

def Pool.play? : Pool ι → List (ι × Fresh) → Option (List (Event ι) × Pool ι)
  | p, [] => some ([], p)
  | p, (k, fresh) :: schedule => do
    let (e, q) ← p.turn? runs k fresh
    let (log, r) ← Pool.play? q schedule
    return (e :: log, r)

variable {runs}

theorem Step.of_turn? {p q : Pool ι} {k : ι} {fresh : Fresh} {e : Event ι}
    (h : p.turn? runs k fresh = some (e, q)) : Step executes runs p e q := by
  unfold Pool.turn? at h
  split at h
  next => cases h
  next c next hk =>
    split at h
    next hn =>
      cases h
      exact .call hk (Store.executes_answer hn.1 c) hn.2
    next => cases h

theorem Interleaving.of_play? {p r : Pool ι} {schedule : List (ι × Fresh)} {log : List (Event ι)}
    (h : p.play? runs schedule = some (log, r)) : Interleaving executes runs p log r := by
  induction schedule generalizing p log with
  | nil =>
    cases h
    exact .stay _
  | cons turn schedule ih =>
    obtain ⟨k, fresh⟩ := turn
    simp only [Pool.play?, Option.bind_eq_bind, Option.bind_eq_some_iff] at h
    obtain ⟨⟨e, q⟩, he, ⟨log, r⟩, hr, h⟩ := h
    cases h
    exact .step (.of_turn? he) (ih hr)

theorem Pool.exists_play? [Nonempty ι] {p : Pool ι} {schedule : List (ι × Fresh)}
    {results : ι → Except Failure Provisioned}
    (h : ∀ k, (p.play? runs schedule).map (fun played => (played.2.rest k).result?) =
      some (some (results k))) :
    ∃ log q, p.play? runs schedule = some (log, q) ∧ ∀ k, q.rest k = .done (results k) := by
  obtain ⟨k₀⟩ := ‹Nonempty ι›
  obtain ⟨⟨log, q⟩, hplay, -⟩ := Option.map_eq_some_iff.mp (h k₀)
  refine ⟨log, q, hplay, fun k => Program.result?_eq_some_iff.mp ?_⟩
  have hk := h k
  rw [hplay] at hk
  exact Option.some.inj hk

end FederatedLogin.Provisioning
