import Mathlib.Algebra.BigOperators.Group.Finset.Basic
import Mathlib.Algebra.BigOperators.Group.Finset.Piecewise
import Mathlib.Data.Fintype.Basic
import FederatedLogin.Proofs.Provisioning.Interleaving

/-! # The race for an email

Runs over one store race each other to create the user of an email. One of them wins and the others
find the winner, but for a run that is refused its proposed username and is then overtaken a second
time, between its second lookup and its second attempt to create the user: it fails.
-/

namespace FederatedLogin.Provisioning

open Store (Call Use executes Effect)
open Program (Turn)

variable {ι : Type} [DecidableEq ι] {runs : ι → Run} {p q : Pool ι} {log : List (Event ι)} {k : ι}

/-- The failure of a run that another one was quicker than, at its second attempt. -/
def Failure.emailTaken (email : String) : Failure :=
  ⟨.createUser, .conflict ("email " ++ email ++ " is taken")⟩

/-! ## One turn -/

/-- A call of a run at its place in the log, with the stores before and after it. -/
inductive Moment (runs : ι → Run) (p q : Pool ι) (k : ι) (c : Call) (a : c.Answer)
    (before after : List (Event ι)) : Prop where
  | mk {s t : Store} {rest rest' : ι → Use (Except Failure Provisioned)} {fresh : Fresh} :
      Interleaving executes runs p before ⟨s, rest⟩ → Effect fresh s c a t →
      (runs k).NamesAnew s c → Interleaving executes runs ⟨t, rest'⟩ after q →
      Moment runs p q k c a before after

theorem Interleaving.moment {c : Call} {a : c.Answer} {before after : List (Event ι)}
    (h : Interleaving executes runs p (before ++ ⟨k, c, a⟩ :: after) q) :
    Moment runs p q k c a before after := by
  obtain ⟨m, m', hm, hstep, hq⟩ := h.exists_step
  cases hstep with
  | call hk hc hn =>
    obtain ⟨fresh, _, he⟩ := Store.effect_of_executes hc
    exact ⟨hm, he, hn, hq⟩

theorem Interleaving.exists_moment (h : Interleaving executes runs p log q) {c : Call}
    {a : c.Answer} {early late : List (Turn Call.Answer)}
    (ht : turnsOf k log = early ++ ⟨c, a⟩ :: late) :
    ∃ before after, log = before ++ ⟨k, c, a⟩ :: after ∧ turnsOf k before = early ∧
      turnsOf k after = late ∧ Moment runs p q k c a before after := by
  obtain ⟨before, after, rfl, hb, ha⟩ := exists_of_turnsOf_eq ht
  exact ⟨before, after, rfl, hb, ha, h.moment⟩

theorem Interleaving.exists_moment_of_mem (h : Interleaving executes runs p log q) {c : Call}
    {a : c.Answer} (ht : ⟨c, a⟩ ∈ turnsOf k log) :
    ∃ before after, Moment runs p q k c a before after := by
  obtain ⟨early, late, ht⟩ := List.append_of_mem ht
  obtain ⟨before, after, _, _, _, hmoment⟩ := h.exists_moment ht
  exact ⟨before, after, hmoment⟩

theorem Interleaving.userByEmail?_eq_some (h : Interleaving executes runs p log q)
    {email : String} {u : User} (hu : p.store.userByEmail? email = some u) :
    q.store.userByEmail? email = some u := by
  rw [Store.userByEmail?] at hu ⊢
  rw [h.users, List.find?_append, hu, Option.some_or]

theorem Interleaving.lookup_ne_error (h : Interleaving executes runs p log q) {email : String}
    {e : StoreError} : ⟨.findUserByEmail email, .error e⟩ ∉ turnsOf k log := by
  intro ht
  obtain ⟨_, _, _, he, _, _⟩ := h.exists_moment_of_mem ht
  cases he

theorem Interleaving.userByEmail?_of_found (h : Interleaving executes runs p log q) {email : String}
    {u : User} (ht : ⟨.findUserByEmail email, .ok (some u)⟩ ∈ turnsOf k log) :
    q.store.userByEmail? email = some u := by
  obtain ⟨_, _, _, he, _, hq⟩ := h.exists_moment_of_mem ht
  generalize hr : (some u : Option User) = found at he
  cases he
  rw [← hr]
  exact hq.userByEmail?_eq_some hr.symm

theorem Interleaving.userByEmail?_of_created (h : Interleaving executes runs p log q)
    {username : String} {u : User}
    (ht : ⟨.createUser (newUser (runs k).identity username), .ok u⟩ ∈ turnsOf k log) :
    q.store.userByEmail? (runs k).email = some u := by
  obtain ⟨_, _, @⟨s, _, _, _, _, _, he, _, hq⟩⟩ := h.exists_moment_of_mem ht
  apply hq.userByEmail?_eq_some
  cases he with
  | userCreated _ _ _ hfree _ =>
    have hnone : s.userByEmail? (runs k).email = none :=
      Store.userByEmail?_eq_none_iff.mpr hfree
    rw [Store.userByEmail?] at hnone ⊢
    rw [List.find?_append, hnone, Option.none_or, List.find?_singleton]
    exact if_pos (Text.sameIgnoringCase_refl (runs k).email)

theorem Interleaving.exists_userByEmail? (h : Interleaving executes runs p log q) {email : String}
    (hp : p.store.usersWithEmail email ≠ []) : ∃ u, q.store.userByEmail? email = some u := by
  obtain ⟨u, hu⟩ := Option.ne_none_iff_exists'.mp (mt Store.userByEmail?_eq_none_iff.mp hp)
  exact ⟨u, h.userByEmail?_eq_some hu⟩

/-- A run that proposes a username and an email is refused over a conflict alone, and if the
username is generated, over the email, which then has a user. -/
theorem Interleaving.createUser_error (h : Interleaving executes runs p log q) {username : String}
    {e : StoreError}
    (ht : ⟨.createUser (newUser (runs k).identity username), .error e⟩ ∈ turnsOf k log)
    (hname : username ≠ "") (hemail : (runs k).email ≠ "") :
    (∃ what, e = .conflict what) ∧ (username = (runs k).spare.second →
      e = .conflict ("email " ++ (runs k).email ++ " is taken") ∧
        ∃ u, q.store.userByEmail? (runs k).email = some u) := by
  obtain ⟨_, _, _, he, hanew, hq⟩ := h.exists_moment_of_mem ht
  cases he with
  | userIncomplete _ hn =>
    rcases hn with hn | hn
    · exact absurd hn hname
    · exact absurd hn hemail
  | emailTaken _ _ _ htaken => exact ⟨⟨_, rfl⟩, fun _ => ⟨rfl, hq.exists_userByEmail? htaken⟩⟩
  | usernameTaken _ _ _ _ hu =>
    refine ⟨⟨_, rfl⟩, fun hs => ?_⟩
    exact absurd (hu.symm.trans (hanew (.inr hs))) (by decide)

/-! ## One run -/

theorem Run.second_ne_empty (r : Run) : r.spare.second ≠ "" :=
  Username.generated_ne_empty r.secondSerial

theorem Run.proposed_ne_empty (r : Run) : r.identity.localUsername r.spare.first ≠ "" :=
  r.identity.localUsername_ne_empty (Username.generated_ne_empty r.firstSerial)

section User

variable {turns : List (Turn Call.Answer)}

theorem UserPath.userByEmail? {u : User} {created : Bool}
    (hu : UserPath (runs k).identity (runs k).spare turns (.ok (u, created)))
    (h : Interleaving executes runs p log q) (ht : turns ⊆ turnsOf k log) :
    q.store.userByEmail? (runs k).email = some u := by
  cases hu with
  | found => exact h.userByEmail?_of_found (ht (List.mem_of_getLast? rfl))
  | created => exact h.userByEmail?_of_created (ht (List.mem_of_getLast? rfl))
  | foundThen what => exact h.userByEmail?_of_found (ht (List.mem_of_getLast? rfl))
  | retried what => exact h.userByEmail?_of_created (ht (List.mem_of_getLast? rfl))

/-- A run that ends without a user has been refused one at its second attempt, over the email. -/
theorem UserPath.eq_emailTaken {f : Failure}
    (hu : UserPath (runs k).identity (runs k).spare turns (.error f))
    (h : Interleaving executes runs p log q) (hemail : (runs k).email ≠ "")
    (ht : turns ⊆ turnsOf k log) :
    f = .emailTaken (runs k).email ∧ (∃ u, q.store.userByEmail? (runs k).email = some u) ∧
      ∃ what, turns = conflictTurns (runs k).identity (runs k).spare what ++
        [⟨.findUserByEmail (runs k).email, .ok none⟩,
          ⟨.createUser (newUser (runs k).identity (runs k).spare.second), .error f.cause⟩] := by
  cases hu with
  | lookupFailed e => exact absurd (ht (List.mem_of_getLast? rfl)) h.lookup_ne_error
  | refused e hne =>
    obtain ⟨⟨what, rfl⟩, _⟩ :=
      h.createUser_error (ht (List.mem_of_getLast? rfl)) (runs k).proposed_ne_empty hemail
    exact absurd rfl (hne what)
  | relookupFailed what e => exact absurd (ht (List.mem_of_getLast? rfl)) h.lookup_ne_error
  | retryRefused what e =>
    obtain ⟨_, hretried⟩ :=
      h.createUser_error (ht (List.mem_of_getLast? rfl)) (runs k).second_ne_empty hemail
    obtain ⟨rfl, hu⟩ := hretried rfl
    exact ⟨rfl, hu, what, rfl⟩

end User

variable {s : Store} {r : Except Failure Provisioned}

theorem Interleaving.provisionPath (h : Interleaving executes runs (.start runs s) log q)
    (hr : q.rest k = .done r) :
    ProvisionPath (runs k).identity (runs k).client (runs k).spare (turnsOf k log) r :=
  provisionPath_of_path (hr ▸ h.path_start k)

theorem Interleaving.issueSession_ne_error (h : Interleaving executes runs p log q)
    {turns : List (Turn Call.Answer)} {u : User} {created : Bool} {e : StoreError}
    (hu : UserPath (runs k).identity (runs k).spare turns (.ok (u, created))) :
    turnsOf k log ≠ turns ++ [⟨.issueSession u (runs k).client, .error e⟩] := by
  intro ht
  obtain ⟨before, _, _, hb, _, hm, he, _, _⟩ := h.exists_moment ht
  cases he with
  | ownerUnknown _ _ hnone =>
    have hfound := hu.userByEmail? hm (hb ▸ List.Subset.refl _)
    exact Store.user?_ne_none_iff.mpr ⟨u, List.mem_of_find?_eq_some hfound, rfl⟩ hnone

/-- A run that is over has failed over its email or has got the user of its email. -/
theorem Interleaving.outcome (h : Interleaving executes runs (.start runs s) log q)
    (hemail : (runs k).email ≠ "") (hr : q.rest k = .done r) :
    ∃ u, q.store.userByEmail? (runs k).email = some u ∧
      (r = .error (.emailTaken (runs k).email) ∨ ∃ p, r = .ok p ∧ p.user = u) := by
  have hpath := h.provisionPath hr
  generalize ht : turnsOf k log = turns at hpath
  cases hpath with
  | noUser hu =>
    obtain ⟨rfl, ⟨u, hfound⟩, _⟩ := hu.eq_emailTaken h hemail (ht ▸ List.Subset.refl _)
    exact ⟨u, hfound, .inl rfl⟩
  | noSession e hu => exact absurd ht (h.issueSession_ne_error hu)
  | provisioned p hu _ =>
    refine ⟨p.user, hu.userByEmail? h ?_, .inr ⟨p, rfl, rfl⟩⟩
    rw [ht]
    exact List.subset_append_left _ _

theorem Interleaving.mem_creations_iff (h : Interleaving executes runs (.start runs s) log q)
    (hemail : (runs k).email ≠ "") (hr : q.rest k = .done r) {u : User} :
    (k, u) ∈ creations log ↔ ∃ p, r = .ok p ∧ p.created = true ∧ p.user = u := by
  rw [mem_creations]
  refine (h.provisionPath hr).createdUsers fun e he => ?_
  obtain ⟨_, _, hf | ⟨p, hp, _⟩⟩ := h.outcome hemail hr
  · cases he.symm.trans hf
  · cases he.symm.trans hp

theorem Interleaving.userByEmail?_of_ok (h : Interleaving executes runs (.start runs s) log q)
    (hemail : (runs k).email ≠ "") {p : Provisioned} (hr : q.rest k = .done (.ok p)) :
    q.store.userByEmail? (runs k).email = some p.user := by
  obtain ⟨u, hu, hf | ⟨p', hp, rfl⟩⟩ := h.outcome hemail hr
  · cases hf
  · cases hp
    exact hu

/-! ## All runs -/

theorem Interleaving.length_usersWithEmail_le_one (h : Interleaving executes runs p log q)
    {email : String} (hp : (p.store.usersWithEmail email).length ≤ 1) :
    (q.store.usersWithEmail email).length ≤ 1 := by
  induction h with
  | stay p => exact hp
  | step he _ ih =>
    cases he with
    | call _ hc _ =>
      obtain ⟨_, _, he⟩ := Store.effect_of_executes hc
      exact ih (he.length_usersWithEmail_le_one hp)

theorem length_filterMap_turn [Fintype ι] {β : Type} (g : Turn Call.Answer → Option β)
    (log : List (Event ι)) :
    (log.filterMap fun e => g e.turn).length = ∑ k, ((turnsOf k log).filterMap g).length := by
  induction log with
  | nil => simp [turnsOf]
  | cons e log ih =>
    obtain ⟨j, t⟩ := e
    have hcons (k : ι) : ((turnsOf k (⟨j, t⟩ :: log)).filterMap g).length =
        (if j = k then (g t).toList.length else 0) + ((turnsOf k log).filterMap g).length := by
      by_cases hk : j = k
      · subst hk
        rw [turnsOf_cons_self, List.filterMap_cons, if_pos rfl]
        cases g t <;> simp [Nat.add_comm]
      · rw [turnsOf_cons_of_ne hk, if_neg hk, Nat.zero_add]
    rw [Finset.sum_congr rfl fun k _ => hcons k, Finset.sum_add_distrib, Finset.sum_ite_eq,
      if_pos (Finset.mem_univ _), List.filterMap_cons, ← ih]
    cases g t <;> simp [Nat.add_comm]

theorem Interleaving.length_sessions [Fintype ι]
    (h : Interleaving executes runs (.start runs s) log q)
    {results : ι → Except Failure Provisioned} (hr : ∀ k, q.rest k = .done (results k)) :
    q.store.sessions.length =
      s.sessions.length + (Finset.univ.filter fun k => (results k).isOk).card := by
  rw [h.sessions, List.length_append, length_filterMap_turn, Finset.card_filter]
  refine congrArg (s.sessions.length + ·) (Finset.sum_congr rfl fun k _ => ?_)
  rw [(h.provisionPath (hr k)).issuedSessions]
  cases results k <;> rfl

/-- The user of an email that had none, and the run that has created the user. -/
theorem Interleaving.exists_creation (h : Interleaving executes runs (.start runs s) log q)
    {email : String} (hs : s.usersWithEmail email = []) {u : User}
    (hu : q.store.userByEmail? email = some u) :
    q.store.usersWithEmail email = [u] ∧ ∃ k, ∀ j v,
      (j, v) ∈ creations log ∧ Text.sameIgnoringCase v.email email = true ↔ j = k ∧ v = u := by
  have hle : (q.store.usersWithEmail email).length ≤ 1 :=
    h.length_usersWithEmail_le_one (by simp [Pool.start, hs])
  have hone := Store.usersWithEmail_eq_singleton hle hu
  refine ⟨hone, ?_⟩
  -- All users with the email are among those whom the runs have created.
  have hmade : ((creations log).filter fun c => Text.sameIgnoringCase c.2.email email).map (·.2) =
      [u] := by
    rw [Store.usersWithEmail, h.users, List.filter_append] at hone
    change s.usersWithEmail email ++ _ = _ at hone
    rwa [hs, List.nil_append, List.filter_map] at hone
  obtain ⟨⟨k, v⟩, hfilter, hv⟩ := List.map_eq_singleton_iff.mp hmade
  refine ⟨k, fun j w => ?_⟩
  have hmem : (j, w) ∈ (creations log).filter (fun c => Text.sameIgnoringCase c.2.email email) ↔
      (j, w) = (k, v) := by rw [hfilter, List.mem_singleton]
  rw [List.mem_filter, Prod.mk.injEq] at hmem
  rw [← hv]
  exact hmem

/-- Of the runs for an email that has no user, in whatever order they make their calls, one creates
the user, and all that succeed return that user. No email comes to have two users on the way, and
every run that succeeds has issued one session. -/
theorem one_user_per_email [Fintype ι] (hemail : ∀ k, (runs k).email ≠ "")
    (h : Interleaving executes runs (.start runs s) log q) :
    (∀ email, s.usersWithEmail email = [] → (q.store.usersWithEmail email).length ≤ 1) ∧
    ∀ results : ι → Except Failure Provisioned, (∀ k, q.rest k = .done (results k)) →
      q.store.sessions.length =
        s.sessions.length + (Finset.univ.filter fun k => (results k).isOk).card ∧
      ∀ email, s.usersWithEmail email = [] →
        (∃ k, Text.sameIgnoringCase (runs k).email email = true) →
        ∃ u, q.store.usersWithEmail email = [u] ∧
          (∃! k, Text.sameIgnoringCase (runs k).email email = true ∧
            ∃ p, results k = .ok p ∧ p.created = true) ∧
          ∀ k p, Text.sameIgnoringCase (runs k).email email = true → results k = .ok p →
            p.user = u := by
  refine ⟨fun email hs => ?_, fun results hr => ⟨h.length_sessions hr, ?_⟩⟩
  · exact h.length_usersWithEmail_le_one (by simp [Pool.start, hs])
  rintro email hs ⟨k₀, hk₀⟩
  obtain ⟨u, hu, _⟩ := h.outcome (hemail k₀) (hr k₀)
  rw [Store.userByEmail?_congr hk₀] at hu
  obtain ⟨hone, k, hcreations⟩ := h.exists_creation hs hu
  have hok : ∀ j p, Text.sameIgnoringCase (runs j).email email = true → results j = .ok p →
      p.user = u := by
    intro j p hj hp
    have hfound := h.userByEmail?_of_ok (hemail j) (hp ▸ hr j)
    rw [Store.userByEmail?_congr hj, hu] at hfound
    exact (Option.some.inj hfound).symm
  refine ⟨u, hone, ⟨k, ?_, ?_⟩, hok⟩
  · obtain ⟨hk, hue⟩ := (hcreations k u).mpr ⟨rfl, rfl⟩
    obtain ⟨p, hp, hc, rfl⟩ := (h.mem_creations_iff (hemail k) (hr k)).mp hk
    have hpe := Store.email_of_userByEmail? (h.userByEmail?_of_ok (hemail k) (hp ▸ hr k))
    refine ⟨?_, p, hp, hc⟩
    exact Text.sameIgnoringCase_iff.mpr
      ((Text.sameIgnoringCase_iff.mp hpe).symm.trans (Text.sameIgnoringCase_iff.mp hue))
  · rintro j ⟨hj, p, hp, hc⟩
    have hmade := (h.mem_creations_iff (hemail j) (hr j)).mpr ⟨p, hp, hc, hok j p hj hp⟩
    exact ((hcreations j u).mp ⟨hmade, Store.email_of_userByEmail? hu⟩).1

/-- A store in which somebody else has the username that the rivals propose. -/
def bobStore : Store :=
  Store.empty.after [(⟨⟨"0"⟩, ⟨"0"⟩, ⟨"0"⟩, ⟨"0"⟩, ⟨0⟩⟩,
    .createUser ⟨"bob", "bob@x", "", "", .odoo, "1"⟩)]

def rivals (k : Fin 3) : Run where
  identity := ⟨.odoo, "42", false, false, "", "bob@co", "odoo_42@odoo.local", "", "", "42", []⟩
  client := ⟨none, none, false⟩
  firstSerial := 2 * k
  secondSerial := 2 * k + 1

/-- The first two both look for the user twice before either attempts to create it under a generated
name. The third begins when the first has created the user. -/
def rivalsTurns : List (Fin 3 × Fresh) :=
  let fresh (id : String) : Fresh := ⟨⟨id⟩, ⟨id⟩, ⟨id⟩, ⟨id⟩, ⟨0⟩⟩
  [(0, fresh "1"), (1, fresh "2"), (0, fresh "3"), (1, fresh "4"), (0, fresh "5"), (1, fresh "6"),
    (0, fresh "7"), (1, fresh "8"), (2, fresh "9"), (0, fresh "10"), (2, fresh "11")]

def rivalsResult : Fin 3 → Except Failure Provisioned
  | 0 => .ok ⟨winner, true, session "10", []⟩
  | 1 => .error (.emailTaken "odoo_42@odoo.local")
  | 2 => .ok ⟨winner, false, session "11", []⟩
where
  winner : User := .ofNew ⟨"7"⟩ ⟨0⟩ (newUser (rivals 0).identity (rivals 0).spare.second)
  session (id : String) : Session := .issue ⟨id⟩ ⟨id⟩ ⟨0⟩ ⟨"7"⟩ (rivals 0).client

theorem rivals_finish : ∃ log q, Interleaving executes rivals (.start rivals bobStore) log q ∧
    ∀ k, q.rest k = .done (rivalsResult k) := by
  have h : ∀ k, ((Pool.start rivals bobStore).play? rivals rivalsTurns).map
      (fun played => (played.2.rest k).result?) = some (some (rivalsResult k)) := by
    decide +kernel
  obtain ⟨log, q, hplay, hresults⟩ := Pool.exists_play? h
  exact ⟨log, q, .of_play? hplay, hresults⟩

theorem rivals_create_one_user : ∃ log q,
    Interleaving executes rivals (.start rivals bobStore) log q ∧ (∀ k, (rivals k).email ≠ "") ∧
      (∀ k, q.rest k = .done (rivalsResult k)) ∧
      bobStore.usersWithEmail "ODOO_42@odoo.local" = [] ∧
      q.store.usersWithEmail "ODOO_42@odoo.local" = [rivalsResult.winner] ∧
      q.store.sessions.length = 2 := by
  obtain ⟨log, q, h, hr⟩ := rivals_finish
  have hemail : ∀ k, (rivals k).email ≠ "" := by decide
  have hfree : bobStore.usersWithEmail "ODOO_42@odoo.local" = [] := by decide
  obtain ⟨hsessions, hrace⟩ := (one_user_per_email hemail h).2 rivalsResult hr
  obtain ⟨u, hone, _, hok⟩ := hrace "ODOO_42@odoo.local" hfree ⟨0, by decide⟩
  refine ⟨log, q, h, hemail, hr, hfree, ?_, hsessions⟩
  rw [hone, ← hok 2 _ (by decide) rfl]

end FederatedLogin.Provisioning
