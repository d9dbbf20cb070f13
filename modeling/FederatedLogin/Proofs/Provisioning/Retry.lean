import FederatedLogin.Proofs.Provisioning.Enrolment
import FederatedLogin.Proofs.Provisioning.Provided
import FederatedLogin.Proofs.Provisioning.Race
import FederatedLogin.Proofs.Server.Logins
import FederatedLogin.Proofs.Store.Watched

/-! # Retrying

Attempts to provision an identity may fail at any call, and leave a part of what they are for. A run
without faults does the rest: it ends with the same users, teams and roles as a run that had none of
them before it, and after it there is nothing left to do but to issue sessions.
-/

namespace FederatedLogin.Provisioning

open Store (Fault Grows Source Trace executes disturbed)
open Program (Path bind_eq run_bind)

/-! ## Attempts -/

/-- An attempt to provision an identity, with the faults that await its calls. -/
structure Attempt where
  client : ClientContext
  firstSerial : Nat
  secondSerial : Nat
  faults : Store.Faults
  source : Source

namespace Attempt

def run (a : Attempt) (i : Identity) : Run := ⟨i, a.client, a.firstSerial, a.secondSerial⟩

def watched (a : Attempt) (s : Store) : Store.Watched := ⟨s, a.faults, [], a.source.fresh⟩

def outcome (a : Attempt) (i : Identity) (s : Store) : Except Failure Provisioned × Store :=
  let (r, w) := (a.watched s).run (a.run i).program
  (r, w.store)

/-- Whether no conflict over a user is made up. -/
def NoFalseConflict (a : Attempt) : Prop :=
  ∀ what, (Store.Operation.createUser, Fault.fail (.conflict what)) ∉ a.faults

end Attempt

def afterAttempts (i : Identity) (s : Store) : List Attempt → Store
  | [] => s
  | a :: attempts => afterAttempts i (a.outcome i s).2 attempts

/-- What attempts for an identity may have made of a store. -/
structure Attempted (i : Identity) (s t : Store) : Prop where
  grows : Grows s t
  sound : t.Sound
  accounted : Accounted (· = i) s t
  enrolled : Enrolled i s t

/-- One of the attempts has come to its end. -/
structure Finished (i : Identity) (s t : Store) (p : Provisioned) : Prop
    extends Attempted i s t where
  found : t.userByEmail? i.email = some p.user
  teams : p.teams = slugs i.organizations
  placed : ∀ name ∈ slugs i.organizations, Placed i t p.user.id name

section Attempts

variable {i : Identity} {a : Attempt} {s m t : Store} {p : Provisioned}

theorem Attempted.refl (hs : s.Sound) : Attempted i s s :=
  ⟨.refl s, hs, .refl _ s, .kept rfl⟩

theorem Attempted.trans (h : Attempted i s m) (h' : Attempted i m t) : Attempted i s t where
  grows := h.grows.trans h'.grows
  sound := h'.sound
  accounted := h.accounted.trans h'.accounted h'.grows
  enrolled := h.enrolled.trans h'.enrolled

theorem Attempt.exists_turns (a : Attempt) (i : Identity) (s : Store) :
    ∃ turns, Path (a.run i).program turns (.done (a.outcome i s).1) ∧
      Trace (disturbed fun c fault => (c.operation, fault) ∈ a.faults) Eq s turns
        (a.outcome i s).2 :=
  ⟨_, Program.path_run Store.Watched.answer _ _,
    Store.Watched.trace_run (w := a.watched s) _ rfl fun _ _ h => h⟩

theorem Attempt.attempted (hs : s.Sound) (ha : a.NoFalseConflict) :
    Attempted i s (a.outcome i s).2 := by
  obtain ⟨turns, hpath, htrace⟩ := a.exists_turns i s
  have h := History.single hpath htrace
  exact {
    grows := h.grows
    sound := h.sound hs
    accounted := h.accounted.mono fun _ ⟨_, _, hi⟩ => hi.symm
    enrolled := enrolled_of_path hpath htrace ⟨_, rfl⟩ ⟨_, rfl⟩ fun _ => ha }

/-- Whatever the faults, attempts keep to what they may do. -/
theorem attempted_afterAttempts (hs : s.Sound) {attempts : List Attempt}
    (hattempts : ∀ a ∈ attempts, a.NoFalseConflict) :
    Attempted i s (afterAttempts i s attempts) := by
  induction attempts generalizing s with
  | nil => exact .refl hs
  | cons a attempts ih =>
    obtain ⟨ha, hattempts⟩ := List.forall_mem_cons.mp hattempts
    have h : Attempted i s _ := a.attempted hs ha
    exact h.trans (ih h.sound hattempts)

theorem Attempt.outcome_eq_run (ha : a.faults = []) (i : Identity) (s : Store) :
    a.outcome i s = (a.run i).program.run a.source.answer s := by
  have hfresh : (a.watched s).fresh = a.source.fresh := rfl
  obtain ⟨hr, hs⟩ := Store.Watched.run_of_no_faults (a.run i).program hfresh ha
  exact Prod.ext hr hs

theorem Attempt.exists_turns_executes (ha : a.faults = []) (i : Identity) (s : Store) :
    ∃ turns, Path (a.run i).program turns (.done (a.outcome i s).1) ∧
      Trace executes Eq s turns (a.outcome i s).2 := by
  obtain ⟨turns, hpath, htrace⟩ := a.exists_turns i s
  refine ⟨turns, hpath, htrace.mono (fun _ _ _ _ hc => hc.resolve_right ?_) fun _ _ => id⟩
  rintro ⟨_, hfault, _⟩
  rw [ha] at hfault
  cases hfault

/-- An attempt without faults does all that is left to do. -/
theorem Attempted.finishes (h : Attempted i s m) (hemail : i.email ≠ "") (ha : a.faults = [])
    (hspare : HasSpare i (a.run i).spare m) :
    ∃ p t, a.outcome i m = (.ok p, t) ∧ Finished i s t p := by
  obtain ⟨p, t, hrun, hsettled, _⟩ := provision_run a.source i a.client (a.run i).spare m hemail
    (Username.generated_ne_empty _) (Username.generated_ne_empty _) hspare
  have houtcome : a.outcome i m = (.ok p, t) := (Attempt.outcome_eq_run ha i m).trans hrun
  have hattempted := h.trans (a.attempted h.sound (by simp [Attempt.NoFalseConflict, ha]))
  obtain ⟨turns, hpath, htrace⟩ := Attempt.exists_turns_executes ha i m
  rw [houtcome] at hattempted hpath htrace
  obtain ⟨hteams, _, hplaced⟩ := placed_of_path hpath
    (htrace.mono (fun _ _ _ _ => id) fun s _ he => he ▸ .refl s) (raises_of_path hpath)
  exact ⟨p, t, houtcome, { hattempted with found := hsettled.found, teams := hteams,
                                           placed := hplaced }⟩

theorem Finished.provided (h : Finished i s t p) : Provided (· = i) s t where
  grows := h.grows
  accounted := h.accounted
  placed := by
    rintro _ rfl
    exact ⟨p.user, List.mem_of_find?_eq_some h.found, Store.email_of_userByEmail? h.found, h.placed⟩

/-! ## The end is the same -/

section Same

variable {t' : Store} {p' : Provisioned}

theorem Finished.alike (h : Finished i s t p) (h' : Finished i s t' p') :
    List.Forall₂ User.Alike t.users t'.users :=
  h.enrolled.alike h'.enrolled (Option.ne_none_iff_exists'.mpr ⟨_, h.found⟩)
    (Option.ne_none_iff_exists'.mpr ⟨_, h'.found⟩)

theorem Finished.teamName_iff (h : Finished i s t p) (h' : Finished i s t' p') (name : String) :
    (∃ x ∈ t.teams, x.name = name) ↔ ∃ x ∈ t'.teams, x.name = name := by
  rw [h.provided.teamName_iff h.sound, h'.provided.teamName_iff h'.sound]

theorem Finished.holds_of_holds (hs : s.Sound) (h : Finished i s t p) (h' : Finished i s t' p')
    {name : String} {u : User} {role : TeamRole} (hu : t.Holds name u role) :
    ∃ v, t'.Holds name v role ∧ v.email = u.email := by
  obtain ⟨v, hv, huv⟩ := exists_of_forall₂ (h.alike h') hu.user
  refine ⟨v, (h'.provided.holds_iff hs h'.sound hv).mpr ?_, huv.email.symm⟩
  rw [← huv.email]
  exact (h.provided.holds_iff hs h.sound hu.user).mp hu

end Same

/-! ## Nothing is left to do -/

theorem grantAdmin_run {team : TeamId} {user : UserId} {role : TeamRole}
    (hrole : role.includes i.teamRole = true) (source : Source) (s : Store) :
    (grantAdmin i team user role).run source.answer s = ((), s) := by
  unfold grantAdmin
  split
  next h =>
    obtain ⟨hgrants, hlow⟩ := Bool.and_eq_true_iff.mp h
    rw [Identity.teamRole_eq_admin_iff.mpr hgrants] at hrole
    simp [hrole] at hlow
  next => rfl

theorem joinTeam?_run (ht : t.Sound) {u : User} (hu : u ∈ t.users) {o : Organization}
    (hplaced : ∀ name ∈ slugs [o], Placed i t u.id name) (source : Source) :
    ∃ joined, (joinTeam? i u.id o).run source.answer t = (joined, t) ∧
      joined.toList = slugs [o] := by
  unfold joinTeam?
  dsimp only
  split
  next hempty => exact ⟨none, rfl, (slugs_singleton_of_eq (String.isEmpty_iff.mp hempty)).symm⟩
  next hslug =>
    have hslug : Slug.ofName o.name ≠ "" := by simpa [String.isEmpty_iff] using hslug
    rw [slugs_singleton_of_ne hslug] at hplaced ⊢
    obtain ⟨x, hx, hname, m, hm, hteam, huser, hrole⟩ := hplaced _ List.mem_cons_self
    have hfind : t.teamByName? (Slug.ofName o.name) = some x :=
      (find?_key_eq_some_iff ht.teamNames).mpr ⟨hx, hname⟩
    have hmember : t.membership? x.id u.id = some m := hteam ▸ huser ▸ ht.membership?_ids hm
    have hfound : (findOrCreateTeam? (Slug.ofName o.name) o).run source.answer t = (some x, t) := by
      have hanswer : source.answer (.findTeamByName (Slug.ofName o.name)) t = (.ok (some x), t) :=
        congrArg (fun found => (Except.ok found, t)) hfind
      rw [findOrCreateTeam?, run_ask_bind, hanswer]
      rfl
    have hadded : source.answer (.addUserToTeam x.id u.id) t = (.ok m, t) := by
      simp [Source.answer, Store.answer, Store.addMember, ht.team?_id hx, ht.user?_id hu, hmember]
    refine ⟨some (Slug.ofName o.name), ?_, rfl⟩
    rw [bind_eq, run_bind, hfound]
    dsimp only
    rw [run_ask_bind, hadded]
    dsimp only
    rw [bind_eq, run_bind, grantAdmin_run hrole]
    rfl

theorem joinTeams_run (ht : t.Sound) {u : User} (hu : u ∈ t.users) {os : List Organization}
    (hplaced : ∀ name ∈ slugs os, Placed i t u.id name) (source : Source) :
    (joinTeams i u.id os).run source.answer t = (slugs os, t) := by
  induction os with
  | nil => rfl
  | cons o os ih =>
    rw [slugs_cons] at hplaced ⊢
    obtain ⟨ho, hos⟩ := List.forall_mem_append.mp hplaced
    obtain ⟨joined, hrun, hjoined⟩ := joinTeam?_run ht hu ho source
    rw [joinTeams, bind_eq, run_bind, hrun, bind_eq, run_bind, ih hos, ← hjoined]
    rfl

/-- After a run that has come to its end another one only opens a session. -/
theorem Finished.again (h : Finished i s t p) (ha : a.faults = []) :
    ∃ session, a.outcome i t = (.ok ⟨p.user, false, session, p.teams⟩,
      { t with sessions := t.sessions ++ [session] }) := by
  have hu : p.user ∈ t.users := List.mem_of_find?_eq_some h.found
  have hsearch : (findOrCreateUser i (a.run i).spare).run a.source.answer t =
      (.ok (p.user, false), t) := by
    rw [findOrCreateUser, run_ask_bind, answer_lookup h.found]
    rfl
  have hsound : Store.Sound { t with sessions := t.sessions ++
      [issued a.source t p.user.id a.client] } :=
    h.sound.addSession (a.source.isNew t) a.client
      (Store.user?_ne_none_iff.mpr ⟨p.user, hu, rfl⟩)
  have hjoin : (joinTeams i p.user.id i.organizations).run a.source.answer _ = _ :=
    joinTeams_run hsound hu h.placed a.source
  refine ⟨issued a.source t p.user.id a.client, (Attempt.outcome_eq_run ha i t).trans ?_⟩
  change (provision i a.client (a.run i).spare).run a.source.answer t = _
  rw [provision_eq_joinAfter, establish, bind_assoc, bind_eq, run_bind, hsearch, bind_eq, run_bind,
    openSession_run a.client hu, joinAfter, bind_eq, run_bind, hjoin, h.teams]
  rfl

end Attempts

/-- Attempts for an identity, in a reachable store, with whatever faults but a false conflict over a
user, do no lasting harm. A run without faults succeeds after them, unless it has to fall back on a
generated name that is in use. It leaves the users, the teams and the roles that such a run would
have left in their place, and any further one only opens a session. -/
theorem retry_converges {s : Store} {i : Identity} {attempts : List Attempt} {last once : Attempt}
    (hs : Store.Reachable executes .empty s) (hemail : i.email ≠ "")
    (hattempts : ∀ a ∈ attempts, a.NoFalseConflict)
    (hlast : last.faults = []) (honce : once.faults = [])
    (hspare : HasSpare i (last.run i).spare (afterAttempts i s attempts))
    (hspare' : HasSpare i (once.run i).spare s) :
    ∃ p t p' t', last.outcome i (afterAttempts i s attempts) = (.ok p, t) ∧
      once.outcome i s = (.ok p', t') ∧
      List.Forall₂ User.Alike t.users t'.users ∧
      (∀ name, (∃ x ∈ t.teams, x.name = name) ↔ ∃ x ∈ t'.teams, x.name = name) ∧
      (∀ name email role, (∃ u, t.Holds name u role ∧ u.email = email) ↔
        ∃ u, t'.Holds name u role ∧ u.email = email) ∧
      ∀ again : Attempt, again.faults = [] → ∃ session, again.outcome i t =
        (.ok ⟨p.user, false, session, p.teams⟩,
          { t with sessions := t.sessions ++ [session] }) := by
  have hsound := hs.sound
  obtain ⟨p, t, hp, h⟩ :=
    (attempted_afterAttempts hsound hattempts).finishes hemail hlast hspare
  obtain ⟨p', t', hp', h'⟩ := (Attempted.refl hsound).finishes hemail honce hspare'
  refine ⟨p, t, p', t', hp, hp', h.alike h', h.teamName_iff h', fun name email role => ?_,
    fun _ => h.again⟩
  constructor
  · rintro ⟨u, hu, rfl⟩
    exact h.holds_of_holds hsound h' hu
  · rintro ⟨u, hu, rfl⟩
    exact h'.holds_of_holds hsound h hu

/-- An administrator whose login name somebody else has, with two organizations of one slug. -/
def newcomer : Identity :=
  ⟨.odoo, "42", true, true, "", "bob@co", "odoo_42@odoo.local", "", "", "42",
    [⟨7, "Night Watch"⟩, ⟨8, "!"⟩, ⟨9, "night watch"⟩]⟩

def attempt (serial : Nat) (faults : Store.Faults) : Attempt :=
  ⟨⟨none, none, false⟩, 2 * serial, 2 * serial + 1, faults, Server.lengthening⟩

/-- The first attempt creates the user but opens no session. The second does not find the user until
it has tried to create one, fails over the first organization and makes nobody an administrator. -/
def interrupted : List Attempt :=
  let down : Fault := .fail (.unavailable "down")
  [attempt 0 [(.issueSession, down)],
    attempt 1 [(.findUserByEmail, .findNothing), (.createTeam, down), (.setTeamRole, down)]]

theorem interrupted_converges :
    Store.Reachable executes .empty bobStore ∧ (∀ a ∈ interrupted, a.NoFalseConflict) ∧
      ((afterAttempts newcomer bobStore interrupted).users.map (·.username) =
          ["bob", Username.generated 1] ∧
        (afterAttempts newcomer bobStore interrupted).memberships.map (·.role) = [.member]) ∧
      ∃ p t p' t',
        (attempt 2 []).outcome newcomer (afterAttempts newcomer bobStore interrupted) = (.ok p, t) ∧
        (attempt 3 []).outcome newcomer bobStore = (.ok p', t') ∧
        List.Forall₂ User.Alike t.users t'.users ∧
        ∃ session, (attempt 4 []).outcome newcomer t =
          (.ok ⟨p.user, false, session, p.teams⟩,
            { t with sessions := t.sessions ++ [session] }) := by
  have hstart : Store.Reachable executes .empty bobStore := Store.Reachable.start.after (by decide)
  have hattempts : ∀ a ∈ interrupted, a.NoFalseConflict := by
    simp [interrupted, attempt, Attempt.NoFalseConflict]
  obtain ⟨p, t, p', t', hp, hp', halike, _, _, hagain⟩ :=
    retry_converges (i := newcomer) hstart (by decide) hattempts (rfl : (attempt 2 []).faults = [])
      (rfl : (attempt 3 []).faults = []) (fun _ _ => by decide +kernel)
      (fun _ _ => by decide +kernel)
  exact ⟨hstart, hattempts, by decide +kernel, p, t, p', t', hp, hp', halike, hagain _ rfl⟩

end FederatedLogin.Provisioning
