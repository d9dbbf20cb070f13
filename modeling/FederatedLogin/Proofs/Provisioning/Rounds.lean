import FederatedLogin.Proofs.Provisioning.Calls
import FederatedLogin.Proofs.Store.Watched

/-! # Rounds

A run goes through its organizations one after another, and each has its own calls: a search for the
team, the creation of it, a second search, the joining and the granting of a role, each at most once
and in this order. A team that has been joined is reported, and no other.
-/

namespace FederatedLogin.Provisioning

open Store (Call Watched)
open Program (Turn bind_eq path_run run_bind turns_bind)

/-- One organization in a run: the calls made for it, with their answers. -/
structure Round where
  organization : Organization
  turns : List (Turn Call.Answer)
  /-- Whether a fault has answered one of the calls. -/
  struck : Bool

def isJoin : Turn Call.Answer → Bool
  | ⟨.addUserToTeam _ _, .ok _⟩ => true
  | _ => false

namespace Round

def slug (r : Round) : String := Slug.ofName r.organization.name

def joined (r : Round) : Bool := r.turns.any isJoin

/-- The operations that a round calls at most, in their order. -/
def operations : List Store.Operation :=
  [.findTeamByName, .createTeam, .findTeamByName, .addUserToTeam, .setTeamRole]

def of (i : Identity) (user : UserId) (o : Organization) (w : Watched) : Round where
  organization := o
  turns := (joinTeam? i user o).turns Watched.answer w
  struck := Watched.isStruck (joinTeam? i user o) w

end Round

def rounds (i : Identity) (user : UserId) : List Organization → Watched → List Round
  | [], _ => []
  | o :: os, w => Round.of i user o w :: rounds i user os (w.run (joinTeam? i user o)).2

/-- The organizations for which a fault has answered a call. -/
def failing (rs : List Round) : List Organization := (rs.filter (·.struck)).map (·.organization)

/-- The organizations for which no fault has answered a call. -/
def surviving (rs : List Round) : List Organization := (rs.filter (!·.struck)).map (·.organization)

def reported (rs : List Round) : List String := (rs.filter (·.joined)).map (·.slug)

section Rounds

variable {i : Identity} {user : UserId} {o : Organization} {os : List Organization} {w : Watched}
  {turns : List (Turn Call.Answer)} {slug : String}

/-! ## One round -/

/-- The calls of a round. Only a team of which the round has been told is joined. -/
inductive RoundCall (user : UserId) (o : Organization) (turns : List (Turn Call.Answer)) :
    Call → Prop where
  | findTeam : RoundCall user o turns (.findTeamByName (Slug.ofName o.name))
  | createTeam : RoundCall user o turns (.createTeam ⟨Slug.ofName o.name, o.name⟩)
  | join {x : Team} : KnowsTeam turns (Slug.ofName o.name) x →
      RoundCall user o turns (.addUserToTeam x.id user)
  | grant {x : Team} : KnowsTeam turns (Slug.ofName o.name) x →
      RoundCall user o turns (.setTeamRole x.id user .admin)

theorem RoundCall.raises {c : Call} (h : RoundCall user o turns c) : Store.Raises c := by
  cases h <;> trivial

theorem TeamPath.calls {found : Option Team} {all : List (Turn Call.Answer)}
    (h : TeamPath (Slug.ofName o.name) o turns found) :
    ∀ t ∈ turns, RoundCall user o all t.1 := by
  cases h <;> simp [RoundCall.findTeam, RoundCall.createTeam]

theorem RoundPath.calls {joined : Option String} (h : RoundPath user o turns joined) :
    ∀ t ∈ turns, RoundCall user o turns t.1 := by
  cases h with
  | noSlug => exact List.forall_mem_nil _
  | noTeam _ h => exact h.calls
  | refused _ _ h | joined _ _ h =>
    exact forall_mem_snoc h.calls (.join (h.knowsTeam.append _))
  | granted _ _ _ h =>
    have hx := h.knowsTeam.append
    refine List.forall_mem_append.mpr ⟨h.calls, List.forall_mem_cons.mpr ⟨.join (hx _), ?_⟩⟩
    exact List.forall_mem_singleton.mpr (.grant (hx _))

theorem TeamPath.operations {found : Option Team} (h : TeamPath slug o turns found) :
    turns.map (·.1.operation) <+: [.findTeamByName, .createTeam, .findTeamByName] := by
  cases h with
  | lookupFailed | found => exact ⟨[.createTeam, .findTeamByName], rfl⟩
  | created | refused => exact ⟨[.findTeamByName], rfl⟩
  | relookupFailed | relooked => exact ⟨[], rfl⟩

theorem TeamPath.not_isJoin {found : Option Team} (h : TeamPath slug o turns found) :
    turns.any isJoin = false := by
  cases h <;> rfl

theorem RoundPath.operations {joined : Option String} (h : RoundPath user o turns joined) :
    (turns.map (·.1.operation)).Sublist Round.operations := by
  have hteam {turns : List (Turn Call.Answer)} {found : Option Team}
      (h : TeamPath (Slug.ofName o.name) o turns found) {late : List (Turn Call.Answer)}
      (hlate : (late.map (·.1.operation)).Sublist [.addUserToTeam, .setTeamRole]) :
      ((turns ++ late).map (·.1.operation)).Sublist Round.operations := by
    rw [List.map_append]
    exact h.operations.sublist.append hlate
  cases h with
  | noSlug => exact List.nil_sublist _
  | noTeam _ h =>
    rw [← List.append_nil turns]
    exact hteam h (List.nil_sublist _)
  | refused _ _ h => exact hteam h (List.cons_sublist_cons.mpr (List.nil_sublist _))
  | joined _ _ h => exact hteam h (List.cons_sublist_cons.mpr (List.nil_sublist _))
  | granted _ _ _ h => exact hteam h (List.Sublist.refl _)

theorem RoundPath.eq_nil {joined : Option String} (h : RoundPath user o turns joined)
    (hslug : Slug.ofName o.name = "") : turns = [] := by
  cases h with
  | noSlug => rfl
  | noTeam hne | refused _ hne | joined _ hne | granted _ _ hne => exact absurd hslug hne

/-- What a round has come to shows in its turns. -/
theorem RoundPath.joined_eq {joined : Option String} (h : RoundPath user o turns joined) :
    joined = if turns.any isJoin then some (Slug.ofName o.name) else none := by
  cases h with
  | noSlug => rfl
  | noTeam _ h => rw [h.not_isJoin, if_neg Bool.false_ne_true]
  | refused _ _ h => simp [h.not_isJoin, isJoin]
  | joined | granted => simp [isJoin]

theorem Round.path_of (i : Identity) (user : UserId) (o : Organization) (w : Watched) :
    RoundPath user o (Round.of i user o w).turns (w.run (joinTeam? i user o)).1 :=
  roundPath_of_path (path_run Watched.answer (joinTeam? i user o) w)

theorem Round.organization_of (i : Identity) (user : UserId) (o : Organization) (w : Watched) :
    (Round.of i user o w).organization = o :=
  rfl

theorem Round.toList_sublist (i : Identity) (user : UserId) (o : Organization) (w : Watched) :
    (w.run (joinTeam? i user o)).1.toList.Sublist (slugs [o]) := by
  have hpath := Round.path_of i user o w
  rw [hpath.joined_eq]
  split
  next hjoined =>
    have hslug : Slug.ofName o.name ≠ "" := by
      intro hempty
      rw [hpath.eq_nil hempty] at hjoined
      cases hjoined
    rw [slugs_singleton_of_ne hslug]
    exact List.Sublist.refl _
  next => exact List.nil_sublist _

theorem Round.slug_ne_of_struck (h : (Round.of i user o w).struck = true) :
    Slug.ofName o.name ≠ "" := by
  intro hempty
  have hnone : joinTeam? i user o = pure none := by simp [joinTeam?, hempty]
  rw [Round.of, hnone] at h
  cases h

/-! ## All rounds -/

theorem failing_cons (r : Round) (rs : List Round) :
    failing (r :: rs) = if r.struck then r.organization :: failing rs else failing rs := by
  rw [failing, List.filter_cons]
  split <;> rfl

theorem surviving_cons (r : Round) (rs : List Round) :
    surviving (r :: rs) = if r.struck then surviving rs else r.organization :: surviving rs := by
  rw [surviving, List.filter_cons]
  cases r.struck <;> rfl

theorem organizations_rounds : (rounds i user os w).map (·.organization) = os := by
  induction os generalizing w with
  | nil => rfl
  | cons o os ih => exact congrArg (o :: ·) ih

theorem turns_joinTeams : (joinTeams i user os).turns Watched.answer w =
    (rounds i user os w).flatMap (·.turns) := by
  induction os generalizing w with
  | nil => rfl
  | cons o os ih =>
    rw [joinTeams, bind_eq, turns_bind, bind_eq, turns_bind, ih, rounds, List.flatMap_cons]
    exact congrArg (_ ++ ·) (List.append_nil _)

theorem roundPath_of_mem {r : Round} (h : r ∈ rounds i user os w) :
    ∃ joined, RoundPath user r.organization r.turns joined := by
  induction os generalizing w with
  | nil => cases h
  | cons o os ih =>
    rcases List.mem_cons.mp h with rfl | h
    · exact ⟨_, Round.path_of i user o w⟩
    · exact ih h

theorem reported_cons : reported (rounds i user (o :: os) w) =
    (w.run (joinTeam? i user o)).1.toList ++
      reported (rounds i user os (w.run (joinTeam? i user o)).2) := by
  rw [(Round.path_of i user o w).joined_eq, rounds, reported, List.filter_cons, Round.joined]
  split <;> rfl

theorem run_joinTeams_cons : w.run (joinTeams i user (o :: os)) =
    ((w.run (joinTeam? i user o)).1.toList ++
        ((w.run (joinTeam? i user o)).2.run (joinTeams i user os)).1,
      ((w.run (joinTeam? i user o)).2.run (joinTeams i user os)).2) := by
  rw [joinTeams, Watched.run, bind_eq, run_bind, bind_eq, run_bind]
  rfl

theorem run_joinTeams : (w.run (joinTeams i user os)).1 = reported (rounds i user os w) := by
  induction os generalizing w with
  | nil => rfl
  | cons o os ih => rw [run_joinTeams_cons, reported_cons, ih]

/-- They are a selection of all slugs, in their order. -/
theorem reported_sublist : (reported (rounds i user os w)).Sublist (slugs os) := by
  induction os generalizing w with
  | nil => exact List.Sublist.refl _
  | cons o os ih =>
    rw [reported_cons, slugs_cons]
    exact (Round.toList_sublist i user o w).append ih

end Rounds

end FederatedLogin.Provisioning
