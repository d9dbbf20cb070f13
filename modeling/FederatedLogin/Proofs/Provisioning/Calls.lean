import FederatedLogin.Proofs.Provisioning.Path
import FederatedLogin.Proofs.Store.Trace

/-! # Calls of a run

What a run may ask of the store, given the turns it has had. It brings into teams only the user whom
the store has told it of, and only into teams of which the store has told it; and it makes an
administrator only of one who has just been reported to be none, where the identity grants it.
-/

namespace FederatedLogin.Provisioning

open Store (Call Use)
open Program (Path Turn)

/-- The slugs of organizations, in order, but for the empty ones. -/
def slugs (os : List Organization) : List String :=
  (os.map fun o => Slug.ofName o.name).filter (· ≠ "")

theorem mem_slugs {name : String} {os : List Organization} :
    name ∈ slugs os ↔ name ≠ "" ∧ ∃ o ∈ os, Slug.ofName o.name = name := by
  simp [slugs, and_comm]

theorem slugs_cons (o : Organization) (os : List Organization) :
    slugs (o :: os) = slugs [o] ++ slugs os := by
  rw [slugs, slugs, slugs, ← List.filter_append, ← List.map_append, List.singleton_append]

theorem slugs_singleton_of_eq {o : Organization} (h : Slug.ofName o.name = "") :
    slugs [o] = [] := by
  simp [slugs, h]

theorem slugs_singleton_of_ne {o : Organization} (h : Slug.ofName o.name ≠ "") :
    slugs [o] = [Slug.ofName o.name] := by
  simp [slugs, h]

/-- The user with an identity's email has been found or created. -/
def KnowsUser (i : Identity) (early : List (Turn Call.Answer)) (u : User) : Prop :=
  ⟨.findUserByEmail i.email, .ok (some u)⟩ ∈ early ∨
    ∃ username, ⟨.createUser (newUser i username), .ok u⟩ ∈ early

def KnowsTeam (early : List (Turn Call.Answer)) (name : String) (x : Team) : Prop :=
  ⟨.findTeamByName name, .ok (some x)⟩ ∈ early ∨
    ∃ displayName, ⟨.createTeam ⟨name, displayName⟩, .ok x⟩ ∈ early

/-- The calls that a run for an identity may make after some turns. -/
inductive Asks (i : Identity) (client : ClientContext) (early : List (Turn Call.Answer)) :
    Call → Prop where
  | findUser : Asks i client early (.findUserByEmail i.email)
  | createUser (username : String) : Asks i client early (.createUser (newUser i username))
  | session {u : User} : KnowsUser i early u → Asks i client early (.issueSession u client)
  | findTeam {name : String} : name ∈ slugs i.organizations →
      Asks i client early (.findTeamByName name)
  | createTeam {o : Organization} : o ∈ i.organizations → Slug.ofName o.name ≠ "" →
      Asks i client early (.createTeam ⟨Slug.ofName o.name, o.name⟩)
  | join {u : User} {name : String} {x : Team} : KnowsUser i early u →
      name ∈ slugs i.organizations → KnowsTeam early name x →
      Asks i client early (.addUserToTeam x.id u.id)
  | grant {u : User} {name : String} {x : Team} {m : Membership}
      {before : List (Turn Call.Answer)} : i.grantsTeamAdmin = true → KnowsUser i early u →
      name ∈ slugs i.organizations → KnowsTeam early name x →
      early = before ++ [⟨.addUserToTeam x.id u.id, .ok m⟩] → m.role ≠ .admin →
      Asks i client early (.setTeamRole x.id u.id .admin)

section Asks

variable {i : Identity} {client : ClientContext} {spare : SpareNames}
  {early late turns : List (Turn Call.Answer)} {u : User} {o : Organization}

theorem Asks.raises {c : Call} (h : Asks i client early c) : Store.Raises c := by
  cases h <;> trivial

theorem KnowsUser.append (h : KnowsUser i early u) (late : List (Turn Call.Answer)) :
    KnowsUser i (early ++ late) u := by
  rcases h with h | ⟨username, h⟩
  · exact .inl (List.mem_append_left _ h)
  · exact .inr ⟨username, List.mem_append_left _ h⟩

theorem KnowsTeam.append {name : String} {x : Team} (h : KnowsTeam early name x)
    (late : List (Turn Call.Answer)) : KnowsTeam (early ++ late) name x := by
  rcases h with h | ⟨displayName, h⟩
  · exact .inl (List.mem_append_left _ h)
  · exact .inr ⟨displayName, List.mem_append_left _ h⟩

theorem KnowsTeam.prepend {name : String} {x : Team} (h : KnowsTeam late name x)
    (early : List (Turn Call.Answer)) : KnowsTeam (early ++ late) name x := by
  rcases h with h | ⟨displayName, h⟩
  · exact .inl (List.mem_append_right _ h)
  · exact .inr ⟨displayName, List.mem_append_right _ h⟩

theorem UserPath.knowsUser {created : Bool} (h : UserPath i spare turns (.ok (u, created))) :
    KnowsUser i turns u := by
  cases h with
  | found => exact .inl (List.mem_of_getLast? rfl)
  | created => exact .inr ⟨_, List.mem_of_getLast? rfl⟩
  | foundThen what => exact .inl (List.mem_of_getLast? rfl)
  | retried what => exact .inr ⟨_, List.mem_of_getLast? rfl⟩

/-! ## The teams -/

theorem TeamPath.knowsTeam {slug : String} {x : Team} (h : TeamPath slug o turns (some x)) :
    KnowsTeam turns slug x := by
  cases h with
  | found => exact .inl List.mem_cons_self
  | created => exact .inr ⟨_, List.mem_of_getLast? rfl⟩
  | relooked => exact .inl (List.mem_of_getLast? rfl)

theorem findOrCreateTeam?_callsBy (ho : o ∈ i.organizations) (hslug : Slug.ofName o.name ≠ "") :
    (findOrCreateTeam? (Slug.ofName o.name) o).CallsBy (Asks i client) early := by
  have hmem : Slug.ofName o.name ∈ slugs i.organizations := mem_slugs.mpr ⟨hslug, o, ho, rfl⟩
  refine .call (.findTeam hmem) fun found => ?_
  match found with
  | .error _ => exact .done _
  | .ok (some _) => exact .done _
  | .ok none =>
    refine .call (.createTeam ho hslug) fun created => ?_
    match created with
    | .ok _ => exact .done _
    | .error (.conflict _) =>
      refine .call (.findTeam hmem) fun found => ?_
      match found with
      | .error _ => exact .done _
      | .ok _ => exact .done _
    | .error (.notFound _) => exact .done _
    | .error (.invalid _) => exact .done _
    | .error (.unavailable _) => exact .done _

theorem grantAdmin_callsBy (client : ClientContext) {name : String} {x : Team} {m : Membership}
    {before : List (Turn Call.Answer)} (hu : KnowsUser i early u)
    (hname : name ∈ slugs i.organizations) (hx : KnowsTeam early name x)
    (hearly : early = before ++ [⟨.addUserToTeam x.id u.id, .ok m⟩]) :
    (grantAdmin i x.id u.id m.role).CallsBy (Asks i client) early := by
  unfold grantAdmin
  split
  next h =>
    obtain ⟨hgrants, hrole⟩ := Bool.and_eq_true_iff.mp h
    have hrole : m.role ≠ .admin := by
      rintro he
      simp [he, TeamRole.includes] at hrole
    exact .call (.grant hgrants hu hname hx hearly hrole) fun _ => .done _
  next => exact .done _

theorem joinTeam?_callsBy (hu : KnowsUser i early u) (ho : o ∈ i.organizations) :
    (joinTeam? i u.id o).CallsBy (Asks i client) early := by
  unfold joinTeam?
  dsimp only
  split
  next => exact .done _
  next hslug =>
    have hslug : Slug.ofName o.name ≠ "" := by simpa [String.isEmpty_iff] using hslug
    have hname : Slug.ofName o.name ∈ slugs i.organizations := mem_slugs.mpr ⟨hslug, o, ho, rfl⟩
    refine (findOrCreateTeam?_callsBy ho hslug).bind fun found team hfound => ?_
    match team with
    | none => exact .done _
    | some x =>
      have hx : KnowsTeam (early ++ found) (Slug.ofName o.name) x :=
        (teamPath_of_path hfound).knowsTeam.prepend early
      refine .call (.join (hu.append _) hname hx) fun added => ?_
      match added with
      | .error _ => exact .done _
      | .ok m =>
        have hgrant := grantAdmin_callsBy client ((hu.append found).append _) hname
          (hx.append [⟨.addUserToTeam x.id u.id, .ok m⟩]) rfl
        exact hgrant.bind fun _ _ _ => .done _

theorem joinTeams_callsBy {os : List Organization} (hu : KnowsUser i early u)
    (hos : ∀ o ∈ os, o ∈ i.organizations) :
    (joinTeams i u.id os).CallsBy (Asks i client) early := by
  induction os generalizing early with
  | nil => exact .done _
  | cons o os ih =>
    obtain ⟨ho, hos⟩ := List.forall_mem_cons.mp hos
    exact (joinTeam?_callsBy hu ho).bind fun joined _ _ =>
      (ih (hu.append joined) hos).bind fun _ _ _ => .done _

/-! ## The run -/

theorem resolveConflict_callsBy :
    (resolveConflict i spare).CallsBy (Asks i client) early := by
  refine .call .findUser fun found => ?_
  match found with
  | .error _ => exact .done _
  | .ok (some _) => exact .done _
  | .ok none =>
    refine .call (.createUser _) fun created => ?_
    match created with
    | .ok _ => exact .done _
    | .error _ => exact .done _

theorem findOrCreateUser_callsBy :
    (findOrCreateUser i spare).CallsBy (Asks i client) early := by
  refine .call .findUser fun found => ?_
  match found with
  | .error _ => exact .done _
  | .ok (some _) => exact .done _
  | .ok none =>
    refine .call (.createUser _) fun created => ?_
    match created with
    | .ok _ => exact .done _
    | .error (.conflict _) => exact resolveConflict_callsBy
    | .error (.notFound _) => exact .done _
    | .error (.invalid _) => exact .done _
    | .error (.unavailable _) => exact .done _

theorem provision_callsBy : (provision i client spare).CallsBy (Asks i client) [] := by
  refine findOrCreateUser_callsBy.bind fun turns found hfound => ?_
  match found with
  | .error _ => exact .done _
  | .ok (u, created) =>
    have hu : KnowsUser i turns u := (userPath_of_path hfound).knowsUser
    refine .call (.session hu) fun issued => ?_
    match issued with
    | .error _ => exact .done _
    | .ok _ => exact (joinTeams_callsBy (hu.append _) fun _ => id).bind fun _ _ _ => .done _

theorem asks_of_path {t : Turn Call.Answer} {q : Use (Except Failure Provisioned)}
    (h : Path (provision i client spare) (early ++ t :: late) q) : Asks i client early t.1 :=
  provision_callsBy.of_path h

theorem raises_of_path {q : Use (Except Failure Provisioned)}
    (h : Path (provision i client spare) turns q) : ∀ t ∈ turns, Store.Raises t.1 := by
  intro t ht
  obtain ⟨early, late, rfl⟩ := List.append_of_mem ht
  exact (asks_of_path h).raises

end Asks

end FederatedLogin.Provisioning
