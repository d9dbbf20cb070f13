import FederatedLogin.Proofs.Provisioning.Enrolment
import FederatedLogin.Proofs.Provisioning.Provided

/-! # The users that runs return

A run returns a user with the email of its identity, whom the store held before or one of the runs
has created, with what the identity of that run says. In a sound store two runs return one user
exactly if they are for one email.
-/

namespace FederatedLogin

namespace Store

open Program (Turn)

theorem Trace.exists_of_mem {service : Service} {others : Store → Store → Prop} {s t : Store}
    {turns : List (Turn Call.Answer)} (h : Trace service others s turns t) {c : Call}
    {a : c.Answer} (hmem : ⟨c, a⟩ ∈ turns) : ∃ s' t', service s' c a t' := by
  induction h with
  | nil _ => cases hmem
  | cons _ hc _ ih =>
    rcases List.mem_cons.mp hmem with he | hmem
    · cases he
      exact ⟨_, _, hc⟩
    · exact ih hmem

end Store

namespace Provisioning

open Store (Call disturbed)
open Program (Turn)

theorem ProvisionPath.knowsUser {i : Identity} {client : ClientContext} {spare : SpareNames}
    {turns : List (Turn Call.Answer)} {p : Provisioned}
    (h : ProvisionPath i client spare turns (.ok p)) : KnowsUser i turns p.user := by
  cases h with
  | provisioned _ hu _ => exact hu.knowsUser.append _

section History

variable {ι : Type} [DecidableEq ι] {faults : Call → Store.Fault → Prop} {runs : ι → Run}
  {s : Store} {q : Pool ι} {log : List (Event ι)} {j k : ι} {p p' : Provisioned} {u : User}

theorem History.mem_users (h : History (disturbed faults) runs s log q)
    (hk : q.rest k = .done (.ok p)) :
    p.user ∈ q.store.users ∧ Text.sameIgnoringCase p.user.email (runs k).email = true := by
  have hpath := provisionPath_of_path (hk ▸ h.follows k)
  exact hpath.knowsUser.mem (h.attests k)

theorem History.userId_eq_iff (h : History (disturbed faults) runs s log q) (hs : s.Sound)
    (hj : q.rest j = .done (.ok p)) (hk : q.rest k = .done (.ok p')) :
    p.user.id = p'.user.id ↔ Text.sameIgnoringCase (runs j).email (runs k).email = true := by
  obtain ⟨hu, he⟩ := h.mem_users hj
  obtain ⟨hu', he'⟩ := h.mem_users hk
  constructor
  · intro hid
    rw [(h.sound hs).eq_of_userId hu hu' hid] at he
    exact Text.sameIgnoringCase_trans (Text.sameIgnoringCase_symm he) he'
  · intro hsame
    have hemails : Text.sameIgnoringCase p.user.email p'.user.email = true :=
      Text.sameIgnoringCase_trans (Text.sameIgnoringCase_trans he hsame)
        (Text.sameIgnoringCase_symm he')
    rw [(h.sound hs).eq_of_email hu hu' hemails]

theorem exists_of_createdUser? {t : Turn Call.Answer} (h : createdUser? t = some u) :
    ∃ new, t = ⟨.createUser new, .ok u⟩ := by
  obtain ⟨c, a⟩ := t
  cases c with
  | createUser new =>
    cases a with
    | ok v =>
      cases h
      exact ⟨new, rfl⟩
    | error e => cases h
  | _ => cases h

theorem History.of_creation (h : History (disturbed faults) runs s log q)
    (hu : (k, u) ∈ creations log) : u ∈ q.store.users ∧
      ∃ id now username, u = .ofNew id now (newUser (runs k).identity username) := by
  obtain ⟨t, ht, hcreated⟩ := List.mem_filterMap.mp (mem_creations.mp hu)
  obtain ⟨new, rfl⟩ := exists_of_createdUser? hcreated
  obtain ⟨early, late, hturns⟩ := List.append_of_mem ht
  have hasks : Asks (runs k).identity (runs k).client early (.createUser new) :=
    h.asks_of_turnsOf hturns
  have hstored := (h.attests k _ ht).1
  obtain ⟨_, _, hc⟩ := (h.view k).exists_of_mem ht
  obtain ⟨_, _, id, now, rfl⟩ := Store.exists_of_created hc
  cases hasks with
  | createUser username => exact ⟨hstored, id, now, username, rfl⟩

theorem History.exists_creation (h : History (disturbed faults) runs .empty log q)
    (hu : u ∈ q.store.users) : ∃ k, (k, u) ∈ creations log := by
  have husers : q.store.users = (log.map (·.turn)).filterMap createdUser? := h.trace.users
  rw [husers, List.filterMap_map, List.mem_filterMap] at hu
  obtain ⟨e, he, hcreated⟩ := hu
  exact ⟨e.run, mem_creations.mpr (List.mem_filterMap.mpr ⟨e.turn, mem_turnsOf.mpr he, hcreated⟩)⟩

end History

end Provisioning

end FederatedLogin
