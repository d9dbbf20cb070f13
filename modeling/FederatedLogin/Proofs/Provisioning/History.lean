import Mathlib.Tactic.Choose
import FederatedLogin.Proofs.Provisioning.Calls
import FederatedLogin.Proofs.Provisioning.Interleaving

/-! # Histories

What runs over one store have done, as a trace of the store that is a path of each of the runs. Any
names may have been generated, and faults may be among the answers. To each of the runs the others
are surroundings in which the store grows.
-/

namespace FederatedLogin.Provisioning

open Store (Call Use Service Trace Grows)
open Program (Path Turn path_append_iff)

variable {ι : Type} [DecidableEq ι]

/-- The log of runs that have started from a store and come to a pool. -/
structure History (service : Service) (runs : ι → Run) (s : Store) (log : List (Event ι))
    (q : Pool ι) : Prop where
  trace : Trace service Eq s (log.map (·.turn)) q.store
  follows (k : ι) : Path (runs k).program (turnsOf k log) (q.rest k)

section

variable {service : Service} {runs : ι → Run} {s t : Store} {p q : Pool ι}
  {log log' : List (Event ι)}

theorem Interleaving.trace (h : Interleaving service runs p log q) :
    Trace service Eq p.store (log.map (·.turn)) q.store := by
  induction h with
  | stay p => exact .nil rfl
  | step he _ ih =>
    cases he with
    | call _ ht _ => exact .cons rfl ht ih

theorem Interleaving.history (h : Interleaving service runs (.start runs s) log q) :
    History service runs s log q :=
  ⟨h.trace, h.path_start⟩

theorem History.single {r : Run} {turns : List (Turn Call.Answer)}
    {rest : Use (Except Failure Provisioned)} (hpath : Path r.program turns rest)
    (htrace : Trace service Eq s turns t) :
    History service (fun _ : Unit => r) s (turns.map (⟨(), ·⟩)) ⟨t, fun _ => rest⟩ where
  trace := by
    rw [List.map_map]
    exact (List.map_id turns).symm ▸ htrace
  follows k := by
    have hturns : turnsOf k (turns.map (⟨(), ·⟩)) = turns := by
      rw [turnsOf, List.filterMap_map]
      exact List.filterMap_some
    rwa [hturns]

/-- A history without faults is one in which any may have been met with. -/
theorem History.withFaults (h : History Store.executes runs s log q)
    (faults : Call → Store.Fault → Prop) : History (Store.disturbed faults) runs s log q :=
  ⟨h.trace.disturbed faults, h.follows⟩

theorem History.exists_of_append (h : History service runs s (log ++ log') q) :
    ∃ m, History service runs s log m ∧
      Trace service Eq m.store (log'.map (·.turn)) q.store := by
  obtain ⟨htrace, hfollows⟩ := h
  rw [List.map_append] at htrace
  obtain ⟨m, hm, htrace⟩ := htrace.exists_append fun _ => rfl
  simp only [turnsOf_append, path_append_iff] at hfollows
  choose rest hrest _ using hfollows
  exact ⟨⟨m, rest⟩, ⟨hm, hrest⟩, htrace⟩

theorem History.asks_of_turnsOf {k : ι} {x : Turn Call.Answer}
    {early late : List (Turn Call.Answer)} (h : History service runs s log q)
    (hk : turnsOf k log = early ++ x :: late) :
    Asks (runs k).identity (runs k).client early x.1 :=
  asks_of_path (hk ▸ h.follows k)

theorem History.asks {e : Event ι} (h : History service runs s (log ++ e :: log') q) :
    Asks (runs e.run).identity (runs e.run).client (turnsOf e.run log) e.turn.1 :=
  h.asks_of_turnsOf (by rw [turnsOf_append, turnsOf_cons_self e.run e.turn])

theorem History.raises_turnsOf (h : History service runs s log q) (k : ι) :
    ∀ x ∈ turnsOf k log, Store.Raises x.1 :=
  raises_of_path (h.follows k)

theorem History.raises (h : History service runs s log q) : ∀ e ∈ log, Store.Raises e.turn.1 :=
  fun e he => h.raises_turnsOf e.run e.turn (mem_turnsOf.mpr he)

/-- The part of one run in a trace of all, to which the others are surroundings. -/
theorem trace_turnsOf
    (hservice : ∀ s c a t, service s c a t → Store.Raises c → Grows s t)
    (h : Trace service Eq s (log.map (·.turn)) t) (hlog : ∀ e ∈ log, Store.Raises e.turn.1)
    (k : ι) : Trace service Grows s (turnsOf k log) t := by
  induction log generalizing s with
  | nil =>
    cases h with
    | nil h => exact .nil (h ▸ .refl s)
  | cons e log ih =>
    obtain ⟨j, c, a⟩ := e
    obtain ⟨m, hc, h⟩ := h.exists_of_cons
    obtain ⟨he, hlog⟩ := List.forall_mem_cons.mp hlog
    by_cases hj : j = k
    · subst hj
      rw [turnsOf_cons_self]
      exact .cons (.refl s) hc (ih h hlog)
    · rw [turnsOf_cons_of_ne hj]
      exact (ih h hlog).preceded (fun _ _ _ => .trans) (hservice _ _ _ _ hc he)

end

section Disturbed

variable {faults : Call → Store.Fault → Prop} {runs : ι → Run} {s : Store} {q : Pool ι}
  {log : List (Event ι)}

theorem History.grows (h : History (Store.disturbed faults) runs s log q) : Grows s q.store :=
  h.trace.grows (fun s _ he => he ▸ .refl s) (by simpa using h.raises)

theorem History.sound (h : History (Store.disturbed faults) runs s log q) (hs : s.Sound) :
    q.store.Sound :=
  h.trace.sound hs

theorem History.view (h : History (Store.disturbed faults) runs s log q) (k : ι) :
    Trace (Store.disturbed faults) Grows s (turnsOf k log) q.store :=
  trace_turnsOf (fun _ _ _ _ => Store.grows_of_disturbed) h.trace h.raises k

theorem History.attests (h : History (Store.disturbed faults) runs s log q) (k : ι) :
    ∀ x ∈ turnsOf k log, Store.Attests q.store x :=
  (h.view k).attests (fun _ _ => id) (h.raises_turnsOf k)

end Disturbed

end FederatedLogin.Provisioning
