import Mathlib.Tactic.NormNum
import FederatedLogin.Proofs.Odoo.Account
import FederatedLogin.Proofs.Rpc.Ids

/-! # Ids of the users who log in

The user whom a login is for is told by a number in the first reply. Numbers of 64 bits tell
different users apart, while all numbers beyond the greatest one stand for the same user.
-/

namespace FederatedLogin.Odoo

open Http (Delivery)
open Json (minInt64 maxInt64)
open Program (Path)
open Rpc.Loose (ofJson held? nearestInt64)

/-- The number that the first reply holds for the id of the user. -/
def uidHeld? (turns : Turns) : Option ℚ :=
  ((sessionRecord? turns).bind (·.get? "uid")).bind held?

section Login

variable {s s' : Settings} {identifier identifier' : String} {secret secret' : Secret String}
  {turns turns' : Turns} {a a' : Account}

theorem LoginPath.exists_uidHeld
    (h : LoginPath s identifier secret turns (.ok (.authenticated a))) :
    ∃ n : ℤ, uidHeld? turns = some (n : ℚ) ∧ 0 < n ∧ a.uid = nearestInt64 n := by
  obtain ⟨r, v, hr, hv, hid⟩ := h.gathered.uid
  obtain ⟨n, hn, huid⟩ := Rpc.Loose.id?_eq_some_iff.mp hid
  refine ⟨n, ?_, ?_, huid⟩
  · simp [uidHeld?, hr, hv, hn]
  · rw [← Rpc.Loose.nearestInt64_pos_iff, ← huid]
    exact h.uid_pos

theorem LoginPath.uid_eq_iff (h : LoginPath s identifier secret turns (.ok (.authenticated a)))
    (h' : LoginPath s' identifier' secret' turns' (.ok (.authenticated a'))) :
    ∃ m n : ℤ, uidHeld? turns = some (m : ℚ) ∧ uidHeld? turns' = some (n : ℚ) ∧
      (a.uid = a'.uid ↔ m = n ∨ (maxInt64 ≤ m ∧ maxInt64 ≤ n)) := by
  obtain ⟨m, hm, hpos, huid⟩ := h.exists_uidHeld
  obtain ⟨n, hn, hpos', huid'⟩ := h'.exists_uidHeld
  refine ⟨m, n, hm, hn, ?_⟩
  have hmin := Rpc.Loose.limits_eq.1
  rw [huid, huid', Rpc.Loose.nearestInt64_eq_iff]
  omega

end Login

/-- The id of a value is the nearest one of 64 bits to the whole number that the value holds, and
there is none without such a number. So the id is that number itself unless it does not fit, and two
logins are for the same user if and only if the replies hold the same number for the user or both
hold one that is not less than the greatest id. -/
theorem ids_nearest (v : Json) (items : List Json) :
    (∀ i : ℤ, (ofJson v).id? = some i ↔ ∃ n : ℤ, held? v = some (n : ℚ) ∧ i = nearestInt64 n) ∧
    ((∀ i, (ofJson v).id? = some i → held? v = some (i : ℚ)) ↔
      ∀ n : ℤ, held? v = some (n : ℚ) → minInt64 ≤ n ∧ n ≤ maxInt64) ∧
    ((ofJson (.array items)).ids = items.filterMap fun v => (ofJson v).id?) ∧
    (∀ m n : ℤ, nearestInt64 m = nearestInt64 n ↔
      m = n ∨ (maxInt64 ≤ m ∧ maxInt64 ≤ n) ∨ (m ≤ minInt64 ∧ n ≤ minInt64)) ∧
    ∀ (s s' : Settings) (identifier identifier' : String) (secret secret' : Secret String)
      (turns turns' : Turns) (a a' : Account),
      Path (login s identifier secret).run turns (.done (.ok (.authenticated a))) →
      Path (login s' identifier' secret').run turns' (.done (.ok (.authenticated a'))) →
      ∃ m n : ℤ, uidHeld? turns = some (m : ℚ) ∧ uidHeld? turns' = some (n : ℚ) ∧
        (a.uid = a'.uid ↔ m = n ∨ (maxInt64 ≤ m ∧ maxInt64 ≤ n)) := by
  refine ⟨fun i => Rpc.Loose.id?_eq_some_iff, Rpc.Loose.id?_faithful_iff, ?_,
    fun m n => Rpc.Loose.nearestInt64_eq_iff, ?_⟩
  · simp only [Rpc.Loose.id?_ofJson]
    rfl
  · intro s s' identifier identifier' secret secret' turns turns' a a' h h'
    exact (loginPath_of_path h).uid_eq_iff (loginPath_of_path h')

def repliesWithUid (uid : String) : List Delivery :=
  [answering ("\x7b\"result\":\x7b\"uid\":" ++ uid ++ "\x7d\x7d"),
    answering "\x7b\"result\":[[\"Bob\"]]\x7d"]

def accountWithUid (uid : ℤ) : Account := ⟨uid, "", "Bob", none, false, false, []⟩

def turnsWithUid (uid : String) : Turns :=
  Program.turns scripted (login sampleSettings "bob" ⟨"secret"⟩).run (repliesWithUid uid)

theorem login_beyond_limit : ∀ uid ∈ ["9223372036854775808", "18446744073709551616"],
    (Program.run scripted (login sampleSettings "bob" ⟨"secret"⟩).run (repliesWithUid uid)).1 =
      .ok (.authenticated (accountWithUid maxInt64)) := by
  simp only [← Program.toOption_eq_some_iff]
  decide +kernel

theorem path_beyond_limit {uid : String}
    (h : uid ∈ ["9223372036854775808", "18446744073709551616"]) :
    Path (login sampleSettings "bob" ⟨"secret"⟩).run (turnsWithUid uid)
      (.done (.ok (.authenticated (accountWithUid maxInt64)))) :=
  login_beyond_limit uid h ▸ Program.path_run scripted _ _

theorem same_user_beyond_limit :
    let x := (login sampleSettings "bob" ⟨"secret"⟩).run
    let turns := turnsWithUid "9223372036854775808"
    let turns' := turnsWithUid "18446744073709551616"
    Path x turns (.done (.ok (.authenticated (accountWithUid maxInt64)))) ∧
      Path x turns' (.done (.ok (.authenticated (accountWithUid maxInt64)))) ∧
      ∃ m n : ℤ, uidHeld? turns = some (m : ℚ) ∧ uidHeld? turns' = some (n : ℚ) ∧
        (m = n ∨ (maxInt64 ≤ m ∧ maxInt64 ≤ n)) := by
  intro x turns turns'
  have h : Path x turns (.done (.ok (.authenticated (accountWithUid maxInt64)))) :=
    path_beyond_limit (by decide)
  have h' : Path x turns' (.done (.ok (.authenticated (accountWithUid maxInt64)))) :=
    path_beyond_limit (by decide)
  obtain ⟨_, _, _, _, hlogins⟩ := ids_nearest (.int 9223372036854775808) []
  obtain ⟨m, n, hm, hn, huid⟩ := hlogins _ _ _ _ _ _ _ _ _ _ h h'
  exact ⟨h, h', m, n, hm, hn, huid.mp rfl⟩

/-- Numbers that do not fit have an id all the same, and different ones have the same: here they are
the least number that is too great and its double. Whoever logs in with either is the same user. -/
theorem limit_stands_for_two :
    let double : Json := .number (.float ⟨false, 4503599627370496, 12⟩)
    held? (.int 9223372036854775808) = some 9223372036854775808 ∧
      held? double = some 18446744073709551616 ∧
      (ofJson (.int 9223372036854775808)).id? = some 9223372036854775807 ∧
      (ofJson double).id? = some 9223372036854775807 ∧
      ∀ uid ∈ ["9223372036854775808", "18446744073709551616"],
        (Program.run scripted (login sampleSettings "bob" ⟨"secret"⟩).run (repliesWithUid uid)).1 =
          .ok (.authenticated (accountWithUid 9223372036854775807)) := by
  refine ⟨?_, ?_, by decide +kernel, by decide +kernel, login_beyond_limit⟩
  · change some (Binary64.value ⟨false, 4503599627370496, 11⟩) = _
    norm_num [Binary64.value]
  · change some (Binary64.value ⟨false, 4503599627370496, 12⟩) = _
    norm_num [Binary64.value]

end FederatedLogin.Odoo
