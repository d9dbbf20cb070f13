import FederatedLogin.Proofs.Odoo.Outcome
import FederatedLogin.Proofs.Text.Search

/-! # Errors that reject credentials

An error rejects the credentials by the words in its message or its data. The words are searched
for in lower-cased texts, but what is found is what the texts themselves say, up to the case of
ASCII letters.
-/

namespace FederatedLogin.Odoo

open Rpc (ErrorObject)
open Text (HasPart IsKeyword sameIgnoringCase)

/-- The data of an error is an object with a text member. -/
def HasText (data : Option Json) (key text : String) : Prop :=
  ∃ members, data = some (.object members) ∧ members.lookup key = some (.string text)

/-- A message says that the credentials are wrong. -/
def MessageRejects (message : String) : Prop :=
  ∃ k ∈ ["wrong", "password", "access denied", "invalid", "authentication failed"],
    HasPart message k

/-- The data of an error names an exception that says so, or has such a message of its own. -/
def DataRejects (data : Option Json) : Prop :=
  (∃ t, HasText data "name" t ∧ HasPart t "accessdenied") ∨
    ∃ t, HasText data "message" t ∧ ∃ k ∈ ["access denied", "invalid"], HasPart t k

theorem dataText?_eq_some_iff {e : ErrorObject} {key text : String} :
    e.dataText? key = some text ↔ HasText e.data key text := by
  rw [ErrorObject.dataText?, HasText]
  constructor
  · intro h
    obtain ⟨v, hv, ht⟩ := Option.bind_eq_some_iff.mp h
    obtain ⟨data, hdata, hmember⟩ := Option.bind_eq_some_iff.mp hv
    cases data with
    | object members =>
      cases v with
      | string s =>
        cases ht
        exact ⟨members, hdata, hmember⟩
      | _ => cases ht
    | _ => cases hmember
  · rintro ⟨members, hdata, hmember⟩
    rw [hdata, Option.bind_some, Json.member?, hmember]
    rfl

theorem mentions_iff {keywords : List String} (h : ∀ k ∈ keywords, IsKeyword k.toList)
    {s : String} : mentions keywords s = true ↔ ∃ k ∈ keywords, HasPart s k := by
  rw [mentions, List.any_eq_true]
  exact exists_congr fun k => and_congr_right fun hk => Text.contains_lower_iff (h k hk)

theorem any_mentions_iff {keywords : List String} (h : ∀ k ∈ keywords, IsKeyword k.toList)
    {e : ErrorObject} {key : String} : (e.dataText? key).any (mentions keywords) = true ↔
      ∃ t, HasText e.data key t ∧ ∃ k ∈ keywords, HasPart t k := by
  simp only [Option.any_eq_true, mentions_iff h, dataText?_eq_some_iff]

theorem isRejection_iff {e : ErrorObject} :
    isRejection e = true ↔ MessageRejects e.message ∨ DataRejects e.data := by
  have hmessage : ∀ k ∈ rejectionKeywords, IsKeyword k.toList := by decide
  have hname : ∀ k ∈ deniedExceptions, IsKeyword k.toList := by decide
  have hdetail : ∀ k ∈ detailKeywords, IsKeyword k.toList := by decide
  rw [isRejection, Bool.or_eq_true, Bool.or_eq_true, mentions_iff hmessage, any_mentions_iff hname,
    any_mentions_iff hdetail, or_assoc, DataRejects, MessageRejects]
  simp only [deniedExceptions, List.mem_singleton, exists_eq_left]
  rfl

/-- A status other than that of a refusal leaves the verdict to the error. -/
theorem judge_eq_iff {status : Http.Status} (h : ¬ (status = 401 ∨ status = 403))
    {e : ErrorObject} : judge status (some e) = .invalidCredentials ↔
      MessageRejects e.message ∨ DataRejects e.data := by
  have hstatus : status.isDenial = false := Bool.eq_false_iff.mpr (mt isDenial_iff.mp h)
  rw [← isRejection_iff, judge, hstatus, Bool.false_or, Option.all_some]
  cases isRejection e <;> simp

theorem not_dataRejects {data : Option Json} (h : ∀ members, data ≠ some (.object members)) :
    ¬ DataRejects data := by
  rintro (⟨_, ⟨members, hobject, _⟩, _⟩ | ⟨_, ⟨members, hobject, _⟩, _⟩)
  · exact h members hobject
  · exact h members hobject

theorem Verdict.eq_of_iff {v w : Verdict}
    (h : v = .invalidCredentials ↔ w = .invalidCredentials) : v = w := by
  cases v <;> cases w <;> simp at h ⊢

/-- Unless the status is that of a refusal, an error rejects the credentials if and only if its
message or its data do. So every message does that has one of the words in it, in whatever case the
word is written and whatever stands around it, and data that do not reject make no difference. -/
theorem judges_by_keywords (e : ErrorObject) {status : Http.Status}
    (h : ¬ (status = 401 ∨ status = 403)) :
    (judge status (some e) = .invalidCredentials ↔
      MessageRejects e.message ∨ DataRejects e.data) ∧
    (∀ k ∈ ["wrong", "password", "access denied", "invalid", "authentication failed"],
      ∀ early m late, sameIgnoringCase m k = true →
        judge status (some { e with message := early ++ m ++ late }) = .invalidCredentials) ∧
    (¬ DataRejects e.data →
      judge status (some e) = judge status (some { e with data := none })) := by
  refine ⟨judge_eq_iff h, fun k hk early m late hm => ?_, fun hdata => ?_⟩
  · exact (judge_eq_iff h).mpr (.inl ⟨k, hk, early, m, late, rfl, hm⟩)
  · have hnone : ¬ DataRejects none := not_dataRejects nofun
    refine Verdict.eq_of_iff ?_
    rw [judge_eq_iff h, judge_eq_iff h, or_iff_left hdata, or_iff_left hnone]

theorem mixedCase_rejects :
    let e : ErrorObject := ⟨200, "ΣΑΣ WrOnG", some (.array [.string "invalid"])⟩
    ¬ ((200 : Http.Status) = 401 ∨ (200 : Http.Status) = 403) ∧
      judge 200 (some e) = .invalidCredentials ∧
      (MessageRejects e.message ∨ DataRejects e.data) ∧ ¬ DataRejects e.data ∧
      judge 200 (some e) = judge 200 (some { e with data := none }) := by
  intro e
  have h : ¬ ((200 : Http.Status) = 401 ∨ (200 : Http.Status) = 403) := by decide
  have hdata : ¬ DataRejects e.data := not_dataRejects nofun
  obtain ⟨hjudge, hwords, hother⟩ := judges_by_keywords e h
  have hrejects : judge 200 (some e) = .invalidCredentials :=
    hwords "wrong" (by decide) "ΣΑΣ " "WrOnG" "" (by decide)
  exact ⟨h, hrejects, hjudge.mp hrejects, hdata, hother hdata⟩

/-- The capital I with a dot is no I, and the Kelvin sign is in none of the words. -/
example : judge 200 (some ⟨200, "İnvalid \u212A", none⟩) = .serviceFailure := by
  decide +kernel

end FederatedLogin.Odoo
