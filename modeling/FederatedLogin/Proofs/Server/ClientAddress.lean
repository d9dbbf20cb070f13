import FederatedLogin.Proofs.Text.Strip
import FederatedLogin.Server.Client

/-! # The address of a client

Three headers may tell the address of a client. The first of them is passed over where it is blank,
but the others are not: where nothing is forwarded, the first of the two that can be read counts,
and if that is blank the address is there and empty.
-/

namespace FederatedLogin

namespace Http.Headers

variable {headers : Headers} {n name s : String} {value : List UInt8}

/-- The first header with a name, in any letter case, has a value that reads as a text. -/
inductive Says : Headers → String → String → Prop where
  | head {headers : Headers} {n name : String} {value : List UInt8} :
      Text.sameIgnoringCase n name = true → (∀ b ∈ value, isReadableByte b = true) →
      Says ((n, value) :: headers) name (.ofList (value.map fun b => .ofNat b.toNat))
  | tail {headers : Headers} {n name s : String} {value : List UInt8} :
      Text.sameIgnoringCase n name = false → Says headers name s →
      Says ((n, value) :: headers) name s

theorem text?_cons_of_same (h : Text.sameIgnoringCase n name = true) :
    text? ((n, value) :: headers) name = if value.all isReadableByte then
      some (.ofList (value.map fun b => .ofNat b.toNat)) else none := by
  simp only [text?, List.find?_cons, h]

theorem text?_cons_of_not_same (h : Text.sameIgnoringCase n name = false) :
    text? ((n, value) :: headers) name = text? headers name := by
  simp only [text?, List.find?_cons, h]

theorem text?_eq_some_iff : text? headers name = some s ↔ Says headers name s := by
  induction headers with
  | nil =>
    constructor
    · intro h
      cases h
    · rintro ⟨⟩
  | cons header headers ih =>
    obtain ⟨n, value⟩ := header
    cases hn : Text.sameIgnoringCase n name with
    | false =>
      rw [text?_cons_of_not_same hn, ih]
      constructor
      · exact .tail hn
      · rintro (⟨hn', _⟩ | ⟨-, h⟩)
        · cases hn.symm.trans hn'
        · exact h
    | true =>
      rw [text?_cons_of_same hn]
      constructor
      · intro h
        obtain ⟨hread, hs⟩ := Option.ite_none_right_eq_some.mp h
        obtain rfl := Option.some.inj hs
        exact .head hn (List.all_eq_true.mp hread)
      · rintro (⟨_, hread⟩ | ⟨hn', _⟩)
        · exact if_pos (List.all_eq_true.mpr hread)
        · cases hn.symm.trans hn'

end Http.Headers

namespace Server

variable {headers headers' : Http.Headers}

/-- The first of the addresses that have been forwarded, as it stands in its header. -/
def forwarded? (headers : Http.Headers) : Option String :=
  (headers.text? "x-forwarded-for").map (Text.before ',')

/-- The texts that may hold the address of a client, by falling rank. -/
def addressTexts (headers : Http.Headers) : List (Option String) :=
  [forwarded? headers, headers.text? "x-real-ip", headers.text? "cf-connecting-ip"]

def filled? (t : Option String) : Option String :=
  (t.filter fun s => !Text.isAllBlank s).map Text.trim

def firstFilled (texts : List (Option String)) : Option String := texts.findSome? filled?

def ForwardsNone (headers : Http.Headers) : Prop := filled? (forwarded? headers) = none

/-- The first that can be read of the headers for an address that is not forwarded. -/
def direct? (headers : Http.Headers) : Option String :=
  (headers.text? "x-real-ip").or (headers.text? "cf-connecting-ip")

/-- Nothing is forwarded, and the first of the other headers that can be read is blank. -/
def StopsAtBlank (headers : Http.Headers) : Prop :=
  ForwardsNone headers ∧ ∃ s, direct? headers = some s ∧ Text.isAllBlank s = true

/-! ## Filled texts -/

theorem filled?_eq (t : Option String) :
    (t.map Text.trim).filter (fun s => !s.isEmpty) = filled? t := by
  have hempty (s : String) : (Text.trim s).isEmpty = Text.isAllBlank s := by
    rw [Bool.eq_iff_iff, String.isEmpty_iff, Text.trim_eq_empty_iff]
  cases t with
  | none => rfl
  | some s => simp [filled?, Option.filter_some, hempty]

theorem filled?_none : filled? none = none := rfl

theorem filled?_of_not_blank {s : String} (h : Text.isAllBlank s = false) :
    filled? (some s) = some (Text.trim s) := by
  simp [filled?, h]

theorem filled?_ne_empty (t : Option String) : filled? t ≠ some "" := by
  rw [← filled?_eq]
  intro h
  exact absurd (Option.filter_eq_some_iff.mp h).2 (by decide)

theorem firstFilled_ne_empty (texts : List (Option String)) : firstFilled texts ≠ some "" := by
  intro h
  obtain ⟨t, -, ht⟩ := List.exists_of_findSome?_eq_some h
  exact filled?_ne_empty t ht

/-! ## The address -/

/-- A forwarded address that is filled counts, or else what the other headers tell directly. -/
theorem clientAddress?_eq (headers : Http.Headers) : clientAddress? headers =
    (filled? (forwarded? headers)).or ((direct? headers).map Text.trim) := by
  rw [clientAddress?, direct?, forwarded?, ← filled?_eq, Option.map_map, Option.or_assoc]
  cases headers.text? "x-real-ip" <;> rfl

theorem clientAddress?_of_forwardsNone (h : ForwardsNone headers) :
    clientAddress? headers = (direct? headers).map Text.trim := by
  rw [clientAddress?_eq, h, Option.none_or]

theorem firstFilled_addressTexts (headers : Http.Headers) : firstFilled (addressTexts headers) =
    (filled? (forwarded? headers)).or
      ((filled? (headers.text? "x-real-ip")).or (filled? (headers.text? "cf-connecting-ip"))) := by
  simp only [firstFilled, addressTexts, List.findSome?_cons, List.findSome?_nil]
  cases filled? (forwarded? headers) <;>
    cases filled? (headers.text? "x-real-ip") <;>
      cases filled? (headers.text? "cf-connecting-ip") <;> rfl

theorem clientAddress?_eq_empty_iff : clientAddress? headers = some "" ↔ StopsAtBlank headers := by
  rw [clientAddress?_eq, StopsAtBlank, ForwardsNone]
  cases hforwarded : filled? (forwarded? headers) with
  | none => simp [Text.trim_eq_empty_iff]
  | some a =>
    have ha : a ≠ "" := by
      rintro rfl
      exact filled?_ne_empty _ hforwarded
    simp [ha]

/-- Where no blank comes first, what the headers tell directly is the first that is not blank. -/
theorem direct?_map_trim (h : ∀ s, direct? headers = some s → Text.isAllBlank s = false) :
    (direct? headers).map Text.trim =
      (filled? (headers.text? "x-real-ip")).or (filled? (headers.text? "cf-connecting-ip")) := by
  rw [direct?] at h ⊢
  cases hreal : headers.text? "x-real-ip" with
  | some s =>
    rw [hreal] at h
    rw [filled?_of_not_blank (h s rfl)]
    rfl
  | none =>
    rw [hreal, Option.none_or] at h
    rw [filled?_none, Option.none_or, Option.none_or]
    cases hlast : headers.text? "cf-connecting-ip" with
    | none => rfl
    | some s => exact (filled?_of_not_blank (h s hlast)).symm

theorem clientAddress?_eq_firstFilled_iff :
    clientAddress? headers = firstFilled (addressTexts headers) ↔ ¬ StopsAtBlank headers := by
  constructor
  · intro h hstops
    exact firstFilled_ne_empty _ (h.symm.trans (clientAddress?_eq_empty_iff.mpr hstops))
  · intro h
    rw [clientAddress?_eq, firstFilled_addressTexts]
    cases hforwarded : filled? (forwarded? headers) with
    | some a => rfl
    | none =>
      rw [Option.none_or, Option.none_or]
      apply direct?_map_trim
      intro s hs
      exact Bool.eq_false_iff.mpr fun hblank => h ⟨hforwarded, s, hs, hblank⟩

theorem clientAddress?_eq_none_iff :
    clientAddress? headers = none ↔ ForwardsNone headers ∧ direct? headers = none := by
  rw [clientAddress?_eq, ForwardsNone, Option.or_eq_none_iff, Option.map_eq_none_iff]

theorem clientAddress?_eq_of_take {k : Nat}
    (hsame : (addressTexts headers').take k = (addressTexts headers).take k)
    (hfound : firstFilled ((addressTexts headers).take k) ≠ none) :
    clientAddress? headers' = clientAddress? headers := by
  rw [clientAddress?_eq, clientAddress?_eq]
  match k, hsame, hfound with
  | 0, _, hfound => exact absurd rfl hfound
  | 1, hsame, hfound =>
    obtain ⟨hforwarded, -⟩ := List.cons.inj hsame
    rw [hforwarded]
    cases hfilled : filled? (forwarded? headers) with
    | some a => rfl
    | none => simp [addressTexts, firstFilled, hfilled] at hfound
  | 2, hsame, hfound =>
    obtain ⟨hforwarded, hrest⟩ := List.cons.inj hsame
    obtain ⟨hreal, -⟩ := List.cons.inj hrest
    rw [hforwarded, direct?, direct?, hreal]
    cases hfilled : filled? (forwarded? headers) with
    | some a => rfl
    | none =>
      cases hs : headers.text? "x-real-ip" with
      | some s => rfl
      | none => simp [addressTexts, firstFilled, hfilled, hs, filled?_none] at hfound
  | k + 3, hsame, _ =>
    obtain ⟨hforwarded, hrest⟩ := List.cons.inj hsame
    obtain ⟨hreal, hrest⟩ := List.cons.inj hrest
    obtain ⟨hlast, -⟩ := List.cons.inj hrest
    rw [hforwarded, direct?, direct?, hreal, hlast]

/-- The address of a client is the first of the three texts that is not blank, unless nothing is
forwarded and the first other header that can be read is blank: then, and only then, it is empty.
What stands in headers below one in which an address is found does not count, and neither does a
forwarded text that is blank. -/
theorem address_first_filled_iff (headers : Http.Headers) :
    (∀ name s, headers.text? name = some s ↔ Http.Headers.Says headers name s) ∧
    ((clientContext headers).ipAddress = firstFilled (addressTexts headers) ↔
      ¬ StopsAtBlank headers) ∧
    ((clientContext headers).ipAddress = some "" ↔ StopsAtBlank headers) ∧
    ((clientContext headers).ipAddress = none ↔
      ForwardsNone headers ∧ direct? headers = none) ∧
    (ForwardsNone headers →
      (clientContext headers).ipAddress = (direct? headers).map Text.trim) ∧
    ∀ headers' k, (addressTexts headers').take k = (addressTexts headers).take k →
      firstFilled ((addressTexts headers).take k) ≠ none →
      (clientContext headers').ipAddress = (clientContext headers).ipAddress :=
  ⟨fun _ _ => Http.Headers.text?_eq_some_iff, clientAddress?_eq_firstFilled_iff,
    clientAddress?_eq_empty_iff, clientAddress?_eq_none_iff, clientAddress?_of_forwardsNone,
    fun _ _ => clientAddress?_eq_of_take⟩

def textHeaders (headers : List (String × String)) : Http.Headers :=
  headers.map fun (n, s) => (n, s.toList.map fun c => c.toNat.toUInt8)

/-- An address behind an empty forwarded one is found, whatever the last header says. -/
theorem real_address_found :
    let headers := textHeaders [("X-Real-IP", " 192.0.2.9 "), ("x-forwarded-for", " , 10.0.0.1"),
      ("x-forwarded-for", "203.0.113.7")]
    let headers' := headers ++ textHeaders [("cf-connecting-ip", "")]
    ForwardsNone headers ∧
      (addressTexts headers').take 2 = (addressTexts headers).take 2 ∧
      firstFilled ((addressTexts headers).take 2) ≠ none ∧
      (clientContext headers).ipAddress = some "192.0.2.9" ∧
      (clientContext headers').ipAddress = (clientContext headers).ipAddress := by
  intro headers headers'
  have hnone : ForwardsNone headers := by unfold ForwardsNone; decide +kernel
  have hsame : (addressTexts headers').take 2 = (addressTexts headers).take 2 := by decide +kernel
  have hfound : firstFilled ((addressTexts headers).take 2) ≠ none := by decide +kernel
  obtain ⟨-, -, -, -, hdirect, hkept⟩ := address_first_filled_iff headers
  exact ⟨hnone, hsame, hfound, (hdirect hnone).trans (by decide +kernel),
    hkept headers' 2 hsame hfound⟩

/-- An empty header keeps the address in the one below it from being found. -/
theorem empty_real_address_stops :
    let headers := textHeaders [("x-real-ip", ""), ("cf-connecting-ip", "198.51.100.4")]
    (clientContext headers).ipAddress = some "" ∧
      firstFilled (addressTexts headers) = some "198.51.100.4" ∧
      (clientContext headers).ipAddress ≠ firstFilled (addressTexts headers) := by
  decide +kernel

end Server

end FederatedLogin
