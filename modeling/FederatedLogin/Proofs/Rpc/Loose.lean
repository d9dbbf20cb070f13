import FederatedLogin.Rpc.Loose

/-! # Two ways to a loose value

A loose value is read by trying alternatives in order, or converted by the kind of the JSON value.
Both ways lead to the same loose value, whatever the JSON value is, and so do the mixed ones: an
array is read as a whole, while the items that stand for ids are converted one by one.
-/

namespace FederatedLogin.Rpc

namespace Loose

/-! ## Reading -/

theorem read?_eq (v : Json) : read? v = some (ofJson v) := by
  cases v with
  | number n =>
    cases n with
    | int n =>
      -- of the two alternatives for a whole number, the second is left to those of more bits
      cases h : isInt64 n <;>
        simp [read?, alternatives, List.findSome?_cons, integer?, double?, ofJson, h]
    | float x => rfl
  | _ => rfl

def readId? (v : Json) : Option Int := (read? v).bind id?

theorem readId?_eq (v : Json) : readId? v = (ofJson v).id? := by
  rw [readId?, read?_eq, Option.bind_some]

/-! ## Ids of converted values -/

theorem id?_ofJson (v : Json) : (ofJson v).id? = idOfJson? v := by
  cases v with
  | number n =>
    cases n with
    | int n => cases h : isInt64 n <;> simp [ofJson, id?, idOfJson?, h]
    | float x => rfl
  | _ => rfl

theorem idOfJson?_array (items : List Json) :
    idOfJson? (.array items) = items.head?.bind idOfJson? := by
  cases items with
  | nil => rfl
  | cons v items => rw [idOfJson?, List.head?_cons, Option.bind_some]

theorem readId?_eq_idOfJson? : readId? = idOfJson? :=
  funext fun v => (readId?_eq v).trans (id?_ofJson v)

/-! ## Flags and texts of converted values -/

theorem isSet_ofJson_iff {v : Json} : (ofJson v).isSet = true ↔ v = .bool true := by
  cases v with
  | bool b => simp [ofJson, isSet]
  | number n =>
    cases n with
    | int n => cases h : isInt64 n <;> simp [ofJson, isSet, h]
    | float x => simp [ofJson, isSet]
  | _ => simp [ofJson, isSet]

theorem nonEmptyText?_ofJson_eq_some_iff {v : Json} {t : String} :
    (ofJson v).nonEmptyText? = some t ↔ v = .string t ∧ t ≠ "" := by
  cases v with
  | string s =>
    simp only [ofJson, nonEmptyText?, Json.string.injEq, Option.ite_none_left_eq_some,
      Option.some.injEq, String.isEmpty_iff]
    constructor
    · rintro ⟨hs, rfl⟩
      exact ⟨rfl, hs⟩
    · rintro ⟨rfl, ht⟩
      exact ⟨ht, rfl⟩
  | number n =>
    cases n with
    | int n => cases h : isInt64 n <;> simp [ofJson, nonEmptyText?, h]
    | float x => simp [ofJson, nonEmptyText?]
  | _ => simp [ofJson, nonEmptyText?]

end Loose

/-- A loose field of a record, read by alternatives. A missing field is null. -/
def looseFieldRead? (r : Record Json) (name : String) : Option Loose :=
  match r.get? name with
  | none => some .null
  | some v => Loose.read? v

theorem looseFieldRead?_eq (r : Record Json) (name : String) :
    looseFieldRead? r name = some (looseField r name) := by
  unfold looseFieldRead? looseField
  cases r.get? name with
  | none => rfl
  | some v => exact Loose.read?_eq v

open Loose in
/-- Reading never fails and is conversion, for values by themselves and for the fields of records.
So are its uses: the id and the ids of an array come from its items, read or converted, only the
literal true sets a flag, and only a text that is not empty is one. -/
theorem read_is_conversion :
    (∀ v : Json, read? v = some (ofJson v)) ∧
      (∀ (r : Record Json) (name : String), looseFieldRead? r name = some (looseField r name)) ∧
      (∀ items : List Json, (ofJson (.array items)).id? = items.head?.bind readId? ∧
        (ofJson (.array items)).ids = items.filterMap readId?) ∧
      ∀ v : Json, ((ofJson v).isSet = true ↔ v = .bool true) ∧
        ∀ t, (ofJson v).nonEmptyText? = some t ↔ v = .string t ∧ t ≠ "" := by
  refine ⟨read?_eq, looseFieldRead?_eq, ?_, fun v => ⟨isSet_ofJson_iff, fun t =>
    nonEmptyText?_ofJson_eq_some_iff⟩⟩
  intro items
  rw [readId?_eq_idOfJson?]
  exact ⟨(id?_ofJson _).trans (idOfJson?_array items), rfl⟩

end FederatedLogin.Rpc
