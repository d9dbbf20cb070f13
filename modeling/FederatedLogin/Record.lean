/-! # Records

The fields of a record as they are found in a document, before their types are known. A document
names the fields or lists them in order.
-/

namespace FederatedLogin

/-- The fields of a record that are present, under their names. -/
structure Record (α : Type) where
  fields : List (String × α)

namespace Record

def get? (r : Record α) (name : String) : Option α := r.fields.lookup name

def distinct : List String → Bool
  | [] => true
  | n :: ns => !ns.contains n && distinct ns

/-- The record with named fields. Other names are passed over, and no field may be given twice. An
alias stands for the field it is paired with. -/
def ofMembers? (names : List String) (aliases : List (String × String))
    (members : List (String × α)) : Option (Record α) :=
  let known := (members.map fun (k, v) => ((aliases.lookup k).getD k, v)).filter
    fun (k, _) => names.contains k
  if distinct (known.map (·.1)) then some ⟨known⟩ else none

def ofItems (names : List String) (items : List α) : Record α := ⟨names.zip items⟩

def mapM? (f : α → Option β) (r : Record α) : Option (Record β) := do
  return ⟨← r.fields.mapM fun (k, v) => do return (k, ← f v)⟩

/-- Reads a field that may be missing. The reader fails on a value of the wrong kind and returns
nothing for one that stands for a missing field. -/
def read? (r : Record α) (name : String) (reader : α → Option (Option β)) : Option (Option β) :=
  match r.get? name with
  | none => some none
  | some v => reader v

end Record

end FederatedLogin
