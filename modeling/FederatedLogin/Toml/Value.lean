/-! # TOML values

The values of a TOML document. Doubles, dates and times stay as they are written.
-/

namespace FederatedLogin.Toml

inductive Value where
  | string (value : String)
  | integer (value : Int)
  | float (literal : String)
  | boolean (value : Bool)
  | datetime (literal : String)
  | array (items : List Value)
  | table (entries : List (String × Value))

end FederatedLogin.Toml
