import Bytewise.Decimal.Binary64

/-! JSON documents. -/

namespace Bytewise

/-- A JSON value. Numbers are integers or floating-point numbers, and the members of an object keep
their order.
-/
inductive Json where
  | null
  | bool (value : Bool)
  | integer (value : Int)
  | double (value : Binary64)
  | string (value : String)
  | array (elements : List Json)
  | object (members : List (String × Json))
deriving Repr

namespace Json

def natural (value : Nat) : Json := .integer value

/-- An optional value, null when absent. -/
def orNull {α : Type} (encode : α → Json) : Option α → Json
  | some value => encode value
  | none => .null

/-- The member of an object for an optional value, left out when absent. -/
def member? {α : Type} (name : String) (encode : α → Json) (value : Option α)
    : List (String × Json) :=
  (value.map (fun present => (name, encode present))).toList

def list {α : Type} (encode : α → Json) (values : List α) : Json :=
  .array (values.map encode)

end Json

end Bytewise
