import FormScript.Decimal.Binary64
import FormScript.Dictionary

/-!
# JSON values

The values of JSON texts. Integers that fit into 64 bits, with or without a sign, stay exact; all other
numbers are binary64 numbers.
-/

namespace FormScript

/-- A number in a JSON text. -/
inductive Json.Number where
  | integer (value : Int)
  | float (value : Decimal.Binary64)
  deriving DecidableEq, Repr

/-- A JSON value. -/
inductive Json where
  | null
  | bool (value : Bool)
  | number (value : Json.Number)
  | string (value : String)
  | array (items : List Json)
  | object (fields : List (String × Json))
  deriving Repr, BEq

namespace Json

instance : Inhabited Json := ⟨null⟩

/-- A natural number as a value. -/
def nat (n : Nat) : Json := number (.integer n)

/-- A value, or null for none. -/
def ofOption {α : Type} (f : α → Json) : Option α → Json
  | some a => f a
  | none => null

/-- An object whose fields stand in the order of their names; of two with one name the later stays. -/
def sortedObject (fields : List (String × Json)) : Json := object (Dictionary.ofList fields).entries

end Json

end FormScript
