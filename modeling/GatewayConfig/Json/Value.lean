import GatewayConfig.Decimal.Binary64

/-!
# JSON values

Integers in the ranges of 64-bit words are kept apart from floating-point numbers. The members of
an object are kept in the order of their names, by code point, and a name occurs once.
-/

namespace GatewayConfig.Json

/-- A JSON value. -/
inductive Value where
  /-- The literal `null`. -/
  | null
  /-- A truth value. -/
  | bool (b : Bool)
  /-- An integer between -2^63 and 2^64 - 1. -/
  | integer (n : Int)
  /-- Any other number. -/
  | float (f : Decimal.Binary64)
  /-- A text. -/
  | string (s : String)
  /-- A list of values. -/
  | array (items : List Value)
  /-- Named values in the order of their names. -/
  | object (members : List (String × Value))
  deriving Repr

/-- The members of an object. -/
abbrev Members := List (String × Value)

namespace Members

/-- The value of a member. -/
def get? (members : Members) (name : String) : Option Value := members.lookup name

/-- Add a member in its place, or replace the one with its name. -/
def insert (name : String) (value : Value) : Members → Members
  | [] => [(name, value)]
  | m :: rest =>
    if name = m.1 then (name, value) :: rest
    else if name < m.1 then (name, value) :: m :: rest
    else m :: insert name value rest

end Members

end GatewayConfig.Json
