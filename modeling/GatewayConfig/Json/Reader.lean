import GatewayConfig.Json.Token

/-!
# Reading JSON

A reader walks the tokens with a stack of the arrays and objects that are open. At most 127 of
them may be open at once. Of several members with one name the last counts. An object may carry
the text of another value instead of members of its own: then it stands for that value, whose text
is read afresh.
-/

namespace GatewayConfig.Json

/-- An open array or object. -/
inductive Frame where
  /-- An array, its items so far in reverse. -/
  | array (items : List Value)
  /-- An object between its members. -/
  | object (members : Members)
  /-- An object that waits for the value of a member. -/
  | member (members : Members) (name : String)
  /-- An object that waits for the text of the value it stands for. -/
  | carrier
  /-- An object that stands for a value and has to end. -/
  | carried (v : Value)
  deriving Repr

/-- What may come next. -/
inductive Expect where
  /-- A value. -/
  | value
  /-- A value, or the end of an array that is still empty. -/
  | firstItem
  /-- A name, or the end of an object that is still empty. -/
  | firstName
  /-- A name. -/
  | name
  /-- The colon after a name. -/
  | colon
  /-- A comma or the end of the innermost array or object. -/
  | next
  deriving DecidableEq, Repr

/-- Where the reader stands. -/
inductive Reading where
  /-- Inside the text, with the open arrays and objects, the innermost first. -/
  | inside (stack : List Frame) (expect : Expect)
  /-- After the value. -/
  | complete (v : Value)
  deriving Repr

/-- How many arrays and objects may be open at once. -/
def maxOpen : Nat := 127

/-- The name of a first member that makes its object stand for the value whose text follows. -/
def carrierName : String := "$serde_json::private::RawValue"

/-- Put a finished value where it belongs. -/
def Reading.finish (v : Value) : List Frame → Option Reading
  | [] => some (.complete v)
  | .array items :: stack => some (.inside (.array (v :: items) :: stack) .next)
  | .member members name :: stack =>
    some (.inside (.object (members.insert name v) :: stack) .next)
  | _ => none

/-- Open an array or an object, unless too many are open. -/
def Reading.push (frame : Frame) (expect : Expect) (stack : List Frame) : Option Reading :=
  if stack.length < maxOpen then some (.inside (frame :: stack) expect) else none

/-- The start of a value. -/
def Reading.startValue (stack : List Frame) : Token → Option Reading
  | .openArray => push (.array []) .firstItem stack
  | .openObject => push (.object []) .firstName stack
  | .text s => finish (.string s) stack
  | .scalar v => finish v stack
  | _ => none

/-- The name of a member. -/
def Reading.startMember : List Frame → Token → Option Reading
  | .object members :: stack, .text name => some (.inside (.member members name :: stack) .colon)
  | _, _ => none

/-- The name of the first member. -/
def Reading.startFirstMember (stack : List Frame) (t : Token) : Option Reading :=
  match stack, t with
  | .object _ :: rest, .text name =>
    if name = carrierName then some (.inside (.carrier :: rest) .colon) else startMember stack t
  | _, _ => none

/-- The value of a member, or the text of the value that an object stands for, which `carried`
reads. -/
def Reading.memberValue (carried : String → Option Value) : List Frame → Token → Option Reading
  | .carrier :: stack, .text s =>
    (carried s).map fun v => .inside (.carried v :: stack) .next
  | .carrier :: _, _ => none
  | stack, t => startValue stack t

/-- Take one token. -/
def Reading.step (carried : String → Option Value) : Reading → Token → Option Reading
  | .complete _, _ => none
  | .inside stack .value, t => memberValue carried stack t
  | .inside (.array [] :: stack) .firstItem, .closeArray => finish (.array []) stack
  | .inside stack .firstItem, t => startValue stack t
  | .inside (.object [] :: stack) .firstName, .closeObject => finish (.object []) stack
  | .inside stack .firstName, t => startFirstMember stack t
  | .inside stack .name, t => startMember stack t
  | .inside stack .colon, .colon => some (.inside stack .value)
  | .inside (.array items :: stack) .next, .comma => some (.inside (.array items :: stack) .value)
  | .inside (.array items :: stack) .next, .closeArray => finish (.array items.reverse) stack
  | .inside (.object members :: stack) .next, .comma =>
    some (.inside (.object members :: stack) .name)
  | .inside (.object members :: stack) .next, .closeObject => finish (.object members) stack
  | .inside (.carried v :: stack) .next, .closeObject => finish v stack
  | _, _ => none

/-- Take tokens one after the other. -/
def Reading.run (carried : String → Option Value) : Reading → List Token → Option Reading
  | r, [] => some r
  | r, t :: rest =>
    match r.step carried t with
    | none => none
    | some r => r.run carried rest

/-- The value that tokens make up. -/
def ofTokens? (carried : String → Option Value) (tokens : List Token) : Option Value :=
  match (Reading.inside [] .value).run carried tokens with
  | some (.complete v) => some v
  | _ => none

/-- The value of a text in which texts are carried inside one another fewer times than the number
says. -/
def valueWithin? : Nat → List Char → Option Value
  | 0, _ => none
  | levels + 1, l => do ofTokens? (fun s => valueWithin? levels s.toList) (← tokens? l)

/-- The value of a JSON text. A carried text is shorter than the text that carries it, so its
length bounds how often that can happen. -/
def value? (l : List Char) : Option Value := valueWithin? (l.length + 1) l

/-- The value of a JSON text in UTF-8. -/
def read? (b : Bytes) : Option Value := do value? (← b.text?).toList

/-- The items of a JSON text in UTF-8 that is written as an array. -/
def readItems? (b : Bytes) : Option (List Value) := do
  let l := (← b.text?).toList
  match (l.dropWhile isSpace).head?, value? l with
  | some '[', some (.array items) => some items
  | _, _ => none

end GatewayConfig.Json
