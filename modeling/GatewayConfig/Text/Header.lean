import GatewayConfig.Bytes

/-!
# Header values

What a header of a message may carry. A value that is sent may hold a tab and any byte from the
space on except the delete character. A value that is read as text is narrower: it holds tabs,
spaces and visible ASCII only.
-/

namespace GatewayConfig.Text

/-- Whether a text may be sent as the value of a header. -/
def isHeaderValue (s : String) : Bool :=
  (Bytes.ofText s).all fun b => b == 9 || (32 ≤ b && b != 127)

/-- The text of a header that was received, unless it holds more than visible ASCII. -/
def headerText? (value : Bytes) : Option String :=
  if value.all fun b => b == 9 || (32 ≤ b && b < 127) then Bytes.text? value else none

end GatewayConfig.Text
