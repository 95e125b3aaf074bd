import GatewayConfig.Text.Unprintable

/-!
# Quoted texts

The form in which a message repeats a text that it was given: between double quotes, on one line,
with every character visible.
-/

namespace GatewayConfig.Text

/-- A character as it stands between the quotes. Quotes, backslashes and the usual controls have
a short escape; any other character without a glyph is written as its code point. -/
def quotedChar (c : Char) : List Char :=
  if c = '"' then ['\\', '"']
  else if c = '\\' then ['\\', '\\']
  else if c = '\n' then ['\\', 'n']
  else if c = '\r' then ['\\', 'r']
  else if c = '\t' then ['\\', 't']
  else if c = '\x00' then ['\\', '0']
  else if isUnprintable c then ['\\', 'u', '{'] ++ Nat.toDigits 16 c.toNat ++ ['}']
  else [c]

/-- A text between double quotes. -/
def quoted (s : String) : String :=
  .ofList ('"' :: s.toList.flatMap quotedChar ++ ['"'])

end GatewayConfig.Text
