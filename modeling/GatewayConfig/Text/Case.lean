/-!
# ASCII case

Case is folded for the letters `a` to `z` only. Every other character, such as U+212A (the Kelvin
sign, which full case folding turns into `k`), stands for itself.
-/

namespace GatewayConfig.Text

/-- The text with its ASCII capitals made small. -/
def lower (s : String) : String := .ofList (s.toList.map Char.toLower)

/-- The text with its small ASCII letters made capital. -/
def upper (s : String) : String := .ofList (s.toList.map Char.toUpper)

/-- Whether two texts agree up to the case of ASCII letters. -/
def sameIgnoringCase (s t : String) : Bool := lower s == lower t

end GatewayConfig.Text
