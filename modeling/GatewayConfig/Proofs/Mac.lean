import GatewayConfig.Mac

/-!
# Spellings of a device address

An address is its text, and a text that is an address is read as itself in capitals.
-/

namespace GatewayConfig.Mac

/-- An address is known by its text. -/
theorem text_inj {m m' : Mac} : m.text = m'.text ↔ m = m' := by
  constructor
  · intro h
    cases m
    cases m'
    cases h
    rfl
  · exact congrArg text

/-- A text that is read as an address is valid and becomes its capitals. -/
theorem text_eq_of_parse {raw : String} {m : Mac} (h : parse raw = .ok m) :
    isValid raw = true ∧ m.text = Text.upper raw := by
  rw [parse] at h
  split at h
  next hvalid =>
    cases h
    exact ⟨hvalid, rfl⟩
  · cases h

/-- A text is read as an address, or it is refused and named. -/
theorem parse_cases (raw : String) :
    (∃ m, parse raw = .ok m ∧ isValid raw = true ∧ m.text = Text.upper raw) ∨
      parse raw = .error (.mac raw) ∧ isValid raw = false := by
  cases h : parse raw with
  | ok m => exact .inl ⟨m, rfl, text_eq_of_parse h⟩
  | error reason =>
    rw [parse] at h
    split at h
    · cases h
    next hvalid =>
      cases h
      exact .inr ⟨rfl, Bool.eq_false_iff.2 hvalid⟩

end GatewayConfig.Mac
