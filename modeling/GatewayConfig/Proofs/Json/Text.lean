import GatewayConfig.Json.Token
import GatewayConfig.Json.Writer
import Mathlib.Tactic.SplitIfs

/-!
# Strings are read back as they were written

The reader takes one escaped character for the character that was written, whatever follows it.
So a written string is one token, and texts that start with written strings are equal only if the
strings are.
-/

namespace GatewayConfig.Json

/-- A short escape stands for its character. -/
theorem stringFrom?_shortEscape {c d : Char} (h : shortEscape? d = some c)
    (passed tail : List Char) :
    stringFrom? passed ('\\' :: d :: tail) = stringFrom? (c :: passed) tail := by
  have hu : d ≠ 'u' := by
    intro hd
    rw [hd] at h
    exact absurd h (by simp [shortEscape?])
  rw [stringFrom?.eq_def]
  split
  · simp_all
  · simp_all
  · simp_all
  next c' rest hlong hshort heq =>
    obtain ⟨rfl, rfl⟩ := List.cons.inj heq
    exact absurd rfl (hshort d tail rfl)
  · simp_all

/-- The codes of the control characters have at most two digits. -/
theorem fourHex?_control :
    ∀ n < 32, fourHex? '0' '0' (Nat.digitChar (n / 16)) (Nat.digitChar (n % 16)) = some n := by
  decide

/-- An escape with the code of a control character stands for that character. -/
theorem stringFrom?_control {c : Char} (h : c.toNat < 32) (passed tail : List Char) :
    stringFrom? passed ('\\' :: 'u' :: '0' :: '0' :: Nat.digitChar (c.toNat / 16) ::
      Nat.digitChar (c.toNat % 16) :: tail) = stringFrom? (c :: passed) tail := by
  rw [stringFrom?, fourHex?_control c.toNat h]
  dsimp only
  rw [if_pos (Or.inl (by omega)), Char.ofNat_toNat]

/-- Any other character but a quote and a backslash stands for itself. -/
theorem stringFrom?_plain {c : Char} (hquote : c ≠ '"') (hslash : c ≠ '\\') (h : 32 ≤ c.toNat)
    (passed tail : List Char) :
    stringFrom? passed (c :: tail) = stringFrom? (c :: passed) tail := by
  rw [stringFrom?.eq_def]
  split
  · simp_all
  · simp_all
  · simp_all
  next c' rest hlong hshort heq =>
    obtain ⟨rfl, rfl⟩ := List.cons.inj heq
    rw [if_neg]
    rintro (hc | hc)
    · exact hslash hc
    · omega
  · simp_all

/-- A written character is read back. -/
theorem stringFrom?_escapeChar (c : Char) (passed tail : List Char) :
    stringFrom? passed (escapeChar c ++ tail) = stringFrom? (c :: passed) tail := by
  have hshort {d : Char} (h : shortEscape? d = some c) :
      stringFrom? passed (['\\', d] ++ tail) = stringFrom? (c :: passed) tail :=
    stringFrom?_shortEscape h passed tail
  unfold escapeChar
  split_ifs with hquote hslash hback hfeed hline hreturn htab hcontrol
  · exact hshort (by rw [hquote]; rfl)
  · exact hshort (by rw [hslash]; rfl)
  · exact hshort (by rw [hback]; rfl)
  · exact hshort (by rw [hfeed]; rfl)
  · exact hshort (by rw [hline]; rfl)
  · exact hshort (by rw [hreturn]; rfl)
  · exact hshort (by rw [htab]; rfl)
  · exact stringFrom?_control hcontrol passed tail
  · exact stringFrom?_plain hquote hslash (Nat.le_of_not_lt hcontrol) passed tail

/-- Written characters are read back up to the closing quote. -/
theorem stringFrom?_flatMap_escapeChar (l passed rest : List Char) :
    stringFrom? passed (l.flatMap escapeChar ++ '"' :: rest) =
      some (.ofList (passed.reverse ++ l), rest) := by
  induction l generalizing passed with
  | nil => rw [List.flatMap_nil, List.nil_append, stringFrom?, List.append_nil]
  | cons c l ih =>
    rw [List.flatMap_cons, List.append_assoc, stringFrom?_escapeChar, ih, List.reverse_cons,
      List.append_assoc, List.singleton_append]

/-- A written string is one token. -/
theorem token?_writeString (s : String) (rest : List Char) :
    token? (writeString s ++ rest) = some (.text s, rest) := by
  have hread := stringFrom?_flatMap_escapeChar s.toList [] rest
  rw [List.reverse_nil, List.nil_append, String.ofList_toList] at hread
  rw [writeString, List.cons_append, List.cons_append, List.append_assoc, List.singleton_append,
    token?, hread]
  rfl

/-- Two texts that start with written strings are equal only if the strings are. -/
theorem writeString_append_inj {s t : String} {rest rest' : List Char}
    (h : writeString s ++ rest = writeString t ++ rest') : s = t ∧ rest = rest' := by
  have hread := token?_writeString s rest
  rw [h, token?_writeString t rest'] at hread
  obtain ⟨htoken, hrest⟩ := Prod.mk.inj (Option.some.inj hread)
  exact ⟨(Token.text.inj htoken).symm, hrest.symm⟩

end GatewayConfig.Json
