/-!
# Syllables of Hangul

A syllable of Hangul has a leading consonant, a vowel and possibly a trailing consonant, which are
characters too. Its code point is a number with these three for digits, so that it is taken apart
and composed by arithmetic.
-/

namespace GatewayConfig.Text.Hangul

/-- The code point of the first syllable. -/
def syllables : Nat := 0xAC00

/-- The code point of the first of the 19 leading consonants. -/
def leads : Nat := 0x1100

/-- The code point of the first of the 21 vowels. -/
def vowels : Nat := 0x1161

/-- The code point before the first of the 27 trailing consonants. -/
def trails : Nat := 0x11A7

/-- The parts of a syllable. -/
def parts? (c : Char) : Option (List Char) :=
  let n := c.toNat - syllables
  if syllables ≤ c.toNat ∧ n < 19 * 21 * 28 then
    let start := [Char.ofNat (leads + n / (21 * 28)), Char.ofNat (vowels + n / 28 % 21)]
    some (if n % 28 = 0 then start else start ++ [Char.ofNat (trails + n % 28)])
  else none

/-- The syllable that two characters make up: a leading consonant and a vowel, or a syllable
without a trailing consonant and such a consonant. -/
def composite? (a b : Char) : Option Char :=
  let (lead, vowel, trail) := (a.toNat - leads, b.toNat - vowels, b.toNat - trails)
  let n := a.toNat - syllables
  if leads ≤ a.toNat ∧ lead < 19 ∧ vowels ≤ b.toNat ∧ vowel < 21 then
    some (Char.ofNat (syllables + (21 * lead + vowel) * 28))
  else if syllables ≤ a.toNat ∧ n < 19 * 21 * 28 ∧ n % 28 = 0 ∧ trails < b.toNat ∧ trail < 28 then
    some (Char.ofNat (a.toNat + trail))
  else none

/-- A syllable with a trailing consonant is composed in two steps. -/
example : parts? '한' = some ['ᄒ', 'ᅡ', 'ᆫ'] ∧
    (composite? 'ᄒ' 'ᅡ').bind (composite? · 'ᆫ') = some '한' := by decide +kernel

end GatewayConfig.Text.Hangul
