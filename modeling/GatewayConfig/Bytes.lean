/-!
# Byte strings

Payloads, stored values and message bodies are lists of bytes. This module fixes their relation
to text (strict UTF-8), the first occurrence of one byte string inside another, and hexadecimal
digits. `text?_eq_some_iff` says that a byte string encodes at most one text, `cut?_eq_some` that a
cut loses nothing but the separator, and `splitAt?_eq_some_iff` that a split loses nothing.
-/

namespace GatewayConfig

/-- A byte string. -/
abbrev Bytes := List UInt8

namespace Bytes

/-- The UTF-8 encoding of a text. -/
def ofText (s : String) : Bytes := s.toByteArray.data.toList

/-- The text that the bytes encode, when they are valid UTF-8. -/
def text? (b : Bytes) : Option String := String.fromUTF8? ⟨b.toArray⟩

/-- A byte string encodes a text exactly when it is the encoding of that text. -/
theorem text?_eq_some_iff {b : Bytes} {s : String} : b.text? = some s ↔ b = ofText s := by
  unfold text? ofText String.fromUTF8?
  constructor
  · intro h
    split at h
    · cases h
      simp [String.fromUTF8]
    · cases h
  · rintro rfl
    simp [s.isValidUTF8, String.fromUTF8]

/-- The encoding of a text is read back as the text. -/
@[simp] theorem text?_ofText (s : String) : (ofText s).text? = some s :=
  text?_eq_some_iff.2 rfl

/-- Texts with one encoding are equal. -/
theorem ofText_injective {s t : String} (h : ofText s = ofText t) : s = t := by
  have hs := text?_ofText s
  rw [h, text?_ofText] at hs
  exact (Option.some.inj hs).symm

/-- The encoding of a text is made of those of its parts. -/
@[simp] theorem ofText_append (s t : String) : ofText (s ++ t) = ofText s ++ ofText t := by
  simp [ofText, String.toByteArray_append]

/-- Scan for the separator, keeping the bytes already passed in reverse. -/
def cutAfter (separator passed : Bytes) : Bytes → Option (Bytes × Bytes)
  | [] => if separator.isEmpty then some (passed.reverse, []) else none
  | b :: rest =>
    if separator.isPrefixOf (b :: rest) then
      some (passed.reverse, (b :: rest).drop separator.length)
    else cutAfter separator (b :: passed) rest

/-- What stands before and after the first occurrence of the separator. -/
def cut? (separator b : Bytes) : Option (Bytes × Bytes) := cutAfter separator [] b

/-- A cut loses nothing but the separator. What was passed is kept in reverse. -/
theorem cutAfter_eq_some {separator passed b before after : Bytes}
    (h : cutAfter separator passed b = some (before, after)) :
    passed.reverse ++ b = before ++ separator ++ after := by
  induction b generalizing passed with
  | nil =>
    unfold cutAfter at h
    split at h
    · next he => cases h; simp [List.isEmpty_iff.1 he]
    · cases h
  | cons c rest ih =>
    unfold cutAfter at h
    split at h
    · next hp =>
      cases h
      obtain ⟨t, ht⟩ := List.isPrefixOf_iff_prefix.1 hp
      simp [← ht]
    · simpa using ih h

/-- A cut loses nothing but the separator. -/
theorem cut?_eq_some {separator b before after : Bytes}
    (h : cut? separator b = some (before, after)) : b = before ++ separator ++ after := by
  simpa using cutAfter_eq_some h

/-- What follows the given first bytes, when the byte string starts with them. -/
def after? (start b : Bytes) : Option Bytes :=
  if start.isPrefixOf b then some (b.drop start.length) else none

/-- A start is taken off exactly the byte strings that have it. -/
theorem after?_eq_some_iff {start b rest : Bytes} :
    after? start b = some rest ↔ b = start ++ rest := by
  unfold after?
  constructor
  · intro h
    split at h
    · next hp =>
      obtain ⟨t, rfl⟩ := List.isPrefixOf_iff_prefix.1 hp
      simpa using h
    · cases h
  · rintro rfl
    simp

/-- So many first bytes and what follows them, unless there are fewer. -/
def splitAt? (n : Nat) (b : Bytes) : Option (Bytes × Bytes) :=
  let (start, rest) := b.splitAt n
  if start.length < n then none else some (start, rest)

/-- A byte string is split at a number into a start of that length and the rest. -/
theorem splitAt?_eq_some_iff {n : Nat} {b start rest : Bytes} :
    splitAt? n b = some (start, rest) ↔ b = start ++ rest ∧ start.length = n := by
  simp only [splitAt?, List.splitAt_eq, Option.ite_none_left_eq_some, List.length_take,
    Option.some.injEq, Prod.mk.injEq]
  constructor
  · rintro ⟨h, rfl, rfl⟩
    exact ⟨(List.take_append_drop n b).symm, by rw [List.length_take]; omega⟩
  · rintro ⟨rfl, rfl⟩
    simp

/-- Whether the byte string occurs anywhere in another. -/
def occursIn (needle : Bytes) : Bytes → Bool
  | [] => needle.isEmpty
  | b :: rest => needle.isPrefixOf (b :: rest) || occursIn needle rest

/-- Two lower-case hexadecimal digits for every byte. -/
def hex (b : Bytes) : String :=
  .ofList (b.flatMap fun x => [Nat.digitChar (x.toNat / 16), Nat.digitChar (x.toNat % 16)])

/-- Every character of a byte string in hexadecimal is a digit. -/
theorem exists_digitChar_of_mem_hex {b : Bytes} {c : Char} (h : c ∈ (hex b).toList) :
    ∃ n < 16, c = Nat.digitChar n := by
  simp only [hex, String.toList_ofList, List.mem_flatMap, List.mem_cons,
    List.not_mem_nil, or_false] at h
  obtain ⟨x, -, rfl | rfl⟩ := h
  · exact ⟨x.toNat / 16, by have := x.toNat_lt; omega, rfl⟩
  · exact ⟨x.toNat % 16, Nat.mod_lt _ (by decide), rfl⟩

/-- A byte is written as two digits. -/
theorem length_hex (b : Bytes) : (hex b).toList.length = 2 * b.length := by
  rw [hex, String.toList_ofList]
  induction b with
  | nil => rfl
  | cons x b ih =>
    rw [List.flatMap_cons, List.length_append, ih]
    simp only [List.length_cons, List.length_nil]
    omega

/-- The value of a hexadecimal digit in either case. -/
def hexValue? (c : Char) : Option Nat :=
  if '0' ≤ c ∧ c ≤ '9' then some (c.toNat - '0'.toNat)
  else if 'a' ≤ c ∧ c ≤ 'f' then some (c.toNat - 'a'.toNat + 10)
  else if 'A' ≤ c ∧ c ≤ 'F' then some (c.toNat - 'A'.toNat + 10)
  else none

/-- The lowest `count` bytes of a number, most significant first. -/
def bigEndian (count n : Nat) : Bytes :=
  (List.range count).reverse.map fun i => UInt8.ofNat (n / Nat.pow 256 i)

/-- A carriage return and a line feed. -/
def crlf : Bytes := [13, 10]

end Bytes

end GatewayConfig
