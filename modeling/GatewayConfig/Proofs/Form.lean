import GatewayConfig.Form
import GatewayConfig.Proofs.Bytes.Utf8
import Mathlib.Data.List.Forall2

/-!
# What is written in form encoding is read back

A written name or value is free of the two separators, so a line falls apart at `&` into just the
elements that were written, and each of them at its first `=` into a name and a value. Both stand
for the texts they were written for, as a plus sign and a percent sign of the text are written as
escapes: `spells_write` says so of any pairs, and `read_of_spells` of what the reader makes of a
line.
-/

namespace GatewayConfig

namespace Percent

/-- The byte of a digit of an escape. -/
def digitByte (k : Nat) : UInt8 := UInt8.ofNat (Nat.digitChar k).toUpper.toNat

/-- A digit of an escape is none of the bytes with a meaning, and has its value. -/
theorem digitByte_spec :
    ∀ k < 16, String.utf8EncodeChar (Nat.digitChar k).toUpper = [digitByte k] ∧
      digitByte k ∉ [37, 38, 43, 61] ∧ hexByte? (digitByte k) = some k := by
  decide

/-- An escaped byte is a percent sign and two digits, each encoded as one byte. -/
theorem flatMap_encodeByte (b : UInt8) :
    (encodeByte b).flatMap String.utf8EncodeChar =
      [37, digitByte (b.toNat / 16), digitByte (b.toNat % 16)] := by
  have hb := b.toNat_lt
  obtain ⟨hhigh, -⟩ := digitByte_spec (b.toNat / 16) (by omega)
  obtain ⟨hlow, -⟩ := digitByte_spec (b.toNat % 16) (by omega)
  rw [encodeByte, List.flatMap_cons, List.flatMap_cons, List.flatMap_singleton, hhigh, hlow]
  rfl

/-- A byte other than a percent sign stands for itself. -/
theorem decode_cons_of_ne {b : UInt8} (h : b ≠ 37) (rest : Bytes) :
    decode (b :: rest) = b :: decode rest := by
  rw [decode.eq_def]
  split
  next heq => exact absurd (List.cons.inj heq).1 h
  next heq =>
    obtain ⟨rfl, rfl⟩ := List.cons.inj heq
    rfl
  next heq => cases heq

/-- An escape stands for its byte. -/
theorem decode_escape (b : UInt8) (rest : Bytes) :
    decode (37 :: digitByte (b.toNat / 16) :: digitByte (b.toNat % 16) :: rest) =
      b :: decode rest := by
  have hb := b.toNat_lt
  obtain ⟨-, -, hhigh⟩ := digitByte_spec (b.toNat / 16) (by omega)
  obtain ⟨-, -, hlow⟩ := digitByte_spec (b.toNat % 16) (by omega)
  have hvalue : 16 * (b.toNat / 16) + b.toNat % 16 = b.toNat := Nat.div_add_mod b.toNat 16
  rw [decode, hhigh, hlow]
  dsimp only
  rw [hvalue, UInt8.ofNat_toNat]

end Percent

namespace Form

/-- The bytes of a byte as it is written. -/
def byteCode (b : UInt8) : Bytes := (writeByte b).flatMap String.utf8EncodeChar

/-- The bytes of a text as it is written. -/
def textCode (s : String) : Bytes := (writeText s).flatMap String.utf8EncodeChar

/-- The bytes that an encoded name or value stands for. -/
def decoded (b : Bytes) : Bytes := Percent.decode (b.map fun c => if c = 43 then 32 else c)

/-- A text is read when its bytes are decoded to it. -/
theorem readText_of_decoded {b : Bytes} {s : String} (h : decoded b = Bytes.ofText s) :
    readText b = s := by
  rw [readText, ← decoded, h, Bytes.lenientText, Bytes.text?_ofText]

/-- A byte that is written as itself is none of those with a meaning. -/
theorem plain_spec {b : UInt8} (h : isPlain b = true) :
    byteCode b = [b] ∧ b ∉ [37, 38, 43, 61] := by
  have hall : ∀ n < 256, isPlain (UInt8.ofNat n) = true →
      byteCode (UInt8.ofNat n) = [UInt8.ofNat n] ∧
        UInt8.ofNat n ∉ ([37, 38, 43, 61] : Bytes) := by
    decide +kernel
  have hb := hall b.toNat b.toNat_lt
  rw [UInt8.ofNat_toNat] at hb
  exact hb h

/-- The three forms of a written byte. -/
theorem byteCode_cases (b : UInt8) :
    b = 32 ∧ byteCode b = [43] ∨
      byteCode b = [b] ∧ b ∉ [37, 38, 43, 61] ∨
      byteCode b = [37, Percent.digitByte (b.toNat / 16), Percent.digitByte (b.toNat % 16)] := by
  by_cases hspace : b = 32
  · subst hspace
    exact .inl ⟨rfl, by decide⟩
  by_cases hplain : isPlain b = true
  · exact .inr (.inl (plain_spec hplain))
  · refine .inr (.inr ?_)
    rw [byteCode, writeByte, if_neg hspace, if_neg hplain, Percent.flatMap_encodeByte]

/-- A written byte is read back, whatever follows it. -/
theorem decoded_byteCode_append (b : UInt8) (rest : Bytes) :
    decoded (byteCode b ++ rest) = b :: decoded rest := by
  rcases byteCode_cases b with ⟨rfl, hcode⟩ | ⟨hcode, hother⟩ | hcode
  · rw [hcode, List.singleton_append, decoded, List.map_cons, if_pos rfl,
      Percent.decode_cons_of_ne (by decide), decoded]
  · simp only [List.mem_cons, List.not_mem_nil, or_false, not_or] at hother
    rw [hcode, List.singleton_append, decoded, List.map_cons, if_neg hother.2.2.1,
      Percent.decode_cons_of_ne hother.1, decoded]
  · have hb := b.toNat_lt
    obtain ⟨-, hhigh, -⟩ := Percent.digitByte_spec (b.toNat / 16) (by omega)
    obtain ⟨-, hlow, -⟩ := Percent.digitByte_spec (b.toNat % 16) (by omega)
    simp only [List.mem_cons, List.not_mem_nil, or_false, not_or] at hhigh hlow
    rw [hcode, List.cons_append, List.cons_append, List.singleton_append, decoded, List.map_cons,
      List.map_cons, List.map_cons, if_neg (by decide), if_neg hhigh.2.2.1, if_neg hlow.2.2.1,
      Percent.decode_escape, decoded]

/-- No written byte has a separator. -/
theorem not_mem_byteCode (b : UInt8) : 38 ∉ byteCode b ∧ 61 ∉ byteCode b := by
  rcases byteCode_cases b with ⟨-, hcode⟩ | ⟨hcode, hother⟩ | hcode
  · rw [hcode]
    decide
  · rw [hcode]
    grind
  · have hb := b.toNat_lt
    obtain ⟨-, hhigh, -⟩ := Percent.digitByte_spec (b.toNat / 16) (by omega)
    obtain ⟨-, hlow, -⟩ := Percent.digitByte_spec (b.toNat % 16) (by omega)
    rw [hcode]
    grind

/-- A text is written byte by byte. -/
theorem textCode_eq (s : String) : textCode s = (Bytes.ofText s).flatMap byteCode :=
  List.flatMap_assoc

/-- A written text is read back. -/
theorem decoded_textCode (s : String) : decoded (textCode s) = Bytes.ofText s := by
  rw [textCode_eq]
  induction Bytes.ofText s with
  | nil => rfl
  | cons b rest ih => rw [List.flatMap_cons, decoded_byteCode_append, ih]

/-- No written text has a separator. -/
theorem not_mem_textCode (s : String) : 38 ∉ textCode s ∧ 61 ∉ textCode s := by
  rw [textCode_eq, List.mem_flatMap, List.mem_flatMap]
  exact ⟨fun ⟨b, _, hb⟩ => (not_mem_byteCode b).1 hb, fun ⟨b, _, hb⟩ => (not_mem_byteCode b).2 hb⟩

/-- The bytes of a pair as it is written. -/
def pairCode (pair : String × String) : Bytes := textCode pair.1 ++ 61 :: textCode pair.2

/-- A pair that is written is encoded by the codes of its two texts. -/
theorem ofText_writePair (pair : String × String) :
    (writePair pair).flatMap String.utf8EncodeChar = pairCode pair := by
  rw [writePair, List.flatMap_append, List.flatMap_cons,
    Bytes.utf8EncodeChar_eq_singleton (by decide)]
  rfl

/-- An element of a line spells a pair: at its first equals sign it falls apart into a name and a
value, and they stand for the texts of the pair. -/
def Spells (element : Bytes) (pair : String × String) : Prop :=
  ∃ name value, element = name ++ 61 :: value ∧ 61 ∉ name ∧
    decoded name = Bytes.ofText pair.1 ∧ decoded value = Bytes.ofText pair.2

/-- The code of a pair is read as the pair. -/
theorem spells_pairCode (pair : String × String) : Spells (pairCode pair) pair :=
  ⟨textCode pair.1, textCode pair.2, rfl, (not_mem_textCode pair.1).2, decoded_textCode pair.1,
    decoded_textCode pair.2⟩

/-- It has no separator of pairs, as every such character of a text is escaped. -/
theorem not_mem_pairCode (pair : String × String) : 38 ∉ pairCode pair := by
  rw [pairCode, List.mem_append, List.mem_cons, not_or, not_or]
  exact ⟨(not_mem_textCode pair.1).1, by decide, (not_mem_textCode pair.2).1⟩

/-- Characters between separators are encoded between the separators' bytes. -/
theorem flatMap_intercalate {α β : Type} (f : α → List β) (separator : List α)
    (parts : List (List α)) :
    (separator.intercalate parts).flatMap f =
      (separator.flatMap f).intercalate (parts.map (List.flatMap f)) := by
  induction parts with
  | nil => rfl
  | cons part rest ih =>
    cases rest with
    | nil => rw [List.intercalate_singleton, List.map_singleton, List.intercalate_singleton]
    | cons next rest =>
      rw [List.intercalate_cons_cons, List.flatMap_append, List.flatMap_append, ih, List.map_cons,
        List.map_cons, List.map_cons, List.intercalate_cons_cons]

/-- Pairs that are written are encoded one by one, with the separator between them. -/
theorem ofText_write (pairs : List (String × String)) :
    Bytes.ofText (write pairs) = [38].intercalate (pairs.map pairCode) := by
  rw [write, Bytes.ofText_ofList, flatMap_intercalate, List.flatMap_singleton,
    Bytes.utf8EncodeChar_eq_singleton (by decide), List.map_map]
  congr 1
  exact List.map_congr_left fun pair _ => ofText_writePair pair

/-- A written line has one element for each pair, which spells it. -/
theorem spells_write {pairs : List (String × String)} (h : pairs ≠ []) :
    List.Forall₂ Spells ((Bytes.ofText (write pairs)).splitOn 38) pairs := by
  have hfree : ∀ element ∈ pairs.map pairCode, 38 ∉ element :=
    List.forall_mem_map.2 fun pair _ => not_mem_pairCode pair
  have hsplit := List.splitOn_intercalate 38 hfree (mt List.map_eq_nil_iff.1 h)
  rw [ofText_write, hsplit, List.forall₂_map_left_iff, List.forall₂_same]
  exact fun pair _ => spells_pairCode pair

/-- The reader takes an element for the pair that it spells. -/
theorem Spells.readPair_eq {element : Bytes} {pair : String × String} (h : Spells element pair) :
    readPair element = pair := by
  obtain ⟨name, value, rfl, hname, hfirst, hsecond⟩ := h
  have hbefore : ∀ c ∈ name, (c != 61) = true := by
    intro c hc
    rw [bne_iff_ne]
    rintro rfl
    exact hname hc
  have htake : (name ++ 61 :: value).takeWhile (· != 61) = name := by
    rw [List.takeWhile_append_of_pos hbefore, List.takeWhile_cons_of_neg (by decide),
      List.append_nil]
  have hdrop : (name ++ 61 :: value).dropWhile (· != 61) = 61 :: value := by
    rw [List.dropWhile_append_of_pos hbefore, List.dropWhile_cons_of_neg (by decide)]
  rw [readPair, htake, hdrop, List.drop_one, List.tail_cons, readText_of_decoded hfirst,
    readText_of_decoded hsecond]

/-- A line whose elements spell pairs is read as these pairs. -/
theorem read_of_spells {line : Bytes} {pairs : List (String × String)}
    (h : List.Forall₂ Spells (line.splitOn 38) pairs) : read line = pairs := by
  rw [read]
  generalize line.splitOn 38 = elements at h
  induction h with
  | nil => rfl
  | @cons element pair elements pairs hfirst _ ih =>
    have hne : element ≠ [] := by
      obtain ⟨name, value, rfl, -⟩ := hfirst
      simp
    rw [List.filter_cons_of_pos (by simpa using hne), List.map_cons, hfirst.readPair_eq, ih]

end Form

end GatewayConfig
