import GatewayConfig.Proofs.Multipart.Delimiters
import GatewayConfig.Proofs.Multipart.Grammar
import Mathlib.Tactic.Ring

/-!
# Reading by offsets

The decoder works on what is left of a body. A reader that keeps the whole body and an offset into
it takes slices, which have to lie in the body, and computes offsets, which have to fit 64 bits.
Here it is written down with every way in which it can come to a halt (`Halt`), and with as many
turns as parts can fit the body. `decode_in_bounds` says that it is the decoder, so that of all
halts only refusals occur, and what each turn keeps to (`Contained`). The invariant is that a turn
starts at a delimiter; `turn_cases` carries it from one turn to the next.
-/

namespace GatewayConfig.Multipart

namespace ByOffset

/-- How reading by offsets can end before the message does. -/
inductive Halt where
  /-- A slice does not lie in the body. -/
  | slice (start stop : Nat)
  /-- An offset is below zero or does not fit 64 bits. -/
  | offset
  /-- The payload of a part would start behind the end of the body. -/
  | pastEnd (index : Nat)
  /-- The turns are used up. -/
  | unfinished
  /-- The message is refused. -/
  | refused (error : Error)
  deriving DecidableEq

/-- The bytes from one offset up to another. -/
def slice (b : Bytes) (start stop : Nat) : Except Halt Bytes :=
  if start ≤ stop ∧ stop ≤ b.length then .ok ((b.take stop).drop start)
  else .error (.slice start stop)

/-- An offset so many bytes further on. -/
def advance (start count : Nat) : Except Halt Nat :=
  if start + count < 2 ^ 64 then .ok (start + count) else .error .offset

/-- An offset so many bytes back. -/
def retreat (start count : Nat) : Except Halt Nat :=
  if count ≤ start then .ok (start - count) else .error .offset

/-- A step that refuses the message when it fails. -/
def step {α : Type} (result : Except Error α) : Except Halt α := result.mapError .refused

/-- The first offset from which on the needle stands in the body. An empty needle and an offset
behind the end are not searched for. -/
def search (needle b : Bytes) (start : Nat) : Except Halt (Option Nat) :=
  if needle = [] ∨ b.length < start then .ok none
  else do
    match Bytes.cut? needle (← slice b start b.length) with
    | none => return none
    | some (before, _) => return some (← advance start before.length)

/-- The offset at which the headers of a part end. A blank line that comes at once counts from two
bytes before it, so that four bytes behind the end the payload starts. -/
def headersEnd (b : Bytes) (index pos : Nat) : Except Halt Nat := do
  if Bytes.crlf.isPrefixOf (← slice b pos b.length) then retreat pos 2
  else
    match ← search (Bytes.crlf ++ Bytes.crlf) b pos with
    | none => .error (.refused (.malformed (.unterminatedHeaders index)))
    | some stop => return stop

/-- The offset at which the payload of a part ends. -/
def contentEnd (delimiter b : Bytes) (index start : Nat) (length : Option String) :
    Except Halt Nat :=
  match length with
  | some text =>
    match Text.unsignedBits? 64 text with
    | none => .error (.refused (.malformed (.contentLength text index)))
    | some n =>
      if start + n < 2 ^ 64 ∧ start + n ≤ b.length then do
        if (Bytes.crlf ++ delimiter).isPrefixOf (← slice b (start + n) b.length) then
          return start + n
        else .error (.refused (.malformed (.contentLengthEnd index)))
      else .error (.refused (.malformed (.truncated index)))
  | none => do
    match ← search (Bytes.crlf ++ delimiter) b start with
    | none => .error (.refused (.malformed (.unclosed index)))
    | some stop => return stop

/-- The headers of a part and the offset of its payload, from the offset of its first header. -/
def fields (b : Bytes) (index pos : Nat) : Except Halt (List (String × String) × Nat) := do
  let stop ← headersEnd b index pos
  let headers ← step (readHeaders (← slice b pos (max stop pos)))
  return (headers, ← advance stop 4)

/-- The headers of a part and the offset of its payload, from the offset of a delimiter; nothing if
the delimiter ends the message. -/
def opening (delimiter b : Bytes) (index pos : Nat) :
    Except Halt (Option (List (String × String) × Nat)) := do
  let pos ← advance pos delimiter.length
  let rest ← slice b pos b.length
  if ([45, 45] : Bytes).isPrefixOf rest then return none
  else if Bytes.crlf.isPrefixOf rest then
    return some (← fields b index (← advance pos 2))
  else .error (.refused (.malformed (.noLineBreak pos)))

/-- A part and the offset of the next delimiter, from the headers of the part and the offset of its
payload. -/
def partAt (delimiter b : Bytes) (index : Nat) (headers : List (String × String)) (start : Nat) :
    Except Halt (Part × Nat) :=
  if b.length < start then .error (.pastEnd index)
  else do
    let stop ← contentEnd delimiter b index start (header? headers "content-length")
    let part ← step (assemble index headers (← slice b start stop))
    return (part, ← advance stop 2)

/-- One turn of the reader: a part and the offset of the next delimiter, from the offset of a
delimiter; nothing if the delimiter ends the message. -/
def turn (delimiter b : Bytes) (index pos : Nat) : Except Halt (Option (Part × Nat)) := do
  match ← opening delimiter b index pos with
  | none => return none
  | some (headers, start) => return some (← partAt delimiter b index headers start)

/-- So many turns, as long as there are parts. -/
def turns (delimiter b : Bytes) : Nat → Nat → Nat → Except Halt (List Part)
  | 0, _, _ => .error .unfinished
  | fuel + 1, index, pos => do
    match ← turn delimiter b index pos with
    | none => return []
    | some (part, next) => return part :: (← turns delimiter b fuel (index + 1) next)

/-- The greatest number of parts that may be read: each takes its delimiter and more than two other
bytes. -/
def mostParts (delimiter b : Bytes) : Nat := b.length / (delimiter.length + 2)

/-- Decode a body by offsets, with one turn more than there can be parts. -/
def decode (contentType : String) (body : Bytes) : Except Halt (List Part) :=
  match boundaryOf? contentType with
  | none => .error (.refused (.missingBoundary contentType))
  | some boundary => do
    match ← search (delimiter boundary) body 0 with
    | none => .error (.refused (.malformed .noDelimiter))
    | some pos =>
      let parts ← turns (delimiter boundary) body (mostParts (delimiter boundary) body + 1) 0 pos
      return lastByName parts

/-- The numbers of parts that were read and the offsets at which turns start. -/
inductive Entered (delimiter b : Bytes) : Nat → Nat → Prop where
  /-- The first turn starts at the first delimiter. -/
  | first {pos : Nat} (h : search delimiter b 0 = .ok (some pos)) : Entered delimiter b 0 pos
  /-- The next one starts where a turn ends that reads a part. -/
  | next {index pos following : Nat} {part : Part} (h : Entered delimiter b index pos)
      (ht : turn delimiter b index pos = .ok (some (part, following))) :
      Entered delimiter b (index + 1) following

/-- What a turn keeps to that starts at an offset, after so many parts. -/
structure Contained (delimiter b : Bytes) (index pos : Nat) : Prop where
  /-- It starts at a delimiter. -/
  occurs : Bytes.OccursAt delimiter b pos
  /-- No more parts were read than fit the body, at more than two bytes and a delimiter each. -/
  few : index ≤ mostParts delimiter b
  /-- It fails only where the message is refused, and so no payload starts behind the end. -/
  refused : ∀ halt, turn delimiter b index pos = .error halt → ∃ e, halt = .refused e
  /-- Behind a part it goes on more than two bytes behind its delimiter. -/
  forward : ∀ part next, turn delimiter b index pos = .ok (some (part, next)) →
    pos + delimiter.length + 2 < next
  /-- A part is cut short exactly when its stated length reaches past the end of the body, even if
  the sum does not fit 64 bits. -/
  truncated_iff : ∀ i,
    turn delimiter b index pos = .error (.refused (.malformed (.truncated i))) ↔
      i = index ∧ ∃ headers start text n,
        opening delimiter b index pos = .ok (some (headers, start)) ∧
        header? headers "content-length" = some text ∧ Text.unsignedBits? 64 text = some n ∧
        b.length < start + n

section

variable {b needle block content bytes follow : Bytes} {delimiter : Bytes} {start pos index : Nat}
  {length : Option String}

/-- What occurs at an offset lies in the body. -/
theorem add_length_le (h : Bytes.OccursAt needle b pos) : pos + needle.length ≤ b.length := by
  obtain ⟨before, after, rfl, rfl⟩ := h
  rw [List.length_append, List.length_append]
  exact Nat.le_add_right _ _

/-- A slice up to the end is what is left behind its start. -/
theorem slice_to_end (h : start ≤ b.length) : slice b start b.length = .ok (b.drop start) := by
  rw [slice, if_pos ⟨h, Nat.le_refl _⟩, List.take_length]

/-- What stands at an offset ends in the body. -/
theorem length_of_drop (hstart : start ≤ b.length) (h : b.drop start = bytes ++ follow) :
    start + bytes.length + follow.length = b.length := by
  have hlength := congrArg List.length h
  rw [List.length_drop, List.length_append] at hlength
  omega

/-- What stands at an offset is the slice of its length. -/
theorem slice_of_drop (hstart : start ≤ b.length) (h : b.drop start = bytes ++ follow) :
    slice b start (start + bytes.length) = .ok bytes := by
  have hlength := length_of_drop hstart h
  rw [slice, if_pos ⟨Nat.le_add_right _ _, by omega⟩, List.drop_take, Nat.add_sub_cancel_left, h,
    List.take_left]

/-- What is left behind something that stands at an offset. -/
theorem drop_of_drop (h : b.drop start = bytes ++ follow) :
    b.drop (start + bytes.length) = follow := by
  rw [← List.drop_drop, h, List.drop_left]

/-- A line end at an offset takes two bytes of the body. -/
theorem drop_of_after? (hstart : start ≤ b.length)
    (h : Bytes.after? Bytes.crlf (b.drop start) = some follow) :
    b.drop (start + 2) = follow ∧ start + 2 ≤ b.length := by
  have hlayout := Bytes.after?_eq_some_iff.1 h
  have hlength := length_of_drop hstart hlayout
  exact ⟨drop_of_drop hlayout, hlength ▸ Nat.le_add_right _ _⟩

/-- A sum that stays within the body does not wrap. -/
theorem advance_eq {count : Nat} (hb : b.length < 2 ^ 64) (h : start + count ≤ b.length) :
    advance start count = .ok (start + count) := by
  rw [advance, if_pos (Nat.lt_of_le_of_lt h hb)]

/-- A search from an offset in the body is a cut of what is left. -/
theorem search_eq (hb : b.length < 2 ^ 64) (hne : needle ≠ []) (hstart : start ≤ b.length) :
    search needle b start =
      .ok ((Bytes.cut? needle (b.drop start)).map fun split => start + split.1.length) := by
  rw [search, if_neg (not_or.2 ⟨hne, Nat.not_lt_of_le hstart⟩), slice_to_end hstart]
  cases hcut : Bytes.cut? needle (b.drop start) with
  | none => simp only [bind, Except.bind, hcut]; rfl
  | some split =>
    obtain ⟨before, after⟩ := split
    have hlayout := Bytes.cut?_eq_some hcut
    rw [List.append_assoc] at hlayout
    have hlength := length_of_drop hstart hlayout
    have hadvance : advance start before.length = .ok (start + before.length) :=
      advance_eq hb (by omega)
    simp only [bind, Except.bind, hcut, hadvance]
    rfl

/-- The headers are searched for where the decoder cuts. Where the blank line comes at once, the
reader steps back over the line end of the delimiter. -/
theorem headersEnd_eq (hb : b.length < 2 ^ 64) (hpos : pos ≤ b.length) (htwo : 2 ≤ pos) :
    headersEnd b index pos =
      match splitHeaders? (b.drop pos) with
      | none => .error (.refused (.malformed (.unterminatedHeaders index)))
      | some (_, content) => .ok (b.length - content.length - 4) := by
  have hsearch : search (Bytes.crlf ++ Bytes.crlf) b pos = _ := search_eq hb (by decide) hpos
  rw [headersEnd, splitHeaders?, slice_to_end hpos]
  by_cases hprefix : Bytes.crlf.isPrefixOf (b.drop pos) = true
  · obtain ⟨content, hcontent⟩ := List.isPrefixOf_iff_prefix.1 hprefix
    have hlength := length_of_drop hpos hcontent.symm
    have htwo' : Bytes.crlf.length = 2 := rfl
    have hback : b.length - content.length - 4 = pos - 2 := by omega
    have hafter : Bytes.after? Bytes.crlf (b.drop pos) = some content :=
      Bytes.after?_eq_some_iff.2 hcontent.symm
    simp only [bind, Except.bind, if_pos hprefix, hafter, retreat, if_pos htwo, hback]
  · have hafter : Bytes.after? Bytes.crlf (b.drop pos) = none := if_neg hprefix
    simp only [bind, Except.bind, if_neg hprefix, hafter, hsearch]
    cases hcut : Bytes.cut? (Bytes.crlf ++ Bytes.crlf) (b.drop pos) with
    | none => rfl
    | some split =>
      obtain ⟨headers, content⟩ := split
      have hlayout := Bytes.cut?_eq_some hcut
      rw [List.append_assoc] at hlayout
      have hlength := length_of_drop hpos hlayout
      rw [List.length_append] at hlength
      have hfour : (Bytes.crlf ++ Bytes.crlf).length = 4 := rfl
      have hend : b.length - content.length - 4 = pos + headers.length := by omega
      simp only [Option.map_some, pure, Except.pure, hend]

/-- The slice of the headers lies in the body, and behind it the payload stands. -/
theorem slice_of_splitHeaders? (hpos : pos ≤ b.length) (htwo : 2 ≤ pos)
    (h : splitHeaders? (b.drop pos) = some (block, content))
    (hstart : start = b.length - content.length) :
    slice b pos (max (start - 4) pos) = .ok block ∧ pos + 2 ≤ start ∧ 4 ≤ start ∧
      b.drop start = content := by
  have hcrlf : Bytes.crlf.length = 2 := rfl
  rcases splitHeaders?_eq_some_iff.1 h with ⟨rfl, hlayout⟩ | ⟨-, hlayout, -⟩
  · have hlength := length_of_drop hpos hlayout
    obtain rfl : start = pos + Bytes.crlf.length := by omega
    have hmax : max (pos + Bytes.crlf.length - 4) pos = pos + ([] : Bytes).length :=
      Nat.max_eq_right (by omega)
    refine ⟨?_, by omega, by omega, drop_of_drop hlayout⟩
    rw [hmax]
    exact slice_of_drop hpos (List.nil_append _).symm
  · rw [List.append_assoc, List.append_assoc] at hlayout
    have hlength := length_of_drop hpos hlayout
    rw [List.length_append, List.length_append] at hlength
    obtain rfl : start = pos + block.length + Bytes.crlf.length + Bytes.crlf.length := by omega
    have hmax : max (pos + block.length + Bytes.crlf.length + Bytes.crlf.length - 4) pos =
        pos + block.length := by omega
    refine ⟨?_, by omega, by omega, drop_of_drop (drop_of_drop (drop_of_drop hlayout))⟩
    rw [hmax]
    exact slice_of_drop hpos hlayout

/-- The headers are read as the decoder reads them. -/
theorem fields_eq (hb : b.length < 2 ^ 64) (hpos : pos ≤ b.length) (htwo : 2 ≤ pos) :
    fields b index pos =
      match splitHeaders? (b.drop pos) with
      | none => .error (.refused (.malformed (.unterminatedHeaders index)))
      | some (block, content) =>
        match readHeaders block with
        | .error e => .error (.refused e)
        | .ok headers => .ok (headers, b.length - content.length) := by
  rw [fields, headersEnd_eq hb hpos htwo]
  cases hsplit : splitHeaders? (b.drop pos) with
  | none => rfl
  | some split =>
    obtain ⟨block, content⟩ := split
    obtain ⟨hslice, -, hfour, -⟩ := slice_of_splitHeaders? hpos htwo hsplit rfl
    have hstart : b.length - content.length - 4 + 4 = b.length - content.length :=
      Nat.sub_add_cancel hfour
    have hadvance : advance (b.length - content.length - 4) 4 = .ok (b.length - content.length) :=
      (advance_eq hb (by omega)).trans (congrArg Except.ok hstart)
    simp only [bind, Except.bind, hslice]
    cases readHeaders block with
    | error e => rfl
    | ok headers =>
      simp only [step, Except.mapError, hadvance]
      rfl

/-- The payload ends where the decoder splits, and it is refused for the same reasons. -/
theorem contentEnd_eq (hb : b.length < 2 ^ 64) (hstart : start ≤ b.length) :
    contentEnd delimiter b index start length =
      match splitContent delimiter index length (b.drop start) with
      | .error e => .error (.refused e)
      | .ok (bytes, _) => .ok (start + bytes.length) := by
  have hrest : (b.drop start).length = b.length - start := List.length_drop
  unfold contentEnd splitContent
  cases length with
  | none =>
    have hsearch : search (Bytes.crlf ++ delimiter) b start = _ :=
      search_eq hb (List.cons_ne_nil _ _) hstart
    simp only [bind, Except.bind, hsearch]
    cases Bytes.cut? (Bytes.crlf ++ delimiter) (b.drop start) with
    | none => rfl
    | some split => rfl
  | some text =>
    simp only
    cases Text.unsignedBits? 64 text with
    | none => rfl
    | some n =>
      simp only
      by_cases hn : start + n ≤ b.length
      · have hfits : start + n < 2 ^ 64 ∧ start + n ≤ b.length := ⟨Nat.lt_of_le_of_lt hn hb, hn⟩
        have hlength : ((b.drop start).take n).length = n := List.length_take_of_le (by omega)
        have hsplit : Bytes.splitAt? n (b.drop start) =
            some ((b.drop start).take n, b.drop (start + n)) := by
          rw [Bytes.splitAt?_eq_some_iff, ← List.drop_drop, List.take_append_drop]
          exact ⟨rfl, hlength⟩
        rw [if_pos hfits, slice_to_end hn, hsplit]
        simp only [bind, Except.bind, Bytes.after?]
        split
        · simp only [hlength]
          rfl
        · rfl
      · have hsplit : Bytes.splitAt? n (b.drop start) = none := by
          simp only [Bytes.splitAt?, List.splitAt_eq, List.length_take, hrest]
          rw [if_pos (by omega)]
        rw [if_neg fun hfits => hn hfits.2, hsplit]

/-- The payload is read as the decoder reads it. -/
theorem partAt_eq (hb : b.length < 2 ^ 64) (hstart : start ≤ b.length)
    {headers : List (String × String)} :
    partAt delimiter b index headers start =
      match splitContent delimiter index (header? headers "content-length") (b.drop start) with
      | .error e => .error (.refused e)
      | .ok (bytes, _) =>
        match assemble index headers bytes with
        | .error e => .error (.refused e)
        | .ok part => .ok (part, start + bytes.length + 2) := by
  rw [partAt, if_neg (Nat.not_lt_of_le hstart), contentEnd_eq hb hstart]
  cases hsplit : splitContent delimiter index (header? headers "content-length")
    (b.drop start) with
  | error e => rfl
  | ok split =>
    obtain ⟨bytes, follow⟩ := split
    obtain ⟨hlayout, -, -⟩ := splitContent_eq_ok_iff.1 hsplit
    rw [List.append_assoc, List.append_assoc] at hlayout
    have hlength := length_of_drop hstart hlayout
    rw [List.length_append] at hlength
    have htwo : Bytes.crlf.length = 2 := rfl
    simp only [bind, Except.bind, slice_of_drop hstart hlayout]
    cases assemble index headers bytes with
    | error e => rfl
    | ok part =>
      simp only [step, Except.mapError, advance_eq hb (by omega : start + bytes.length + 2 ≤ _)]
      rfl

/-- What the decoder leaves of a body behind a part stands behind a delimiter. -/
theorem drop_of_readPart (hpos : pos ≤ b.length) (htwo : 2 ≤ pos) {part : Part} {next : Nat}
    (h : readPart delimiter index (b.drop pos) = .ok (part, follow))
    (hnext : next = b.length - follow.length - delimiter.length) :
    b.drop next = delimiter ++ follow ∧ pos < next ∧ next ≤ b.length := by
  obtain ⟨block, content, headers, bytes, hheaders, -, hcontent, -⟩ := readPart_eq_ok_iff_steps.1 h
  obtain ⟨-, hle, -, hdrop⟩ := slice_of_splitHeaders? hpos htwo hheaders rfl
  obtain ⟨hlayout, -, -⟩ := splitContent_eq_ok_iff.1 hcontent
  rw [List.append_assoc, List.append_assoc, ← hdrop] at hlayout
  have hlength := length_of_drop (Nat.sub_le _ _) hlayout
  rw [List.length_append, List.length_append] at hlength
  have hcrlf : Bytes.crlf.length = 2 := rfl
  obtain rfl : next = b.length - content.length + bytes.length + Bytes.crlf.length := by omega
  exact ⟨drop_of_drop (drop_of_drop hlayout), by omega, by omega⟩

/-- A part is read as the decoder reads it. -/
theorem part_eq (delimiter : Bytes) (index : Nat) (hb : b.length < 2 ^ 64) (hpos : pos ≤ b.length)
    (htwo : 2 ≤ pos) :
    (fields b index pos >>= fun found => partAt delimiter b index found.1 found.2) =
      match readPart delimiter index (b.drop pos) with
      | .error e => .error (.refused e)
      | .ok (part, follow) => .ok (part, b.length - follow.length - delimiter.length) := by
  rw [fields_eq hb hpos htwo, readPart]
  cases hheaders : splitHeaders? (b.drop pos) with
  | none => rfl
  | some split =>
    obtain ⟨block, content⟩ := split
    obtain ⟨-, hle, -, hdrop⟩ := slice_of_splitHeaders? hpos htwo hheaders rfl
    simp only
    cases readHeaders block with
    | error e => rfl
    | ok headers =>
      simp only [bind, Except.bind, partAt_eq hb (Nat.sub_le _ _), hdrop]
      cases hcontent : splitContent delimiter index (header? headers "content-length")
        content with
      | error e => rfl
      | ok found =>
        obtain ⟨bytes, follow⟩ := found
        simp only
        cases assemble index headers bytes with
        | error e => rfl
        | ok part =>
          obtain ⟨hlayout, -, -⟩ := splitContent_eq_ok_iff.1 hcontent
          rw [List.append_assoc, List.append_assoc, ← hdrop] at hlayout
          have hlength := length_of_drop (Nat.sub_le _ _) hlayout
          rw [List.length_append, List.length_append] at hlength
          have hcrlf : Bytes.crlf.length = 2 := rfl
          have hnext : b.length - content.length + bytes.length + 2 =
              b.length - follow.length - delimiter.length := by omega
          simp only [hnext, Except.map]

/-- Behind a delimiter the reader takes the decoder's first steps, up to the payload. -/
theorem opening_eq (hb : b.length < 2 ^ 64) (hpos : pos + delimiter.length ≤ b.length) :
    opening delimiter b index pos =
      match Bytes.after? [45, 45] (b.drop (pos + delimiter.length)) with
      | some _ => .ok none
      | none =>
        match Bytes.after? Bytes.crlf (b.drop (pos + delimiter.length)) with
        | none => .error (.refused (.malformed (.noLineBreak (pos + delimiter.length))))
        | some _ => some <$> fields b index (pos + delimiter.length + 2) := by
  rw [opening, advance_eq hb hpos]
  simp only [bind, Except.bind, slice_to_end hpos, Bytes.after?]
  split
  · rfl
  · split
    next hline =>
      have hbehind := (drop_of_after? hpos (if_pos hline)).2
      rw [advance_eq hb hbehind]
      simp only
      cases fields b index (pos + delimiter.length + 2) with
      | error halt => rfl
      | ok found => rfl
    next => rfl

/-- A turn behind a delimiter, in terms of the decoder. It returns the part that headers and payload
give together. -/
theorem turn_eq (hb : b.length < 2 ^ 64) (hpos : pos + delimiter.length ≤ b.length) :
    turn delimiter b index pos =
      match Bytes.after? [45, 45] (b.drop (pos + delimiter.length)) with
      | some _ => .ok none
      | none =>
        match Bytes.after? Bytes.crlf (b.drop (pos + delimiter.length)) with
        | none => .error (.refused (.malformed (.noLineBreak (pos + delimiter.length))))
        | some rest =>
          match readPart delimiter index rest with
          | .error e => .error (.refused e)
          | .ok (part, follow) =>
            .ok (some (part, b.length - follow.length - delimiter.length)) := by
  rw [turn, opening_eq hb hpos]
  cases Bytes.after? [45, 45] (b.drop (pos + delimiter.length)) with
  | some epilogue => rfl
  | none =>
    cases hline : Bytes.after? Bytes.crlf (b.drop (pos + delimiter.length)) with
    | none => rfl
    | some rest =>
      obtain ⟨hrest, hbehind⟩ := drop_of_after? hpos hline
      have hpart := part_eq delimiter index hb hbehind (Nat.le_add_left _ _)
      rw [hrest] at hpart
      have hturn : (some <$> fields b index (pos + delimiter.length + 2) >>= fun found =>
            match found with
            | none => pure none
            | some (headers, start) => some <$> partAt delimiter b index headers start) =
          some <$> (fields b index (pos + delimiter.length + 2) >>= fun found =>
            partAt delimiter b index found.1 found.2) := by
        cases fields b index (pos + delimiter.length + 2) <;> rfl
      refine hturn.trans ?_
      rw [hpart]
      dsimp only
      cases readPart delimiter index rest with
      | error e => rfl
      | ok found => rfl

/-- The decoder's loop, one part at a time. -/
theorem readParts_step (delimiter : Bytes) (total index : Nat) (b : Bytes) :
    readParts delimiter total index b =
      match Bytes.after? [45, 45] b with
      | some _ => .ok []
      | none =>
        match Bytes.after? Bytes.crlf b with
        | none => .error (.malformed (.noLineBreak (total - b.length)))
        | some rest =>
          match readPart delimiter index rest with
          | .error e => .error e
          | .ok (part, follow) => (part :: ·) <$> readParts delimiter total (index + 1) follow := by
  rw [readParts]
  cases Bytes.after? [45, 45] b with
  | some epilogue => rfl
  | none =>
    cases Bytes.after? Bytes.crlf b with
    | none => rfl
    | some rest =>
      dsimp only
      cases readPart delimiter index rest <;> rfl

/-- How a turn ends that starts at a delimiter: the message ends, it is refused as the decoder
refuses it, or a part is read, and the next delimiter stands more than two bytes behind the end of
the first. -/
theorem turn_cases (index : Nat) (hb : b.length < 2 ^ 64) (h : Bytes.OccursAt delimiter b pos) :
    (turn delimiter b index pos = .ok none ∧
      readParts delimiter b.length index (b.drop (pos + delimiter.length)) = .ok []) ∨
    (∃ e, turn delimiter b index pos = .error (.refused e) ∧
      readParts delimiter b.length index (b.drop (pos + delimiter.length)) = .error e) ∨
    ∃ part next, turn delimiter b index pos = .ok (some (part, next)) ∧
      readParts delimiter b.length index (b.drop (pos + delimiter.length)) =
        (part :: ·) <$> readParts delimiter b.length (index + 1)
          (b.drop (next + delimiter.length)) ∧
      Bytes.OccursAt delimiter b next ∧ pos + delimiter.length + 2 < next := by
  have hpos := add_length_le h
  have hoffset : b.length - (b.drop (pos + delimiter.length)).length = pos + delimiter.length := by
    rw [List.length_drop]
    omega
  rw [turn_eq hb hpos, readParts_step, hoffset]
  cases Bytes.after? [45, 45] (b.drop (pos + delimiter.length)) with
  | some epilogue => exact .inl ⟨rfl, rfl⟩
  | none =>
    cases hline : Bytes.after? Bytes.crlf (b.drop (pos + delimiter.length)) with
    | none => exact .inr (.inl ⟨_, rfl, rfl⟩)
    | some behind =>
      cases hpart : readPart delimiter index behind with
      | error e => exact .inr (.inl ⟨e, by simp only [hpart], by simp only [hpart]⟩)
      | ok found =>
        obtain ⟨part, follow⟩ := found
        obtain ⟨hrest, hbehind⟩ := drop_of_after? hpos hline
        obtain ⟨hnext, hlt, hend⟩ := drop_of_readPart hbehind (Nat.le_add_left _ _)
          (hrest.symm ▸ hpart) rfl
        refine .inr (.inr ⟨part, b.length - follow.length - delimiter.length, ?_, ?_, ?_, hlt⟩)
        · simp only [hpart]
        · simp only [hpart, drop_of_drop hnext]
        · exact Bytes.occursAt_iff.2 ⟨hend, follow, hnext.symm⟩

/-- With enough turns the reader finds what the decoder finds. -/
theorem turns_eq (hb : b.length < 2 ^ 64) {fuel : Nat} (h : Bytes.OccursAt delimiter b pos)
    (hfuel : b.length < pos + fuel * (delimiter.length + 2)) :
    turns delimiter b fuel index pos =
      step (readParts delimiter b.length index (b.drop (pos + delimiter.length))) := by
  induction fuel generalizing index pos with
  | zero =>
    have hpos := add_length_le h
    omega
  | succ fuel ih =>
    rw [turns]
    rcases turn_cases index hb h with
      ⟨hturn, hread⟩ | ⟨e, hturn, hread⟩ | ⟨part, next, hturn, hread, hnext, hlt⟩
    · rw [hturn, hread]
      rfl
    · rw [hturn, hread]
      rfl
    · rw [Nat.succ_mul] at hfuel
      rw [hturn, hread]
      have hrest : turns delimiter b fuel (index + 1) next = _ := ih hnext (by omega)
      simp only [bind, Except.bind, hrest]
      cases readParts delimiter b.length (index + 1) (b.drop (next + delimiter.length)) with
      | error e => rfl
      | ok parts => rfl

/-- A search from the start finds an occurrence. -/
theorem occursAt_of_search (hb : b.length < 2 ^ 64) (h : search needle b 0 = .ok (some pos)) :
    Bytes.OccursAt needle b pos := by
  by_cases hne : needle = []
  · rw [search, if_pos (.inl hne)] at h
    cases h
  rw [search_eq hb hne (Nat.zero_le _), List.drop_zero] at h
  obtain ⟨⟨before, after⟩, hcut, rfl⟩ := Option.map_eq_some_iff.1 (Except.ok.inj h)
  exact ⟨before, after, Bytes.cut?_eq_some hcut, (Nat.zero_add _).symm⟩

/-- Every turn starts at a delimiter, and the parts read before it lie in front of it. -/
theorem Entered.occursAt (hb : b.length < 2 ^ 64) (h : Entered delimiter b index pos) :
    Bytes.OccursAt delimiter b pos ∧ index * (delimiter.length + 2) ≤ pos := by
  induction h with
  | first h => exact ⟨occursAt_of_search hb h, by omega⟩
  | @next index pos following part _ ht ih =>
    obtain ⟨hoccurs, hle⟩ := ih
    rcases turn_cases index hb hoccurs with
      ⟨hturn, -⟩ | ⟨e, hturn, -⟩ | ⟨found, next, hturn, -, hnext, hlt⟩
    · rw [hturn] at ht
      cases ht
    · rw [hturn] at ht
      cases ht
    · rw [hturn] at ht
      cases ht
      rw [Nat.succ_mul]
      exact ⟨hnext, by omega⟩

/-- Headers are never refused as a part that is cut short. -/
theorem readHeaders_ne_truncated {i : Nat} :
    readHeaders block ≠ .error (.malformed (.truncated i)) := by
  rw [readHeaders]
  cases Bytes.text? block with
  | none => simp
  | some text =>
    simp only
    induction (Text.lines text).filter (· ≠ "") with
    | nil => simp [pure, Except.pure]
    | cons line lines ih =>
      rw [List.mapM_cons]
      cases hline : readHeader line with
      | error e =>
        rw [readHeader] at hline
        split at hline
        · cases hline
        · cases hline
          simp [bind, Except.bind]
      | ok field =>
        cases hlines : lines.mapM readHeader with
        | error e =>
          rw [hlines] at ih
          simpa [bind, Except.bind] using ih
        | ok found => simp [bind, Except.bind, pure, Except.pure]

/-- A payload is cut short when fewer bytes are left than its header states. -/
theorem splitContent_eq_truncated_iff {i : Nat} :
    splitContent delimiter index length b = .error (.malformed (.truncated i)) ↔
      i = index ∧ ∃ text n, length = some text ∧ Text.unsignedBits? 64 text = some n ∧
        b.length < n := by
  unfold splitContent
  cases length with
  | none => cases Bytes.cut? (Bytes.crlf ++ delimiter) b <;> simp
  | some text =>
    cases hn : Text.unsignedBits? 64 text with
    | none => simp [hn]
    | some n =>
      have hlonger : (∃ text' n', some text = some text' ∧ Text.unsignedBits? 64 text' = some n' ∧
          b.length < n') ↔ b.length < n := by
        constructor
        · rintro ⟨_, n', ⟨⟩, hn', hlt⟩
          cases hn.symm.trans hn'
          exact hlt
        · exact fun hlt => ⟨text, n, rfl, hn, hlt⟩
      rw [hlonger]
      simp only [hn, Bytes.splitAt?, List.splitAt_eq, List.length_take]
      by_cases hlt : b.length < n
      · rw [if_pos (by omega)]
        simp [hlt, eq_comm]
      · rw [if_neg (by omega)]
        simp only [hlt, and_false, iff_false]
        cases Bytes.after? (Bytes.crlf ++ delimiter) (b.drop n) <;> simp

/-- Up to the payload no part is refused as cut short, and the payload starts in the body. -/
theorem opening_bounds (index : Nat) (hb : b.length < 2 ^ 64)
    (hpos : pos + delimiter.length ≤ b.length) :
    (∀ i, opening delimiter b index pos ≠ .error (.refused (.malformed (.truncated i)))) ∧
      ∀ headers start, opening delimiter b index pos = .ok (some (headers, start)) →
        start ≤ b.length := by
  rw [opening_eq hb hpos]
  cases Bytes.after? [45, 45] (b.drop (pos + delimiter.length)) with
  | some epilogue => simp
  | none =>
    cases hline : Bytes.after? Bytes.crlf (b.drop (pos + delimiter.length)) with
    | none => simp
    | some rest =>
      have hbehind := (drop_of_after? hpos hline).2
      simp only [fields_eq hb hbehind (Nat.le_add_left _ _)]
      cases splitHeaders? (b.drop (pos + delimiter.length + 2)) with
      | none => simp [Functor.map, Except.map]
      | some split =>
        obtain ⟨block, content⟩ := split
        simp only
        cases hheaders : readHeaders block with
        | error e =>
          refine ⟨fun i hi => ?_, fun headers start => nofun⟩
          cases hi
          exact readHeaders_ne_truncated hheaders
        | ok headers =>
          refine ⟨fun i => nofun, fun headers start h => ?_⟩
          cases h
          exact Nat.sub_le _ _

/-- A turn that has found headers reads the part that they belong to. -/
theorem turn_of_opening {headers : List (String × String)}
    (h : opening delimiter b index pos = .ok (some (headers, start))) :
    turn delimiter b index pos = (partAt delimiter b index headers start).map some := by
  rw [turn, h]
  rfl

/-- So it is refused as that part is. -/
theorem map_some_eq_error_iff {α : Type} (x : Except Halt α) (halt : Halt) :
    x.map some = .error halt ↔ x = .error halt := by
  cases x with
  | error e => simp [Except.map]
  | ok value => exact iff_of_false nofun nofun

/-- No part is refused as cut short once its headers and its payload are there. -/
theorem assemble_ne_truncated {headers : List (String × String)} {bytes : Bytes} {i : Nat} :
    assemble index headers bytes ≠ .error (.malformed (.truncated i)) := by
  unfold assemble
  split
  · exact nofun
  · exact nofun

/-- A part is refused as cut short exactly when its headers state a length that reaches past the
end of the body, whether or not the sum fits 64 bits. -/
theorem partAt_eq_truncated_iff (hb : b.length < 2 ^ 64) (hstart : start ≤ b.length)
    {headers : List (String × String)} {i : Nat} :
    partAt delimiter b index headers start = .error (.refused (.malformed (.truncated i))) ↔
      i = index ∧ ∃ text n, header? headers "content-length" = some text ∧
        Text.unsignedBits? 64 text = some n ∧ b.length < start + n := by
  have hlonger : ∀ n, (b.drop start).length < n ↔ b.length < start + n := by
    intro n
    rw [List.length_drop]
    omega
  have hcontent : splitContent delimiter index (header? headers "content-length")
      (b.drop start) = .error (.malformed (.truncated i)) ↔ _ := splitContent_eq_truncated_iff
  simp only [hlonger] at hcontent
  rw [partAt_eq hb hstart, ← hcontent]
  cases splitContent delimiter index (header? headers "content-length") (b.drop start) with
  | error e => simp
  | ok split =>
    simp only [reduceCtorEq, iff_false]
    cases hpart : assemble index headers split.1 with
    | error e =>
      intro h
      cases h
      exact assemble_ne_truncated hpart
    | ok part => exact nofun

/-- A turn is refused as cut short exactly when a stated length reaches past the end of the body,
whether or not the sum fits 64 bits. -/
theorem turn_eq_truncated_iff (hb : b.length < 2 ^ 64) (h : Bytes.OccursAt delimiter b pos)
    {i : Nat} :
    turn delimiter b index pos = .error (.refused (.malformed (.truncated i))) ↔
      i = index ∧ ∃ headers start text n,
        opening delimiter b index pos = .ok (some (headers, start)) ∧
        header? headers "content-length" = some text ∧ Text.unsignedBits? 64 text = some n ∧
        b.length < start + n := by
  obtain ⟨hfails, hstarts⟩ := opening_bounds index hb (add_length_le h)
  cases hopening : opening delimiter b index pos with
  | error halt =>
    have hhalt := hfails i
    rw [hopening] at hhalt
    rw [turn, hopening]
    simpa [bind, Except.bind] using hhalt
  | ok found =>
    cases found with
    | none => simp [turn, hopening, bind, Except.bind, pure, Except.pure]
    | some opened =>
      obtain ⟨headers, start⟩ := opened
      have hstart : start ≤ b.length := hstarts headers start hopening
      rw [turn_of_opening hopening, map_some_eq_error_iff, partAt_eq_truncated_iff hb hstart]
      simp

/-- A delimiter has two dashes at least. -/
theorem delimiter_ne_nil (boundary : String) : Multipart.delimiter boundary ≠ [] := by
  rw [delimiter_eq]
  exact List.cons_ne_nil _ _

/-- Reading by offsets is decoding. -/
theorem decode_eq (contentType : String) (hb : b.length < 2 ^ 64) :
    decode contentType b = (Multipart.decode contentType b).mapError .refused := by
  rw [decode, Multipart.decode]
  cases boundaryOf? contentType with
  | none => rfl
  | some boundary =>
    have hsearch : search (Multipart.delimiter boundary) b 0 = _ :=
      search_eq hb (delimiter_ne_nil boundary) (Nat.zero_le _)
    rw [List.drop_zero] at hsearch
    simp only [bind, Except.bind, hsearch]
    cases hcut : Bytes.cut? (Multipart.delimiter boundary) b with
    | none => rfl
    | some split =>
      obtain ⟨before, after⟩ := split
      have hlayout : b = before ++ Multipart.delimiter boundary ++ after := Bytes.cut?_eq_some hcut
      have hoccurs : Bytes.OccursAt (Multipart.delimiter boundary) b (0 + before.length) :=
        ⟨before, after, hlayout, (Nat.zero_add _).symm⟩
      have hafter : b.drop (0 + before.length + (Multipart.delimiter boundary).length) = after := by
        rw [Nat.zero_add, ← List.length_append, hlayout, List.drop_left]
      have hfuel : b.length < 0 + before.length +
          (mostParts (Multipart.delimiter boundary) b + 1) *
            ((Multipart.delimiter boundary).length + 2) := by
        have hmost := Nat.lt_mul_div_succ b.length
          (Nat.add_pos_right (Multipart.delimiter boundary).length Nat.two_pos)
        rw [Nat.mul_comm] at hmost
        rw [mostParts]
        omega
      simp only [Option.map_some, turns_eq hb hoccurs hfuel, hafter]
      cases readParts (Multipart.delimiter boundary) b.length 0 after with
      | error e => rfl
      | ok parts => rfl

end

/-- Reading by offsets is decoding: no slice leaves the body, no offset leaves 64 bits, and the
turns suffice. Each turn that is entered keeps to its bounds. That the length of a body is itself
a word of 64 bits is all that is asked of the body. -/
theorem decode_in_bounds (contentType : String) (body : Bytes) (hlength : body.length < 2 ^ 64) :
    decode contentType body = (Multipart.decode contentType body).mapError .refused ∧
      ∀ boundary, boundaryOf? contentType = some boundary →
        ∀ index pos, Entered (delimiter boundary) body index pos →
          Contained (delimiter boundary) body index pos := by
  refine ⟨decode_eq contentType hlength, fun boundary _ index pos hentered => ?_⟩
  obtain ⟨hoccurs, hle⟩ := hentered.occursAt hlength
  have hpos := add_length_le hoccurs
  have hcases := turn_cases index hlength hoccurs
  refine ⟨hoccurs, ?few, fun halt hturn => ?refused, fun part next hturn => ?forward,
    fun i => turn_eq_truncated_iff hlength hoccurs⟩
  case few =>
    rw [mostParts, Nat.le_div_iff_mul_le (Nat.add_pos_right _ Nat.two_pos)]
    omega
  case refused =>
    rcases hcases with ⟨h, -⟩ | ⟨e, h, -⟩ | ⟨_, _, h, -⟩ <;> rw [h] at hturn <;> cases hturn
    exact ⟨e, rfl⟩
  case forward =>
    rcases hcases with ⟨h, -⟩ | ⟨_, h, -⟩ | ⟨_, _, h, -, -, hlt⟩ <;> rw [h] at hturn <;>
      cases hturn
    exact hlt

/-- Two parts, of which the second states the greatest length that 64 bits hold. -/
def overlong : Bytes :=
  Bytes.ofText ("--b\r\nNamespace: wan\r\n\r\nx\r\n" ++
    "--b\r\nNamespace: lan\r\nContent-Length: 18446744073709551615\r\n\r\ny\r\n--b--\r\n")

/-- A part that states a length beyond the body is refused before anything is cut from it. -/
theorem decode_in_bounds_overlong :
    overlong.length < 2 ^ 64 ∧ boundaryOf? "multipart/mixed; boundary=b" = some "b" ∧
      Entered (delimiter "b") overlong 1 26 ∧
      turn (delimiter "b") overlong 1 26 = .error (.refused (.malformed (.truncated 1))) ∧
      Contained (delimiter "b") overlong 1 26 := by
  have hlength : overlong.length < 2 ^ 64 := by decide +kernel
  have hboundary : boundaryOf? "multipart/mixed; boundary=b" = some "b" := by decide +kernel
  have hfirst : Entered (delimiter "b") overlong 0 0 := .first (by decide +kernel)
  have hturn : turn (delimiter "b") overlong 0 0 =
      .ok (some (⟨"wan", defaultContentType, ⟨""⟩, [120]⟩, 26)) := by decide +kernel
  have hentered : Entered (delimiter "b") overlong 1 26 := .next hfirst hturn
  refine ⟨hlength, hboundary, hentered, by decide +kernel, ?_⟩
  exact (decode_in_bounds "multipart/mixed; boundary=b" overlong hlength).2 "b" hboundary 1 26
    hentered

end ByOffset

end GatewayConfig.Multipart
