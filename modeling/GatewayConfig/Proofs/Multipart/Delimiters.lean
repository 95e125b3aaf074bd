import GatewayConfig.Proofs.Bytes.Offsets
import GatewayConfig.Proofs.Multipart.RoundTrip
import GatewayConfig.Proofs.Version
import Mathlib.Order.Bounds.Basic

/-!
# Where delimiters stand

A drawn boundary is used when it is the first that is free, and then its delimiter stands in the
body where the writer put it and nowhere else. `offsets_writeBody` says so of every *compact*
boundary: its delimiter does not reach out of a header, a payload or a line, and it does not
overlap itself. `encode_first_free` is the result for drawn boundaries.
-/

namespace GatewayConfig.Multipart

/-- A boundary that keeps to itself: its delimiter cannot reach over the end of a line or of a
header name, and it has two dashes in a row at the start only. -/
structure Compact (boundary : String) : Prop where
  /-- It is ASCII. -/
  ascii : ∀ c ∈ boundary.toList, c.toNat < 128
  /-- There is no line end, no space and no colon in it. -/
  clean : ∀ c ∈ ['\n', '\r', ' ', ':'], c ∉ boundary.toList
  /-- It starts with something else than a dash. -/
  first : ∃ c rest, boundary.toList = c :: rest ∧ c ≠ '-'

/-- A part whose description does not hold the delimiter. The payload is not part of it. -/
def Part.Avoids (boundary : String) (p : Part) : Prop :=
  ∀ text ∈ [p.name, p.contentType, p.version.token],
    ¬ ("--" ++ boundary).toList <:+: text.toList

instance (boundary : String) (p : Part) : Decidable (p.Avoids boundary) :=
  inferInstanceAs (Decidable (∀ text ∈ _, ¬ _))

variable {boundary : String} {parts : List Part} {p : Part} {b : Bytes} {n : Nat}

/-- A delimiter is two dashes and the bytes of the boundary. -/
theorem delimiter_eq (boundary : String) :
    delimiter boundary = 45 :: 45 :: Bytes.ofText boundary := by
  rw [delimiter, Bytes.ofText_append]
  rfl

/-- A delimiter does not stand in what has no two dashes in a row. -/
theorem delimiter_absent (boundary : String) (hb : ¬ [45, 45] <:+: b) :
    ¬ delimiter boundary <:+: b := by
  intro hi
  refine hb (List.IsInfix.trans ?_ hi)
  rw [delimiter_eq]
  exact (List.prefix_append [45, 45] (Bytes.ofText boundary)).isInfix

/-- A number has no dash. -/
theorem not_dashes_infix_toString (n : Nat) : ¬ [45, 45] <:+: Bytes.ofText (toString n) := by
  intro hi
  have hbyte : UInt8.ofNat '-'.toNat ∈ Bytes.ofText (toString n) := hi.subset List.mem_cons_self
  have hdash : '-' ∈ (toString n).toList := (Bytes.mem_ofText_iff (by decide)).1 hbyte
  have hdigits : '-' ∈ Nat.toDigits 10 n := by simpa using hdash
  have hdigit : '-'.isDigit = true := Nat.isDigit_of_mem_toDigits (by decide) (by decide) hdigits
  revert hdigit
  decide

namespace Compact

/-- The bytes that divide a body into lines, names and values are not in the delimiter. -/
theorem not_mem (h : Compact boundary) {x : UInt8} (hx : x ∈ ([10, 13, 32, 58] : Bytes)) :
    x ∉ delimiter boundary := by
  have hbytes : ([10, 13, 32, 58] : Bytes) =
      ['\n', '\r', ' ', ':'].map fun c => UInt8.ofNat c.toNat := by decide
  have hsmall : ∀ c ∈ ['\n', '\r', ' ', ':'], c.toNat < 128 ∧ c ∉ "--".toList := by simp
  rw [hbytes] at hx
  obtain ⟨c, hc, rfl⟩ := List.mem_map.1 hx
  obtain ⟨hascii, hdash⟩ := hsmall c hc
  rw [delimiter, Bytes.mem_ofText_iff hascii, String.toList_append, List.mem_append, not_or]
  exact ⟨hdash, h.clean c hc⟩

/-- The delimiter stands in a written text where its characters do. -/
theorem infix_ofText_iff (h : Compact boundary) {text : String} :
    delimiter boundary <:+: Bytes.ofText text ↔ ("--" ++ boundary).toList <:+: text.toList := by
  have hdashes : ∀ c ∈ "--".toList, c.toNat < 128 := by simp
  refine Bytes.infix_ofText_iff fun c hc => ?_
  rw [String.toList_append, List.mem_append] at hc
  rcases hc with hdash | hboundary
  · exact hdashes c hdash
  · exact h.ascii c hboundary

/-- Behind its dashes a delimiter goes on with another byte. -/
theorem exists_delimiter_eq (h : Compact boundary) :
    ∃ x rest, delimiter boundary = 45 :: 45 :: x :: rest ∧ x ≠ 45 := by
  obtain ⟨c, rest, hboundary, hc⟩ := h.first
  have hascii : c.toNat < 128 := h.ascii c (by rw [hboundary]; exact List.mem_cons_self)
  refine ⟨UInt8.ofNat c.toNat, rest.flatMap String.utf8EncodeChar, ?_, fun he => hc ?_⟩
  · rw [delimiter_eq, Bytes.ofText_eq_flatMap, hboundary, List.flatMap_cons,
      Bytes.utf8EncodeChar_eq_singleton hascii, List.singleton_append]
  · have hnat := congrArg UInt8.toNat he
    rw [UInt8.toNat_ofNat', Nat.mod_eq_of_lt (by omega)] at hnat
    exact Char.toNat_inj.1 hnat

/-- A dividing byte is passed by itself. -/
theorem passes_singleton (h : Compact boundary) {x : UInt8}
    (hx : x ∈ ([10, 13, 32, 58] : Bytes)) : Bytes.Passes (delimiter boundary) [x] :=
  Bytes.passes_concat (a := []) (h.not_mem hx) (delimiter_absent boundary (by decide))

/-- Bytes without the delimiter are passed together with the line end behind them. -/
theorem passes_line (h : Compact boundary) (hb : ¬ delimiter boundary <:+: b) :
    Bytes.Passes (delimiter boundary) (b ++ Bytes.crlf) := by
  have hreturn := Bytes.passes_concat (h.not_mem (x := 13) (by decide)) hb
  have hline := hreturn.append (h.passes_singleton (x := 10) (by decide))
  rw [List.append_assoc] at hline
  exact hline

/-- A header is passed when the delimiter is neither in its name nor in its value. -/
theorem passes_writeHeader (h : Compact boundary) {name value : String}
    (hname : ¬ [45, 45] <:+: Bytes.ofText name)
    (hvalue : ¬ delimiter boundary <:+: Bytes.ofText value) :
    Bytes.Passes (delimiter boundary) (writeHeader name value) := by
  have hcolon := Bytes.passes_concat (h.not_mem (x := 58) (by decide))
    (delimiter_absent boundary hname)
  have hspace := h.passes_singleton (x := 32) (by decide)
  have hheader := (hcolon.append hspace).append (h.passes_line hvalue)
  rw [← List.append_assoc, List.append_assoc (Bytes.ofText name)] at hheader
  exact hheader

/-- All headers of a part are passed, with the blank line that ends them. -/
theorem passes_writeHeaders (h : Compact boundary) (hp : p.Avoids boundary) :
    Bytes.Passes (delimiter boundary) (writeHeaders p) := by
  have havoids : ∀ text ∈ [p.name, p.contentType, p.version.token],
      ¬ delimiter boundary <:+: Bytes.ofText text :=
    fun text htext hi => hp text htext (h.infix_ofText_iff.1 hi)
  have hlength := delimiter_absent boundary (not_dashes_infix_toString p.bytes.length)
  have hblank := h.passes_line (b := []) (delimiter_absent boundary (by decide))
  refine (((Bytes.Passes.append ?_ ?_).append ?_).append ?_).append hblank
  · exact h.passes_writeHeader (by decide) (havoids _ (by simp))
  · exact h.passes_writeHeader (by decide) (havoids _ (by simp))
  · exact h.passes_writeHeader (by decide) (havoids _ (by simp))
  · exact h.passes_writeHeader (by decide) hlength

/-- A written part has its delimiter at the start, and what follows is found behind the part. -/
theorem offsets_writePart (h : Compact boundary) (hp : p.Avoids boundary)
    (hbytes : ¬ delimiter boundary <:+: p.bytes) (rest : Bytes) :
    Bytes.offsets (delimiter boundary) (writePart boundary p ++ rest) =
      0 :: (Bytes.offsets (delimiter boundary) rest).map ((writePart boundary p).length + ·) := by
  have hpart : writePart boundary p ++ rest = delimiter boundary ++
      13 :: ([10] ++ writeHeaders p ++ (p.bytes ++ Bytes.crlf) ++ rest) := by
    simp only [writePart, Bytes.crlf, List.append_assoc, List.cons_append, List.nil_append]
  have hlength : (writePart boundary p).length = (delimiter boundary).length + 1 +
      ([10] ++ writeHeaders p ++ (p.bytes ++ Bytes.crlf)).length := by
    simp only [writePart, Bytes.crlf, List.length_append, List.length_cons, List.length_nil]
    omega
  have hfeed := h.passes_singleton (x := 10) (by decide)
  have hpasses := (hfeed.append (h.passes_writeHeaders hp)).append (h.passes_line hbytes)
  rw [hpart, Bytes.offsets_append_cons (h.not_mem (x := 13) (by decide)), Bytes.offsets_self,
    hpasses, List.map_map, List.singleton_append]
  refine congrArg _ (List.map_congr_left fun n _ => ?_)
  rw [Function.comp_apply, hlength]
  exact (Nat.add_assoc _ _ _).symm

/-- The closing delimiter stands where it was written, not one or two bytes later: an occurrence
further on would have a dash where the boundary starts. -/
theorem occursAt_closing (h : Compact boundary) (n : Nat) :
    Bytes.OccursAt (delimiter boundary) (delimiter boundary ++ [45, 45]) n ↔ n = 0 := by
  obtain ⟨x, rest, hdelimiter, hx⟩ := h.exists_delimiter_eq
  constructor
  · rintro ⟨before, after, heq, rfl⟩
    have hlength := congrArg List.length heq
    simp only [List.length_append, List.length_cons, List.length_nil] at hlength
    rw [hdelimiter] at heq
    match before with
    | [] => rfl
    | [_] => simp [hx] at heq
    | [_, _] => simp [hx] at heq
    | _ :: _ :: _ :: before =>
      simp only [List.length_cons] at hlength
      omega
  · rintro rfl
    exact Bytes.occursAt_zero_iff.2 (List.prefix_append _ _)

/-- What closes a body has the delimiter at the start. -/
theorem offsets_closing (h : Compact boundary) :
    Bytes.offsets (delimiter boundary) (delimiter boundary ++ [45, 45] ++ Bytes.crlf) = [0] := by
  have hend : Bytes.offsets (delimiter boundary) [10] = [] :=
    Bytes.offsets_eq_nil_iff.2 (delimiter_absent boundary (by decide))
  rw [Bytes.crlf, Bytes.offsets_append_cons (h.not_mem (x := 13) (by decide)), hend,
    List.map_nil, List.append_nil, Bytes.offsets_eq_zero h.occursAt_closing]

/-- The delimiter stands before each part and behind the last one, and nowhere else: each time it
has so many of the written parts before it, and nothing more. -/
theorem offsets_writeBody (h : Compact boundary) (hparts : ∀ p ∈ parts, p.Avoids boundary)
    (hbytes : ∀ p ∈ parts, ¬ delimiter boundary <:+: p.bytes) :
    Bytes.offsets (delimiter boundary) (writeBody boundary parts) =
      parts.inits.map fun before => (before.flatMap (writePart boundary)).length := by
  induction parts with
  | nil => exact h.offsets_closing
  | cons p parts ih =>
    obtain ⟨hp, hrest⟩ := List.forall_mem_cons.1 hparts
    obtain ⟨hpayload, hpayloads⟩ := List.forall_mem_cons.1 hbytes
    rw [writeBody_cons, h.offsets_writePart hp hpayload, ih hrest hpayloads, List.inits_cons,
      List.map_cons, List.map_map, List.map_map]
    refine congrArg _ (List.map_congr_left fun before _ => ?_)
    rw [Function.comp_apply, Function.comp_apply, List.flatMap_cons, List.length_append]

end Compact

/-- The digits and the letters of a drawn boundary make it compact. -/
theorem compact_boundaryAt (n : Nat) : Compact (boundaryAt n) := by
  have hdigit : ∀ k < 16, (Nat.digitChar k).toNat < 128 ∧
      Nat.digitChar k ∉ ['\n', '\r', ' ', ':'] := by decide
  have hprefix : ∀ c ∈ "webcfg-".toList, c.toNat < 128 ∧ c ∉ ['\n', '\r', ' ', ':'] := by simp
  have hall := forall_mem_boundaryAt hprefix hdigit n
  constructor
  case ascii => exact fun c hc => (hall c hc).1
  case clean => exact fun c hc hmem => (hall c hmem).2 hc
  case first =>
    have hstart : (boundaryAt n).toList =
        'w' :: ("ebcfg-".toList ++ (UuidSupply.drawHex ⟨n⟩).1.toList) := by
      rw [boundaryAt, drawBoundary, String.toList_append]
      rfl
    exact ⟨'w', _, hstart, by decide⟩

/-- A boundary is free when its delimiter stands in no payload. -/
theorem isFree_iff : isFree parts boundary = true ↔
    ∀ p ∈ parts, ¬ delimiter boundary <:+: p.bytes := by
  simp only [isFree, List.all_eq_true, Bool.not_eq_true', Bool.eq_false_iff, ne_eq,
    Bytes.occursIn_iff]

/-- A boundary is taken when its delimiter occurs in a payload. -/
theorem isFree_eq_false_iff : isFree parts boundary = false ↔
    ∃ p ∈ parts, delimiter boundary <:+: p.bytes := by
  rw [Bool.eq_false_iff, ne_eq, isFree_iff]
  simp only [not_forall, not_not, exists_prop]

/-- The first free one of eight drawn boundaries is used, and no more are drawn than it takes to
find it. If none of the eight is free, all of them are drawn and nothing is encoded. In the body,
the delimiter stands once before each part and once behind the last one, if no description of a
part holds it; it stands there as often as there are parts, and once more. -/
theorem encode_first_free (parts : List Part) (n : Nat) :
    (∀ i, IsLeast {i | i < 8 ∧ ∀ p ∈ parts, ¬ delimiter (boundaryAt (n + i)) <:+: p.bytes} i →
      ∃ message, encodeWith parts (boundaryAt (n + i)) = .ok message ∧
        encode parts ⟨n⟩ = (.ok message, ⟨n + (i + 1)⟩) ∧
        ((∀ p ∈ parts, p.Avoids (boundaryAt (n + i))) →
          Bytes.offsets (delimiter (boundaryAt (n + i))) message.body =
            parts.inits.map (fun before =>
              (before.flatMap (writePart (boundaryAt (n + i)))).length) ∧
          (Bytes.offsets (delimiter (boundaryAt (n + i))) message.body).length =
            parts.length + 1)) ∧
    ((∀ i < 8, ∃ p ∈ parts, delimiter (boundaryAt (n + i)) <:+: p.bytes) →
      encode parts ⟨n⟩ = (.error .boundaryExhausted, ⟨n + 8⟩)) := by
  constructor
  · rintro i ⟨⟨hi, hpayloads⟩, hleast⟩
    have hfree : isFree parts (boundaryAt (n + i)) = true := isFree_iff.2 hpayloads
    have htaken : ∀ j < i, isFree parts (boundaryAt (n + j)) = false := by
      intro j hj
      refine Bool.eq_false_iff.2 fun hjfree => ?_
      exact absurd (hleast ⟨hj.trans hi, isFree_iff.1 hjfree⟩) (Nat.not_le_of_lt hj)
    refine ⟨_, encodeWith_of_free hfree, encode_of_first hi htaken hfree, fun havoids => ?_⟩
    have hoffsets := (compact_boundaryAt (n + i)).offsets_writeBody havoids hpayloads
    refine ⟨hoffsets, ?_⟩
    rw [hoffsets, List.length_map, List.length_inits]
  · exact fun htaken => encode_of_taken fun i hi => isFree_eq_false_iff.2 (htaken i hi)

/-- Two parts, the first of which holds the delimiter of the first boundary that is drawn, and ends
with what the delimiter of the second one begins with. -/
def obstructing : List Part :=
  [⟨"lan", defaultContentType, ⟨"v1"⟩, delimiter (boundaryAt 0) ++ Bytes.ofText "--webcfg-"⟩,
    ⟨"wan", defaultContentType, ⟨"v2"⟩, []⟩]

/-- The second boundary is used, and its delimiter stands in three places. -/
theorem encode_first_free_obstructing :
    ∃ message, encode obstructing ⟨0⟩ = (.ok message, ⟨2⟩) ∧
      (Bytes.offsets (delimiter (boundaryAt 1)) message.body).length = 3 := by
  obtain ⟨hfirst, -⟩ := encode_first_free obstructing 0
  have hfree : isFree obstructing (boundaryAt 1) = true := by decide
  have htaken : isFree obstructing (boundaryAt 0) = false := by decide
  have hleast : IsLeast {i | i < 8 ∧
      ∀ p ∈ obstructing, ¬ delimiter (boundaryAt (0 + i)) <:+: p.bytes} 1 := by
    refine ⟨⟨by decide, isFree_iff.1 hfree⟩, fun i hi => Nat.one_le_iff_ne_zero.2 ?_⟩
    rintro rfl
    have hzero : isFree obstructing (boundaryAt 0) = true := isFree_iff.2 hi.2
    rw [htaken] at hzero
    cases hzero
  obtain ⟨message, -, hencode, hoffsets⟩ := hfirst 1 hleast
  exact ⟨message, hencode, (hoffsets (by decide)).2⟩

end GatewayConfig.Multipart
