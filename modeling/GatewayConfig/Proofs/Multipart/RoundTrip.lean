import GatewayConfig.Proofs.Multipart.Boundary
import GatewayConfig.Proofs.Multipart.Grammar
import GatewayConfig.Proofs.Text.Lines
import Mathlib.Data.List.Infix
import Mathlib.Data.List.Nodup

/-!
# Reading back what was written

A part whose description is carried unchanged by header lines is *portable*; its payload is
arbitrary. A body written for portable parts has the form that the reader accepts, part by part,
so decoding it puts the parts into a map, which keeps the last part of each name. The boundary is
found again in the content type when it is *legible*, as every drawn boundary is.
-/

namespace GatewayConfig.Multipart

/-- A header line as it is written. -/
def fieldLine (name value : String) : String := name ++ ": " ++ value

/-- A written line is a field of its own name, in lower case, and its own value, both trimmed. Only
a colon in the name is excluded. -/
theorem isField_fieldLine_iff {name value n v : String} (h : ':' ∉ name.toList) :
    IsField (fieldLine name value) n v ↔ n = Text.lower (Text.trim name) ∧ v = Text.trim value := by
  have hf : IsField (fieldLine name value) (Text.lower (Text.trim name)) (Text.trim value) :=
    ⟨name, " " ++ value, by simp [fieldLine], h, rfl, (Text.trim_space_append value).symm⟩
  constructor
  · exact fun hv => hv.unique hf
  · rintro ⟨rfl, rfl⟩
    exact hf

/-- A written header is its line and a line end. -/
theorem writeHeader_eq (name value : String) :
    writeHeader name value = Bytes.ofText (fieldLine name value) ++ Bytes.crlf := by
  have hc : Bytes.ofText ": " = [58, 32] := by decide
  simp [writeHeader, fieldLine, hc]

/-- Joined lines are split where they were joined, provided each is one line and holds a colon. -/
theorem fieldLines_joinLines {ls : List String} (hne : ls ≠ [])
    (h : ∀ l ∈ ls, Text.OneLine l ∧ ':' ∈ l.toList) : fieldLines (Text.joinLines ls) = ls := by
  rw [fieldLines, Text.lines_joinLines hne fun l hl => (h l hl).1, List.filter_eq_self]
  intro l hl
  have := (h l hl).2
  simp only [ne_eq, decide_eq_true_eq]
  rintro rfl
  simp at this

/-- Lines of which none is broken lay out the part that their fields describe. -/
theorem isPart_of_fields {delimiter follow : Bytes} {lines : List String}
    {fields : List (String × String)} {part : Part}
    (hf : List.Forall₂ (fun line field => IsField line field.1 field.2) lines fields)
    (hl : ∀ l ∈ lines, Text.OneLine l)
    (name : header? fields "namespace" = some part.name)
    (version : header? fields "etag" = some part.version.token)
    (contentType : header? fields "content-type" = some part.contentType)
    (stated : ∀ value, header? fields "content-length" = some value →
      Text.unsignedBits? 64 value = some part.bytes.length)
    (scanned : header? fields "content-length" = none → Bytes.FirstAt (Bytes.crlf ++ delimiter)
      (part.bytes ++ Bytes.crlf ++ delimiter ++ follow) part.bytes.length) :
    IsPart delimiter (Text.joinLines lines) part follow
      (Bytes.ofText (Text.joinLines lines) ++ Bytes.crlf ++ Bytes.crlf ++ part.bytes ++
        Bytes.crlf ++ delimiter ++ follow) := by
  have hcolon : ∀ l ∈ lines, ':' ∈ l.toList := exists_fields_iff.1 ⟨fields, hf⟩
  have hempty : ∀ l ∈ lines, l ≠ "" ∧ Text.OneLine l := by
    intro l hm
    refine ⟨?_, hl l hm⟩
    rintro rfl
    simpa using hcolon "" hm
  have hne : lines ≠ [] := by
    rintro rfl
    rw [List.forall₂_nil_left_iff] at hf
    subst hf
    cases name
  have hlines : fieldLines (Text.joinLines lines) = lines :=
    fieldLines_joinLines hne fun l hm => ⟨hl l hm, hcolon l hm⟩
  have hdeclares := fun n => (header?_eq_iff hf n).1
  have homits := fun n => (header?_eq_iff hf n).2
  constructor
  case layout => rfl
  case nonempty =>
    intro he
    rw [he, fieldLines_empty] at hlines
    exact hne hlines.symm
  case noBlankStart =>
    obtain ⟨l, ls, rfl⟩ := List.exists_cons_of_ne_nil hne
    obtain ⟨hlne, hlone⟩ := hempty l List.mem_cons_self
    exact Text.not_crlf_prefix_joinLines ls hlne hlone
  case blockEnd =>
    simpa using Text.firstAt_joinLines hne hempty
      (part.bytes ++ Bytes.crlf ++ delimiter ++ follow)
  all_goals rw [hlines]
  case colons => exact hcolon
  case name => exact (hdeclares _ _).1 name
  case version => exact .inl ((hdeclares _ _).1 version)
  case contentType => exact .inl ((hdeclares _ _).1 contentType)
  case stated => exact fun value hv => stated value ((hdeclares _ _).2 hv)
  case scanned => exact fun ho => scanned ((homits _).2 ho)

end GatewayConfig.Multipart

namespace GatewayConfig

/-- A byte string whose length fits 64 bits, as that of every byte string in memory does. -/
def Bytes.Addressable (b : Bytes) : Prop := b.length < Nat.pow 2 64

instance (b : Bytes) : Decidable b.Addressable := inferInstanceAs (Decidable (_ < _))

namespace Multipart

/-- A part whose description survives in headers. The payload is arbitrary. -/
structure Part.Portable (p : Part) : Prop where
  /-- The name is carried unchanged. -/
  name : Text.Plain p.name
  /-- So is the media type. -/
  contentType : Text.Plain p.contentType
  /-- So is the version. -/
  version : Text.Plain p.version.token
  /-- The length can be stated. -/
  size : p.bytes.Addressable

/-- The header lines of a part, in the order in which they are written. -/
def headerLines (p : Part) : List String :=
  [fieldLine "Content-Type" p.contentType, fieldLine "Namespace" p.name,
    fieldLine "Etag" p.version.token, fieldLine "Content-Length" (toString p.bytes.length)]

/-- The written headers are the lines of a part, joined, and an empty line. -/
theorem writeHeaders_eq (p : Part) :
    writeHeaders p = Bytes.ofText (Text.joinLines (headerLines p)) ++ Bytes.crlf ++ Bytes.crlf := by
  simp only [writeHeaders, writeHeader_eq, headerLines, Text.joinLines, Bytes.ofText_append,
    Bytes.ofText_crlf, List.append_assoc]

/-- A field is one line when its name has no carriage return and its value is one line. -/
theorem oneLine_fieldLine {name value : String} (hn : '\r' ∉ name.toList)
    (hv : Text.OneLine value) : Text.OneLine (fieldLine name value) :=
  Text.oneLine_append (by simpa using hn) hv

/-- A plain value is read back as it was written, under a name that is known in lower case. -/
theorem isField_fieldLine {name value n : String} (hn : ':' ∉ name.toList)
    (hl : Text.lower (Text.trim name) = n) (hv : Text.Plain value) :
    IsField (fieldLine name value) n value :=
  (isField_fieldLine_iff hn).2 ⟨hl.symm, hv.trimmed.symm⟩

/-- A written part is a part by the grammar, whatever its payload holds, and stands before any
delimiter and any rest. -/
theorem isPart_writeHeaders {p : Part} (h : p.Portable) (delimiter follow : Bytes) :
    IsPart delimiter (Text.joinLines (headerLines p)) p follow
      (writeHeaders p ++ p.bytes ++ Bytes.crlf ++ delimiter ++ follow) := by
  have hnumber := Text.plain_toString p.bytes.length
  have hf : List.Forall₂ (fun line field => IsField line field.1 field.2) (headerLines p)
      [("content-type", p.contentType), ("namespace", p.name), ("etag", p.version.token),
        ("content-length", toString p.bytes.length)] :=
    .cons (isField_fieldLine (by decide) rfl h.contentType) <|
      .cons (isField_fieldLine (by decide) rfl h.name) <|
      .cons (isField_fieldLine (by decide) rfl h.version) <|
      .cons (isField_fieldLine (by decide) rfl hnumber) .nil
  rw [writeHeaders_eq]
  refine isPart_of_fields hf ?_ rfl rfl rfl ?_ ?_
  · simp only [headerLines, List.mem_cons, List.not_mem_nil, or_false]
    rintro l (rfl | rfl | rfl | rfl)
    · exact oneLine_fieldLine (by decide) h.contentType.oneLine
    · exact oneLine_fieldLine (by decide) h.name.oneLine
    · exact oneLine_fieldLine (by decide) h.version.oneLine
    · exact oneLine_fieldLine (by decide) hnumber.oneLine
  · intro value hv
    obtain rfl : toString p.bytes.length = value := Option.some.inj hv
    exact Text.unsignedBits?_toString h.size
  · intro hn
    cases hn

/-- A body begins with its first part. -/
theorem writeBody_cons (boundary : String) (p : Part) (parts : List Part) :
    writeBody boundary (p :: parts) = writePart boundary p ++ writeBody boundary parts := by
  simp [writeBody]

/-- A written body is a delimiter with the framed parts behind it. -/
theorem exists_framed_writeBody {boundary : String} {parts : List Part}
    (h : ∀ p ∈ parts, p.Portable) :
    ∃ rest, writeBody boundary parts = delimiter boundary ++ rest ∧
      Framed (delimiter boundary) rest parts := by
  induction parts with
  | nil => exact ⟨[45, 45] ++ Bytes.crlf, by simp [writeBody], .close Bytes.crlf⟩
  | cons p parts ih =>
    obtain ⟨hp, hps⟩ := List.forall_mem_cons.1 h
    obtain ⟨rest, hbody, hrest⟩ := ih hps
    refine ⟨_, ?_, .part (isPart_writeHeaders hp (delimiter boundary) rest) hrest⟩
    rw [writeBody_cons, hbody, writePart]
    simp only [List.append_assoc]

/-- A boundary that can be read off a content type: it has no semicolon, and neither white space
nor a double quote at its ends. -/
structure Legible (boundary : String) : Prop where
  /-- No semicolon ends the parameter. -/
  noSemicolon : ';' ∉ boundary.toList
  /-- Nothing is removed in front. -/
  first : ∀ c ∈ boundary.toList.head?, Text.isBlank c = false ∧ c ≠ '"'
  /-- Nothing is removed at the end. -/
  last : ∀ c ∈ boundary.toList.getLast?, Text.isBlank c = false ∧ c ≠ '"'

/-- A legible boundary has no blanks to trim. -/
theorem Legible.trim_eq {boundary : String} (h : Legible boundary) :
    Text.trim boundary = boundary :=
  Text.trim_eq_self (fun c hc => (h.first c hc).1) (fun c hc => (h.last c hc).1)

/-- A legible boundary has no quotes to take off. -/
theorem Legible.trimQuotes_eq {boundary : String} (h : Legible boundary) :
    trimQuotes boundary = boundary := by
  rw [trimQuotes, Text.dropWhile_ends_eq_self (fun c hc => beq_false_of_ne (h.first c hc).2)
    (fun c hc => beq_false_of_ne (h.last c hc).2), String.ofList_toList]

/-- The parameter of the content type is read with its name. -/
theorem Legible.boundaryOfParameter? {boundary : String} (h : Legible boundary)
    (hne : boundary ≠ "") :
    boundaryOfParameter? (" boundary=" ++ boundary) = some boundary := by
  have hspace : " boundary=" ++ boundary = " " ++ ("boundary=" ++ boundary) := by
    rw [← String.append_assoc]
    rfl
  have htrim : Text.trim (" boundary=" ++ boundary) = "boundary=" ++ boundary := by
    rw [hspace, Text.trim_space_append]
    refine Text.trim_eq_self (fun c hc => ?_) (fun c hc => ?_)
    · obtain rfl : 'b' = c := by simpa using hc
      decide
    · have hl : boundary.toList ≠ [] := by simpa using hne
      rw [String.toList_append, List.getLast?_append_of_ne_nil _ hl] at hc
      exact (h.last c hc).1
  have hcut : Text.cut? '=' ("boundary=" ++ boundary) = some ("boundary", boundary) :=
    Text.cut?_eq_some_iff.2 ⟨by simp, by decide⟩
  have hkey : Text.sameIgnoringCase (Text.trim "boundary") "boundary" = true := by decide
  simp only [Multipart.boundaryOfParameter?, htrim, hcut, hkey, if_true, h.trim_eq,
    h.trimQuotes_eq, Option.filter_some, hne, ne_eq, not_false_eq_true, decide_true]

/-- A message names the boundary that it was written with. -/
theorem boundaryOf?_contentType {message : Message} (h : Legible message.boundary)
    (hne : message.boundary ≠ "") : boundaryOf? message.contentType = some message.boundary := by
  have hprefix : "multipart/mixed; boundary=" =
      "multipart/mixed" ++ .singleton ';' ++ " boundary=" := by decide
  have hparameter : ';' ∉ (" boundary=" ++ message.boundary).toList := by
    rw [String.toList_append, List.mem_append, not_or]
    exact ⟨by decide, h.noSemicolon⟩
  have hsplit : Text.split ';' message.contentType =
      ["multipart/mixed", " boundary=" ++ message.boundary] := by
    calc Text.split ';' message.contentType
        = Text.split ';' ("multipart/mixed" ++ .singleton ';' ++ " boundary=" ++
            message.boundary) :=
          congrArg (fun s => Text.split ';' (s ++ message.boundary)) hprefix
      _ = Text.split ';' ("multipart/mixed" ++ .singleton ';' ++
            (" boundary=" ++ message.boundary)) := by rw [String.append_assoc]
      _ = ["multipart/mixed", " boundary=" ++ message.boundary] := by
          rw [Text.split_append (by decide), Text.split_eq_singleton hparameter]
  rw [boundaryOf?, hsplit, List.drop_one, List.tail_cons, List.findSome?_cons,
    h.boundaryOfParameter? hne]

/-- A boundary without blanks, quotes and semicolons is legible. It may be empty. -/
theorem legible_of_all {boundary : String} (h : boundary.toList.all
    (fun c => !Text.isBlank c && c != '"' && c != ';') = true) : Legible boundary := by
  have hall : ∀ c ∈ boundary.toList, (Text.isBlank c = false ∧ c ≠ '"') ∧ c ≠ ';' := by
    simpa using h
  exact ⟨fun hs => (hall _ hs).2 rfl, fun c hc => (hall c (List.mem_of_mem_head? hc)).1,
    fun c hc => (hall c (List.mem_of_mem_getLast? hc)).1⟩

/-- The digits and the letters of a drawn boundary are no semicolon, no white space and no quote. -/
theorem legible_boundaryAt (n : Nat) : Legible (boundaryAt n) := by
  have hdigit : ∀ k < 16, (!Text.isBlank (Nat.digitChar k) && Nat.digitChar k != '"' &&
      Nat.digitChar k != ';') = true := by decide
  have hprefix : ("webcfg-".toList.all fun c => !Text.isBlank c && c != '"' && c != ';') =
      true := by decide
  exact legible_of_all (List.all_eq_true.2
    (forall_mem_boundaryAt (List.all_eq_true.1 hprefix) hdigit n))

/-- The parts found are those of the list after which no part with the same name comes, each
name once. -/
structure KeepsLast (parts found : List Part) : Prop where
  /-- Names are keys. -/
  distinct : (found.map Part.name).Nodup
  /-- A part is found when it is the last with its name. -/
  mem_iff : ∀ p, p ∈ found ↔
    ∃ earlier later, parts = earlier ++ p :: later ∧ ∀ q ∈ later, q.name ≠ p.name

/-- Putting parts into a map keeps the last part of each name. -/
theorem keepsLast_foldl_place (parts : List Part) : KeepsLast parts (parts.foldl place []) := by
  induction parts using List.reverseRecOn with
  | nil => exact ⟨List.nodup_nil, by simp⟩
  | append_singleton parts p ih =>
    rw [List.foldl_append, List.foldl_cons, List.foldl_nil, place]
    constructor
    · rw [List.map_append, List.nodup_append]
      refine ⟨ih.distinct.sublist (List.filter_sublist.map _), List.nodup_singleton _, ?_⟩
      intro name hname other hother heq
      obtain ⟨q, hq, rfl⟩ := List.mem_map.1 hname
      obtain rfl := List.mem_singleton.1 hother
      have := (List.mem_filter.1 hq).2
      simp [heq] at this
    · intro q
      rw [List.mem_append, List.mem_filter, List.mem_singleton, ih.mem_iff]
      constructor
      · rintro (⟨⟨earlier, later, rfl, hl⟩, hq⟩ | rfl)
        · refine ⟨earlier, later ++ [p], by simp, fun r hr => ?_⟩
          rcases List.mem_append.1 hr with hr | hr
          · exact hl r hr
          · obtain rfl := List.mem_singleton.1 hr
            exact Ne.symm (by simpa using hq)
        · exact ⟨parts, [], rfl, by simp⟩
      · rintro ⟨earlier, later, he, hl⟩
        induction later using List.reverseRecOn with
        | nil => exact .inr (by simpa using (List.append_inj' he rfl).2.symm)
        | append_singleton later r _ =>
          rw [← List.cons_append, ← List.append_assoc] at he
          obtain ⟨rfl, hr⟩ := List.append_inj' he rfl
          obtain rfl : p = r := by simpa using hr
          refine .inl ⟨⟨earlier, later, rfl, fun s hs => hl s (List.mem_append_left _ hs)⟩, ?_⟩
          simpa using Ne.symm (hl p (by simp))

/-- Of the parts with a name there is a last one. -/
theorem exists_last_named {parts : List Part} {p : Part} (h : p ∈ parts) :
    ∃ earlier q later, parts = earlier ++ q :: later ∧ q.name = p.name ∧
      ∀ r ∈ later, r.name ≠ p.name := by
  induction parts using List.reverseRecOn with
  | nil => cases h
  | append_singleton parts q ih =>
    by_cases hq : q.name = p.name
    · exact ⟨parts, q, [], rfl, hq, List.forall_mem_nil _⟩
    · have hp : p ∈ parts := by
        rcases List.mem_append.1 h with hp | hp
        · exact hp
        · exact absurd (congrArg Part.name (List.mem_singleton.1 hp).symm) hq
      obtain ⟨earlier, r, later, rfl, hr, hl⟩ := ih hp
      refine ⟨earlier, r, later ++ [q], by simp, hr, fun u hu => ?_⟩
      rcases List.mem_append.1 hu with hu | hu
      · exact hl u hu
      · rw [List.mem_singleton.1 hu]
        exact hq

/-- A body written for portable parts under a legible boundary is read back. -/
theorem decode_writeBody {parts : List Part} {boundary : String}
    (h : ∀ p ∈ parts, p.Portable) (hb : Legible boundary) (hne : boundary ≠ "") :
    decode (Message.contentType ⟨boundary, writeBody boundary parts⟩) (writeBody boundary parts) =
      .ok (parts.foldl place []) := by
  obtain ⟨rest, hbody, hframed⟩ := exists_framed_writeBody h
  have hname : boundaryOf? (Message.contentType ⟨boundary, writeBody boundary parts⟩) =
      some boundary := boundaryOf?_contentType hb hne
  have hfirst : Bytes.FirstAt (delimiter boundary) ([] ++ delimiter boundary ++ rest) 0 :=
    Bytes.firstAt_zero_iff.2 ⟨rest, rfl⟩
  have := decode_of_framed hname hfirst hframed
  rw [hbody]
  simpa [hbody] using this

/-- A given boundary is used exactly when it is nonempty and free of every payload; the message is
then the body under that boundary. -/
theorem encodeWith_eq_ok_iff {parts : List Part} {boundary : String} {message : Message} :
    encodeWith parts boundary = .ok message ↔
      boundary ≠ "" ∧ isFree parts boundary = true ∧
        message = ⟨boundary, writeBody boundary parts⟩ := by
  unfold encodeWith
  split
  · next h => simp [h, eq_comm]
  · next h =>
    simp only [reduceCtorEq, false_iff]
    exact fun ⟨hne, hfree, _⟩ => h ⟨hne, hfree⟩

/-- What is written for portable parts under a drawn boundary is read back. -/
theorem decode_of_encode {parts : List Part} {supply : UuidSupply} {message : Message}
    (h : ∀ p ∈ parts, p.Portable) (he : (encode parts supply).1 = .ok message) :
    decode message.contentType message.body = .ok (parts.foldl place []) := by
  rcases encode_cases parts supply with ⟨i, -, -, -, heq⟩ | ⟨-, heq⟩
  · rw [heq] at he
    obtain rfl := Except.ok.inj he
    exact decode_writeBody h (legible_boundaryAt _) (boundaryAt_ne_empty _)
  · rw [heq] at he
    cases he

/-- Decoding what was encoded gives, for each name, the last part with it, unchanged. It does so
for every legible boundary that the encoder accepts and for every boundary that it draws. -/
theorem decode_encoded {parts : List Part} (h : ∀ p ∈ parts, p.Portable) :
    (∀ boundary message, Legible boundary → encodeWith parts boundary = .ok message →
      ∃ found, decode message.contentType message.body = .ok found ∧ KeepsLast parts found) ∧
    (∀ supply message, (encode parts supply).1 = .ok message →
      ∃ found, decode message.contentType message.body = .ok found ∧ KeepsLast parts found) := by
  constructor
  · intro boundary message hb he
    obtain ⟨hne, -, rfl⟩ := encodeWith_eq_ok_iff.1 he
    exact ⟨_, decode_writeBody h hb hne, keepsLast_foldl_place parts⟩
  · intro supply message he
    exact ⟨_, decode_of_encode h he, keepsLast_foldl_place parts⟩

/-- Two parts of one name, with payloads that hold line ends, dashes, header text and a byte that
is not UTF-8. -/
def namesakes : List Part :=
  [⟨"lan", "", ⟨"v 1"⟩, [13, 10, 13, 10, 45, 45, 255]⟩,
    ⟨"lan", "text/plain", ⟨"v2"⟩, [69, 116, 97, 103, 58, 13, 10]⟩]

/-- The parts of the sample survive a round trip. -/
theorem portable_of_mem_namesakes : ∀ p ∈ namesakes, p.Portable := by
  have hname : Text.Plain "lan" := Text.plain_of_all (by decide)
  rw [namesakes, List.forall_mem_cons, List.forall_mem_singleton]
  constructor
  · exact ⟨hname, Text.plain_of_all (by decide), ⟨by decide, by decide⟩, by decide⟩
  · exact ⟨hname, Text.plain_of_all (by decide), Text.plain_of_all (by decide), by decide⟩

/-- The later namesake is found under a given boundary and under a drawn one. -/
theorem decode_encoded_namesakes :
    (∀ p ∈ namesakes, p.Portable) ∧ Legible "a=b" ∧
      (∃ message found, encodeWith namesakes "a=b" = .ok message ∧
        decode message.contentType message.body = .ok found ∧ KeepsLast namesakes found) ∧
      (∃ message found, (encode namesakes ⟨7⟩).1 = .ok message ∧
        decode message.contentType message.body = .ok found ∧ KeepsLast namesakes found) := by
  have hparts := portable_of_mem_namesakes
  have hb : Legible "a=b" := legible_of_all (by decide)
  have hgiven : isFree namesakes "a=b" = true := by decide
  have hdrawn : isFree namesakes (boundaryAt 7) = true := by decide
  have hwith : encodeWith namesakes "a=b" = .ok ⟨"a=b", writeBody "a=b" namesakes⟩ :=
    encodeWith_eq_ok_iff.2 ⟨by decide, hgiven, rfl⟩
  have hencode : (encode namesakes ⟨7⟩).1 =
      .ok ⟨boundaryAt 7, writeBody (boundaryAt 7) namesakes⟩ := by
    rw [encode, boundaryAttempts, encodeWithin_succ, if_pos hdrawn, encodeWith_of_free hdrawn]
  obtain ⟨found, hfound⟩ := (decode_encoded hparts).1 _ _ hb hwith
  obtain ⟨found', hfound'⟩ := (decode_encoded hparts).2 _ _ hencode
  exact ⟨hparts, hb, ⟨_, found, hwith, hfound⟩, _, found', hencode, hfound'⟩

end Multipart
end GatewayConfig
