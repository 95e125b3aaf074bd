import GatewayConfig.Multipart.Decode
import GatewayConfig.Proofs.Bytes.Occurrence
import Mathlib.Data.List.Forall2

/-!
# The grammar of multipart messages

What a decoder accepts, said without offsets and without a loop: `IsPart` is the layout of one
part, and `Framed` that of the parts between the first delimiter and the closing one. The main
statement, `decode_eq_ok_iff`, says that decoding accepts exactly this, and that what it returns is
a map into which the parts were put one after the other.
-/

namespace GatewayConfig.Multipart

/-- A header line with its name, in lower case, and its value, both without white space at their
ends. The name reaches to the first colon. -/
def IsField (line name value : String) : Prop :=
  ∃ before after : String, line.toList = before.toList ++ ':' :: after.toList ∧
    ':' ∉ before.toList ∧ name = Text.lower (Text.trim before) ∧ value = Text.trim after

/-- The last of the lines with the given name has the value. -/
def Declares (lines : List String) (name value : String) : Prop :=
  ∃ earlier line later, lines = earlier ++ line :: later ∧ IsField line name value ∧
    ∀ l ∈ later, ∀ v, ¬ IsField l name v

/-- No line has the name. -/
def Omits (lines : List String) (name : String) : Prop :=
  ∀ l ∈ lines, ∀ v, ¬ IsField l name v

/-- A line is read as a header exactly when it is a field of that name and that value. -/
theorem readHeader_eq_ok_iff {line name value : String} :
    readHeader line = .ok (name, value) ↔ IsField line name value := by
  unfold readHeader IsField
  constructor
  · intro h
    split at h
    · next before after hc =>
      obtain ⟨rfl, rfl⟩ := Prod.mk.inj (Except.ok.inj h)
      obtain ⟨hl, hn⟩ := Text.cut?_eq_some_iff.1 hc
      exact ⟨before, after, hl, hn, rfl, rfl⟩
    · cases h
  · rintro ⟨before, after, hl, hn, rfl, rfl⟩
    rw [Text.cut?_eq_some_iff.2 ⟨hl, hn⟩]

/-- A line is a field in one way at most: the name ends at the first colon. -/
theorem IsField.unique {line name value name' value' : String} (h : IsField line name value)
    (h' : IsField line name' value') : name = name' ∧ value = value' := by
  have := (readHeader_eq_ok_iff.2 h).symm.trans (readHeader_eq_ok_iff.2 h')
  simpa using this

/-- A line is a field exactly when it holds a colon. The name and the value may be empty. -/
theorem exists_isField_iff {line : String} :
    (∃ name value, IsField line name value) ↔ ':' ∈ line.toList := by
  simp only [← readHeader_eq_ok_iff, readHeader]
  cases hc : Text.cut? ':' line with
  | none => simp [Text.cut?_eq_none_iff.1 hc]
  | some pair =>
    obtain ⟨before, after⟩ := pair
    simp [(Text.cut?_eq_some_iff.1 hc).1]

/-- No lines declare nothing. -/
@[simp] theorem not_declares_nil {name value : String} : ¬ Declares [] name value := by
  simp [Declares]

/-- No lines omit every name. -/
@[simp] theorem omits_nil {name : String} : Omits [] name := by
  simp [Omits]

/-- Lines omit a name when the first is not a field of that name and the others omit it. -/
theorem omits_cons_iff {line : String} {lines : List String} {name : String} :
    Omits (line :: lines) name ↔ (∀ v, ¬ IsField line name v) ∧ Omits lines name := by
  simp [Omits]

/-- A first line counts only when no later line has its name. -/
theorem declares_cons_iff {line : String} {lines : List String} {name value : String} :
    Declares (line :: lines) name value ↔
      Declares lines name value ∨ (IsField line name value ∧ Omits lines name) := by
  constructor
  · rintro ⟨earlier, l, later, he, hf, hl⟩
    cases earlier with
    | nil =>
      obtain ⟨rfl, rfl⟩ := List.cons.inj he
      exact .inr ⟨hf, hl⟩
    | cons e earlier =>
      obtain ⟨rfl, rfl⟩ := List.cons.inj he
      exact .inl ⟨earlier, l, later, rfl, hf, hl⟩
  · rintro (⟨earlier, l, later, rfl, hf, hl⟩ | ⟨hf, ho⟩)
    · exact ⟨line :: earlier, l, later, rfl, hf, hl⟩
    · exact ⟨[], line, lines, rfl, hf, ho⟩

/-- The last field of a name counts: the first is read only when no later one has its name. -/
theorem header?_cons (field : String × String) (fields : List (String × String)) (name : String) :
    header? (field :: fields) name =
      (header? fields name).or (if name = field.1 then some field.2 else none) := by
  obtain ⟨key, value⟩ := field
  rw [header?, List.reverse_cons, List.lookup_append, header?, List.lookup_singleton]
  simp only [beq_iff_eq]

/-- Looking a name up in the fields that were read gives what the lines declare. -/
theorem header?_eq_iff {lines : List String} {fields : List (String × String)}
    (h : List.Forall₂ (fun line field => IsField line field.1 field.2) lines fields)
    (name : String) :
    (∀ value, header? fields name = some value ↔ Declares lines name value) ∧
      (header? fields name = none ↔ Omits lines name) := by
  induction h with
  | nil => simp [header?]
  | @cons line field lines fields hf _ ih =>
    obtain ⟨ihs, ihn⟩ := ih
    have hname : ∀ v, IsField line name v ↔ name = field.1 ∧ v = field.2 := by
      intro v
      exact ⟨fun hv => hv.unique hf, fun ⟨hn, hv⟩ => hn ▸ hv ▸ hf⟩
    constructor
    · intro value
      rw [header?_cons, declares_cons_iff, ← ihs, hname, ← ihn]
      cases header? fields name with
      | none => simp [eq_comm]
      | some v => simp
    · rw [header?_cons, omits_cons_iff, ← ihn]
      simp only [hname, Option.or_eq_none_iff]
      constructor
      · rintro ⟨hn, hi⟩
        refine ⟨fun v hv => ?_, hn⟩
        simp [hv.1] at hi
      · rintro ⟨hv, hn⟩
        refine ⟨hn, if_neg fun hname => hv field.2 ⟨hname, rfl⟩⟩

/-- The lines of a header block that are not empty. -/
def fieldLines (text : String) : List String := (Text.lines text).filter (· ≠ "")

/-- Lines are read as fields exactly when each is the field in its place. One line without a colon
fails them all. -/
theorem mapM_readHeader_eq_ok_iff {lines : List String} {fields : List (String × String)} :
    lines.mapM readHeader = .ok fields ↔
      List.Forall₂ (fun line field => IsField line field.1 field.2) lines fields := by
  induction lines generalizing fields with
  | nil =>
    simp only [List.mapM_nil, List.forall₂_nil_left_iff]
    exact ⟨fun h => (Except.ok.inj h).symm, fun h => h ▸ rfl⟩
  | cons line lines ih =>
    rw [List.mapM_cons, List.forall₂_cons_left_iff]
    cases hr : readHeader line with
    | error e =>
      simp only [bind, Except.bind, reduceCtorEq, false_iff]
      rintro ⟨field, _, hf, -⟩
      rw [readHeader_eq_ok_iff.2 hf] at hr
      cases hr
    | ok field =>
      cases hm : lines.mapM readHeader with
      | error e =>
        simp only [bind, Except.bind, reduceCtorEq, false_iff]
        rintro ⟨_, fields, _, hf, -⟩
        rw [ih.2 hf] at hm
        cases hm
      | ok rest =>
        simp only [bind, Except.bind, pure, Except.pure, Except.ok.injEq]
        constructor
        · rintro rfl
          exact ⟨field, rest, readHeader_eq_ok_iff.1 hr, ih.1 hm, rfl⟩
        · rintro ⟨field', rest', hf, hfs, rfl⟩
          rw [ih.2 hfs] at hm
          rw [readHeader_eq_ok_iff.2 hf] at hr
          obtain rfl : field' = field := Except.ok.inj hr
          rw [Except.ok.inj hm]

/-- A header block is read exactly when it is UTF-8 and every line that is not empty has a
colon. -/
theorem readHeaders_eq_ok_iff {block : Bytes} {fields : List (String × String)} :
    readHeaders block = .ok fields ↔
      ∃ text, block = Bytes.ofText text ∧
        List.Forall₂ (fun line field => IsField line field.1 field.2) (fieldLines text) fields := by
  unfold readHeaders
  cases ht : Bytes.text? block with
  | none =>
    simp only [reduceCtorEq, false_iff]
    rintro ⟨text, rfl, -⟩
    rw [Bytes.text?_ofText] at ht
    cases ht
  | some text =>
    obtain rfl := Bytes.text?_eq_some_iff.1 ht
    simp only [mapM_readHeader_eq_ok_iff]
    constructor
    · exact fun h => ⟨text, rfl, h⟩
    · rintro ⟨t, he, h⟩
      rwa [Bytes.ofText_injective he]

/-- Fields can be read off lines exactly when every line has a colon. -/
theorem exists_fields_iff {lines : List String} :
    (∃ fields : List (String × String),
      List.Forall₂ (fun line field => IsField line field.1 field.2) lines fields) ↔
      ∀ line ∈ lines, ':' ∈ line.toList := by
  induction lines with
  | nil => simp
  | cons line lines ih =>
    rw [List.forall_mem_cons, ← ih, ← exists_isField_iff]
    constructor
    · rintro ⟨_, h⟩
      cases h with
      | cons hf hfs => exact ⟨⟨_, _, hf⟩, _, hfs⟩
    · rintro ⟨⟨name, value, hf⟩, fields, hfs⟩
      exact ⟨(name, value) :: fields, .cons hf hfs⟩

/-- How one part is laid out, from the line break after its delimiter on. The text is that of its
header block, and what follows is what stands behind the next delimiter. -/
structure IsPart (delimiter : Bytes) (text : String) (part : Part) (follow b : Bytes) : Prop where
  /-- The header block, a blank line, the payload and a line with the next delimiter. -/
  layout : b = Bytes.ofText text ++ Bytes.crlf ++ Bytes.crlf ++ part.bytes ++ Bytes.crlf ++
    delimiter ++ follow
  /-- There is a header. -/
  nonempty : text ≠ ""
  /-- The block does not start with an empty line. -/
  noBlankStart : ¬ Bytes.crlf <+: Bytes.ofText text
  /-- The block ends at the first blank line. -/
  blockEnd : Bytes.FirstAt (Bytes.crlf ++ Bytes.crlf) b (Bytes.ofText text).length
  /-- Every line of the block that is not empty has a colon. -/
  colons : ∀ line ∈ fieldLines text, ':' ∈ line.toList
  /-- The part has the name of the block. -/
  name : Declares (fieldLines text) "namespace" part.name
  /-- The part has the version of the block, or an empty one. -/
  version : Declares (fieldLines text) "etag" part.version.token ∨
    Omits (fieldLines text) "etag" ∧ part.version.token = ""
  /-- The part has the media type of the block, or the default one. -/
  contentType : Declares (fieldLines text) "content-type" part.contentType ∨
    Omits (fieldLines text) "content-type" ∧ part.contentType = defaultContentType
  /-- A stated length is that of the payload. -/
  stated : ∀ value, Declares (fieldLines text) "content-length" value →
    Text.unsignedBits? 64 value = some part.bytes.length
  /-- Without a stated length the payload ends at the first line that starts with the delimiter. -/
  scanned : Omits (fieldLines text) "content-length" →
    Bytes.FirstAt (Bytes.crlf ++ delimiter)
      (part.bytes ++ Bytes.crlf ++ delimiter ++ follow) part.bytes.length

/-- Without a stated length the payload is cut off at the first line that starts with the
delimiter. -/
theorem splitContent_none_eq_ok_iff {delimiter b : Bytes} {index : Nat} {split : Bytes × Bytes} :
    splitContent delimiter index none b = .ok split ↔
      Bytes.cut? (Bytes.crlf ++ delimiter) b = some split := by
  unfold splitContent
  cases Bytes.cut? (Bytes.crlf ++ delimiter) b with
  | none => simp
  | some found => simp

/-- With a stated length the payload is counted off, and the delimiter has to follow on a line of
its own. -/
theorem splitContent_some_eq_ok_iff {delimiter b bytes follow : Bytes} {index : Nat}
    {value : String} :
    splitContent delimiter index (some value) b = .ok (bytes, follow) ↔
      ∃ n rest, Text.unsignedBits? 64 value = some n ∧ Bytes.splitAt? n b = some (bytes, rest) ∧
        Bytes.after? (Bytes.crlf ++ delimiter) rest = some follow := by
  unfold splitContent
  constructor
  · intro h
    dsimp only at h
    split at h
    · cases h
    next n hn =>
    split at h
    · cases h
    next content rest hs =>
    split at h
    · cases h
    next after ha =>
    obtain ⟨rfl, rfl⟩ := Prod.mk.inj (Except.ok.inj h)
    exact ⟨n, rest, hn, hs, ha⟩
  · rintro ⟨n, rest, hn, hs, ha⟩
    simp only [hn, hs, ha]

/-- The payload that a length, if one is stated, leaves before the next delimiter. -/
theorem splitContent_eq_ok_iff {delimiter b bytes follow : Bytes} {index : Nat}
    {length : Option String} :
    splitContent delimiter index length b = .ok (bytes, follow) ↔
      b = bytes ++ Bytes.crlf ++ delimiter ++ follow ∧
        (∀ value, length = some value → Text.unsignedBits? 64 value = some bytes.length) ∧
        (length = none → Bytes.FirstAt (Bytes.crlf ++ delimiter) b bytes.length) := by
  cases length with
  | none =>
    rw [splitContent_none_eq_ok_iff, Bytes.cut?_eq_some_iff]
    simp
  | some value =>
    rw [splitContent_some_eq_ok_iff]
    constructor
    · rintro ⟨n, rest, hn, hs, ha⟩
      obtain ⟨rfl, rfl⟩ := Bytes.splitAt?_eq_some_iff.1 hs
      obtain rfl := Bytes.after?_eq_some_iff.1 ha
      exact ⟨by simp, fun value' hvalue => Option.some.inj hvalue ▸ hn, nofun⟩
    · rintro ⟨hb, hstated, -⟩
      exact ⟨bytes.length, Bytes.crlf ++ delimiter ++ follow, hstated value rfl,
        Bytes.splitAt?_eq_some_iff.2 ⟨by simpa using hb, rfl⟩, Bytes.after?_eq_some_iff.2 rfl⟩

/-- A part is split either after a leading line end, with no headers, or at the first empty line.
Nothing is assumed of the bytes before it. -/
theorem splitHeaders?_eq_some_iff {b block content : Bytes} :
    splitHeaders? b = some (block, content) ↔
      (block = [] ∧ b = Bytes.crlf ++ content) ∨
      (¬ Bytes.crlf <+: b ∧ b = block ++ Bytes.crlf ++ Bytes.crlf ++ content ∧
        Bytes.FirstAt (Bytes.crlf ++ Bytes.crlf) b block.length) := by
  unfold splitHeaders?
  cases ha : Bytes.after? Bytes.crlf b with
  | some rest =>
    obtain rfl := Bytes.after?_eq_some_iff.1 ha
    simp [eq_comm]
  | none =>
    have hn : ¬ Bytes.crlf <+: b := by
      rintro ⟨rest, rfl⟩
      rw [Bytes.after?_eq_some_iff.2 rfl] at ha
      cases ha
    have hne : b ≠ Bytes.crlf ++ content := fun h => hn ⟨content, h.symm⟩
    simp [Bytes.cut?_eq_some_iff, hn, hne]

/-- Fields and bytes make a part exactly when they name it and its entity tag, absent or not, is
legal. The media type has a default and the bytes are taken as they are. -/
theorem assemble_eq_ok_iff {index : Nat} {fields : List (String × String)} {bytes : Bytes}
    {part : Part} :
    assemble index fields bytes = .ok part ↔
      header? fields "namespace" = some part.name ∧
        part.version.token = (header? fields "etag").getD "" ∧
        part.contentType = (header? fields "content-type").getD defaultContentType ∧
        part.bytes = bytes := by
  unfold assemble
  obtain ⟨name, contentType, ⟨token⟩, payload⟩ := part
  cases header? fields "namespace" with
  | none => simp
  | some found =>
    simp only [Except.ok.injEq, Part.mk.injEq, Version.mk.injEq, Option.some.injEq]
    constructor
    · rintro ⟨rfl, rfl, rfl, rfl⟩
      simp
    · rintro ⟨rfl, rfl, rfl, rfl⟩
      simp

/-- A part is read when each of the four steps succeeds. -/
theorem readPart_eq_ok_iff_steps {delimiter b follow : Bytes} {index : Nat} {part : Part} :
    readPart delimiter index b = .ok (part, follow) ↔
      ∃ block content fields bytes, splitHeaders? b = some (block, content) ∧
        readHeaders block = .ok fields ∧
        splitContent delimiter index (header? fields "content-length") content =
          .ok (bytes, follow) ∧
        assemble index fields bytes = .ok part := by
  unfold readPart
  constructor
  · intro h
    split at h
    · cases h
    · next block content hs =>
      split at h
      · cases h
      · next fields hr =>
        split at h
        · cases h
        · next bytes rest hc =>
          cases ha : assemble index fields bytes with
          | error e => simp [ha, Except.map] at h
          | ok found =>
            simp only [ha, Except.map, Except.ok.injEq, Prod.mk.injEq] at h
            obtain ⟨rfl, rfl⟩ := h
            exact ⟨block, content, fields, bytes, hs, hr, hc, ha⟩
  · rintro ⟨block, content, fields, bytes, hs, hr, hc, ha⟩
    simp only [hs, hr, hc, ha, Except.map]

/-- A value with a default is the declared one, or the default when none is declared. -/
theorem eq_getD_header?_iff {lines : List String} {fields : List (String × String)}
    (h : List.Forall₂ (fun line field => IsField line field.1 field.2) lines fields)
    {name default value : String} :
    value = (header? fields name).getD default ↔
      Declares lines name value ∨ Omits lines name ∧ value = default := by
  obtain ⟨hs, hn⟩ := header?_eq_iff h name
  rw [← hs, ← hn]
  cases header? fields name with
  | none => simp
  | some v => simp [eq_comm]

/-- An empty block of headers has no lines. -/
theorem fieldLines_empty : fieldLines "" = [] := by
  simp [fieldLines, Text.lines, Text.lineChars]

/-- What is read as a part is laid out as one. -/
theorem exists_isPart_of_readPart {delimiter b follow : Bytes} {index : Nat} {part : Part}
    (h : readPart delimiter index b = .ok (part, follow)) :
    ∃ text, IsPart delimiter text part follow b := by
  obtain ⟨block, content, fields, bytes, hs, hr, hc, ha⟩ := readPart_eq_ok_iff_steps.1 h
  obtain ⟨text, rfl, hf⟩ := readHeaders_eq_ok_iff.1 hr
  obtain ⟨hname, hversion, htype, rfl⟩ := assemble_eq_ok_iff.1 ha
  obtain ⟨hcontent, hstated, hscanned⟩ := splitContent_eq_ok_iff.1 hc
  have hdeclares := fun name => (header?_eq_iff hf name).1
  have homits := fun name => (header?_eq_iff hf name).2
  have hne : text ≠ "" := by
    rintro rfl
    rw [fieldLines_empty, List.forall₂_nil_left_iff] at hf
    subst hf
    cases hname
  rcases splitHeaders?_eq_some_iff.1 hs with ⟨hempty, -⟩ | ⟨hstart, hb, hend⟩
  · exact absurd (Bytes.ofText_injective (t := "") hempty) hne
  · refine ⟨text, ?_, hne, fun hp => hstart ?_, hend, exists_fields_iff.1 ⟨fields, hf⟩,
      (hdeclares _ _).1 hname, (eq_getD_header?_iff hf).1 hversion,
      (eq_getD_header?_iff hf).1 htype, fun value hv => ?_, fun ho => ?_⟩
    · simp [hb, hcontent]
    · exact hp.trans ⟨Bytes.crlf ++ (Bytes.crlf ++ content), by simp [hb]⟩
    · exact hstated value ((hdeclares _ _).2 hv)
    · exact hcontent ▸ hscanned ((homits _).2 ho)

/-- The headers of a part are split from what follows them. -/
theorem IsPart.splitHeaders?_eq {delimiter b follow : Bytes} {text : String} {part : Part}
    (h : IsPart delimiter text part follow b) :
    splitHeaders? b =
      some (Bytes.ofText text, part.bytes ++ Bytes.crlf ++ delimiter ++ follow) := by
  refine splitHeaders?_eq_some_iff.2 (.inr ⟨?_, by simp [h.layout], h.blockEnd⟩)
  have hne : Bytes.ofText text ≠ [] := fun he =>
    h.nonempty (Bytes.ofText_injective (t := "") he)
  have hstart := Bytes.not_crlf_prefix_append hne h.noBlankStart
    (Bytes.crlf ++ part.bytes ++ Bytes.crlf ++ delimiter ++ follow)
  simpa [h.layout] using hstart

/-- What is laid out as a part is read as one. -/
theorem IsPart.readPart_eq {delimiter b follow : Bytes} {text : String} {part : Part}
    (h : IsPart delimiter text part follow b) (index : Nat) :
    readPart delimiter index b = .ok (part, follow) := by
  obtain ⟨fields, hf⟩ := exists_fields_iff.2 h.colons
  have hdeclares := fun name => (header?_eq_iff hf name).1
  have homits := fun name => (header?_eq_iff hf name).2
  refine readPart_eq_ok_iff_steps.2 ⟨_, _, fields, part.bytes, h.splitHeaders?_eq,
    readHeaders_eq_ok_iff.2 ⟨text, rfl, hf⟩, ?_, ?_⟩
  · refine splitContent_eq_ok_iff.2 ⟨rfl, fun value hv => ?_, fun hn => ?_⟩
    · exact h.stated value ((hdeclares _ _).1 hv)
    · exact h.scanned ((homits _).1 hn)
  · exact assemble_eq_ok_iff.2 ⟨(hdeclares _ _).2 h.name, (eq_getD_header?_iff hf).2 h.version,
      (eq_getD_header?_iff hf).2 h.contentType, rfl⟩

/-- Reading a part accepts exactly the layout. -/
theorem readPart_eq_ok_iff {delimiter b follow : Bytes} {index : Nat} {part : Part} :
    readPart delimiter index b = .ok (part, follow) ↔
      ∃ text, IsPart delimiter text part follow b :=
  ⟨exists_isPart_of_readPart, fun ⟨_, h⟩ => h.readPart_eq index⟩

/-- What may follow a delimiter: two dashes and anything, or a line break, a part that reaches to
the next delimiter, and what may follow that one. -/
inductive Framed (delimiter : Bytes) : Bytes → List Part → Prop where
  /-- The message ends, whatever stands behind. -/
  | close (epilogue : Bytes) : Framed delimiter ([45, 45] ++ epilogue) []
  /-- One more part. -/
  | part {text : String} {part : Part} {follow b : Bytes} {parts : List Part}
      (layout : IsPart delimiter text part follow b) (rest : Framed delimiter follow parts) :
      Framed delimiter (Bytes.crlf ++ b) (part :: parts)

/-- What is read as the parts of a message is framed by delimiters. -/
theorem framed_of_readParts {delimiter b : Bytes} {total index : Nat} {parts : List Part}
    (h : readParts delimiter total index b = .ok parts) : Framed delimiter b parts := by
  fun_induction readParts delimiter total index b generalizing parts with
  | case1 index b epilogue he =>
    obtain rfl := Except.ok.inj h
    obtain rfl := Bytes.after?_eq_some_iff.1 he
    exact .close epilogue
  | case2 => cases h
  | case3 => cases h
  | case4 index b _ b' hb part rest hp ih =>
    obtain rfl := Bytes.after?_eq_some_iff.1 hb
    obtain ⟨text, hl⟩ := readPart_eq_ok_iff.1 hp
    cases hr : readParts delimiter total (index + 1) rest with
    | error e => simp [hr, Functor.map, Except.map] at h
    | ok found =>
      simp only [hr, Functor.map, Except.map, Except.ok.injEq] at h
      obtain rfl := h
      exact .part hl (ih hr)

/-- What is framed by delimiters is read as its parts, whatever number the first one has. -/
theorem Framed.readParts_eq {delimiter b : Bytes} {parts : List Part}
    (h : Framed delimiter b parts) (total index : Nat) :
    readParts delimiter total index b = .ok parts := by
  induction h generalizing index with
  | close epilogue =>
    rw [readParts, Bytes.after?_eq_some_iff.2 rfl]
  | @part text part follow b parts layout _ ih =>
    have hdashes : Bytes.after? [45, 45] (Bytes.crlf ++ b) = none := rfl
    rw [readParts]
    simp only [hdashes]
    split
    next hb =>
      rw [Bytes.after?_eq_some_iff.2 rfl] at hb
      cases hb
    next b' hb =>
      obtain rfl : b = b' := List.append_cancel_left (Bytes.after?_eq_some_iff.1 hb)
      split
      next e hp =>
        rw [layout.readPart_eq] at hp
        cases hp
      next found rest hp =>
        rw [layout.readPart_eq] at hp
        obtain ⟨rfl, rfl⟩ := Prod.mk.inj (Except.ok.inj hp)
        rw [ih]
        rfl

/-- Reading the parts of a message accepts exactly what is framed by delimiters. -/
theorem readParts_eq_ok_iff {delimiter b : Bytes} {total index : Nat} {parts : List Part} :
    readParts delimiter total index b = .ok parts ↔ Framed delimiter b parts :=
  ⟨framed_of_readParts, fun h => h.readParts_eq total index⟩

/-- Put a part into a map from names to parts, in place of an earlier part with its name. -/
def place (parts : List Part) (part : Part) : List Part :=
  parts.filter (fun p => p.name != part.name) ++ [part]

/-- Parts put into a map that holds some already: those with a name of a new part are replaced. -/
theorem foldl_place_eq (parts found : List Part) :
    parts.foldl place found =
      found.filter (fun p => !parts.any (·.name == p.name)) ++ lastByName parts := by
  induction parts generalizing found with
  | nil => simp [lastByName]
  | cons p parts ih =>
    have hnames : ∀ q : Part, (!(p :: parts).any (·.name == q.name)) =
        (!parts.any (·.name == q.name) && q.name != p.name) := by
      intro q
      rw [List.any_cons, Bool.not_or, Bool.and_comm, bne, BEq.comm]
    have hlast : [p].filter (fun p => !parts.any (·.name == p.name)) ++ lastByName parts =
        lastByName (p :: parts) := by
      rw [lastByName]
      cases h : parts.any (·.name == p.name) <;> simp [h]
    rw [List.foldl_cons, ih, place, List.filter_append, List.filter_filter, List.append_assoc,
      hlast]
    congr 2
    funext q
    exact (hnames q).symm

/-- Decoding keeps what a map keeps into which the parts are put one after the other. -/
theorem lastByName_eq_foldl (parts : List Part) : lastByName parts = parts.foldl place [] := by
  simp [foldl_place_eq]

/-- Decoding puts the parts it reads into a map. -/
theorem map_lastByName_eq_ok_iff {result : Except Error (List Part)} {found : List Part} :
    lastByName <$> result = .ok found ↔
      ∃ parts, result = .ok parts ∧ found = parts.foldl place [] := by
  cases result with
  | error e => simp [Functor.map, Except.map]
  | ok parts => simp [Functor.map, Except.map, lastByName_eq_foldl, eq_comm]

/-- A framed message is decoded into the map of its parts. -/
theorem decode_of_framed {contentType boundary : String} {preamble rest : Bytes}
    {parts : List Part} (hb : boundaryOf? contentType = some boundary)
    (hf : Bytes.FirstAt (delimiter boundary) (preamble ++ delimiter boundary ++ rest)
      preamble.length)
    (hp : Framed (delimiter boundary) rest parts) :
    decode contentType (preamble ++ delimiter boundary ++ rest) = .ok (parts.foldl place []) := by
  simp only [decode, hb, Bytes.cut?_eq_some_iff.2 ⟨rfl, hf⟩]
  exact map_lastByName_eq_ok_iff.2 ⟨parts, readParts_eq_ok_iff.2 hp, rfl⟩

/-- Decoding accepts exactly the bodies in which the first delimiter of the boundary is followed
by framed parts, and returns the map into which these parts are put in order. -/
theorem decode_eq_ok_iff (contentType : String) (body : Bytes) (found : List Part) :
    decode contentType body = .ok found ↔
      ∃ boundary, boundaryOf? contentType = some boundary ∧
        ∃ preamble rest parts, body = preamble ++ delimiter boundary ++ rest ∧
          Bytes.FirstAt (delimiter boundary) body preamble.length ∧
          Framed (delimiter boundary) rest parts ∧ found = parts.foldl place [] := by
  constructor
  · intro h
    unfold decode at h
    split at h
    · cases h
    · next boundary hb =>
      split at h
      · cases h
      · next preamble rest hc =>
        obtain ⟨hbody, hf⟩ := Bytes.cut?_eq_some_iff.1 hc
        obtain ⟨parts, hr, hfound⟩ := map_lastByName_eq_ok_iff.1 h
        exact ⟨boundary, hb, preamble, rest, parts, hbody, hf, readParts_eq_ok_iff.1 hr, hfound⟩
  · rintro ⟨boundary, hb, preamble, rest, parts, rfl, hf, hp, rfl⟩
    exact decode_of_framed hb hf hp

end GatewayConfig.Multipart
