import GatewayConfig.Proofs.Multipart.RoundTrip
import GatewayConfig.Proofs.Version

/-!
# Reading without stated lengths

The encoder states the length of every payload, so the decoder need not look for delimiters in
them. It finds the same parts when it has to: a delimiter without a carriage return that occurs in
no payload does not reach over the end of one either, since a line with it starts with its only
carriage return. `decode_unstated` says that the lines that state lengths may be left out of any
of the parts.
-/

namespace GatewayConfig.Multipart

/-- The header line that states the length of a payload. -/
def lengthHeader (p : Part) : Bytes := writeHeader "Content-Length" (toString p.bytes.length)

/-- A part up to the line that states its length. -/
def beforeLength (boundary : String) (p : Part) : Bytes :=
  delimiter boundary ++ Bytes.crlf ++ writeHeader "Content-Type" p.contentType ++
    writeHeader "Namespace" p.name ++ writeHeader "Etag" p.version.token

/-- A part behind the line that states its length. -/
def afterLength (p : Part) : Bytes := Bytes.crlf ++ p.bytes ++ Bytes.crlf

/-- A written part states its length on a line of its own. -/
theorem writePart_eq (boundary : String) (p : Part) :
    writePart boundary p = beforeLength boundary p ++ lengthHeader p ++ afterLength p := by
  simp only [writePart, writeHeaders, beforeLength, lengthHeader, afterLength, List.append_assoc]

/-- A part that states its length or not. -/
def writeUnstated (boundary : String) (p : Part) (stated : Bool) : Bytes :=
  beforeLength boundary p ++ (if stated then lengthHeader p else []) ++ afterLength p

/-- A body whose parts state their lengths or not. -/
def writeBodyUnstated (boundary : String) (parts : List (Part × Bool)) : Bytes :=
  (parts.flatMap fun p => writeUnstated boundary p.1 p.2) ++ delimiter boundary ++ [45, 45] ++
    Bytes.crlf

/-- With all lengths stated, the body is the one that is written. -/
theorem writeBodyUnstated_all (boundary : String) (parts : List Part) :
    writeBodyUnstated boundary (parts.map fun p => (p, true)) = writeBody boundary parts := by
  simp only [writeBodyUnstated, writeUnstated, writeBody, List.flatMap_map, if_true,
    ← writePart_eq]

/-- The header lines of a part that does not state its length. -/
def unstatedLines (p : Part) : List String :=
  [fieldLine "Content-Type" p.contentType, fieldLine "Namespace" p.name,
    fieldLine "Etag" p.version.token]

/-- In a payload that holds no delimiter, the first line with one is the line behind the payload. -/
theorem firstAt_delimiter {boundary : String} {bytes : Bytes} (hcr : '\r' ∉ boundary.toList)
    (h : ¬ delimiter boundary <:+: bytes) (follow : Bytes) :
    Bytes.FirstAt (Bytes.crlf ++ delimiter boundary)
      (bytes ++ Bytes.crlf ++ delimiter boundary ++ follow) bytes.length := by
  have htext : '\r' ∉ ("--" ++ boundary).toList := by
    rw [String.toList_append, List.mem_append, not_or]
    exact ⟨by decide, hcr⟩
  have hdelimiter : 13 ∉ delimiter boundary := fun hm =>
    htext ((Bytes.mem_ofText_iff (c := '\r') (by decide)).1 hm)
  have htail : 13 ∉ 10 :: delimiter boundary := by
    rw [List.mem_cons, not_or]
    exact ⟨by decide, hdelimiter⟩
  have hneedle : ¬ 13 :: 10 :: delimiter boundary <:+: bytes := fun hi =>
    h ((List.suffix_append [13, 10] (delimiter boundary)).isInfix.trans hi)
  have hfirst := Bytes.firstAt_append_of_not_mem htail hneedle follow
  simpa [Bytes.crlf] using hfirst

/-- With a carriage return in the boundary, the end of a payload can make a delimiter together with
the line end and the delimiter behind it. -/
example :
    (delimiter "a\r\n--a").occursIn (Bytes.ofText "\r\n--a") = false ∧
      Bytes.cut? (Bytes.crlf ++ delimiter "a\r\n--a")
        (Bytes.ofText "\r\n--a" ++ Bytes.crlf ++ delimiter "a\r\n--a") =
          some ([], Bytes.ofText "\r\n--a") := by
  decide

/-- A part that does not state its length is laid out as a part nevertheless. -/
theorem isPart_unstated {boundary : String} {p : Part} (h : p.Portable)
    (hcr : '\r' ∉ boundary.toList) (hfree : ¬ delimiter boundary <:+: p.bytes) (follow : Bytes) :
    IsPart (delimiter boundary) (Text.joinLines (unstatedLines p)) p follow
      (Bytes.ofText (Text.joinLines (unstatedLines p)) ++ Bytes.crlf ++ Bytes.crlf ++ p.bytes ++
        Bytes.crlf ++ delimiter boundary ++ follow) := by
  have hf : List.Forall₂ (fun line field => IsField line field.1 field.2) (unstatedLines p)
      [("content-type", p.contentType), ("namespace", p.name), ("etag", p.version.token)] :=
    .cons (isField_fieldLine (by decide) rfl h.contentType) <|
      .cons (isField_fieldLine (by decide) rfl h.name) <|
      .cons (isField_fieldLine (by decide) rfl h.version) .nil
  refine isPart_of_fields hf ?_ rfl rfl rfl ?_ ?_
  · simp only [unstatedLines, List.mem_cons, List.not_mem_nil, or_false]
    rintro l (rfl | rfl | rfl)
    · exact oneLine_fieldLine (by decide) h.contentType.oneLine
    · exact oneLine_fieldLine (by decide) h.name.oneLine
    · exact oneLine_fieldLine (by decide) h.version.oneLine
  · intro value hv
    cases hv
  · exact fun _ => firstAt_delimiter hcr hfree follow

/-- Behind its delimiter, a part is laid out whether it states its length or not. -/
theorem exists_isPart_writeUnstated {boundary : String} {p : Part} (h : p.Portable)
    (hcr : '\r' ∉ boundary.toList) (hfree : ¬ delimiter boundary <:+: p.bytes) (stated : Bool)
    (follow : Bytes) :
    ∃ text b, writeUnstated boundary p stated ++ delimiter boundary ++ follow =
        delimiter boundary ++ Bytes.crlf ++ b ∧
      IsPart (delimiter boundary) text p follow b := by
  cases stated with
  | true =>
    refine ⟨_, _, ?_, isPart_writeHeaders h (delimiter boundary) follow⟩
    rw [writeUnstated, if_pos rfl, ← writePart_eq, writePart]
    simp only [List.append_assoc]
  | false =>
    refine ⟨_, _, ?_, isPart_unstated h hcr hfree follow⟩
    simp only [writeUnstated, beforeLength, afterLength, writeHeader_eq, unstatedLines,
      Text.joinLines, Bytes.ofText_append, Bytes.ofText_crlf, Bool.false_eq_true, if_false,
      List.append_assoc, List.append_nil]

/-- A body is a delimiter with the framed parts behind it, whichever lengths are stated. -/
theorem exists_framed_unstated {boundary : String} {parts : List (Part × Bool)}
    (h : ∀ p ∈ parts, p.1.Portable) (hcr : '\r' ∉ boundary.toList)
    (hfree : ∀ p ∈ parts, ¬ delimiter boundary <:+: p.1.bytes) :
    ∃ rest, writeBodyUnstated boundary parts = delimiter boundary ++ rest ∧
      Framed (delimiter boundary) rest (parts.map Prod.fst) := by
  induction parts with
  | nil => exact ⟨[45, 45] ++ Bytes.crlf, by simp [writeBodyUnstated], .close Bytes.crlf⟩
  | cons p parts ih =>
    obtain ⟨hp, hps⟩ := List.forall_mem_cons.1 h
    obtain ⟨hpfree, hpsfree⟩ := List.forall_mem_cons.1 hfree
    obtain ⟨rest, hbody, hrest⟩ := ih hps hpsfree
    obtain ⟨text, b, hlayout, hpart⟩ := exists_isPart_writeUnstated hp hcr hpfree p.2 rest
    refine ⟨_, ?_, .part hpart hrest⟩
    have hcons : writeBodyUnstated boundary (p :: parts) =
        writeUnstated boundary p.1 p.2 ++ writeBodyUnstated boundary parts := by
      simp only [writeBodyUnstated, List.flatMap_cons, List.append_assoc]
    rw [hcons, hbody, ← List.append_assoc, hlayout, List.append_assoc]

/-- A body is read the same way whichever lengths are stated. -/
theorem decode_writeBodyUnstated {boundary : String} {parts : List (Part × Bool)}
    (h : ∀ p ∈ parts, p.1.Portable) (hb : Legible boundary) (hcr : '\r' ∉ boundary.toList)
    (hne : boundary ≠ "") (hfree : ∀ p ∈ parts, ¬ delimiter boundary <:+: p.1.bytes)
    (body : Bytes) :
    decode (Message.contentType ⟨boundary, body⟩) (writeBodyUnstated boundary parts) =
      .ok ((parts.map Prod.fst).foldl place []) := by
  obtain ⟨rest, hbody, hframed⟩ := exists_framed_unstated h hcr hfree
  have hname : boundaryOf? (Message.contentType ⟨boundary, body⟩) = some boundary :=
    boundaryOf?_contentType hb hne
  have hfirst : Bytes.FirstAt (delimiter boundary) ([] ++ delimiter boundary ++ rest) 0 :=
    Bytes.firstAt_zero_iff.2 ⟨rest, rfl⟩
  have hdecode := decode_of_framed hname hfirst hframed
  rw [hbody]
  simpa using hdecode

/-- Leaving out of an encoded body the lines that state the lengths of any of the parts changes
nothing for the decoder: it finds the same map, which keeps the last part of each name. -/
theorem decode_unstated {boundary : String} {parts : List (Part × Bool)} {message : Message}
    (h : ∀ p ∈ parts, p.1.Portable) (hb : Legible boundary) (hcr : '\r' ∉ boundary.toList)
    (he : encodeWith (parts.map Prod.fst) boundary = .ok message) :
    message.body = writeBodyUnstated boundary (parts.map fun p => (p.1, true)) ∧
      ∃ found, decode message.contentType message.body = .ok found ∧
        decode message.contentType (writeBodyUnstated boundary parts) = .ok found ∧
        KeepsLast (parts.map Prod.fst) found := by
  obtain ⟨hne, hfree, rfl⟩ := encodeWith_eq_ok_iff.1 he
  have hparts : ∀ p ∈ parts.map Prod.fst, p.Portable := List.forall_mem_map.2 h
  have hpayloads : ∀ p ∈ parts, ¬ delimiter boundary <:+: p.1.bytes := by
    intro p hp hi
    have habsent := List.all_eq_true.1 hfree p.1 (List.mem_map_of_mem hp)
    rw [Bytes.occursIn_iff.2 hi] at habsent
    cases habsent
  have hall := writeBodyUnstated_all boundary (parts.map Prod.fst)
  rw [List.map_map] at hall
  exact ⟨hall.symm, _, decode_writeBody hparts hb hne,
    decode_writeBodyUnstated h hb hcr hne hpayloads _, keepsLast_foldl_place _⟩

/-- The first of two namesakes states its length, and the second does not. -/
def halfStated : List (Part × Bool) := namesakes.zip [true, false]

/-- The later namesake is found behind a delimiter. -/
theorem decode_unstated_namesakes :
    (∀ p ∈ halfStated, p.1.Portable) ∧ Legible "a=b" ∧ '\r' ∉ "a=b".toList ∧
      ∃ message found, encodeWith namesakes "a=b" = .ok message ∧
        writeBodyUnstated "a=b" halfStated ≠ message.body ∧
        decode message.contentType message.body = .ok found ∧
        decode message.contentType (writeBodyUnstated "a=b" halfStated) = .ok found ∧
        KeepsLast namesakes found := by
  have hparts : ∀ p ∈ halfStated, p.1.Portable := fun p hp =>
    portable_of_mem_namesakes p.1 (List.of_mem_zip hp).1
  have hb : Legible "a=b" := legible_of_all (by decide)
  have hcr : '\r' ∉ "a=b".toList := by decide
  have hwith : encodeWith namesakes "a=b" = .ok ⟨"a=b", writeBody "a=b" namesakes⟩ :=
    encodeWith_eq_ok_iff.2 ⟨by decide, by decide, rfl⟩
  obtain ⟨-, found, hfound⟩ := decode_unstated hparts hb hcr hwith
  exact ⟨hparts, hb, hcr, _, found, hwith, by decide +kernel, hfound⟩

end GatewayConfig.Multipart
