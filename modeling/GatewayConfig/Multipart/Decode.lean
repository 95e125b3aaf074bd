import GatewayConfig.Multipart.Header
import GatewayConfig.Text.Number

/-!
# Reading a multipart message

A part ends where its stated length says, or else at the next delimiter that starts a line. A
stated length is trusted only when a delimiter follows it. Whatever stands before the first
delimiter or after the last one is ignored.
-/

namespace GatewayConfig.Multipart

/-- The header block of a part and what follows its blank line. A part may have no header at
all, in which case the blank line stands where the block would start. -/
def splitHeaders? (b : Bytes) : Option (Bytes × Bytes) :=
  match Bytes.after? Bytes.crlf b with
  | some content => some ([], content)
  | none => Bytes.cut? (Bytes.crlf ++ Bytes.crlf) b

/-- The payload of a part and what follows the next delimiter. -/
def splitContent (delimiter : Bytes) (index : Nat) (length : Option String) (b : Bytes) :
    Except Error (Bytes × Bytes) :=
  match length with
  | some text =>
    match Text.unsignedBits? 64 text with
    | none => .error (.malformed (.contentLength text index))
    | some n =>
      match Bytes.splitAt? n b with
      | none => .error (.malformed (.truncated index))
      | some (content, follow) =>
        match Bytes.after? (Bytes.crlf ++ delimiter) follow with
        | none => .error (.malformed (.contentLengthEnd index))
        | some rest => .ok (content, rest)
  | none =>
    match Bytes.cut? (Bytes.crlf ++ delimiter) b with
    | none => .error (.malformed (.unclosed index))
    | some split => .ok split

/-- The part that headers and a payload make up, unless it has no name. -/
def assemble (index : Nat) (headers : List (String × String)) (bytes : Bytes) :
    Except Error Part :=
  match header? headers "namespace" with
  | none => .error (.unnamedPart index)
  | some name => .ok {
      name
      contentType := (header? headers "content-type").getD defaultContentType
      version := ⟨(header? headers "etag").getD ""⟩
      bytes }

/-- One part, from the line break after its delimiter, and what follows the next delimiter. -/
def readPart (delimiter : Bytes) (index : Nat) (b : Bytes) : Except Error (Part × Bytes) :=
  match splitHeaders? b with
  | none => .error (.malformed (.unterminatedHeaders index))
  | some (block, content) =>
    match readHeaders block with
    | .error e => .error e
    | .ok headers =>
      match splitContent delimiter index (header? headers "content-length") content with
      | .error e => .error e
      | .ok (bytes, rest) => (assemble index headers bytes).map fun part => (part, rest)

/-- The content of a part is behind its headers. -/
theorem length_splitHeaders? {b block content : Bytes}
    (h : splitHeaders? b = some (block, content)) : content.length ≤ b.length := by
  unfold splitHeaders? at h
  split at h
  · next rest he =>
    cases h
    simp [Bytes.after?_eq_some_iff.1 he]
  · simp [Bytes.cut?_eq_some h]
    omega

/-- A delimiter comes behind the payload, so at least its bytes are read. -/
theorem length_splitContent {delimiter b bytes rest : Bytes} {index : Nat}
    {length : Option String}
    (h : splitContent delimiter index length b = .ok (bytes, rest)) :
    rest.length < b.length := by
  unfold splitContent at h
  split at h
  · split at h
    · cases h
    · split at h
      · cases h
      · next content follow hs =>
        split at h
        · cases h
        · next he =>
          cases h
          simp [Bytes.splitAt?_eq_some_iff.1 hs, Bytes.after?_eq_some_iff.1 he, Bytes.crlf]
          omega
  · split at h
    · cases h
    · next split he =>
      cases h
      simp [Bytes.cut?_eq_some he, Bytes.crlf]
      omega

/-- A part is read together with the delimiter behind it, so the rest is shorter. -/
theorem length_readPart {delimiter b rest : Bytes} {index : Nat} {part : Part}
    (h : readPart delimiter index b = .ok (part, rest)) : rest.length < b.length := by
  unfold readPart at h
  split at h
  · cases h
  · next block content hs =>
    have hle := length_splitHeaders? hs
    split at h
    · cases h
    · next headers _ =>
      split at h
      · cases h
      · next bytes rest' hc =>
        have hlt := length_splitContent hc
        cases ha : assemble index headers bytes with
        | error e => simp [ha, Except.map] at h
        | ok p =>
          simp only [ha, Except.map, Except.ok.injEq, Prod.mk.injEq] at h
          obtain ⟨_, rfl⟩ := h
          omega

/-- The parts that follow a delimiter, up to the delimiter that ends the message. The number of
bytes in the whole body turns what is left into an offset. -/
def readParts (delimiter : Bytes) (total index : Nat) (b : Bytes) : Except Error (List Part) :=
  match Bytes.after? [45, 45] b with
  | some _ => .ok []
  | none =>
    match _hb : Bytes.after? Bytes.crlf b with
    | none => .error (.malformed (.noLineBreak (total - b.length)))
    | some b' =>
      match _hp : readPart delimiter index b' with
      | .error e => .error e
      | .ok (part, rest) => (part :: ·) <$> readParts delimiter total (index + 1) rest
termination_by b.length
decreasing_by
  have hlt := length_readPart _hp
  have heq := congrArg List.length (Bytes.after?_eq_some_iff.1 _hb)
  simp [Bytes.crlf] at heq
  omega

/-- Decode a body with the boundary that its content type names. -/
def decode (contentType : String) (body : Bytes) : Except Error (List Part) :=
  match boundaryOf? contentType with
  | none => .error (.missingBoundary contentType)
  | some boundary =>
    match Bytes.cut? (delimiter boundary) body with
    | none => .error (.malformed .noDelimiter)
    | some (_, b) => lastByName <$> readParts (delimiter boundary) body.length 0 b

end GatewayConfig.Multipart
