import GatewayConfig.Proofs.Action
import GatewayConfig.Url.Reference

/-!
# Absolute paths beside a host

A reference of plain segments behind slashes is a path and nothing else. `join_segments` says what
it denotes beside a URL of the web: it takes the place of the whole path, and what the URL has for a
path of its own is lost.
-/

namespace GatewayConfig.Url

/-- A segment that a path under a scheme with a fixed meaning keeps as it is written. -/
structure IsPlain (segment : String) : Prop where
  /-- No character of it parts segments. -/
  whole : ∀ c ∈ segment.toList, isSlash .special c = false
  /-- None of them is escaped. -/
  unescaped : ∀ c ∈ segment.toList, escapedInPath c = false
  /-- It does not name the directory itself. -/
  notDot : isDot segment.toList = false
  /-- It does not name the directory above. -/
  notDotDot : isDotDot segment.toList = false

/-- The segments of a path that is written with one slash before each of them. -/
structure IsPlainPath (names : List String) : Prop where
  /-- There is a segment, which may be empty. -/
  nonempty : names ≠ []
  /-- Each is kept as it is written. -/
  plain : ∀ name ∈ names, IsPlain name
  /-- An empty one does not come first if others follow: two slashes start an authority. -/
  rooted : names.head? = some "" → names = [""]

/-- The check of a path decides that no character of it is a slash or is escaped. -/
theorem all_kept_iff {l : List Char} :
    (l.all fun c => !isSlash .special c && !escapedInPath c) = true ↔
      (∀ c ∈ l, isSlash .special c = false) ∧ ∀ c ∈ l, escapedInPath c = false := by
  simp only [List.all_eq_true, Bool.and_eq_true, Bool.not_eq_true', forall_and]

/-- It is a check of the characters. -/
instance (segment : String) : Decidable (IsPlain segment) :=
  decidable_of_iff ((segment.toList.all fun c => !isSlash .special c && !escapedInPath c) = true ∧
      isDot segment.toList = false ∧ isDotDot segment.toList = false)
    ⟨fun ⟨hkept, hdot, hdotDot⟩ =>
        ⟨(all_kept_iff.1 hkept).1, (all_kept_iff.1 hkept).2, hdot, hdotDot⟩,
      fun h => ⟨all_kept_iff.2 ⟨h.whole, h.unescaped⟩, h.notDot, h.notDotDot⟩⟩

section Pieces

variable {name : String} {names : List String}

/-- The text of a path behind its first slash. -/
def behindSlash (name : String) (names : List String) : List Char :=
  name.toList ++ names.flatMap fun n => '/' :: n.toList

/-- A path of segments is written with a slash before each of them. -/
theorem toList_segments (names : List String) :
    (UrlPath.segments names).toText.toList = names.flatMap fun n => '/' :: n.toList := by
  simp only [UrlPath.toText, String.toList_join, List.flatMap_map, String.toList_append]
  rfl

/-- A slash is one in a special scheme. -/
theorem isSlash_slash : isSlash .special '/' = true := rfl

/-- A path is parted into its segments again. -/
theorem splitOnP_segments (h : ∀ n ∈ name :: names, IsPlain n) :
    (behindSlash name names).splitOnP (isSlash .special) = (name :: names).map String.toList := by
  have hname := (h name List.mem_cons_self).whole
  induction names generalizing name with
  | nil =>
    rw [behindSlash, List.flatMap_nil, List.append_nil, List.splitOnP_eq_singleton hname]
    rfl
  | cons next names ih =>
    have hnames := (List.forall_mem_cons.1 h).2
    have hnext : behindSlash name (next :: names) = name.toList ++ '/' :: behindSlash next names :=
      rfl
    rw [hnext, List.splitOnP_append_cons_of_forall_mem hname '/' isSlash_slash,
      ih hnames (hnames next List.mem_cons_self).whole]
    rfl

/-- Control characters and blanks are escaped in a path. -/
theorem escapedInPath_of_le {c : Char} (h : c.toNat ≤ 0x20) : escapedInPath c = true := by
  rcases Nat.lt_or_eq_of_le h with hcontrol | hblank
  · have hevery : escapedEverywhere c = true := by
      rw [escapedEverywhere, decide_eq_true hcontrol, Bool.true_or]
    rw [escapedInPath, escapedInFragment, hevery, Bool.true_or, Bool.true_or]
  · obtain rfl : c = ' ' := Char.toNat_inj.1 hblank
    decide

/-- What is escaped nowhere in a path is no control character. -/
theorem not_escapedEverywhere {c : Char} (h : escapedInPath c = false) :
    escapedEverywhere c = false := by
  simp only [escapedInPath, escapedInFragment, Bool.or_eq_false_iff] at h
  exact h.1.1

/-- A text without control characters has no line ends. -/
theorem dropLineBreaks_eq_self {l : List Char} (h : ∀ c ∈ l, escapedEverywhere c = false) :
    dropLineBreaks l = l := by
  refine List.filter_eq_self.2 fun c hc => ?_
  have hcontrol : isLineBreak c = true → escapedEverywhere c = true := by
    simp only [isLineBreak, Bool.or_eq_true, beq_iff_eq]
    rintro ((rfl | rfl) | rfl) <;> rfl
  cases hbreak : isLineBreak c with
  | false => rfl
  | true =>
    have hescaped := hcontrol hbreak
    rw [h c hc] at hescaped
    cases hescaped

/-- A plain name has no line breaks to drop. -/
theorem IsPlain.dropLineBreaks_eq (h : IsPlain name) :
    dropLineBreaks name.toList = name.toList :=
  dropLineBreaks_eq_self fun c hc => not_escapedEverywhere (h.unescaped c hc)

/-- A plain segment is added as it is written. -/
theorem OpenPath.addPieceOf_plain (h : IsPlain name) (p : OpenPath) :
    p.addPieceOf .special name.toList = p.addText name := by
  have hkind : ¬ SchemeKind.special = .file := by decide
  rw [addPieceOf, if_neg hkind, h.dropLineBreaks_eq, addPiece, h.notDotDot, h.notDot,
    if_neg Bool.false_ne_true, if_neg Bool.false_ne_true, escape_eq_self h.unescaped,
    String.ofList_toList]

/-- Behind a slash, text is a new segment. -/
theorem OpenPath.addText_closed (text : String) (closed : List String) (drive : Bool) :
    addText text ⟨"" :: closed, drive⟩ = ⟨text :: closed, drive⟩ := by
  have htext : "" ++ text = text := String.empty_append
  rw [addText]
  dsimp only
  rw [htext]

/-- A path that ends in a slash goes on with plain segments, in order. -/
theorem OpenPath.addPieces_plain (h : ∀ n ∈ name :: names, IsPlain n) (closed : List String)
    (drive : Bool) :
    addPieces .special ⟨"" :: closed, drive⟩ ((name :: names).map String.toList) =
      ⟨(name :: names).reverse ++ closed, drive⟩ := by
  have hname := h name List.mem_cons_self
  induction names generalizing name closed with
  | nil =>
    rw [List.map_singleton, addPieces, addPieceOf_plain hname, addText_closed]
    rfl
  | cons next names ih =>
    have hnames := (List.forall_mem_cons.1 h).2
    have hdots : (isDotDot name.toList || isDot name.toList) = false := by
      rw [hname.notDotDot, hname.notDot]
      rfl
    rw [List.map_cons, List.map_cons, addPieces, hname.dropLineBreaks_eq, hdots,
      Bool.false_and, if_neg Bool.false_ne_true, addPieceOf_plain hname, addText_closed, close,
      ← List.map_cons, ih hnames _ (hnames next List.mem_cons_self),
      List.reverse_cons (a := name), List.append_assoc]
    · rfl
    · exact List.cons_ne_nil _ _

/-- A path of plain segments is read as it is written. -/
theorem absolutePath_segments (h : ∀ n ∈ name :: names, IsPlain n) :
    absolutePath .special ('/' :: behindSlash name names) = name :: names := by
  have hadd : OpenPath.addPieces .special {} ((name :: names).map String.toList) =
      ⟨(name :: names).reverse ++ [], false⟩ := OpenPath.addPieces_plain h [] false
  rw [absolutePath, if_pos isSlash_slash, OpenPath.add, splitOnP_segments h, hadd, OpenPath.names,
    List.append_nil, List.reverse_reverse]

end Pieces

section Parsing

variable {u : Url}

/-- Behind two slashes a file URL has a host and segments, if it is one. -/
theorem exists_fileUrl_of_fileAfterSlashes {l : List Char} (h : fileAfterSlashes l = .ok u) :
    ∃ host names, u = fileUrl host names := by
  unfold fileAfterSlashes at h
  dsimp only at h
  split at h
  · exact ⟨_, _, (Except.ok.inj h).symm⟩
  · obtain ⟨host, -, h⟩ := exists_of_bind_eq_ok h
    split at h
    · exact ⟨_, _, (Except.ok.inj h).symm⟩
    · exact ⟨_, _, (Except.ok.inj h).symm⟩

/-- Behind one slash a file URL has a host, if only that of the base, and segments. -/
theorem exists_fileUrl_of_fileAfterSlash (base : Option Url) (l : List Char) :
    ∃ host names, fileAfterSlash base l = fileUrl host names := by
  unfold fileAfterSlash
  dsimp only
  split
  · exact ⟨_, _, rfl⟩
  · exact ⟨_, _, rfl⟩

/-- What is read as a URL of a file is one. -/
theorem scheme_of_readFile {base : Option Url} {body : List Char} (h : readFile base body = .ok u) :
    u.scheme = "file" := by
  obtain ⟨host, names, rfl⟩ : ∃ host names, u = fileUrl host names := by
    unfold readFile at h
    split at h
    next after _ =>
      split at h
      next after _ => exact exists_fileUrl_of_fileAfterSlashes h
      next =>
        obtain rfl := Except.ok.inj h
        exact exists_fileUrl_of_fileAfterSlash base after
    next =>
      split at h
      · exact ⟨_, _, (Except.ok.inj h).symm⟩
      · exact ⟨_, _, (Except.ok.inj h).symm⟩
  rfl

/-- Two slashes start an authority and a path of segments. -/
theorem of_afterSlashes {scheme : String} {rest : Rest} (h : afterSlashes scheme rest = .ok u) :
    ∃ authority names, u = { scheme, authority := some authority, path := .segments names } := by
  unfold afterSlashes at h
  dsimp only at h
  obtain ⟨⟨authority, after⟩, -, h⟩ := exists_of_bind_eq_ok h
  exact ⟨_, _, (Except.ok.inj h).symm⟩

/-- A URL that was changed after parsing was parsed. -/
theorem exists_of_map_eq_ok {x : Except Fault Url} {f : Url → Url} (h : x.map f = .ok u) :
    ∃ v, x = .ok v ∧ f v = u := by
  cases x with
  | error fault => cases h
  | ok v => exact ⟨v, rfl, Except.ok.inj h⟩

/-- A URL under a scheme of no fixed meaning keeps its scheme. -/
theorem scheme_of_readOther {scheme : String} {rest : Rest} (h : readOther scheme rest = .ok u) :
    u.scheme = scheme := by
  unfold readOther at h
  split at h
  next =>
    obtain ⟨v, hread, rfl⟩ := exists_of_map_eq_ok h
    obtain ⟨authority, names, rfl⟩ := of_afterSlashes hread
    rfl
  next =>
    obtain rfl := Except.ok.inj h
    rfl
  next =>
    obtain rfl := Except.ok.inj h
    rfl

/-- A URL that a text denotes by itself, under one of the schemes of the web. -/
structure IsWeb (u : Url) : Prop where
  /-- It comes from a text. -/
  parsed : ∃ text, parse text = .ok u
  /-- Its scheme is one of the two. -/
  scheme : u.scheme = "http" ∨ u.scheme = "https"

/-- The scheme of a web URL is a special one. -/
theorem IsWeb.kind (h : u.IsWeb) : SchemeKind.ofScheme u.scheme = .special := by
  rcases h.scheme with hscheme | hscheme <;> rw [hscheme] <;> decide

/-- A URL of the web has an authority and a path of segments. The kind of the scheme that is read is
the kind of the URL's scheme in every case. -/
theorem IsWeb.exists_segments (h : u.IsWeb) :
    ∃ authority names, u.authority = some authority ∧ u.path = .segments names := by
  obtain ⟨text, hparse⟩ := h.parsed
  have hspecial := h.kind
  unfold parse resolve at hparse
  dsimp only at hparse
  split at hparse
  next scheme after _ =>
    split at hparse
    next hkind =>
      obtain ⟨v, hread, rfl⟩ := exists_of_map_eq_ok hparse
      have hfile : v.scheme = "file" := scheme_of_readFile hread
      have hscheme : (v.withRest (Rest.ofChars after)).scheme = v.scheme := rfl
      rw [hscheme, hfile] at hspecial
      cases hspecial
    next hkind =>
      obtain ⟨v, hread, rfl⟩ := exists_of_map_eq_ok hparse
      obtain ⟨authority, names, rfl⟩ := of_afterSlashes hread
      exact ⟨authority, names, rfl, rfl⟩
    next hkind =>
      rw [scheme_of_readOther hparse, hkind] at hspecial
      cases hspecial
  next => cases hparse

end Parsing

section Joining

/-- A text without blanks is read as it is. -/
theorem trimmed_eq_self {s : String} (h : ∀ c ∈ s.toList, escapedInPath c = false) :
    trimmed s = s.toList := by
  have hdull : ∀ c ∈ s.toList, decide (c.toNat ≤ 0x20) = false := by
    intro c hc
    refine decide_eq_false fun hle => ?_
    have hescaped := escapedInPath_of_le hle
    rw [h c hc] at hescaped
    cases hescaped
  exact Text.dropWhile_ends_eq_self (fun c hc => hdull c (List.mem_of_mem_head? hc))
    fun c hc => hdull c (List.mem_of_mem_getLast? hc)

/-- A text that starts with a slash has no scheme. -/
theorem cutScheme?_of_slash (l : List Char) : cutScheme? ('/' :: l) = none := by
  have hslash : ¬ '/' = ':' := by decide
  rw [cutScheme?, Text.cutChars?, if_neg hslash]
  cases Text.cutChars? ':' l with
  | none => rfl
  | some cut => rfl

/-- Without the mark nothing is cut off. -/
theorem cutMark_of_not_mem {mark : Char} {l : List Char} (h : mark ∉ l) :
    cutMark mark l = (l, none) := by
  have hcut : Text.cutChars? mark l = none := by
    refine Option.eq_none_iff_forall_ne_some.2 fun ⟨before, after⟩ hsome => h ?_
    rw [(Text.cutChars?_eq_some_iff.1 hsome).1]
    simp
  rw [cutMark, hcut]

/-- Without escaped characters there is a path only, since the marks of query and fragment are
escaped in a path. -/
theorem Rest.ofChars_of_unescaped {l : List Char} (h : ∀ c ∈ l, escapedInPath c = false) :
    Rest.ofChars l = ⟨l, none, none⟩ := by
  have hmark {mark : Char} (hmark : escapedInPath mark = true) : mark ∉ l := by
    intro hmem
    rw [h mark hmem] at hmark
    cases hmark
  have hfragment : cutMark '#' l = (l, none) := cutMark_of_not_mem (hmark (by decide))
  have hquery : cutMark '?' l = (l, none) := cutMark_of_not_mem (hmark (by decide))
  simp only [ofChars, hfragment, hquery]

variable {base : Url} {name : String} {names : List String}

/-- The text of plain segments has no character to escape. -/
theorem unescaped_segments (h : ∀ n ∈ names, IsPlain n) :
    ∀ c ∈ (UrlPath.segments names).toText.toList, escapedInPath c = false := by
  intro c hc
  rw [toList_segments, List.mem_flatMap] at hc
  obtain ⟨n, hn, hmem⟩ := hc
  rcases List.mem_cons.1 hmem with rfl | hmem
  · decide
  · exact (h n hn).unescaped c hmem

/-- A path of plain segments starts no authority. -/
theorem afterMark?_segments (h : IsPlainPath (name :: names)) :
    afterMark? ('/' :: behindSlash name names) = none := by
  have hfirst := (h.plain name List.mem_cons_self).whole
  rw [behindSlash]
  cases hname : name.toList with
  | nil =>
    have hempty : name = "" := String.toList_eq_nil_iff.1 hname
    obtain rfl : names = [] := (List.cons.inj (h.rooted (congrArg some hempty))).2
    rfl
  | cons c tail =>
    rw [hname] at hfirst
    have hc : isSlash .special c = false := hfirst c List.mem_cons_self
    rw [List.cons_append, afterMark?.eq_def]
    split
    next heq =>
      obtain ⟨rfl, -⟩ := List.cons.inj (List.cons.inj heq).2
      cases hc
    next heq =>
      obtain ⟨rfl, htail⟩ := List.cons.inj heq
      obtain ⟨rfl, rfl⟩ := List.cons.inj htail
      rw [hc, Bool.and_false, if_neg Bool.false_ne_true]
    next => rfl

/-- Beside a URL of the web, a path of plain segments takes the place of the whole path. The query
and the fragment of the URL are not taken over. -/
theorem join_segments (hbase : base.IsWeb) (h : IsPlainPath names) :
    base.join (UrlPath.segments names).toText =
      .ok { base with path := .segments names, query := none, fragment := none } := by
  obtain ⟨authority, own, -, hown⟩ := hbase.exists_segments
  have hkind := hbase.kind
  have hrigid : base.isRigid = false := by rw [isRigid, hown]
  have hfile : ¬ base.scheme = "file" := by
    intro hfile
    rw [hfile] at hkind
    cases hkind
  have hplain := unescaped_segments h.plain
  obtain ⟨name, rest, rfl⟩ := List.exists_cons_of_ne_nil h.nonempty
  have htext : (UrlPath.segments (name :: rest)).toText.toList = '/' :: behindSlash name rest :=
    toList_segments (name :: rest)
  rw [htext] at hplain
  rw [join, resolve, trimmed_eq_self (by rwa [htext]), htext, cutScheme?_of_slash]
  dsimp only
  rw [readRelative, hrigid, if_neg Bool.false_ne_true, if_neg hfile,
    Rest.ofChars_of_unescaped hplain, Rest.joined]
  dsimp only
  rw [dropLineBreaks_eq_self fun c hc => not_escapedEverywhere (hplain c hc), beside]
  dsimp only
  rw [afterMark?_segments h, hkind]
  dsimp only
  rw [if_pos isSlash_slash, absolutePath_segments h.plain]
  rfl

end Joining

end GatewayConfig.Url
