import GatewayConfig.Proofs.Group

/-!
# The shape of a group fetch

A group fetch names ids and holds tokens, as two lists of texts between commas. `parse_shape` says
which lists make a request, what of them the request keeps, and for what it is refused otherwise.
A list with several faults is refused for the first of them in a fixed order, `Refused`.
-/

namespace GatewayConfig.GroupRequest

/-- A value that is neither missing nor empty names these elements, with commas between them. -/
def Names (value : Option String) (elements : List String) : Prop :=
  ∃ text, value = some text ∧ text ≠ "" ∧ Text.Lists ',' text elements

/-- A header holds these tokens, not yet trimmed. It holds none when it is missing or blank. -/
def Holds (header : Option String) (tokens : List String) : Prop :=
  Names (header.map Text.trim) tokens ∨
    (header.map Text.trim = none ∨ header.map Text.trim = some "") ∧ tokens = []

/-- A request is refused for its first fault: that it names no group, that the group does not start
with the root, that a later id is not registered, or that there is not one token for each id. -/
inductive Refused (registry : Registry) (group header : Option String) : InvalidRequest → Prop
  /-- The group is missing or empty. -/
  | missingGroup (h : group = none ∨ group = some "") : Refused registry group header .missingGroup
  /-- The first id is another than the root. -/
  | missingRoot {first : String} {rest : List String} (hids : Names group (first :: rest))
    (hfirst : first ≠ rootId) : Refused registry group header (.missingRoot first)
  /-- An id is not registered, and all before it are. -/
  | unknownSubdoc {known rest : List String} {id : String}
    (hids : Names group (rootId :: (known ++ id :: rest)))
    (hknown : ∀ k ∈ known, registry.contains k = true) (hid : registry.contains id = false) :
    Refused registry group header (.unknownSubdoc id)
  /-- The ids are in order, but the tokens are more or fewer. -/
  | versionCount {ids tokens : List String} (hids : Names group (rootId :: ids))
    (hknown : ∀ id ∈ ids, registry.contains id = true) (htokens : Holds header tokens)
    (hcount : tokens.length ≠ ids.length + 1) :
    Refused registry group header (.versionCount (ids.length + 1) tokens.length)

variable {registry : Registry} {group header value : Option String} {fault : InvalidRequest}
  {request : GroupRequest}

/-- What a value names is what it is split into, when it is present and not empty. -/
theorem names_iff {elements : List String} :
    Names value elements ↔ (value.filter (· ≠ "")).map (Text.split ',') = some elements := by
  simp only [Names, Text.lists_iff, Option.map_eq_some_iff, Option.filter_eq_some_iff,
    decide_eq_true_eq, and_assoc]

/-- A list names at least one element, which may be empty. -/
theorem not_names_nil : ¬ Names value [] := fun ⟨_, _, _, hlist⟩ => hlist.nonempty rfl

/-- A value names elements, or it is missing or empty. -/
theorem names_or_missing (value : Option String) :
    (∃ elements, Names value elements) ∨ value = none ∨ value = some "" := by
  cases value with
  | none => exact .inr (.inl rfl)
  | some text =>
    by_cases hne : text = ""
    · exact .inr (.inr (congrArg some hne))
    · exact .inl ⟨_, text, rfl, hne, Text.lists_iff.2 rfl⟩

/-- A list is its elements with commas between them. -/
theorem Names.join_eq {elements : List String} (h : Names value elements) :
    value = some (Text.join ',' elements) := by
  obtain ⟨text, hvalue, -, hlist⟩ := h
  rw [hvalue, hlist.joined]

/-- The tokens of a header are those that it holds, trimmed. -/
theorem Holds.tokens_eq {texts : List String} (h : Holds header texts) :
    tokens header = texts.map fun t => ⟨Text.trim t⟩ := by
  rw [tokens, Text.trimmed?]
  rcases h with ⟨text, hheader, hne, hlist⟩ | ⟨hmissing | hblank, rfl⟩
  · rw [hheader, Option.filter_some, if_pos (by simpa using hne)]
    dsimp only
    rw [Text.lists_iff.1 hlist]
  · rw [hmissing]
    rfl
  · rw [hblank]
    rfl

/-- Every header holds some list of tokens. -/
theorem exists_holds (header : Option String) : ∃ texts, Holds header texts := by
  rcases names_or_missing (header.map Text.trim) with ⟨texts, h⟩ | hmissing
  · exact ⟨texts, .inl h⟩
  · exact ⟨[], .inr ⟨hmissing, rfl⟩⟩

/-- A request is read when the group names the root and registered ids behind it, and the header
holds one token more than these. -/
theorem parse_eq_ok_iff_names :
    parse group header registry = .ok request ↔
      ∃ ids first others, Names group (rootId :: ids) ∧
        (∀ id ∈ ids, registry.contains id = true) ∧ Holds header (first :: others) ∧
        others.length = ids.length ∧ request = ⟨⟨Text.trim first⟩, pairs ids others⟩ := by
  rw [parse_eq_ok_iff]
  constructor
  · rintro ⟨text, ids, rootToken, others, hgroup, hne, hsplit, hknown, htokens, hcount, rfl⟩
    obtain ⟨texts, htexts⟩ := exists_holds header
    rw [htexts.tokens_eq] at htokens
    obtain ⟨first, rest, rfl, rfl, rfl⟩ := List.map_eq_cons_iff.1 htokens
    rw [List.length_map] at hcount
    exact ⟨ids, first, rest, ⟨text, hgroup, hne, Text.lists_iff.2 hsplit⟩, hknown, htexts,
      hcount, rfl⟩
  · rintro ⟨ids, first, others, ⟨text, hgroup, hne, hlist⟩, hknown, htokens, hcount, rfl⟩
    refine ⟨text, ids, _, _, hgroup, hne, Text.lists_iff.1 hlist, hknown, htokens.tokens_eq, ?_,
      rfl⟩
    rw [List.length_map, hcount]

/-- A request that has a fault is refused for it. -/
theorem Refused.parse_eq (h : Refused registry group header fault) :
    parse group header registry = .error fault := by
  cases h with
  | missingGroup h =>
    rcases h with rfl | rfl
    · rfl
    · rfl
  | missingRoot hids hfirst =>
    rw [parse, names_iff.1 hids]
    exact if_pos hfirst
  | @unknownSubdoc known rest id hids hknown hid =>
    have hfind := Text.find?_unknown_eq_some_iff.2 ⟨hid, known, rest, rfl, hknown⟩
    rw [parse, names_iff.1 hids]
    dsimp only
    rw [if_neg (Decidable.not_not.2 rfl), hfind]
  | @versionCount ids texts hids hknown htokens hcount =>
    have hfind := Text.find?_unknown_eq_none_iff.2 hknown
    rw [parse, names_iff.1 hids]
    dsimp only
    rw [if_neg (Decidable.not_not.2 rfl), hfind, htokens.tokens_eq]
    cases texts with
    | nil => rfl
    | cons first others =>
      have hother : (others.map fun t => (⟨Text.trim t⟩ : Version)).length ≠ ids.length := by
        rw [List.length_map]
        rw [List.length_cons] at hcount
        omega
      rw [List.map_cons]
      dsimp only
      rw [if_neg hother, List.length_map, List.length_cons]

/-- A request is read, or it has a fault. -/
theorem accepted_or_refused (registry : Registry) (group header : Option String) :
    (∃ request, parse group header registry = .ok request) ∨
      ∃ fault, Refused registry group header fault := by
  rcases (names_or_missing group).symm with hmissing | ⟨elements, hgroup⟩
  · exact .inr ⟨_, .missingGroup hmissing⟩
  cases elements with
  | nil => exact absurd hgroup not_names_nil
  | cons first ids =>
    by_cases hfirst : first ≠ rootId
    · exact .inr ⟨_, .missingRoot hgroup hfirst⟩
    obtain rfl := Decidable.not_not.1 hfirst
    cases hfind : ids.find? fun id => !registry.contains id with
    | some id =>
      obtain ⟨hid, known, rest, rfl, hknown⟩ := Text.find?_unknown_eq_some_iff.1 hfind
      exact .inr ⟨_, .unknownSubdoc hgroup hknown hid⟩
    | none =>
      have hknown := Text.find?_unknown_eq_none_iff.1 hfind
      obtain ⟨texts, htexts⟩ := exists_holds header
      by_cases hcount : texts.length = ids.length + 1
      · obtain ⟨token, others, rfl⟩ := List.exists_cons_of_length_eq_add_one hcount
        exact .inl ⟨_, parse_eq_ok_iff_names.2
          ⟨ids, token, others, hgroup, hknown, htexts, Nat.succ.inj hcount, rfl⟩⟩
      · exact .inr ⟨_, .versionCount hgroup hknown htexts hcount⟩

/-- A request is refused for its first fault and for nothing else. -/
theorem parse_eq_error_iff :
    parse group header registry = .error fault ↔ Refused registry group header fault := by
  constructor
  · intro h
    rcases accepted_or_refused registry group header with ⟨request, hread⟩ | ⟨first, hfirst⟩
    · rw [hread] at h
      cases h
    · obtain rfl := Except.error.inj (h.symm.trans hfirst.parse_eq)
      exact hfirst
  · exact Refused.parse_eq

/-- A group fetch is accepted exactly when it names the root first, registered ids behind it, and
one token for each of them in a header that is not blank. It keeps the ids as they were written and
each token, trimmed, in its place. What is not accepted is refused for its first fault. -/
theorem parse_shape (registry : Registry) (group header : Option String) :
    ((∃ request, parse group header registry = .ok request) ↔
      ∃ ids tokens, Names group (rootId :: ids) ∧
        (∀ id ∈ ids, registry.contains id = true) ∧ Names (header.map Text.trim) tokens ∧
        tokens.length = (rootId :: ids).length) ∧
    (∀ request, parse group header registry = .ok request →
      Names group request.ids ∧ group = some (Text.join ',' request.ids) ∧
      ∃ first others, Names (header.map Text.trim) (first :: others) ∧
        request.rootVersion = ⟨Text.trim first⟩ ∧
        request.members.map Prod.snd = others.map fun t => ⟨Text.trim t⟩) ∧
    (∀ fault, parse group header registry = .error fault ↔
      Refused registry group header fault) := by
  have hheld : ∀ {first : String} {others : List String}, Holds header (first :: others) →
      Names (header.map Text.trim) (first :: others) := by
    rintro first others (h | ⟨-, h⟩)
    · exact h
    · cases h
  refine ⟨⟨?_, ?_⟩, ?_, fun fault => parse_eq_error_iff⟩
  · rintro ⟨request, h⟩
    obtain ⟨ids, first, others, hgroup, hknown, htokens, hcount, -⟩ := parse_eq_ok_iff_names.1 h
    exact ⟨ids, first :: others, hgroup, hknown, hheld htokens, congrArg Nat.succ hcount⟩
  · rintro ⟨ids, tokens, hgroup, hknown, htokens, hcount⟩
    obtain ⟨first, others, rfl⟩ := List.exists_cons_of_length_eq_add_one hcount
    exact ⟨_, parse_eq_ok_iff_names.2
      ⟨ids, first, others, hgroup, hknown, .inl htokens, Nat.succ.inj hcount, rfl⟩⟩
  · intro request h
    obtain ⟨ids, first, others, hgroup, -, htokens, hcount, rfl⟩ := parse_eq_ok_iff_names.1 h
    have hids : GroupRequest.ids ⟨⟨Text.trim first⟩, pairs ids others⟩ = rootId :: ids := by
      rw [GroupRequest.ids, map_fst_pairs hcount]
    rw [hids]
    refine ⟨hgroup, hgroup.join_eq, first, others, hheld htokens, rfl, ?_⟩
    refine List.map_snd_zip (Nat.le_of_eq ?_)
    rw [List.length_map, hcount]

/-- An id that is asked for twice is kept twice, each time with its own token, and white space
around the tokens is not. Of three faults the first one counts. -/
theorem parse_shape_repeated :
    (∃ first others, Names (some "0, 11 ,22") (first :: others) ∧
      Text.trim first = "0" ∧ (others.map fun t => (⟨Text.trim t⟩ : Version)) = [⟨"11"⟩, ⟨"22"⟩]) ∧
    Refused .builtin (some "lan,bogus,root") none (.missingRoot "lan") := by
  have hread : parse (some "root,lan,lan") (some " 0, 11 ,22 ") .builtin =
      .ok ⟨⟨"0"⟩, [("lan", ⟨"11"⟩), ("lan", ⟨"22"⟩)]⟩ := rfl
  obtain ⟨-, hkeeps, -⟩ := parse_shape .builtin (some "root,lan,lan") (some " 0, 11 ,22 ")
  obtain ⟨-, -, hrefuses⟩ := parse_shape .builtin (some "lan,bogus,root") none
  obtain ⟨-, -, first, others, hnames, hfirst, hothers⟩ := hkeeps _ hread
  have htrim : (some " 0, 11 ,22 ").map Text.trim = some "0, 11 ,22" := by decide
  rw [htrim] at hnames
  exact ⟨⟨first, others, hnames, (Version.mk.inj hfirst).symm, hothers.symm⟩,
    (hrefuses _).1 rfl⟩

end GatewayConfig.GroupRequest
