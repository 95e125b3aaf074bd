import GatewayConfig.Group
import GatewayConfig.Proofs.Text.Lists

/-!
# Group fetches that are accepted

`GroupRequest.parse_eq_ok_iff` says which group and header make which request, and `parse_join`
that a header which a client joins from as many tokens is accepted and read token by token.
-/

namespace GatewayConfig.GroupRequest

/-- A group is accepted when it starts with the root, every later id is registered, and the header
has a token for each of them. -/
theorem parse_eq_ok_iff {group header : Option String} {registry : Registry}
    {request : GroupRequest} :
    parse group header registry = .ok request ↔
      ∃ text rest rootToken others, group = some text ∧ text ≠ "" ∧
        Text.split ',' text = rootId :: rest ∧ (∀ id ∈ rest, registry.contains id = true) ∧
        tokens header = rootToken :: others ∧ others.length = rest.length ∧
        request = ⟨rootToken, rest.zip others⟩ := by
  constructor
  · intro h
    rw [parse] at h
    cases hg : group.filter (· ≠ "") with
    | none => rw [hg] at h; cases h
    | some text =>
      rw [hg, Option.map_some] at h
      obtain ⟨rfl, hne⟩ := Option.filter_eq_some_iff.1 hg
      cases hs : Text.split ',' text with
      | nil => rw [hs] at h; cases h
      | cons first rest =>
        rw [hs] at h
        dsimp only at h
        split at h
        · cases h
        next hroot =>
        obtain rfl := Decidable.not_not.1 hroot
        cases hfind : rest.find? fun id => !registry.contains id with
        | some id => rw [hfind] at h; cases h
        | none =>
          rw [hfind] at h
          cases ht : tokens header with
          | nil => rw [ht] at h; cases h
          | cons rootToken others =>
            rw [ht] at h
            dsimp only at h
            split at h
            next hlen =>
              obtain rfl := Except.ok.inj h
              exact ⟨text, rest, rootToken, others, rfl, by simpa using hne, hs,
                Text.find?_unknown_eq_none_iff.1 hfind, rfl, hlen, rfl⟩
            · cases h
  · rintro ⟨text, rest, rootToken, others, rfl, hne, hs, hrest, ht, hlen, rfl⟩
    have hg : (some text).filter (· ≠ "") = some text := by simp [hne]
    have hfind := Text.find?_unknown_eq_none_iff.2 hrest
    simp only [parse, hg, Option.map_some, hs, ne_eq, not_true, if_false, hfind, ht, hlen, if_true]

/-- Tokens without commas are found again in the header that they are joined to, each without white
space at its ends. The first of them keeps the header from being blank. -/
theorem tokens_join {first : String} {rest : List String} (hfirst : Text.trim first ≠ "")
    (h : ∀ t ∈ first :: rest, ',' ∉ t.toList) :
    tokens (some (Text.join ',' (first :: rest))) =
      (first :: rest).map fun t => ⟨Text.trim t⟩ := by
  have hcomma : Text.isBlank ',' = false := by decide
  have hpresent : Text.trimmed? (some (Text.join ',' (first :: rest))) =
      some (Text.trim (Text.join ',' (first :: rest))) := by
    rw [Text.trimmed?, Option.map_some, Option.filter_some,
      if_pos (by simpa using Text.trim_join_ne_empty hcomma hfirst h)]
  have helements := Text.map_trim_split_trim hcomma (Text.join ',' (first :: rest))
  rw [Text.split_join (List.cons_ne_nil _ _) h] at helements
  have hversions := congrArg (List.map Version.mk) helements
  rw [List.map_map, List.map_map] at hversions
  rw [tokens, hpresent]
  exact hversions

/-- The members of an accepted group are registered. -/
theorem contains_of_parse {group header : Option String} {registry : Registry}
    {request : GroupRequest} (h : parse group header registry = .ok request) :
    ∀ m ∈ request.members, registry.contains m.1 = true := by
  obtain ⟨-, rest, -, others, -, -, -, hrest, -, -, rfl⟩ := parse_eq_ok_iff.1 h
  intro m hm
  exact hrest m.1 (List.of_mem_zip hm).1

/-- Ids with the tokens that a client joins for them, as they are read. -/
def pairs (ids tokens : List String) : List (String × Version) :=
  ids.zip (tokens.map fun t => ⟨Text.trim t⟩)

/-- With one token for each id the ids are kept. -/
theorem map_fst_pairs {ids tokens : List String} (h : tokens.length = ids.length) :
    (pairs ids tokens).map Prod.fst = ids := by
  refine List.map_fst_zip (Nat.le_of_eq ?_)
  rw [List.length_map, h]

/-- A group that is accepted with one header is accepted with any other that is joined from as many
tokens without commas. Each member then gets the token in its place. -/
theorem parse_join {group header : Option String} {registry : Registry} {request : GroupRequest}
    (h : parse group header registry = .ok request) {first : String} {rest : List String}
    (hfirst : Text.trim first ≠ "") (hcomma : ∀ t ∈ first :: rest, ',' ∉ t.toList)
    (hlength : rest.length = request.members.length) :
    parse group (some (Text.join ',' (first :: rest))) registry =
      .ok ⟨⟨Text.trim first⟩, pairs (request.members.map Prod.fst) rest⟩ := by
  obtain ⟨text, ids, rootToken, others, rfl, hne, hsplit, hids, -, hothers, rfl⟩ :=
    parse_eq_ok_iff.1 h
  have hmembers : (ids.zip others).map Prod.fst = ids :=
    List.map_fst_zip (Nat.le_of_eq hothers.symm)
  have hrest : (rest.map fun t => (⟨Text.trim t⟩ : Version)).length = ids.length := by
    rw [List.length_map, hlength, ← List.length_map Prod.fst, hmembers]
  have htokens := tokens_join hfirst hcomma
  rw [hmembers]
  exact parse_eq_ok_iff.2 ⟨text, ids, _, _, rfl, hne, hsplit, hids, htokens, hrest, rfl⟩

end GatewayConfig.GroupRequest
