import GatewayConfig.Proofs.Bytes.Occurrence
import GatewayConfig.Proofs.Form
import GatewayConfig.Proofs.Mac.Value
import GatewayConfig.Telemetry.Selection
import Mathlib.Data.List.Infix
import Mathlib.Data.List.TakeWhile

/-!
# The primary query says what was reported

The primary query is read back as the values that a device has reported, each under its own name
and in a fixed order, and the addresses. `query_spells` says this of all reports, so no reported
value can add a field, take one away or pass for another. Params that are appended stand behind the
query as they are, and nothing of it depends on them.
-/

namespace GatewayConfig.Telemetry

/-- The search for an ASCII part finds it exactly when its characters stand in the whole. -/
theorem mentions_iff {part whole : String} (hpart : ∀ c ∈ part.toList, c.toNat < 128) :
    mentions part whole = true ↔ part.toList <:+: whole.toList := by
  rw [mentions, Bytes.occursIn_iff, Bytes.infix_ofText_iff hpart]

/-- The environment that a firmware version names: production, if it names that anywhere, or else
development. -/
def environmentNamed (firmware : String) : Option String :=
  if "PROD".toList <:+: firmware.toList then some "PROD"
  else if "DEV".toList <:+: firmware.toList then some "DEV"
  else none

/-- The environment of a firmware is the one that its name mentions, by the table. -/
theorem environmentOf?_eq (firmware : String) :
    environmentOf? firmware = environmentNamed firmware := by
  rw [environmentOf?, environmentNamed]
  exact if_congr (mentions_iff (by simp)) rfl (if_congr (mentions_iff (by simp)) rfl rfl)

/-- A name with a reported value, trimmed, unless the value is missing or blank. -/
def given (name : String) : Option String → List (String × String)
  | some value => if Text.trim value = "" then [] else [(name, Text.trim value)]
  | none => []

/-- A field of the query is given exactly when its value is. -/
theorem queryField_eq (name : String) (value : Option String) :
    queryField name value = given name value := by
  cases value with
  | none => rfl
  | some value =>
    rw [queryField, Text.trimmed?, Option.map_some, given, Option.filter_some]
    by_cases hblank : Text.trim value = "" <;> simp [hblank]

namespace Selection

/-- The address pairs of a report: the outer address that it names, or else the set-top address,
two above the device's own, and the device's own. -/
def addressPairs (s : Selection) (mac : Mac) : List (String × String) :=
  match given "estbMacAddress" s.wanMac with
  | [] => [("estbMacAddress", (mac.offset 2).text), ("ecmMacAddress", mac.text)]
  | reported => reported

/-- The pairs of a report, in order. -/
def pairs (s : Selection) (mac : Mac) (partner : Option String) : List (String × String) :=
  given "env" (s.firmwareVersion.bind environmentNamed) ++ given "partnerId" partner ++
    given "version" s.profileVersion ++ given "model" s.model ++ given "accountId" s.accountId ++
    given "firmwareVersion" s.firmwareVersion ++ s.addressPairs mac

variable {s : Selection} {mac : Mac} {partner : Option String}

/-- The addresses of a query are the listed pairs. -/
theorem addressFields_eq : addressFields mac s.wanMac = s.addressPairs mac := by
  rw [addressFields, addressPairs, ← queryField_eq, queryField]
  cases Text.trimmed? s.wanMac <;> rfl

/-- The fields of a query are the listed pairs in their order. -/
theorem fields_eq : s.fields mac partner = s.pairs mac partner := by
  have henv : environmentOf? = environmentNamed := funext environmentOf?_eq
  simp only [fields, pairs, queryField_eq, addressFields_eq, henv]

/-- There is an address in every report. -/
theorem pairs_ne_nil : s.pairs mac partner ≠ [] := by
  have haddress : s.addressPairs mac ≠ [] := by
    rw [addressPairs]
    split
    · exact List.cons_ne_nil _ _
    next hnonempty => exact hnonempty
  exact fun hnil => haddress (List.append_eq_nil_iff.1 hnil).2

/-- Without params the query is the form of the pairs. -/
theorem toQuery_none : s.toQuery mac partner none = Form.write (s.pairs mac partner) := by
  rw [toQuery, fields_eq]
  rfl

/-- The query is cut at its separators into the spellings of the pairs, one for each. No character
of a value is taken for a separator. -/
theorem spells_toQuery (s : Selection) (mac : Mac) (partner : Option String) :
    List.Forall₂ Form.Spells ((Bytes.ofText (s.toQuery mac partner none)).splitOn 38)
      (s.pairs mac partner) := by
  rw [toQuery_none]
  exact Form.spells_write pairs_ne_nil

/-- A query without params is not empty: an empty line has one element, which spells no pair. -/
theorem toQuery_none_ne_empty (s : Selection) (mac : Mac) (partner : Option String) :
    s.toQuery mac partner none ≠ "" := by
  intro hempty
  have hspells := spells_toQuery s mac partner
  have hline : (Bytes.ofText "").splitOn 38 = [[]] := rfl
  rw [hempty, hline] at hspells
  obtain ⟨_, _, ⟨name, value, heq, -⟩, -, -⟩ := List.forall₂_cons_left_iff.1 hspells
  cases name <;> cases heq

/-- Params are appended as they are, but for the `&` they may start with. -/
theorem exists_toQuery_some (s : Selection) (mac : Mac) (partner : Option String)
    (extra : String) :
    ∃ count rest, extra.toList = List.replicate count '&' ++ rest ∧ rest.head? ≠ some '&' ∧
      s.toQuery mac partner (some extra) =
        if rest = [] then s.toQuery mac partner none
        else s.toQuery mac partner none ++ "&" ++ String.ofList rest := by
  have hmarks : ∀ c ∈ extra.toList.takeWhile (· == '&'), c = '&' := by
    intro c hc
    have htaken := List.mem_takeWhile_imp (p := (· == '&')) hc
    exact beq_iff_eq.1 htaken
  refine ⟨(extra.toList.takeWhile (· == '&')).length, extra.toList.dropWhile (· == '&'), ?_,
    fun hhead => ?_, ?_⟩
  · rw [← List.eq_replicate_of_mem hmarks, List.takeWhile_append_dropWhile]
  · exact absurd (Text.not_of_head?_dropWhile _ hhead) (by decide)
  · have hquery := toQuery_none_ne_empty s mac partner
    rw [toQuery_none] at hquery ⊢
    rw [toQuery, fields_eq, Option.getD_some]
    simp only [String.ofList_eq_empty_iff, if_neg hquery]

end Selection

/-- The primary query, split at each `&` and then at the first `=`, spells the values of a report
that are not blank, under their names and in order, and the addresses, and nothing else; so that is
what the reader of such lines takes it for. The set-top address is the device's own plus two,
modulo 2^48. Params that are appended follow an `&`, without those they start with, and the query
stands alone if nothing is left of them. -/
theorem query_spells (s : Selection) (mac : Mac) (partner : Option String) :
    List.Forall₂ Form.Spells ((Bytes.ofText (s.toQuery mac partner none)).splitOn 38)
      (s.pairs mac partner) ∧
    Form.read (Bytes.ofText (s.toQuery mac partner none)) = s.pairs mac partner ∧
    (mac.offset 2).value = (mac.value + 2) % 2 ^ 48 ∧
    ∀ extra : String, ∃ count rest, extra.toList = List.replicate count '&' ++ rest ∧
      rest.head? ≠ some '&' ∧
      s.toQuery mac partner (some extra) =
        if rest = [] then s.toQuery mac partner none
        else s.toQuery mac partner none ++ "&" ++ String.ofList rest :=
  ⟨s.spells_toQuery mac partner, Form.read_of_spells (s.spells_toQuery mac partner),
    mac.value_offset 2, s.exists_toQuery_some mac partner⟩

/-- A model name that looks like fields of its own stays the value of one. -/
example :
    Selection.toQuery { model := some " x&ecmMacAddress=0+ä " } ⟨"567890ABCDEF", by decide⟩ none
        (some "&&a=b") =
      "model=x%26ecmMacAddress%3D0%2B%C3%A4&estbMacAddress=567890ABCDF1" ++
        "&ecmMacAddress=567890ABCDEF&a=b" := by
  decide +kernel

end GatewayConfig.Telemetry
