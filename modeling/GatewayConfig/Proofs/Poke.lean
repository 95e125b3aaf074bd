import GatewayConfig.Poke
import GatewayConfig.Proofs.Text.Lists

/-!
# Pokes that are accepted

A poke is selected by a list of documents, or else by a route. `Accepted` lists the selections that
are supported, with the action of each, and `Refused` the others, with the first fault of each. The
two lists are complete: `parse_action_iff` and `parse_eq_error_iff` say that a poke is read and
named as the first says, and refused as the second says.
-/

namespace GatewayConfig.Poke

/-- A selector that selects nothing: it is missing or empty. -/
def Absent (value : Option String) : Prop := value = none ∨ value = some ""

/-- The selections that are supported, and the action of each. -/
inductive Accepted (targets : PokeTargets) (doc route : Option String) : String → Prop
  /-- Every document of the list is supported. The action is the list itself, whatever the route
  is. -/
  | docs {text : String} {names : List String} (hdoc : doc = some text) (hne : text ≠ "")
    (hlist : Text.Lists ',' text names) (hknown : ∀ name ∈ names, name ∈ targets.docs) :
    Accepted targets doc route text
  /-- There is no list, and the route is supported. -/
  | route {name : String} (hdoc : Absent doc) (hroute : route = some name) (hne : name ≠ "")
    (hknown : name ∈ targets.routes) : Accepted targets doc route name
  /-- There is neither a list nor a route. -/
  | everything (hdoc : Absent doc) (hroute : Absent route) : Accepted targets doc route "root"

/-- The selections that are not supported, and the fault of each. -/
inductive Refused (targets : PokeTargets) (doc route : Option String) : InvalidRequest → Prop
  /-- A document of the list is not supported, and all before it are. -/
  | doc {text name : String} {known rest : List String} (hdoc : doc = some text) (hne : text ≠ "")
    (hlist : Text.Lists ',' text (known ++ name :: rest))
    (hknown : ∀ k ∈ known, k ∈ targets.docs) (hname : name ∉ targets.docs) :
    Refused targets doc route (.pokeDoc name)
  /-- There is no list, and the route is not supported. -/
  | route {name : String} (hdoc : Absent doc) (hroute : route = some name) (hne : name ≠ "")
    (hname : name ∉ targets.routes) : Refused targets doc route (.pokeRoute name)

section Selectors

variable {value : Option String} {text : String}

/-- An absent value and an empty one are both passed over. -/
theorem Absent.filter_eq (h : Absent value) : value.filter (· ≠ "") = none := by
  rcases h with rfl | rfl <;> rfl

/-- A value that is not empty is kept. -/
theorem filter_eq_of_ne (hvalue : value = some text) (hne : text ≠ "") :
    value.filter (· ≠ "") = some text := by
  rw [hvalue]
  exact Option.filter_some_pos (decide_eq_true hne)

/-- A selector selects nothing, or it has a text. -/
theorem absent_or_text (value : Option String) :
    Absent value ∨ ∃ text, value = some text ∧ text ≠ "" := by
  cases value with
  | none => exact .inl (.inl rfl)
  | some text =>
    by_cases hne : text = ""
    · exact .inl (.inr (congrArg some hne))
    · exact .inr ⟨text, rfl, hne⟩

end Selectors

section Names

variable {supported names : List String}

/-- A name is refused exactly when it is not among the supported ones. -/
theorem contains_eq_false_iff {name : String} :
    supported.contains name = false ↔ name ∉ supported := by
  rw [← List.contains_iff_mem, Bool.not_eq_true]

/-- Every name passes exactly when every name is supported. -/
theorem forall_contains_iff :
    (∀ name ∈ names, supported.contains name = true) ↔ ∀ name ∈ names, name ∈ supported :=
  forall₂_congr fun _ _ => List.contains_iff_mem

end Names

section Parsing

variable {targets : PokeTargets} {doc route : Option String} {action : String}
  {fault : InvalidRequest}

/-- A selection that is supported is read as a poke with its action. -/
theorem Accepted.exists_parse (h : Accepted targets doc route action) :
    ∃ poke, parse doc route targets = .ok poke ∧ poke.action = action := by
  cases h with
  | @docs text names hdoc hne hlist hknown =>
    refine ⟨.docs names, ?_, hlist.joined⟩
    rw [parse, filter_eq_of_ne hdoc hne]
    dsimp only
    rw [Text.lists_iff.1 hlist, Text.find?_unknown_eq_none_iff.2 (forall_contains_iff.2 hknown)]
  | route hdoc hroute hne hknown =>
    refine ⟨.route action, ?_, rfl⟩
    rw [parse, hdoc.filter_eq, filter_eq_of_ne hroute hne]
    exact if_pos (List.contains_iff_mem.2 hknown)
  | everything hdoc hroute =>
    refine ⟨.everything, ?_, rfl⟩
    rw [parse, hdoc.filter_eq, hroute.filter_eq]

/-- A selection that is not supported is refused for its fault. -/
theorem Refused.parse_eq (h : Refused targets doc route fault) :
    parse doc route targets = .error fault := by
  cases h with
  | @doc text name known rest hdoc hne hlist hknown hname =>
    have hfind := Text.find?_unknown_eq_some_iff.2 ⟨contains_eq_false_iff.2 hname, known, rest, rfl,
      forall_contains_iff.2 hknown⟩
    rw [parse, filter_eq_of_ne hdoc hne]
    dsimp only
    rw [Text.lists_iff.1 hlist, hfind]
  | route hdoc hroute hne hname =>
    rw [parse, hdoc.filter_eq, filter_eq_of_ne hroute hne]
    exact if_neg fun hcontains => hname (List.contains_iff_mem.1 hcontains)

/-- A selection is supported, or it has a fault. -/
theorem accepted_or_refused (targets : PokeTargets) (doc route : Option String) :
    (∃ action, Accepted targets doc route action) ∨ ∃ fault, Refused targets doc route fault := by
  rcases absent_or_text doc with hdoc | ⟨text, hdoc, hne⟩
  · rcases absent_or_text route with hroute | ⟨name, hroute, hne⟩
    · exact .inl ⟨_, .everything hdoc hroute⟩
    · by_cases hknown : name ∈ targets.routes
      · exact .inl ⟨_, .route hdoc hroute hne hknown⟩
      · exact .inr ⟨_, .route hdoc hroute hne hknown⟩
  · have hlist : Text.Lists ',' text (Text.split ',' text) := Text.lists_iff.2 rfl
    cases hfind : (Text.split ',' text).find? fun name => !targets.docs.contains name with
    | none =>
      have hknown := forall_contains_iff.1 (Text.find?_unknown_eq_none_iff.1 hfind)
      exact .inl ⟨_, .docs hdoc hne hlist hknown⟩
    | some name =>
      obtain ⟨hname, known, rest, hnames, hknown⟩ := Text.find?_unknown_eq_some_iff.1 hfind
      rw [hnames] at hlist
      exact .inr ⟨_, .doc hdoc hne hlist (forall_contains_iff.1 hknown)
        (contains_eq_false_iff.1 hname)⟩

/-- A poke with an action is read exactly from the selections that have this action. -/
theorem parse_action_iff :
    (∃ poke, parse doc route targets = .ok poke ∧ poke.action = action) ↔
      Accepted targets doc route action := by
  refine ⟨?_, Accepted.exists_parse⟩
  rintro ⟨poke, hparse, rfl⟩
  rcases accepted_or_refused targets doc route with ⟨action, haccepted⟩ | ⟨fault, hrefused⟩
  · obtain ⟨poke', hparse', rfl⟩ := haccepted.exists_parse
    obtain rfl := Except.ok.inj (hparse.symm.trans hparse')
    exact haccepted
  · cases hparse.symm.trans hrefused.parse_eq

/-- A selection is refused for its fault and for nothing else. -/
theorem parse_eq_error_iff :
    parse doc route targets = .error fault ↔ Refused targets doc route fault := by
  refine ⟨fun hparse => ?_, Refused.parse_eq⟩
  rcases accepted_or_refused targets doc route with ⟨action, haccepted⟩ | ⟨first, hrefused⟩
  · obtain ⟨poke, hparse', -⟩ := haccepted.exists_parse
    cases hparse.symm.trans hparse'
  · obtain rfl := Except.error.inj (hparse.symm.trans hrefused.parse_eq)
    exact hrefused

end Parsing

end GatewayConfig.Poke
