import GatewayConfig.Proofs.Telemetry.Pipeline

/-!
# Where query params flow

The backend is looked at once while a bundle is assembled, for the query params of the device, and
all that follows is blind to it. So two backends that say the same about those params cannot be
told apart, and with both switches off no two backends can. `params_confined` says for each setting
of the switches what a bundle and the requests for it may show of the params, and that a partner
who is not known shows in neither.
-/

namespace GatewayConfig.Telemetry

open Store (Backend)

/-- The world with a backend in place of its own. -/
def World.on (w : World) (b : Backend) : World := { w with store.backend := b }

/-- Two runs that cannot be told apart outside the store: they come to one result, and the sources
receive the same requests at the same times. -/
structure SameRun {ε α : Type} (x y : Except ε α × World) : Prop where
  /-- The results are equal. -/
  result : x.1 = y.1
  /-- So is what the sources have received. -/
  received : x.2.received = y.2.received

/-- An action that neither looks at the backend nor touches it. -/
structure Blind {ε α : Type} (a : Action ε α) : Prop where
  /-- It does the same over another backend, and leaves that backend as it was. -/
  run_on : ∀ w b, a (w.on b) = ((a w).1, (a w).2.on b)

section Blindness

variable {ε ε' α β : Type} {a : Action ε α}

/-- Failing is blind to the backend. -/
theorem blind_throw (e : ε) : Blind (throw e : Action ε α) := ⟨fun _ _ => rfl⟩

/-- Renaming the error of an action keeps it blind. -/
theorem Blind.adapt (h : Blind a) (g : ε → ε') : Blind (a.adapt g) := by
  refine ⟨fun w b => ?_⟩
  rw [run_adapt, run_adapt, h.run_on w b]

/-- A chain of blind actions is blind. -/
theorem Blind.bind {f : α → Action ε β} (h : Blind a) (hf : ∀ x, Blind (f x)) :
    Blind (a >>= f) := by
  refine ⟨fun w b => ?_⟩
  rw [run_bind, run_bind, h.run_on w b]
  cases a w with
  | mk result after =>
    cases result with
    | error e => rfl
    | ok x => exact (hf x).run_on after b

/-- Requests are received whatever the backend holds. -/
theorem on_foldl_receive (requests : List Received) (w : World) (b : Backend) :
    requests.foldl World.receive (w.on b) = (requests.foldl World.receive w).on b := by
  induction requests generalizing w with
  | nil => rfl
  | cons r rest ih =>
    have hone : (w.on b).receive r = (w.receive r).on b := by
      unfold World.receive
      cases r.source <;> rfl
    rw [List.foldl_cons, List.foldl_cons, hone, ih]

/-- A call is blind: a source knows nothing of the store. -/
theorem blind_call (s : Settings) (name : SourceName) (endpoint : String) (url : Url)
    (headers : List (String × String)) : Blind (call s name endpoint url headers) := by
  refine ⟨fun w b => ?_⟩
  have hsource : (w.on b).source name = w.source name := by cases name <;> rfl
  simp only [call, hsource, on_foldl_receive]
  rfl

/-- Asking a source is blind, whether or not its URL can be made. -/
theorem blind_ask (s : Settings) (name : SourceName) (service path query : String)
    (c : RequestContext) : Blind (ask s name service path query c) := by
  unfold ask
  dsimp only
  split
  · exact blind_throw _
  · exact blind_call ..

/-- An action stays blind when a stand-in may take the place of what it obtains. -/
theorem Blind.orIfNotFound {act : Action SourceError Bytes} (h : Blind act) (allowed : Bool)
    (standIn : Bytes) : Blind (orIfNotFound allowed standIn act) := by
  refine ⟨fun w b => ?_⟩
  simp only [Telemetry.orIfNotFound, h.run_on w b]
  cases act w with
  | mk result after => cases result <;> rfl

/-- Wrapping a catalog is blind. It draws identifiers, which are not the backend's. -/
theorem blind_wrap (catalog : Bytes) : Blind (wrap catalog) := by
  refine ⟨fun w b => ?_⟩
  rw [wrap_eq, wrap_eq]
  rfl

/-- Once there is a base the backend is looked at no more. -/
theorem blind_complete (s : Settings) (mac : Mac) (c : RequestContext) (params : Option String)
    (base : Bytes) : Blind (complete s mac c params base) := by
  cases params with
  | none => exact blind_wrap base
  | some params =>
    unfold complete
    dsimp only
    split
    · refine (((blind_ask ..).orIfNotFound ..).adapt _).bind fun extra => ?_
      cases appendProfiles base extra with
      | error e => exact blind_throw _
      | ok catalog => exact blind_wrap catalog
    · exact blind_wrap base

/-- What is done with the query params is blind to the backend that they come from. -/
theorem blind_proceed (s : Settings) (mac : Mac) (selection : Selection) (c : RequestContext)
    (params : Option String) : Blind (proceed s mac selection c params) :=
  (((blind_ask ..).orIfNotFound ..).adapt _).bind (blind_complete s mac c params)

end Blindness

section Runs

variable {s : Settings} {mac : Mac} {selection : Selection} {c : RequestContext} {w : World}
  {b b' : Backend}

/-- The query params that a backend yields. Those that are empty count as none. -/
def paramsOn (s : Settings) (mac : Mac) (w : World) (b : Backend) :
    Except Store.Error (Option String) :=
  (storedParams s mac (w.on b)).1

/-- Of the backend, nothing but the query params has a part in a bundle. -/
theorem bundle_on (s : Settings) (mac : Mac) (selection : Selection) (c : RequestContext)
    (w : World) (b : Backend) :
    ∃ b', bundle s mac selection c (w.on b) = match paramsOn s mac w b with
      | .error e => (.error (.store e), w.on b')
      | .ok params =>
        ((proceed s mac selection c params w).1, (proceed s mac selection c params w).2.on b') := by
  obtain ⟨result, after, hparams⟩ := exists_consults s mac (w.on b)
  have hrun := storedParams_of_consults hparams
  have hafter : ∃ b', after = w.on b' := by
    rw [hparams.after_eq]
    split
    · exact ⟨_, rfl⟩
    · exact ⟨b, rfl⟩
  obtain ⟨b', rfl⟩ := hafter
  refine ⟨b', ?_⟩
  rw [paramsOn, hrun]
  cases result with
  | error e => exact bundle_of_gathers_error (.unreadable hparams)
  | ok params => rw [bundle_of_params hparams, (blind_proceed s mac selection c params).run_on w b']

/-- Backends that yield the same params cannot be told apart. -/
theorem sameRun_of_paramsOn_eq (h : paramsOn s mac w b = paramsOn s mac w b') :
    SameRun (bundle s mac selection c (w.on b)) (bundle s mac selection c (w.on b')) := by
  obtain ⟨b₁, hrun⟩ := bundle_on s mac selection c w b
  obtain ⟨b₁', hrun'⟩ := bundle_on s mac selection c w b'
  rw [hrun, hrun', h]
  cases paramsOn s mac w b' with
  | error e => exact ⟨rfl, rfl⟩
  | ok params => exact ⟨rfl, rfl⟩

/-- Nothing is asked of the backend when both switches are off. -/
theorem paramsOn_of_off (happending : s.appending = false) (hsecondary : s.secondaryEnabled = false)
    (b : Backend) : paramsOn s mac w b = .ok none := by
  rw [paramsOn, storedParams_of_consults (.unused happending hsecondary)]

/-- The backend is asked for the params when a switch is on. -/
theorem paramsOn_of_reports {result : Except Store.Error (Option String)}
    (huse : s.appending = true ∨ s.secondaryEnabled = true) (h : Reports b mac result) :
    paramsOn s mac w b = result := by
  rw [paramsOn, storedParams_of_consults (.read huse h)]

/-- Empty params are yielded where there are none. -/
theorem paramsOn_eq_of_empty (hfailing : b.failing = b'.failing)
    (hnone : b.entries.get? (Store.paramsKey mac) = none)
    (hempty : b'.entries.get? (Store.paramsKey mac) = some (Bytes.ofText "")) :
    paramsOn s mac w b = paramsOn s mac w b' := by
  by_cases huse : s.appending = true ∨ s.secondaryEnabled = true
  · cases hf : b.failing with
    | true =>
      rw [paramsOn_of_reports huse (.unavailable hf),
        paramsOn_of_reports huse (.unavailable (hfailing ▸ hf))]
    | false =>
      rw [paramsOn_of_reports huse (.missing hf hnone),
        paramsOn_of_reports huse (.empty (hfailing ▸ hf) hempty (Bytes.text?_ofText ""))]
  · rw [not_or, Bool.not_eq_true, Bool.not_eq_true] at huse
    rw [paramsOn_of_off huse.1 huse.2, paramsOn_of_off huse.1 huse.2]

/-- Params that the backend can read are yielded in some form. -/
theorem exists_paramsOn_of_getParams {found : Option String}
    (h : (Store.getParams mac (w.on b).store).1 = .ok found) :
    ∃ params, paramsOn s mac w b = .ok params := by
  by_cases huse : s.appending = true ∨ s.secondaryEnabled = true
  · obtain ⟨result, hreports⟩ := exists_reports b mac
    have hread := getParams_of_reports (t := (w.on b).store) hreports
    rw [h] at hread
    exact ⟨_, (paramsOn_of_reports huse hreports).trans hread.symm⟩
  · rw [not_or, Bool.not_eq_true, Bool.not_eq_true] at huse
    exact ⟨none, paramsOn_of_off huse.1 huse.2 b⟩

/-- The requests that the primary source has received. -/
def World.primaryRequests (w : World) : List Received :=
  w.received.filter fun r => r.source = .primary

/-- The backend has no part in what the primary source has received. -/
theorem primaryRequests_on (w : World) (b : Backend) :
    (w.on b).primaryRequests = w.primaryRequests := rfl

/-- What is done with a base sends nothing to the primary source. -/
theorem primaryRequests_complete (params : Option String) (base : Bytes) (w : World) :
    (complete s mac c params base w).2.primaryRequests = w.primaryRequests := by
  have hwrap : ∀ catalog (w : World), (wrap catalog w).2.primaryRequests = w.primaryRequests :=
    fun catalog w => congrArg (List.filter _) (wraps_wrap catalog w).received
  by_cases halone : s.secondaryEnabled = false ∨ params = none
  · rw [complete_of_alone halone, hwrap]
  · rw [not_or, Bool.not_eq_false] at halone
    obtain ⟨params, rfl⟩ := Option.ne_none_iff_exists'.1 halone.2
    obtain ⟨result, after, hextra⟩ : ∃ result after, ObtainsExtra s mac c params w result after :=
      exists_obtains ..
    have hafter : after.primaryRequests = w.primaryRequests := by
      obtain ⟨sent, hreceived, hsent⟩ := hextra.received
      have hnone : sent.filter (fun r => r.source = .primary) = [] := by
        refine List.filter_eq_nil_iff.2 fun r hr => ?_
        rw [(hsent r hr).source]
        decide
      rw [World.primaryRequests, hreceived, List.filter_append, hnone, List.append_nil]
      rfl
    cases result with
    | error e => rw [complete_of_error halone.1 hextra, hafter]
    | ok extra =>
      rw [complete_of_extra halone.1 hextra]
      cases appendProfiles base extra with
      | error e => exact hafter
      | ok catalog => exact (hwrap catalog after).trans hafter

/-- When nothing is appended, the primary source receives the same whatever the params are. -/
theorem primaryRequests_proceed (happending : s.appending = false) (params params' : Option String)
    (w : World) :
    (proceed s mac selection c params w).2.primaryRequests =
      (proceed s mac selection c params' w).2.primaryRequests := by
  have hquery : ∀ params, primaryQuery s mac selection params =
      primaryQuery s mac selection none := by
    intro params
    rw [primaryQuery, primaryQuery, happending]
    rfl
  simp only [proceed, hquery params, hquery params', run_bind]
  cases (orIfNotFound s.secondaryEnabled emptyCatalog
      (askPrimary s (primaryQuery s mac selection none) c)).adapt BundleError.source w with
  | mk result after =>
    cases result with
    | error e => rfl
    | ok base =>
      dsimp only
      rw [primaryRequests_complete, primaryRequests_complete]

/-- A partner who is not listed is not known. -/
theorem knownPartner?_eq_none {partners : List String} {reported : String}
    (h : ∀ p ∈ partners, Text.lower p ≠ Text.lower (Text.trim reported)) :
    knownPartner? partners (some reported) = none := by
  refine Option.filter_eq_none_iff.2 fun p hp hany => ?_
  obtain ⟨hmap, -⟩ := Option.filter_eq_some_iff.1 hp
  obtain rfl := Option.some.inj hmap
  obtain ⟨partner, hmem, hsame⟩ := List.any_eq_true.1 hany
  exact h partner hmem (beq_iff_eq.1 hsame).symm

/-- Of the partner, nothing but whether it is known has a part in a bundle. -/
theorem bundle_congr_partner {partner partner' : Option String}
    (h : knownPartner? s.partners partner = knownPartner? s.partners partner') (w : World) :
    bundle s mac { selection with partnerId := partner } c w =
      bundle s mac { selection with partnerId := partner' } c w := by
  have hquery : ∀ params, primaryQuery s mac { selection with partnerId := partner } params =
      primaryQuery s mac { selection with partnerId := partner' } params := by
    intro params
    rw [primaryQuery, primaryQuery, h]
    rfl
  have hproceed : proceed s mac { selection with partnerId := partner } c =
      proceed s mac { selection with partnerId := partner' } c := by
    funext params
    rw [proceed, hquery, proceed]
  rw [bundle_eq_bind, bundle_eq_bind, hproceed]

end Runs

/-- With both switches off, no two backends can be told apart by a bundle and the requests for it.
When the params are not to be appended, those that can be read do not show in what the primary
source receives. Empty params are as good as none, under any setting. A partner who is not listed,
up to case and white space around it, is as good as none. -/
theorem params_confined (s : Settings) (mac : Mac) (selection : Selection) (c : RequestContext)
    (w : World) :
    (s.secondaryEnabled = false → s.appending = false → ∀ b b',
      SameRun (bundle s mac selection c (w.on b)) (bundle s mac selection c (w.on b'))) ∧
    (s.appending = false → ∀ b b' found found',
      (Store.getParams mac (w.on b).store).1 = .ok found →
      (Store.getParams mac (w.on b').store).1 = .ok found' →
      (bundle s mac selection c (w.on b)).2.primaryRequests =
        (bundle s mac selection c (w.on b')).2.primaryRequests) ∧
    (∀ b b', b.failing = b'.failing → b.entries.get? (Store.paramsKey mac) = none →
      b'.entries.get? (Store.paramsKey mac) = some (Bytes.ofText "") →
      SameRun (bundle s mac selection c (w.on b)) (bundle s mac selection c (w.on b'))) ∧
    ∀ reported, (∀ p ∈ s.partners, Text.lower p ≠ Text.lower (Text.trim reported)) →
      bundle s mac { selection with partnerId := some reported } c w =
        bundle s mac { selection with partnerId := none } c w := by
  refine ⟨fun hsecondary happending b b' => ?_, fun happending b b' found found' hb hb' => ?_,
    fun b b' hfailing hnone hempty => ?_, fun reported hunknown => ?_⟩
  · apply sameRun_of_paramsOn_eq
    rw [paramsOn_of_off happending hsecondary, paramsOn_of_off happending hsecondary]
  · obtain ⟨params, hparams⟩ := exists_paramsOn_of_getParams (s := s) hb
    obtain ⟨params', hparams'⟩ := exists_paramsOn_of_getParams (s := s) hb'
    obtain ⟨b₁, hrun⟩ := bundle_on s mac selection c w b
    obtain ⟨b₁', hrun'⟩ := bundle_on s mac selection c w b'
    rw [hrun, hrun', hparams, hparams']
    dsimp only
    rw [primaryRequests_on, primaryRequests_on]
    exact primaryRequests_proceed happending params params' w
  · exact sameRun_of_paramsOn_eq (paramsOn_eq_of_empty hfailing hnone hempty)
  · exact bundle_congr_partner (knownPartner?_eq_none hunknown) w

/-- The settings of one host with the secondary source off. -/
def primaryOnly : Settings := { oneHost with secondaryEnabled := false }

/-- A backend that holds one entry for the device, or none. -/
def holding (raw : Option Bytes) (failing : Bool) : Backend where
  entries := (raw.map fun bytes => (Store.paramsKey oneDevice, bytes)).toList
  failing := failing

/-- A failing backend and one with a value that is no text look alike while both switches are off.
With the secondary source on, the primary source receives the same for a device with params and for
one without, empty params show nowhere, and neither does a partner who is not listed. -/
theorem params_confined_oneDevice :
    SameRun
        (bundle primaryOnly oneDevice {} ⟨"a", none, none⟩
          (nothingKnown.on (holding none true)))
        (bundle primaryOnly oneDevice {} ⟨"a", none, none⟩
          (nothingKnown.on (holding (some [255]) false))) ∧
      (bundle oneHost oneDevice {} ⟨"a", none, none⟩
          (nothingKnown.on (holding (some (Bytes.ofText "k=v")) false))).2.primaryRequests =
        (bundle oneHost oneDevice {} ⟨"a", none, none⟩
          (nothingKnown.on (holding none false))).2.primaryRequests ∧
      SameRun (bundle oneHost oneDevice {} ⟨"a", none, none⟩ (nothingKnown.on (holding none false)))
        (bundle oneHost oneDevice {} ⟨"a", none, none⟩
          (nothingKnown.on (holding (some []) false))) ∧
      bundle oneHost oneDevice { partnerId := some " acme" } ⟨"a", none, none⟩ nothingKnown =
        bundle oneHost oneDevice {} ⟨"a", none, none⟩ nothingKnown := by
  obtain ⟨hoff, -⟩ := params_confined primaryOnly oneDevice {} ⟨"a", none, none⟩ nothingKnown
  obtain ⟨-, hprimary, hempty, hpartner⟩ :=
    params_confined oneHost oneDevice {} ⟨"a", none, none⟩ nothingKnown
  have hfound : ∀ raw, (holding (some raw) false).entries.get? (Store.paramsKey oneDevice) =
      some raw := fun _ => List.lookup_cons_self
  have hread : (Store.getParams oneDevice
      (nothingKnown.on (holding (some (Bytes.ofText "k=v")) false)).store).1 =
        .ok (some "k=v") := by
    simp only [Store.getParams_result, World.on, hfound, Bytes.text?_ofText]
    rfl
  exact ⟨hoff rfl rfl _ _, hprimary rfl _ _ _ _ hread rfl, hempty _ _ rfl rfl (hfound []),
    hpartner " acme" (by decide +kernel)⟩

end GatewayConfig.Telemetry
