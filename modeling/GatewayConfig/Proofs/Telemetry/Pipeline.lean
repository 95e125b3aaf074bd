import GatewayConfig.Proofs.Multipart.RoundTrip
import GatewayConfig.Proofs.Store.Reading
import GatewayConfig.Proofs.Telemetry.Call
import GatewayConfig.Proofs.Version

/-!
# How a bundle comes about

A bundle is assembled in steps: the query params are consulted, the primary source is asked, then
perhaps the secondary source, and the catalog is wrapped. `Gathers` lists how the steps up to the
catalog can go and `Assembles` adds the last one. `bundle_pipeline` says that a bundle is assembled
in one of these ways and in no other, whatever is stored and whatever the sources reply.
-/

namespace GatewayConfig.Telemetry

/-- What a backend says about the query params of a device. Empty ones count as none. -/
inductive Reports (b : Store.Backend) (mac : Mac) : Except Store.Error (Option String) → Prop
  /-- The backend is failing. -/
  | unavailable (hfailing : b.failing = true) : Reports b mac (.error .unavailable)
  /-- There are none. -/
  | missing (hfailing : b.failing = false)
    (hget : b.entries.get? (Store.paramsKey mac) = none) : Reports b mac (.ok none)
  /-- What is stored is no text. -/
  | damaged {raw : Bytes} (hfailing : b.failing = false)
    (hget : b.entries.get? (Store.paramsKey mac) = some raw) (htext : Bytes.text? raw = none) :
    Reports b mac (.error (.corrupt (Store.paramsKey mac) .paramsEncoding))
  /-- They are empty. -/
  | empty {raw : Bytes} (hfailing : b.failing = false)
    (hget : b.entries.get? (Store.paramsKey mac) = some raw) (htext : Bytes.text? raw = some "") :
    Reports b mac (.ok none)
  /-- There are some. -/
  | found {raw : Bytes} {params : String} (hfailing : b.failing = false)
    (hget : b.entries.get? (Store.paramsKey mac) = some raw)
    (htext : Bytes.text? raw = some params) (hne : params ≠ "") : Reports b mac (.ok (some params))

/-- The world after a device's query params were asked for: the store notes the access. -/
def World.consulted (w : World) (mac : Mac) : World :=
  { w with store.backend.journal := .read (Store.paramsKey mac) :: w.store.backend.journal }

/-- Consulting the query params: they are read exactly when a switch has a use for them. -/
inductive Consults (s : Settings) (mac : Mac) (w : World) :
    Except Store.Error (Option String) → World → Prop
  /-- Both switches are off. -/
  | unused (happending : s.appending = false) (hsecondary : s.secondaryEnabled = false) :
    Consults s mac w (.ok none) w
  /-- A switch is on. -/
  | read {result : Except Store.Error (Option String)}
    (huse : s.appending = true ∨ s.secondaryEnabled = true)
    (hreports : Reports w.store.backend mac result) : Consults s mac w result (w.consulted mac)

section Params

variable {s : Settings} {mac : Mac} {w : World} {result : Except Store.Error (Option String)}

/-- Every backend has something to say, if only that it fails. -/
theorem exists_reports (b : Store.Backend) (mac : Mac) : ∃ result, Reports b mac result := by
  cases hfailing : b.failing with
  | true => exact ⟨_, .unavailable hfailing⟩
  | false =>
    cases hget : b.entries.get? (Store.paramsKey mac) with
    | none => exact ⟨_, .missing hfailing hget⟩
    | some raw =>
      cases htext : Bytes.text? raw with
      | none => exact ⟨_, .damaged hfailing hget htext⟩
      | some params =>
        by_cases hne : params = ""
        · exact ⟨_, .empty hfailing hget (hne ▸ htext)⟩
        · exact ⟨_, .found hfailing hget htext hne⟩

/-- The read of the params gives what the backend reports, with empty ones as none. -/
theorem getParams_of_reports {t : Store.State} (h : Reports t.backend mac result) :
    (Store.getParams mac t).1.map (·.filter (· ≠ "")) = result := by
  rw [Store.getParams_result]
  cases h with
  | unavailable hfailing => rw [hfailing]; rfl
  | missing hfailing hget => rw [hfailing, hget]; rfl
  | damaged hfailing hget htext => simp only [hfailing, hget, htext]; rfl
  | empty hfailing hget htext => simp only [hfailing, hget, htext]; rfl
  | found hfailing hget htext hne =>
    simp only [hfailing, hget, htext]
    exact congrArg Except.ok (Option.filter_some_pos (by simpa using hne))

/-- The query params are consulted in one way or another, whatever the switches are. -/
theorem exists_consults (s : Settings) (mac : Mac) (w : World) :
    ∃ result after, Consults s mac w result after := by
  by_cases huse : s.appending = true ∨ s.secondaryEnabled = true
  · obtain ⟨result, hreports⟩ := exists_reports w.store.backend mac
    exact ⟨_, _, .read huse hreports⟩
  · rw [not_or, Bool.not_eq_true, Bool.not_eq_true] at huse
    exact ⟨_, _, .unused huse.1 huse.2⟩

/-- The relation describes the function: result and world are those of the consultation. -/
theorem storedParams_of_consults {after : World} (h : Consults s mac w result after) :
    storedParams s mac w = (result, after) := by
  cases h with
  | unused happending hsecondary =>
    rw [storedParams, happending, hsecondary]
    rfl
  | read huse hreports =>
    have hon : (s.appending || s.secondaryEnabled) = true := Bool.or_eq_true_iff.2 huse
    have hstate : (Store.getParams mac w.store).2 = (w.consulted mac).store := by
      rw [Store.getParams_state, Store.run_get]
      rfl
    rw [storedParams, if_pos hon, run_bind_pure]
    refine Prod.ext (getParams_of_reports hreports) ?_
    change { w with store := (Store.getParams mac w.store).2 } = _
    rw [hstate]
    rfl

end Params

/-- The primary query of a device: what it reports, its partner if that is a known one, and the
query params if they are to be appended. -/
def primaryQuery (s : Settings) (mac : Mac) (selection : Selection) (params : Option String) :
    String :=
  selection.toQuery mac (knownPartner? s.partners selection.partnerId)
    (if s.appending then params else none)

/-- Asking for the base. The empty catalog stands in for it where extra profiles may follow. -/
def ObtainsBase (s : Settings) (mac : Mac) (selection : Selection) (c : RequestContext)
    (params : Option String) : World → Except SourceError Bytes → World → Prop :=
  Obtains s .primary "xconf" s.primaryPath (primaryQuery s mac selection params) c
    (if s.secondaryEnabled then some emptyCatalog else none)

/-- Asking for the extra profiles. A source that knows nothing has none. -/
def ObtainsExtra (s : Settings) (mac : Mac) (c : RequestContext) (params : String) :
    World → Except SourceError Bytes → World → Prop :=
  Obtains s .secondary "profiles" (secondaryPath mac) params c (some [])

/-- How the catalog of a device is gathered, and what the world is like after that. -/
inductive Gathers (s : Settings) (mac : Mac) (selection : Selection) (c : RequestContext)
    (w : World) : Except BundleError Bytes → World → Prop
  /-- The query params cannot be read. -/
  | unreadable {e : Store.Error} {w₁ : World} (hparams : Consults s mac w (.error e) w₁) :
    Gathers s mac selection c w (.error (.store e)) w₁
  /-- There is no base. -/
  | noBase {params : Option String} {e : SourceError} {w₁ w₂ : World}
    (hparams : Consults s mac w (.ok params) w₁)
    (hbase : ObtainsBase s mac selection c params w₁ (.error e) w₂) :
    Gathers s mac selection c w (.error (.source e)) w₂
  /-- No extra profiles are asked for. -/
  | baseAlone {params : Option String} {base : Bytes} {w₁ w₂ : World}
    (hparams : Consults s mac w (.ok params) w₁)
    (hbase : ObtainsBase s mac selection c params w₁ (.ok base) w₂)
    (halone : s.secondaryEnabled = false ∨ params = none) :
    Gathers s mac selection c w (.ok base) w₂
  /-- Extra profiles are asked for in vain. -/
  | noExtra {params : String} {base : Bytes} {e : SourceError} {w₁ w₂ w₃ : World}
    (hparams : Consults s mac w (.ok (some params)) w₁)
    (hbase : ObtainsBase s mac selection c (some params) w₁ (.ok base) w₂)
    (hsecondary : s.secondaryEnabled = true)
    (hextra : ObtainsExtra s mac c params w₂ (.error e) w₃) :
    Gathers s mac selection c w (.error (.source e)) w₃
  /-- The extra profiles do not fit the base. -/
  | unmergeable {params : String} {base extra : Bytes} {e : MergeError} {w₁ w₂ w₃ : World}
    (hparams : Consults s mac w (.ok (some params)) w₁)
    (hbase : ObtainsBase s mac selection c (some params) w₁ (.ok base) w₂)
    (hsecondary : s.secondaryEnabled = true)
    (hextra : ObtainsExtra s mac c params w₂ (.ok extra) w₃)
    (hmerge : appendProfiles base extra = .error e) :
    Gathers s mac selection c w (.error (.merge e)) w₃
  /-- The extra profiles are appended to the base. -/
  | merged {params : String} {base extra catalog : Bytes} {w₁ w₂ w₃ : World}
    (hparams : Consults s mac w (.ok (some params)) w₁)
    (hbase : ObtainsBase s mac selection c (some params) w₁ (.ok base) w₂)
    (hsecondary : s.secondaryEnabled = true)
    (hextra : ObtainsExtra s mac c params w₂ (.ok extra) w₃)
    (hmerge : appendProfiles base extra = .ok catalog) :
    Gathers s mac selection c w (.ok catalog) w₃

section Gathering

variable {s : Settings} {mac : Mac} {selection : Selection} {c : RequestContext} {w : World}

/-- A catalog is gathered in some way, or is not. -/
theorem exists_gathers (s : Settings) (mac : Mac) (selection : Selection) (c : RequestContext)
    (w : World) : ∃ result after, Gathers s mac selection c w result after := by
  obtain ⟨consulted, w₁, hparams⟩ := exists_consults s mac w
  cases consulted with
  | error e => exact ⟨_, _, .unreadable hparams⟩
  | ok params =>
    obtain ⟨primary, w₂, hbase⟩ : ∃ result after, ObtainsBase s mac selection c params w₁ result
      after := exists_obtains ..
    cases primary with
    | error e => exact ⟨_, _, .noBase hparams hbase⟩
    | ok base =>
      cases params with
      | none => exact ⟨_, _, .baseAlone hparams hbase (.inr rfl)⟩
      | some params =>
        cases hsecondary : s.secondaryEnabled with
        | false => exact ⟨_, _, .baseAlone hparams hbase (.inl hsecondary)⟩
        | true =>
          obtain ⟨secondary, w₃, hextra⟩ : ∃ result after, ObtainsExtra s mac c params w₂ result
            after := exists_obtains ..
          cases secondary with
          | error e => exact ⟨_, _, .noExtra hparams hbase hsecondary hextra⟩
          | ok extra =>
            cases hmerge : appendProfiles base extra with
            | error e => exact ⟨_, _, .unmergeable hparams hbase hsecondary hextra hmerge⟩
            | ok catalog => exact ⟨_, _, .merged hparams hbase hsecondary hextra hmerge⟩

/-- What is done with a base. -/
def complete (s : Settings) (mac : Mac) (c : RequestContext) (params : Option String)
    (base : Bytes) : Action BundleError Bundle :=
  match params with
  | some params =>
    if s.secondaryEnabled then do
      let extra ← (orIfNotFound true [] (askSecondary s mac params c)).adapt .source
      match appendProfiles base extra with
      | .error e => throw (.merge e)
      | .ok catalog => wrap catalog
    else wrap base
  | none => wrap base

/-- What is done with the query params. -/
def proceed (s : Settings) (mac : Mac) (selection : Selection) (c : RequestContext)
    (params : Option String) : Action BundleError Bundle :=
  (orIfNotFound s.secondaryEnabled emptyCatalog
    (askPrimary s (primaryQuery s mac selection params) c)).adapt .source >>=
      complete s mac c params

/-- A bundle begins with the query params and goes on from them. -/
theorem bundle_eq_bind (s : Settings) (mac : Mac) (selection : Selection) (c : RequestContext) :
    bundle s mac selection c =
      (storedParams s mac).adapt .store >>= proceed s mac selection c := rfl

/-- Renaming the error of an action changes its result only. -/
theorem adapt_of_eq {ε ε' α : Type} {a : Action ε α} {result : Except ε α} {after : World}
    (h : a w = (result, after)) (g : ε → ε') : a.adapt g w = (result.mapError g, after) := by
  rw [run_adapt, h]

/-- With the query params known a bundle goes on from there. -/
theorem bundle_of_params {params : Option String} {w₁ : World}
    (h : Consults s mac w (.ok params) w₁) :
    bundle s mac selection c w = proceed s mac selection c params w₁ := by
  have hrun := adapt_of_eq (storedParams_of_consults h) BundleError.store
  rw [bundle_eq_bind, run_bind_of_ok hrun]

/-- Without a base the error of the source is the result, and the secondary source is not asked. -/
theorem proceed_of_error {params : Option String} {e : SourceError} {after : World}
    (h : ObtainsBase s mac selection c params w (.error e) after) :
    proceed s mac selection c params w = (.error (.source e), after) := by
  have hrun := adapt_of_eq (orIfNotFound_of_obtains s.secondaryEnabled h) BundleError.source
  exact run_bind_of_error hrun _

/-- With a base the bundle is completed, be the base the catalog of the source or the empty one. -/
theorem proceed_of_base {params : Option String} {base : Bytes} {after : World}
    (h : ObtainsBase s mac selection c params w (.ok base) after) :
    proceed s mac selection c params w = complete s mac c params base after := by
  have hrun := adapt_of_eq (orIfNotFound_of_obtains s.secondaryEnabled h) BundleError.source
  exact run_bind_of_ok hrun _

/-- Without extra profiles to ask for the base is wrapped as it is. -/
theorem complete_of_alone {params : Option String} {base : Bytes}
    (h : s.secondaryEnabled = false ∨ params = none) :
    complete s mac c params base = wrap base := by
  cases params with
  | none => rfl
  | some params => exact if_neg (Bool.not_eq_true _ ▸ h.resolve_right nofun)

/-- An error of the secondary source is the result, and the base is lost. -/
theorem complete_of_error {params : String} {e : SourceError} {base : Bytes} {after : World}
    (hsecondary : s.secondaryEnabled = true)
    (h : ObtainsExtra s mac c params w (.error e) after) :
    complete s mac c (some params) base w = (.error (.source e), after) := by
  have hrun := adapt_of_eq (orIfNotFound_of_obtains true h) BundleError.source
  rw [complete, if_pos hsecondary]
  exact run_bind_of_error hrun _

/-- With extra profiles the two are merged and wrapped, or the merge fails. -/
theorem complete_of_extra {params : String} {base extra : Bytes} {after : World}
    (hsecondary : s.secondaryEnabled = true)
    (h : ObtainsExtra s mac c params w (.ok extra) after) :
    complete s mac c (some params) base w = (match appendProfiles base extra with
      | .error e => throw (.merge e)
      | .ok catalog => wrap catalog : Action BundleError Bundle) after := by
  have hrun := adapt_of_eq (orIfNotFound_of_obtains true h) BundleError.source
  rw [complete, if_pos hsecondary]
  exact run_bind_of_ok hrun _

/-- A catalog that is gathered is wrapped. -/
theorem bundle_of_gathers {catalog : Bytes} {after : World}
    (h : Gathers s mac selection c w (.ok catalog) after) :
    bundle s mac selection c w = wrap catalog after := by
  cases h with
  | baseAlone hparams hbase halone =>
    rw [bundle_of_params hparams, proceed_of_base hbase, complete_of_alone halone]
  | merged hparams hbase hsecondary hextra hmerge =>
    rw [bundle_of_params hparams, proceed_of_base hbase, complete_of_extra hsecondary hextra,
      hmerge]

/-- Without a catalog there is no bundle. -/
theorem bundle_of_gathers_error {e : BundleError} {after : World}
    (h : Gathers s mac selection c w (.error e) after) :
    bundle s mac selection c w = (.error e, after) := by
  cases h with
  | unreadable hparams =>
    have hrun := adapt_of_eq (storedParams_of_consults hparams) BundleError.store
    exact run_bind_of_error hrun _
  | noBase hparams hbase => rw [bundle_of_params hparams, proceed_of_error hbase]
  | noExtra hparams hbase hsecondary hextra =>
    rw [bundle_of_params hparams, proceed_of_base hbase, complete_of_error hsecondary hextra]
  | unmergeable hparams hbase hsecondary hextra hmerge =>
    rw [bundle_of_params hparams, proceed_of_base hbase, complete_of_extra hsecondary hextra,
      hmerge]
    rfl

end Gathering

/-- The only part of a bundle. -/
def catalogPart (catalog : Bytes) : Multipart.Part :=
  { name := bundlePart, version := .ofBytes catalog, bytes := catalog,
    contentType := "application/json" }

/-- The world after so many identifiers were drawn. -/
def World.drawn (w : World) (count : Nat) : World :=
  { w with store.uuids := ⟨w.store.uuids.next + count⟩ }

/-- Whether the boundary made from an identifier to come is free for a catalog. -/
def freeFor (catalog : Bytes) (w : World) (i : Nat) : Bool :=
  Multipart.isFree [catalogPart catalog] (Multipart.boundaryAt (w.store.uuids.next + i))

/-- A catalog as a message under the boundary made from an identifier to come. -/
def messageAt (catalog : Bytes) (w : World) (i : Nat) : Multipart.Message :=
  ⟨Multipart.boundaryAt (w.store.uuids.next + i),
    Multipart.writeBody (Multipart.boundaryAt (w.store.uuids.next + i)) [catalogPart catalog]⟩

/-- A catalog is wrapped under the first free boundary of those that may be drawn. -/
inductive Wraps (catalog : Bytes) (w : World) : Except BundleError Bundle → World → Prop
  /-- One is free. -/
  | message {i : Nat} (hi : i < Multipart.boundaryAttempts)
    (htaken : ∀ j < i, freeFor catalog w j = false) (hfree : freeFor catalog w i = true) :
    Wraps catalog w
      (.ok ⟨Version.root [(bundlePart, Version.ofBytes catalog)], messageAt catalog w i⟩)
      (w.drawn (i + 1))
  /-- None is free. -/
  | exhausted (htaken : ∀ i < Multipart.boundaryAttempts, freeFor catalog w i = false) :
    Wraps catalog w (.error (.codec .boundaryExhausted)) (w.drawn Multipart.boundaryAttempts)

/-- How a bundle is assembled, and what the world is like after that. -/
inductive Assembles (s : Settings) (mac : Mac) (selection : Selection) (c : RequestContext)
    (w : World) : Except BundleError Bundle → World → Prop
  /-- There is no catalog. -/
  | failed {e : BundleError} {after : World}
    (hgathers : Gathers s mac selection c w (.error e) after) :
    Assembles s mac selection c w (.error e) after
  /-- There is one. -/
  | gathered {catalog : Bytes} {w₁ after : World} {result : Except BundleError Bundle}
    (hgathers : Gathers s mac selection c w (.ok catalog) w₁)
    (hwraps : Wraps catalog w₁ result after) : Assembles s mac selection c w result after

section Assembly

variable {s : Settings} {mac : Mac} {selection : Selection} {c : RequestContext} {w : World}
  {result : Except BundleError Bundle} {after : World}

/-- Wrapping a catalog is encoding its one part. Nothing but the supply of identifiers changes. -/
theorem wrap_eq (catalog : Bytes) (w : World) :
    wrap catalog w =
      (((Multipart.encode [catalogPart catalog] w.store.uuids).1.mapError BundleError.codec).map
        fun message => ⟨Version.root [(bundlePart, Version.ofBytes catalog)], message⟩,
        { w with store.uuids := (Multipart.encode [catalogPart catalog] w.store.uuids).2 }) := by
  have hwrap : wrap catalog =
      ((onStore (Store.encodeParts [catalogPart catalog])).adapt .codec >>= fun message =>
        pure ⟨Version.root [(bundlePart, Version.ofBytes catalog)], message⟩) := rfl
  rw [hwrap, run_bind_pure]
  rfl

/-- Wrapping draws boundaries until one is free. -/
theorem wraps_wrap (catalog : Bytes) (w : World) :
    Wraps catalog w (wrap catalog w).1 (wrap catalog w).2 := by
  have hcases := Multipart.encode_cases [catalogPart catalog] w.store.uuids
  rw [wrap_eq]
  rcases hcases with ⟨i, hi, htaken, hfree, hencode⟩ | ⟨htaken, hencode⟩
  · rw [hencode]
    exact .message hi htaken hfree
  · rw [hencode]
    exact .exhausted htaken

/-- Nothing else is wrapping: there is one first free boundary, or there is none. -/
theorem Wraps.wrap_eq {catalog : Bytes} (h : Wraps catalog w result after) :
    wrap catalog w = (result, after) := by
  rw [Telemetry.wrap_eq]
  cases h with
  | message hi htaken hfree =>
    rw [Multipart.encode_of_first hi htaken hfree]
    rfl
  | exhausted htaken =>
    rw [Multipart.encode_of_taken htaken]
    rfl

/-- The relation describes the function: result and world are those of wrapping. -/
theorem wrap_eq_iff {catalog : Bytes} :
    wrap catalog w = (result, after) ↔ Wraps catalog w result after := by
  constructor
  · intro h
    have hwraps := wraps_wrap catalog w
    rw [h] at hwraps
    exact hwraps
  · exact Wraps.wrap_eq

/-- A bundle is assembled in the ways listed and in no other. A catalog is gathered in some way of
the list, and what is wrapped is what that way yields. -/
theorem bundle_eq_iff :
    bundle s mac selection c w = (result, after) ↔
      Assembles s mac selection c w result after := by
  constructor
  · intro h
    obtain ⟨gathered, w₁, hgathers⟩ := exists_gathers s mac selection c w
    cases gathered with
    | error e =>
      obtain ⟨rfl, rfl⟩ := Prod.mk.inj ((bundle_of_gathers_error hgathers).symm.trans h)
      exact .failed hgathers
    | ok catalog =>
      have hwrap := (bundle_of_gathers hgathers).symm.trans h
      exact .gathered hgathers (wrap_eq_iff.1 hwrap)
  · intro h
    cases h with
    | failed hgathers => exact bundle_of_gathers_error hgathers
    | gathered hgathers hwraps => rw [bundle_of_gathers hgathers, wrap_eq_iff.2 hwraps]

end Assembly

/-- What the sources receive while a bundle is assembled: first the primary source, then the
secondary one. -/
structure Exchanges {α : Type} (s : Settings) (mac : Mac) (selection : Selection)
    (c : RequestContext) (w : World) (result : Except BundleError α)
    (first second : List Received) : Prop where
  /-- Nothing is sent when the query params cannot be read. -/
  aborted : ∀ e, result = .error (.store e) → first = [] ∧ second = []
  /-- The primary source is asked with the primary query. -/
  primary : ∀ x ∈ first, ∃ params w₁, Consults s mac w (.ok params) w₁ ∧
    IsRequest s .primary "xconf" s.primaryPath (primaryQuery s mac selection params) c x
  /-- The secondary source is asked if it is enabled, there are query params and there is a base. -/
  secondary : ∀ x ∈ second, s.secondaryEnabled = true ∧ ∃ params w₁ base w₂,
    Consults s mac w (.ok (some params)) w₁ ∧
      ObtainsBase s mac selection c (some params) w₁ (.ok base) w₂ ∧
      IsRequest s .secondary "profiles" (secondaryPath mac) params c x

section Effects

variable {s : Settings} {mac : Mac} {selection : Selection} {c : RequestContext} {w : World}

/-- The world after the query params were consulted. -/
theorem Consults.after_eq {result : Except Store.Error (Option String)} {after : World}
    (h : Consults s mac w result after) :
    after = if s.appending = true ∨ s.secondaryEnabled = true then w.consulted mac else w := by
  cases h with
  | unused happending hsecondary =>
    rw [if_neg]
    rw [happending, hsecondary]
    decide
  | read huse hreports => rw [if_pos huse]

/-- Consulting the query params sends nothing. -/
theorem Consults.received {result : Except Store.Error (Option String)} {after : World}
    (h : Consults s mac w result after) : after.received = w.received := by
  rw [h.after_eq]
  split <;> rfl

/-- Gathering a catalog does nothing to the store but consult the query params. -/
theorem Gathers.store {result : Except BundleError Bytes} {after : World}
    (h : Gathers s mac selection c w result after) :
    after.store =
      (if s.appending = true ∨ s.secondaryEnabled = true then w.consulted mac else w).store := by
  cases h with
  | unreadable hparams => rw [hparams.after_eq]
  | noBase hparams hbase => rw [hbase.store, hparams.after_eq]
  | baseAlone hparams hbase halone => rw [hbase.store, hparams.after_eq]
  | noExtra hparams hbase hsecondary hextra => rw [hextra.store, hbase.store, hparams.after_eq]
  | unmergeable hparams hbase hsecondary hextra hmerge =>
    rw [hextra.store, hbase.store, hparams.after_eq]
  | merged hparams hbase hsecondary hextra hmerge =>
    rw [hextra.store, hbase.store, hparams.after_eq]

/-- Of a result, only a failure of the store matters to the exchanges. -/
theorem Exchanges.congr {α β : Type} {result : Except BundleError α}
    {result' : Except BundleError β} {first second : List Received}
    (h : Exchanges s mac selection c w result first second)
    (hresult : ∀ e, result' = .error (.store e) → result = .error (.store e)) :
    Exchanges s mac selection c w result' first second :=
  ⟨fun e he => h.aborted e (hresult e he), h.primary, h.secondary⟩

/-- Wrapping leaves the backend alone. -/
theorem Wraps.backend {catalog : Bytes} {result : Except BundleError Bundle} {after : World}
    (h : Wraps catalog w result after) : after.store.backend = w.store.backend := by
  cases h <;> rfl

/-- Assembling a bundle does nothing to the backend but consult the query params. -/
theorem Assembles.backend {result : Except BundleError Bundle} {after : World}
    (h : Assembles s mac selection c w result after) :
    after.store.backend =
      (if s.appending = true ∨ s.secondaryEnabled = true then w.consulted mac
        else w).store.backend := by
  cases h with
  | failed hgathers => rw [hgathers.store]
  | gathered hgathers hwraps => rw [hwraps.backend, hgathers.store]

/-- Wrapping sends nothing. -/
theorem Wraps.received {catalog : Bytes} {result : Except BundleError Bundle} {after : World}
    (h : Wraps catalog w result after) : after.received = w.received := by
  cases h <;> rfl

/-- The part of a catalog survives a round trip when its bytes are addressable. They need not be
JSON. -/
theorem portable_catalogPart {catalog : Bytes} (h : catalog.Addressable) :
    (catalogPart catalog).Portable := by
  have hname : Text.Plain bundlePart := Text.plain_of_all (by decide)
  have htype : Text.Plain "application/json" := Text.plain_of_all (by decide)
  exact ⟨hname, htype, Version.plain_hashed catalog, h⟩

/-- A wrapped catalog is read back as the only part of the message. -/
theorem Wraps.decode {catalog : Bytes} {b : Bundle} {after : World}
    (h : Wraps catalog w (.ok b) after) (hsize : catalog.Addressable) :
    Multipart.decode b.message.contentType b.message.body = .ok [catalogPart catalog] := by
  have hportable : ∀ p ∈ [catalogPart catalog], p.Portable :=
    List.forall_mem_singleton.2 (portable_catalogPart hsize)
  cases h with
  | message hi htaken hfree =>
    exact Multipart.decode_writeBody hportable (Multipart.legible_boundaryAt _)
      (Multipart.boundaryAt_ne_empty _)

/-- The root version of a bundle is made from the version of its catalog and not from the
boundary. -/
theorem Wraps.rootVersion {catalog : Bytes} {b : Bundle} {after : World}
    (h : Wraps catalog w (.ok b) after) :
    b.rootVersion = Version.root [(bundlePart, Version.ofBytes catalog)] := by
  cases h with
  | message hi htaken hfree => rfl

end Effects

/-- Settings with both sources at one host. A call may be tried again once. -/
def oneHost : Settings where
  primaryHost := ⟨"http", some ⟨"", .domain "a", none⟩, .segments [""], none, none⟩
  secondaryHost := ⟨"http", some ⟨"", .domain "a", none⟩, .segments [""], none, none⟩
  primaryPath := "/p"
  secondaryEnabled := true
  retry := { maxRetries := 1 }

/-- A device. -/
def oneDevice : Mac := ⟨"AABBCCDDEEFF", by decide⟩

/-- A world in which the device has query params, the primary source closes the first connection,
and neither source knows anything. -/
def nothingKnown : World where
  store := { backend := { entries := [(Store.paramsKey oneDevice, Bytes.ofText "k=v")] } }
  primary := { script := fun n => if n = 0 then .closed else .answer 404 [] true }
  secondary := { script := fun _ => .answer 404 [] true }

/-- The URL that the primary source is asked for. -/
def baseUrl : Url :=
  ⟨"http", some ⟨"", .domain "a", none⟩, .segments ["p"],
    some "estbMacAddress=AABBCCDDEF01&ecmMacAddress=AABBCCDDEEFF", none⟩

end GatewayConfig.Telemetry
