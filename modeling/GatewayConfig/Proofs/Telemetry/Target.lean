import GatewayConfig.Proofs.Telemetry.Pipeline
import GatewayConfig.Proofs.Telemetry.Query
import GatewayConfig.Proofs.Url.Join

/-!
# Where sources are asked

The path of an endpoint is a reference beside the host of its source. As it starts with a slash, it
takes the place of the path that the host has of its own. `asked_at_root` says what a source then
receives: the configured authority and the query of the call are kept, and a path of the host is
not.
-/

namespace GatewayConfig

/-- The path of a URL without the slash that it may end with. -/
def Url.basePath (u : Url) : String :=
  let l := u.path.toText.toList
  .ofList (if l.getLast? = some '/' then l.dropLast else l)

namespace Telemetry

open Url (IsPlain IsPlainPath IsWeb)

/-- The query of a call as a URL of the web spells it. -/
def spelledQuery (query : String) : String :=
  .ofList (Url.escape (Url.escapedInQuery true) (Url.dropLineBreaks query.toList))

/-- What stands behind the path in a request. -/
def queryPart (query : String) : String := if query = "" then "" else "?" ++ spelledQuery query

/-- A URL that asks for a path and a query at the authority of a host. -/
structure Addresses (host : Url) (path query : String) (url : Url) : Prop where
  /-- The scheme is that of the host. -/
  scheme : url.scheme = host.scheme
  /-- So are the user, the name and the number. -/
  authority : url.authority = host.authority
  /-- The path is spelled as it was given. -/
  path : url.path.toText = path
  /-- There is no query where the given one is empty. -/
  query : url.query = if query = "" then none else some (spelledQuery query)

section Urls

variable {host url : Url} {path query : String} {names : List String}

/-- The request line has the path, and the query behind it if there is one. -/
theorem Addresses.target (h : Addresses host path query url) :
    url.target = path ++ queryPart query := by
  rw [Url.target, h.path, Url.queryText, h.query, queryPart]
  by_cases hquery : query = ""
  · rw [if_pos hquery, if_pos hquery]
  · rw [if_neg hquery, if_neg hquery]

/-- A path of plain segments beside a host is asked for at the authority of the host. -/
theorem exists_addresses (hhost : host.IsWeb) (hnames : IsPlainPath names) (query : String) :
    ∃ url, (∀ endpoint, sourceUrl endpoint host (UrlPath.segments names).toText query = .ok url) ∧
      Addresses host (UrlPath.segments names).toText query url := by
  simp only [sourceUrl, Url.join_segments hhost hnames]
  refine ⟨_, fun _ => rfl, ?_⟩
  by_cases hquery : query = ""
  · rw [if_pos hquery]
    exact ⟨rfl, rfl, rfl, (if_pos hquery).symm⟩
  · have hspecial : (SchemeKind.ofScheme host.scheme != .other) = true := by
      rw [hhost.kind]
      rfl
    rw [if_neg hquery, Url.withQuery, hspecial]
    exact ⟨rfl, rfl, rfl, (if_neg hquery).symm⟩

/-- Such a URL points to the host. -/
theorem pointsTo_of_addresses (hhost : host.IsWeb) (h : Addresses host path query url) :
    pointsTo url host = true := by
  have hscheme : (host.scheme == "http" || host.scheme == "https") = true := by
    rw [Bool.or_eq_true, beq_iff_eq, beq_iff_eq]
    exact hhost.scheme
  rw [pointsTo, h.scheme, h.authority, hscheme, beq_self_eq_true, beq_self_eq_true]
  rfl

end Urls

section Paths

/-- A long segment is no dot segment. -/
theorem notDots_of_length {segment : List Char} (h : 6 < segment.length) :
    Url.isDot segment = false ∧ Url.isDotDot segment = false := by
  have hshort : ∀ texts : List String, (∀ text ∈ texts, text.toList.length ≤ 6) →
      texts.contains (String.ofList (segment.map Char.toLower)) = false := by
    intro texts htexts
    refine Bool.eq_false_iff.2 fun hcontains => ?_
    have hlength := htexts _ (List.contains_iff_mem.1 hcontains)
    rw [String.toList_ofList, List.length_map] at hlength
    omega
  exact ⟨hshort [".", "%2e"] (by decide), hshort ["..", ".%2e", "%2e.", "%2e%2e"] (by decide)⟩

/-- The text of an address is a segment that is kept as it is written. -/
theorem isPlain_text (mac : Mac) : IsPlain mac.text := by
  obtain ⟨hlength, hdigits⟩ := mac.canonical
  have hall : ("0123456789ABCDEF".toList.all fun c =>
      !Url.isSlash .special c && !Url.escapedInPath c) = true := by decide
  have hkept : (mac.text.toList.all fun c =>
      !Url.isSlash .special c && !Url.escapedInPath c) = true := by
    refine List.all_eq_true.2 fun c hc => List.all_eq_true.1 hall c ?_
    exact List.contains_iff_mem.1 (List.all_eq_true.1 hdigits c hc)
  have hdots : Url.isDot mac.text.toList = false ∧ Url.isDotDot mac.text.toList = false :=
    notDots_of_length (by omega)
  obtain ⟨hwhole, hunescaped⟩ := Url.all_kept_iff.1 hkept
  exact ⟨hwhole, hunescaped, hdots.1, hdots.2⟩

/-- The path of the extra profiles is one of plain segments. -/
theorem secondaryPath_eq (mac : Mac) :
    secondaryPath mac =
      (UrlPath.segments ["api", "v1", "device", mac.text, "profiles"]).toText := by
  refine String.toList_injective ?_
  rw [Url.toList_segments, secondaryPath, String.toList_append, String.toList_append]
  rfl

/-- The path of the profiles is plain for every device. -/
theorem isPlainPath_secondary (mac : Mac) :
    IsPlainPath ["api", "v1", "device", mac.text, "profiles"] := by
  have hfirst : ¬ some "api" = some "" := by decide
  refine ⟨List.cons_ne_nil _ _, fun name hname => ?_, fun hempty => absurd hempty hfirst⟩
  have hliteral : ∀ name ∈ ["api", "v1", "device", "profiles"], IsPlain name := by decide
  by_cases hmac : name = mac.text
  · rw [hmac]
    exact isPlain_text mac
  · refine hliteral name ?_
    simpa [hmac] using hname

end Paths

section Queries

/-- A query without characters that are escaped is spelled as it is. -/
theorem spelledQuery_eq_self {query : String}
    (h : ∀ c ∈ query.toList, Url.escapedInQuery true c = false) : spelledQuery query = query := by
  have hcontrol : ∀ c ∈ query.toList, Url.escapedEverywhere c = false := by
    intro c hc
    have hescaped := h c hc
    simp only [Url.escapedInQuery, Bool.or_eq_false_iff] at hescaped
    exact hescaped.1.1
  rw [spelledQuery, Url.dropLineBreaks_eq_self hcontrol, Url.escape_eq_self h, String.ofList_toList]

/-- What holds of the separator and of each part holds of the parts in one list. -/
theorem forall_mem_intercalate {α : Type} {p : α → Prop} {separator : List α}
    (hseparator : ∀ x ∈ separator, p x) {parts : List (List α)}
    (h : ∀ part ∈ parts, ∀ x ∈ part, p x) : ∀ x ∈ separator.intercalate parts, p x := by
  induction parts with
  | nil => exact List.forall_mem_nil _
  | cons part parts ih =>
    obtain ⟨hpart, hparts⟩ := List.forall_mem_cons.1 h
    by_cases hnil : parts = []
    · rw [hnil, List.intercalate_singleton]
      exact hpart
    · rw [List.intercalate_cons_of_ne_nil hnil, List.forall_mem_append, List.forall_mem_append]
      exact ⟨⟨hpart, hseparator⟩, ih hparts⟩

/-- What is written of a form needs no escape in a query. -/
theorem unescaped_write (pairs : List (String × String)) :
    ∀ c ∈ (Form.write pairs).toList, Url.escapedInQuery true c = false := by
  have hall : ∀ n < 256, ((Form.writeByte (UInt8.ofNat n)).all fun c =>
      !Url.escapedInQuery true c) = true := by
    decide +kernel
  have htext (text : String) : ∀ c ∈ Form.writeText text, Url.escapedInQuery true c = false := by
    intro c hc
    obtain ⟨b, -, hb⟩ := List.mem_flatMap.1 hc
    have hbyte := hall b.toNat b.toNat_lt
    rw [UInt8.ofNat_toNat] at hbyte
    simpa using List.all_eq_true.1 hbyte c hb
  have hseparator : ∀ c ∈ ['&'], Url.escapedInQuery true c = false :=
    List.forall_mem_singleton.2 (by decide)
  rw [Form.write, String.toList_ofList]
  refine forall_mem_intercalate hseparator fun l hl c hc => ?_
  obtain ⟨pair, -, rfl⟩ := List.mem_map.1 hl
  rcases List.mem_append.1 hc with hname | hvalue
  · exact htext pair.1 c hname
  · rcases List.mem_cons.1 hvalue with rfl | hvalue
    · decide
    · exact htext pair.2 c hvalue

end Queries

/-- Requests that name the path of an endpoint below that of the host, as `{host}{path}?{query}` has
it. -/
def AreBelow (host : Url) (path query : String) (sent : List Received) : Prop :=
  ∀ x ∈ sent, x.target = host.basePath ++ path ++ queryPart query

instance (host : Url) (path query : String) (sent : List Received) :
    Decidable (AreBelow host path query sent) := inferInstanceAs (Decidable (∀ x ∈ sent, _))

/-- Requests for a path alone name it below that of the host only if the host has none. -/
theorem areBelow_iff {host : Url} {path query : String} {sent : List Received}
    (h : ∀ x ∈ sent, x.target = path ++ queryPart query) :
    AreBelow host path query sent ↔ sent = [] ∨ host.basePath = "" := by
  constructor
  · intro hbelow
    rcases sent.eq_nil_or_concat with hnil | ⟨_, x, hsent⟩
    · exact .inl hnil
    · have hx : x ∈ sent := by simp [hsent]
      have hsame := (hbelow x hx).symm.trans (h x hx)
      rw [String.append_assoc, String.append_eq_right_iff] at hsame
      exact .inr hsame
  · rintro (rfl | hempty) x hx
    · cases hx
    · rw [hempty, String.empty_append]
      exact h x hx

/-- What a source receives when it is asked for a path with a query. -/
structure Asks (s : Settings) (name : SourceName) (path query : String) (c : RequestContext)
    (w after : World) (url : Url) (sent : List Received) : Prop where
  /-- The call is made with the URL. -/
  url_eq : ∀ endpoint, sourceUrl endpoint (s.host name) path query = .ok url
  /-- The URL asks for the path at the authority of the configured host. -/
  addressed : Addresses (s.host name) path query url
  /-- The requests come behind those that were there. -/
  received : after.received = w.received ++ sent
  /-- There is one unless the source cannot be reached or a header cannot be sent. -/
  heard : sent ≠ [] ↔ (w.source name).reachable = true ∧
    ∀ h ∈ c.outboundHeaders, Text.isHeaderValue h.2 = true
  /-- Each of them goes to the source and names the path and the query. -/
  alike : ∀ x ∈ sent, x.source = name ∧ x.headers = c.outboundHeaders ∧
    x.target = path ++ queryPart query
  /-- So the path stands below that of the host only if the host has none of its own. -/
  below : AreBelow (s.host name) path query sent ↔ sent = [] ∨ (s.host name).basePath = ""

/-- A path of plain segments is asked for at the authority of the host. -/
theorem exists_asks {s : Settings} {name : SourceName} {names : List String}
    (hhost : (s.host name).IsWeb) (hnames : IsPlainPath names) (service query : String)
    (c : RequestContext) (w : World) :
    ∃ url sent, Asks s name (UrlPath.segments names).toText query c w
      (ask s name service (UrlPath.segments names).toText query c w).2 url sent := by
  obtain ⟨url, hurl, haddresses⟩ := exists_addresses hhost hnames query
  obtain ⟨n, hends⟩ := s.retry.exists_endsAt fun i =>
    (w.reply s name url c.outboundHeaders i).outcome
  have hpoints := pointsTo_of_addresses hhost haddresses
  have halike : ∀ x ∈ w.sent s name url c.outboundHeaders n, x.source = name ∧
      x.headers = c.outboundHeaders ∧
      x.target = (UrlPath.segments names).toText ++ queryPart query := by
    intro x hx
    obtain ⟨hsource, htarget, hheaders⟩ := World.of_mem_sent hx
    exact ⟨hsource, hheaders, htarget.trans haddresses.target⟩
  refine ⟨url, w.sent s name url c.outboundHeaders n, ?_⟩
  rw [ask_of_called ⟨hurl _, hends⟩]
  constructor
  case url_eq => exact hurl
  case addressed => exact haddresses
  case received => exact World.received_afterCall ..
  case heard =>
    have hsome (b : Bool) : 0 < (if b = true then n + 1 else 0) ↔ b = true := by
      cases b <;> simp
    rw [← List.length_pos_iff, World.length_sent, hsome, World.hears, hpoints, Bool.and_true,
      Bool.and_eq_true, List.all_eq_true]
  case alike => exact halike
  case below => exact areBelow_iff fun x hx => (halike x hx).2.2

/-- Each source is asked under the scheme and the authority of its configured host, with the query
of the call, and for the path of the endpoint alone. So what it receives names that path below the
path of the host exactly when the host has none of its own: beside a host with a path of its own,
that path is lost. The primary query needs no escape in the URL unless params are appended to it. -/
theorem asked_at_root (s : Settings) {names : List String} (hhosts : ∀ name, (s.host name).IsWeb)
    (hnames : IsPlainPath names) (hpath : s.primaryPath = (UrlPath.segments names).toText)
    (mac : Mac) (query params : String) (c : RequestContext) (w : World) :
    (∃ url sent, Asks s .primary s.primaryPath query c w (askPrimary s query c w).2 url sent) ∧
    (∃ url sent, Asks s .secondary (secondaryPath mac) params c w
      (askSecondary s mac params c w).2 url sent) ∧
    ∀ (selection : Selection) (partner : Option String),
      spelledQuery (selection.toQuery mac partner none) = selection.toQuery mac partner none := by
  refine ⟨?_, ?_, fun selection partner => ?_⟩
  · rw [askPrimary, hpath]
    exact exists_asks (hhosts .primary) hnames "xconf" query c w
  · rw [askSecondary, secondaryPath_eq]
    exact exists_asks (hhosts .secondary) (isPlainPath_secondary mac) "profiles" params c w
  · rw [Selection.toQuery_none]
    exact spelledQuery_eq_self (unescaped_write _)

/-- A host behind a path of its own. -/
def hostBelow : Url := ⟨"http", some ⟨"", .domain "a", none⟩, .segments ["base"], none, none⟩

/-- Settings with both sources behind that path. -/
def belowBase : Settings := { oneHost with primaryHost := hostBelow, secondaryHost := hostBelow }

/-- The sample host is that of a web URL. -/
theorem isWeb_hostBelow : hostBelow.IsWeb :=
  ⟨⟨"http://a/base", by decide +kernel⟩, .inl rfl⟩

/-- The path of the sample is plain. -/
theorem isPlainPath_p : IsPlainPath ["p"] :=
  ⟨List.cons_ne_nil _ _, by decide, by decide⟩

/-- Behind a host with a path of its own the primary source is heard, but not asked below that
path. -/
theorem asked_at_root_belowBase :
    (∀ name, (belowBase.host name).IsWeb) ∧ IsPlainPath ["p"] ∧
      belowBase.primaryPath = (UrlPath.segments ["p"]).toText ∧
      ∃ url sent, Asks belowBase .primary belowBase.primaryPath "q=1" ⟨"a", none, none⟩ nothingKnown
          (askPrimary belowBase "q=1" ⟨"a", none, none⟩ nothingKnown).2 url sent ∧
        sent ≠ [] ∧ ¬ AreBelow hostBelow belowBase.primaryPath "q=1" sent := by
  have hhosts : ∀ name, (belowBase.host name).IsWeb := fun name => by
    cases name <;> exact isWeb_hostBelow
  have hpath : belowBase.primaryPath = (UrlPath.segments ["p"]).toText := by decide +kernel
  obtain ⟨⟨url, sent, hasks⟩, -⟩ := asked_at_root belowBase hhosts isPlainPath_p hpath oneDevice
    "q=1" "k=v" ⟨"a", none, none⟩ nothingKnown
  have hsent : sent ≠ [] := hasks.heard.2 ⟨rfl, by decide⟩
  have hbase : ¬ hostBelow.basePath = "" := by decide +kernel
  exact ⟨hhosts, isPlainPath_p, hpath, url, sent, hasks, hsent,
    fun hbelow => (hasks.below.1 hbelow).elim hsent hbase⟩

/-- Behind such a host neither source is asked as `{host}{path}?{query}` has it. -/
theorem not_areBelow_belowBase :
    (∀ name, (belowBase.host name).IsWeb) ∧ IsPlainPath ["p"] ∧
      belowBase.primaryPath = (UrlPath.segments ["p"]).toText ∧
      ¬ AreBelow belowBase.primaryHost belowBase.primaryPath "q=1"
        (askPrimary belowBase "q=1" ⟨"a", none, none⟩ nothingKnown).2.received ∧
      ¬ AreBelow belowBase.secondaryHost (secondaryPath oneDevice) "k=v"
        (askSecondary belowBase oneDevice "k=v" ⟨"a", none, none⟩ nothingKnown).2.received := by
  refine ⟨fun name => ?_, isPlainPath_p, by decide +kernel, by decide +kernel, by decide +kernel⟩
  cases name <;> exact isWeb_hostBelow

end Telemetry

end GatewayConfig
