import GatewayConfig.Proofs.Json.RoundTrip
import GatewayConfig.Telemetry.Catalog

/-!
# Catalogs that were merged

Extra profiles move one level deeper when they are merged into a catalog, and the writer does not
mind how deep that is. The reader does, so a merged catalog may be one that it refuses, and then
nothing can be merged into it any more. `merged_isCatalog_iff` says when that is: when the catalog
is deeper than the reader allows, or an object in it starts with the mark of a carrier. Every other
merged catalog is a catalog that takes more profiles.
-/

namespace GatewayConfig.Telemetry

open Json

/-- Bytes that the reader takes for an object whose profiles are an array. -/
def IsCatalog (b : Bytes) : Prop :=
  ∃ (members : Members) (profiles : List Value), read? b = some (.object members) ∧
    members.get? "profiles" = some (.array profiles)

/-- The profiles of a catalog. One without such a member has none. -/
def HasProfiles (members : Members) (earlier : List Value) : Prop :=
  members.get? "profiles" = none ∧ earlier = [] ∨ members.get? "profiles" = some (.array earlier)

/-- The members of a catalog with more profiles behind its own. -/
def appended (members : Members) (earlier more : List Value) : Members :=
  members.insert "profiles" (.array (earlier ++ more))

/-- The members of a catalog after more profiles were appended. -/
def IsMerged (base : Bytes) (more : List Value) (merged : Members) : Prop :=
  ∃ members, read? base = some (.object members) ∧ appendMembers members more = .ok merged

variable {base extra out : Bytes} {earlier more : List Value} {members merged : Members}

/-- A merge with profiles reads the base, appends to it and writes the result. -/
theorem of_appendProfiles (hmerge : appendProfiles base extra = .ok out)
    (hextra : extraProfiles extra = .ok more) (hmore : more ≠ []) :
    ∃ merged, IsMerged base more merged ∧ out = write (.object merged) := by
  rw [appendProfiles, hextra] at hmerge
  split at hmerge
  next heq => cases heq
  next heq => exact absurd (Except.ok.inj heq) hmore
  next heq =>
    obtain rfl := Except.ok.inj heq
    split at hmerge
    · cases hmerge
    next members hread =>
      cases happend : appendMembers members more with
      | error e =>
        rw [happend] at hmerge
        cases hmerge
      | ok merged =>
        rw [happend] at hmerge
        exact ⟨merged, ⟨members, hread, happend⟩, (Except.ok.inj hmerge).symm⟩
    · cases hmerge

/-- Members can be appended to if their profiles are an array or missing. -/
theorem appendMembers_eq_ok_iff :
    appendMembers members more = .ok merged ↔ ∃ earlier, HasProfiles members earlier ∧
      merged = appended members earlier more := by
  unfold HasProfiles
  constructor
  · intro h
    rw [appendMembers] at h
    split at h
    next hget => exact ⟨[], .inl ⟨hget, rfl⟩, (Except.ok.inj h).symm⟩
    next items hget => exact ⟨items, .inr hget, (Except.ok.inj h).symm⟩
    · cases h
  · rintro ⟨earlier, ⟨hget, rfl⟩ | hget, rfl⟩
    · rw [appendMembers, hget]
      rfl
    · rw [appendMembers, hget]
      rfl

/-- The only way to append profiles: the base is read as an object with profiles, and what is
written has the others behind them. -/
theorem appendProfiles_eq_ok_iff (hextra : extraProfiles extra = .ok more) (hmore : more ≠ []) :
    appendProfiles base extra = .ok out ↔ ∃ members earlier,
      read? base = some (.object members) ∧ HasProfiles members earlier ∧
        out = write (.object (appended members earlier more)) := by
  constructor
  · intro h
    obtain ⟨merged, ⟨members, hread, happend⟩, rfl⟩ := of_appendProfiles h hextra hmore
    obtain ⟨earlier, hearlier, rfl⟩ := appendMembers_eq_ok_iff.1 happend
    exact ⟨members, earlier, hread, hearlier, rfl⟩
  · rintro ⟨members, earlier, hread, hearlier, rfl⟩
    rw [appendProfiles, hextra]
    cases more with
    | nil => exact absurd rfl hmore
    | cons v rest =>
      dsimp only
      rw [hread]
      dsimp only
      rw [appendMembers_eq_ok_iff.2 ⟨earlier, hearlier, rfl⟩]
      rfl

/-- The profiles that are read are regular values. -/
theorem extraProfiles_regular (h : extraProfiles extra = .ok more) : ∀ v ∈ more, v.Regular := by
  rw [extraProfiles] at h
  split at h
  · obtain rfl := Except.ok.inj h
    exact List.forall_mem_nil _
  split at h
  next items hread =>
    obtain rfl := Except.ok.inj h
    exact regular_of_readItems? hread
  · cases h

/-- What is merged is a value as a reader yields it. -/
theorem IsMerged.regular (h : IsMerged base more merged) (hmore : ∀ v ∈ more, v.Regular) :
    (Value.object merged).Regular := by
  obtain ⟨members, hread, happend⟩ := h
  obtain ⟨earlier, hearlier, rfl⟩ := appendMembers_eq_ok_iff.1 happend
  have hmembers := regular_of_read? hread
  have hitems : ∀ v ∈ earlier, v.Regular := by
    rcases hearlier with ⟨-, rfl⟩ | hget
    · exact List.forall_mem_nil _
    · cases hmembers.of_get? hget with
      | array h => exact h
  exact hmembers.insert (fun _ => by decide) (.array (List.forall_mem_append.2 ⟨hitems, hmore⟩))

/-- What is merged has an array of profiles. -/
theorem IsMerged.get?_profiles (h : IsMerged base more merged) :
    ∃ profiles, merged.get? "profiles" = some (.array profiles) := by
  obtain ⟨members, -, happend⟩ := h
  obtain ⟨earlier, -, rfl⟩ := appendMembers_eq_ok_iff.1 happend
  exact ⟨_, Members.get?_insert_self⟩

/-- A written catalog is one for the reader if it is not too deep and not marked as a carrier, and
unreadable otherwise. -/
theorem isCatalog_write_iff {profiles : List Value} (h : (Value.object merged).Regular)
    (hprofiles : merged.get? "profiles" = some (.array profiles)) :
    IsCatalog (write (.object merged)) ↔
      (Value.object merged).depth ≤ maxOpen ∧ (Value.object merged).unmarked = true := by
  have hread := read?_write h
  constructor
  · rintro ⟨members, profiles, hmembers, -⟩
    by_contra hunfit
    rw [if_neg hunfit, hmembers] at hread
    cases hread
  · intro hfit
    rw [if_pos hfit, Value.settled] at hread
    refine ⟨_, settledItems profiles, hread, ?_⟩
    rw [get?_settledMembers, hprofiles]
    rfl

/-- A catalog takes more profiles. -/
theorem IsCatalog.exists_appendProfiles (h : IsCatalog base)
    (hextra : extraProfiles extra = .ok more) : ∃ out, appendProfiles base extra = .ok out := by
  obtain ⟨members, profiles, hread, hprofiles⟩ := h
  by_cases hmore : more = []
  · rw [appendProfiles, hextra, hmore]
    exact ⟨base, rfl⟩
  · exact ⟨_, (appendProfiles_eq_ok_iff hextra hmore).2
      ⟨members, profiles, hread, .inr hprofiles, rfl⟩⟩

/-- Bytes that cannot be read take none. -/
theorem appendProfiles_of_unreadable (hread : read? base = none)
    (hextra : extraProfiles extra = .ok more) (hmore : more ≠ []) :
    appendProfiles base extra = .error .baseSyntax := by
  rw [appendProfiles, hextra]
  cases more with
  | nil => exact absurd rfl hmore
  | cons v rest =>
    dsimp only
    rw [hread]

/-- When profiles were merged into a base, the result is a catalog again if and only if at most
`maxOpen` arrays and objects are open in it at once, and no object in it starts with the mark of a
carrier. A result that is one takes any one profile more, and a result that is none takes no
profile, as it cannot be read. -/
theorem merged_isCatalog_iff (hmerge : appendProfiles base extra = .ok out)
    (hextra : extraProfiles extra = .ok more) (hmore : more ≠ []) :
    ∃ merged, IsMerged base more merged ∧ out = write (.object merged) ∧
      (IsCatalog out ↔
        (Value.object merged).depth ≤ maxOpen ∧ (Value.object merged).unmarked = true) ∧
      ∀ next v, extraProfiles next = .ok [v] →
        (IsCatalog out → ∃ again, appendProfiles out next = .ok again) ∧
        (¬ IsCatalog out → appendProfiles out next = .error .baseSyntax) := by
  obtain ⟨merged, hmerged, rfl⟩ := of_appendProfiles hmerge hextra hmore
  have hregular := hmerged.regular (extraProfiles_regular hextra)
  obtain ⟨profiles, hprofiles⟩ := hmerged.get?_profiles
  have hiff := isCatalog_write_iff hregular hprofiles
  refine ⟨merged, hmerged, rfl, hiff, fun next v hnext => ⟨fun hcatalog => ?_, fun hnot => ?_⟩⟩
  · exact hcatalog.exists_appendProfiles hnext
  · have hread := read?_write hregular
    rw [if_neg fun hfit => hnot (hiff.2 hfit)] at hread
    exact appendProfiles_of_unreadable hread hnext (List.cons_ne_nil _ _)

/-- Written profiles that are not too deep are extra profiles. -/
theorem extraProfiles_write {items : List Value} (h : ∀ v ∈ items, v.Regular)
    (hdepth : (Value.array items).depth ≤ maxOpen)
    (hunmarked : (Value.array items).unmarked = true) :
    extraProfiles (write (.array items)) = .ok (settledItems items) := by
  have hvisible : (write (.array items)).all isAsciiSpace = false := by
    rw [write, writeChars, Bytes.ofText_ofList, List.cons_append, List.flatMap_cons,
      Bytes.utf8EncodeChar_eq_singleton (by decide), List.singleton_append, List.all_cons]
    rfl
  rw [extraProfiles, hvisible, if_neg Bool.false_ne_true, readItems?_write h hdepth hunmarked]

/-- Arrays inside one another, so many and one more. -/
def nested : Nat → Value
  | 0 => .array []
  | n + 1 => .array [nested n]

/-- Arrays inside one another are a regular value. -/
theorem regular_nested (n : Nat) : (nested n).Regular := by
  induction n with
  | zero => exact .array (List.forall_mem_nil _)
  | succ n ih => exact .array (List.forall_mem_singleton.2 ih)

/-- Their depth is one more than their number. -/
theorem depth_nested (n : Nat) : (nested n).depth = n + 1 := by
  induction n with
  | zero => rfl
  | succ n ih => rw [nested, Value.depth, depthItems, depthItems, ih, Nat.max_zero]

/-- There is no object among them, so no mark. -/
theorem unmarked_nested (n : Nat) : (nested n).unmarked = true := by
  induction n with
  | zero => rfl
  | succ n ih => rw [nested, Value.unmarked, unmarkedItems, unmarkedItems, ih]; rfl

/-- They are read back as they are. -/
theorem settled_nested (n : Nat) : (nested n).settled = nested n := by
  induction n with
  | zero => rfl
  | succ n ih => rw [nested, Value.settled, settledItems, settledItems, ih]

/-- A catalog with one profile. -/
def catalogOf (profile : Value) : Bytes := write (.object [("profiles", .array [profile])])

/-- The empty catalog is an object whose only member is an empty array of profiles. -/
theorem read?_emptyCatalog : read? emptyCatalog = some (.object [("profiles", .array [])]) := by
  have hregular : (Value.object [("profiles", .array [])]).Regular :=
    Reading.regular_object_nil.insert (fun _ => by decide) (.array (List.forall_mem_nil _))
  have hwrite : emptyCatalog = write (.object [("profiles", .array [])]) := by decide
  rw [hwrite, read?_write hregular, if_pos ⟨by decide, by decide⟩]
  rfl

/-- A merge into the catalog without profiles makes a catalog with those that are merged. -/
theorem appendProfiles_emptyCatalog {v : Value} (hextra : extraProfiles extra = .ok [v]) :
    appendProfiles emptyCatalog extra = .ok (catalogOf v) := by
  rw [appendProfiles, hextra]
  dsimp only
  rw [read?_emptyCatalog]
  rfl

/-- Extra profiles that are just the number one. -/
def oneProfile : Bytes := Bytes.ofText "[1]"

/-- The number one is a profile, although it is no object. -/
theorem extraProfiles_oneProfile : extraProfiles oneProfile = .ok [.integer 1] := by
  have hone : ∀ v ∈ [Value.integer 1], v.Regular :=
    List.forall_mem_singleton.2 (.integer (by decide) (by decide))
  have hwrite : oneProfile = write (.array [.integer 1]) := by decide
  rw [hwrite, extraProfiles_write hone (by decide) (by decide)]
  rfl

/-- That number can be merged into the catalog without profiles once and once more. -/
theorem merged_isCatalog_iff_oneProfile :
    ∃ out again, appendProfiles emptyCatalog oneProfile = .ok out ∧ IsCatalog out ∧
      appendProfiles out oneProfile = .ok again := by
  have hmerge := appendProfiles_emptyCatalog extraProfiles_oneProfile
  obtain ⟨merged, ⟨members, hread, happend⟩, -, hiff, hnext⟩ :=
    merged_isCatalog_iff hmerge extraProfiles_oneProfile (List.cons_ne_nil _ _)
  obtain rfl : [("profiles", .array [])] = members :=
    Value.object.inj (Option.some.inj (read?_emptyCatalog.symm.trans hread))
  obtain rfl : [("profiles", .array [.integer 1])] = merged := Except.ok.inj happend
  have hcatalog := hiff.2 ⟨by decide, by decide⟩
  obtain ⟨again, hagain⟩ := (hnext oneProfile _ extraProfiles_oneProfile).1 hcatalog
  exact ⟨_, again, hmerge, hcatalog, hagain⟩

/-- Extra profiles that are as deep as the reader allows. -/
def deepProfiles : Bytes := write (nested 126)

/-- At the limit of the reader there is one profile, and it is one less deep. -/
theorem extraProfiles_deepProfiles : extraProfiles deepProfiles = .ok [nested 125] := by
  have hinner : ∀ v ∈ [nested 125], v.Regular := List.forall_mem_singleton.2 (regular_nested 125)
  have hdepth : (Value.array [nested 125]).depth ≤ maxOpen := (depth_nested 126).le
  have hunmarked : (Value.array [nested 125]).unmarked = true := unmarked_nested 126
  have hread := extraProfiles_write hinner hdepth hunmarked
  rwa [settledItems, settledItems, settled_nested] at hread

/-- They are merged into the catalog without profiles, and the result is no catalog: it is too deep
by one, so that nothing can be merged into it. -/
theorem deepProfiles_not_isCatalog :
    appendProfiles emptyCatalog deepProfiles = .ok (catalogOf (nested 125)) ∧
      extraProfiles deepProfiles = .ok [nested 125] ∧ ¬ IsCatalog (catalogOf (nested 125)) ∧
      extraProfiles oneProfile = .ok [.integer 1] ∧
      appendProfiles (catalogOf (nested 125)) oneProfile = .error .baseSyntax := by
  have hregular : (Value.object [("profiles", .array [nested 125])]).Regular :=
    Reading.regular_object_nil.insert (fun _ => by decide)
      (.array (List.forall_mem_singleton.2 (regular_nested 125)))
  have hdepth : (Value.object [("profiles", .array [nested 125])]).depth = 128 := by
    simp [Value.depth, depthMembers, depthItems, depth_nested]
  have hread : read? (catalogOf (nested 125)) = none := by
    rw [catalogOf, read?_write hregular, if_neg]
    rw [hdepth]
    decide
  refine ⟨appendProfiles_emptyCatalog extraProfiles_deepProfiles, extraProfiles_deepProfiles, ?_,
    extraProfiles_oneProfile,
    appendProfiles_of_unreadable hread extraProfiles_oneProfile (List.cons_ne_nil _ _)⟩
  rintro ⟨members, profiles, hmembers, -⟩
  rw [hread] at hmembers
  cases hmembers

end GatewayConfig.Telemetry
