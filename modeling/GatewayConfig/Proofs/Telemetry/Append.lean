import GatewayConfig.Proofs.Json.Exact
import GatewayConfig.Proofs.Telemetry.Merge

/-!
# Profiles that are appended

When extra profiles are appended to a catalog, its own profiles stay in front, the others follow in
order, and no other member changes. `appendProfiles_lossless` says so of the catalog that is read of
the result, for values that the reader and the writer hand on unchanged. To append twice comes to
the same bytes as to append at once what was appended both times.
-/

namespace GatewayConfig.Telemetry

open Json

/-- Bytes that hold no profiles to append: white space, or an array without items. -/
def AddsNothing (extra : Bytes) : Prop :=
  extra.all isAsciiSpace = true ∨ readItems? extra = some []

variable {base extra out : Bytes} {members merged : Members} {earlier more : List Value}

section Reading

/-- No profiles are read off bytes exactly when these add nothing. -/
theorem extraProfiles_eq_nil_iff : extraProfiles extra = .ok [] ↔ AddsNothing extra := by
  rw [extraProfiles, AddsNothing]
  by_cases hblank : extra.all isAsciiSpace = true
  · simp [hblank]
  · cases readItems? extra <;> simp [hblank]

/-- Other bytes give the items of the array that they are read as. Bytes that are no array are
refused. -/
theorem extraProfiles_eq_ok_iff (h : ¬ AddsNothing extra) :
    extraProfiles extra = .ok more ↔ readItems? extra = some more := by
  rw [extraProfiles, if_neg fun hblank => h (.inl hblank)]
  cases readItems? extra <;> simp

/-- A base to which nothing is added is returned byte for byte, also if it is no catalog. -/
theorem appendProfiles_of_nothing (h : AddsNothing extra) :
    appendProfiles base extra = .ok base := by
  rw [appendProfiles, extraProfiles_eq_nil_iff.2 h]

/-- Bytes other than these are appended to a base if and only if they are read as an array and the
base as an object with profiles. -/
theorem appendProfiles_eq_ok_iff_items (h : ¬ AddsNothing extra) :
    appendProfiles base extra = .ok out ↔ ∃ more, readItems? extra = some more ∧
      ∃ members earlier, read? base = some (.object members) ∧ HasProfiles members earlier ∧
        out = write (.object (appended members earlier more)) := by
  have hsome : ∀ more, readItems? extra = some more →
      extraProfiles extra = .ok more ∧ more ≠ [] := by
    refine fun more hitems => ⟨(extraProfiles_eq_ok_iff h).2 hitems, ?_⟩
    rintro rfl
    exact h (.inr hitems)
  constructor
  · intro hout
    cases hitems : readItems? extra with
    | none =>
      rw [appendProfiles, extraProfiles, if_neg fun hblank => h (.inl hblank), hitems] at hout
      cases hout
    | some more =>
      obtain ⟨hextra, hmore⟩ := hsome more hitems
      exact ⟨more, rfl, (appendProfiles_eq_ok_iff hextra hmore).1 hout⟩
  · rintro ⟨more, hitems, hparts⟩
    obtain ⟨hextra, hmore⟩ := hsome more hitems
    exact (appendProfiles_eq_ok_iff hextra hmore).2 hparts

end Reading

section Parts

variable {P : Value → Prop}

/-- What is so of all values of members is so of the profiles and of the others. -/
theorem forall_mem_iff_profiles (h : members.Ordered) :
    (∀ m ∈ members, P m.2) ↔
      (∀ v, members.get? "profiles" = some v → P v) ∧ ∀ m ∈ members, m.1 ≠ "profiles" → P m.2 := by
  constructor
  · exact fun hall => ⟨fun v hv => hall _ (h.get?_eq_some_iff.1 hv), fun m hm _ => hall m hm⟩
  · rintro ⟨hprofiles, hothers⟩ m hm
    by_cases hname : m.1 = "profiles"
    · exact hprofiles m.2 (h.get?_eq_some_iff.2 (by rwa [← hname]))
    · exact hothers m hm hname

/-- A property that two arrays have together if and only if each has it: after profiles were
appended all values have it if and only if all had it before and what was appended has it. -/
theorem forall_appended_iff (more : List Value) (hordered : members.Ordered)
    (hearlier : HasProfiles members earlier)
    (happend : ∀ xs ys, P (.array (xs ++ ys)) ↔ P (.array xs) ∧ P (.array ys)) :
    (∀ m ∈ appended members earlier more, P m.2) ↔
      (∀ m ∈ members, P m.2) ∧ P (.array more) := by
  rw [appended, hordered.forall_insert_iff, happend, forall_mem_iff_profiles hordered]
  rcases hearlier with ⟨hnone, rfl⟩ | hsome
  · have hempty : P (.array more) → P (.array []) := fun h => ((happend [] more).1 h).1
    rw [hnone]
    simp only [reduceCtorEq, false_implies, implies_true, true_and]
    exact ⟨fun h => ⟨h.2, h.1.2⟩, fun h => ⟨⟨hempty h.2, h.2⟩, h.1⟩⟩
  · rw [hsome]
    simp only [Option.some.injEq, forall_eq']
    exact ⟨fun h => ⟨⟨h.1.1, h.2⟩, h.1.2⟩, fun h => ⟨⟨h.1.1, h.2⟩, h.1.2⟩⟩

/-- An array of two lists of items is within a depth exactly when an array of each is. -/
theorem depth_append_le_iff (limit : Nat) (xs ys : List Value) :
    (Value.array (xs ++ ys)).depth ≤ limit + 1 ↔
      (Value.array xs).depth ≤ limit + 1 ∧ (Value.array ys).depth ≤ limit + 1 := by
  rw [Value.depth_array_le_iff, Value.depth_array_le_iff, Value.depth_array_le_iff,
    List.forall_mem_append]

/-- An array of two lists of items is unmarked exactly when an array of each is. -/
theorem unmarked_append_iff (xs ys : List Value) :
    (Value.array (xs ++ ys)).unmarked = true ↔
      (Value.array xs).unmarked = true ∧ (Value.array ys).unmarked = true := by
  rw [Value.unmarked_array_iff, Value.unmarked_array_iff, Value.unmarked_array_iff,
    List.forall_mem_append]

/-- An array of two lists of items is free of floating-point numbers exactly when an array of each
is. -/
theorem floatFree_append_iff (xs ys : List Value) :
    (Value.array (xs ++ ys)).floatFree = true ↔
      (Value.array xs).floatFree = true ∧ (Value.array ys).floatFree = true := by
  rw [Value.floatFree_array_iff, Value.floatFree_array_iff, Value.floatFree_array_iff,
    List.forall_mem_append]

end Parts

section Catalogs

/-- The members of a regular object are in the order of their names. -/
theorem ordered_of_regular (h : (Value.object members).Regular) : members.Ordered := by
  cases h with
  | object hordered _ _ => exact hordered

variable (hordered : members.Ordered) (hearlier : HasProfiles members earlier)

include hordered hearlier

/-- What is appended moves one level deeper. -/
theorem depth_appended_le_iff :
    (Value.object (appended members earlier more)).depth ≤ maxOpen ↔
      (Value.object members).depth ≤ maxOpen ∧ (Value.array more).depth < maxOpen := by
  rw [maxOpen, Value.depth_object_le_iff, Value.depth_object_le_iff, Nat.lt_succ_iff]
  exact forall_appended_iff (P := fun v => v.depth ≤ 126) more hordered hearlier
    (depth_append_le_iff 125)

/-- A merged catalog is unmarked exactly when the base and the profiles added are. The name of the
profiles is not the mark. -/
theorem unmarked_appended_iff :
    (Value.object (appended members earlier more)).unmarked = true ↔
      (Value.object members).unmarked = true ∧ (Value.array more).unmarked = true := by
  have hparts := forall_appended_iff (P := fun v => v.unmarked = true) more hordered hearlier
    unmarked_append_iff
  have hhead : (appended members earlier more).head?.map Prod.fst = some carrierName ↔
      members.head?.map Prod.fst = some carrierName := Members.head?_insert_iff (by decide)
  rw [Value.unmarked_object_iff, Value.unmarked_object_iff, hparts, Ne, hhead, and_assoc]

/-- A merged catalog is free of floating-point numbers exactly when the base and the profiles added
are. -/
theorem floatFree_appended_iff :
    (Value.object (appended members earlier more)).floatFree = true ↔
      (Value.object members).floatFree = true ∧ (Value.array more).floatFree = true := by
  rw [Value.floatFree_object_iff, Value.floatFree_object_iff]
  exact forall_appended_iff (P := fun v => v.floatFree = true) more hordered hearlier
    floatFree_append_iff

end Catalogs

section Results

/-- A merged catalog has no profiles but the earlier ones and those added behind them. -/
theorem HasProfiles.eq_of_appended {profiles : List Value}
    (h : HasProfiles (appended members earlier more) profiles) : profiles = earlier ++ more := by
  rw [HasProfiles, appended, Members.get?_insert_self] at h
  rcases h with ⟨hnone, -⟩ | hsome
  · cases hnone
  · exact (Value.array.inj (Option.some.inj hsome)).symm

/-- Appending twice is appending the two lists at once. -/
theorem appended_appended (next : List Value) :
    appended (appended members earlier more) (earlier ++ more) next =
      appended members earlier (more ++ next) := by
  rw [appended, appended, appended, Members.insert_insert_self, List.append_assoc]

/-- A merged catalog is regular when the base and the profiles were read. -/
theorem regular_appended (hread : read? base = some (.object members))
    (hearlier : HasProfiles members earlier) (hextra : extraProfiles extra = .ok more) :
    (Value.object (appended members earlier more)).Regular :=
  IsMerged.regular ⟨members, hread, appendMembers_eq_ok_iff.2 ⟨earlier, hearlier, rfl⟩⟩
    (extraProfiles_regular hextra)

/-- A catalog without floating-point numbers is read back with what was appended, if both are read
back and what is appended leaves room for the catalog around it. -/
theorem readsBack_appended_iff (hread : read? base = some (.object members))
    (hearlier : HasProfiles members earlier) (hextra : extraProfiles extra = .ok more)
    (hfloat : (Value.object members).floatFree) (hfloatMore : (Value.array more).floatFree) :
    (Value.object (appended members earlier more)).ReadsBack ↔ (Value.object members).ReadsBack ∧
      (Value.array more).ReadsBack ∧ (Value.array more).depth < maxOpen := by
  have hmembers := regular_of_read? hread
  have hordered := ordered_of_regular hmembers
  have hmore := Value.Regular.array (extraProfiles_regular hextra)
  rw [(regular_appended hread hearlier hextra).readsBack_iff
      ((floatFree_appended_iff hordered hearlier).2 ⟨hfloat, hfloatMore⟩),
    hmembers.readsBack_iff hfloat, hmore.readsBack_iff hfloatMore,
    depth_appended_le_iff hordered hearlier, unmarked_appended_iff hordered hearlier]
  constructor
  · rintro ⟨⟨hdepth, hdepthMore⟩, hunmarked, hunmarkedMore⟩
    exact ⟨⟨hdepth, hunmarked⟩, ⟨hdepthMore.le, hunmarkedMore⟩, hdepthMore⟩
  · rintro ⟨⟨hdepth, hunmarked⟩, ⟨-, hunmarkedMore⟩, hdepthMore⟩
    exact ⟨⟨hdepth, hdepthMore⟩, hunmarked, hunmarkedMore⟩

/-- Only the profiles that are read matter of the bytes that hold them. -/
theorem appendProfiles_congr {other : Bytes} (hextra : extraProfiles extra = .ok more)
    (hother : extraProfiles other = .ok more) :
    appendProfiles base extra = appendProfiles base other := by
  rw [appendProfiles, appendProfiles, hextra, hother]

/-- To append twice is to append at once what was appended first and then what was appended second.
What was written in between is read as what it was written of. -/
theorem appendProfiles_append {next joined mid : Bytes} {others : List Value}
    (hextra : extraProfiles extra = .ok more) (hnext : extraProfiles next = .ok others)
    (hjoined : extraProfiles joined = .ok (more ++ others))
    (hfloat : ∀ v, read? base = some v → v.floatFree) (hfloatMore : (Value.array more).floatFree)
    (hfirst : appendProfiles base extra = .ok mid) (hsecond : appendProfiles mid next = .ok out) :
    appendProfiles base joined = .ok out := by
  by_cases hmore : more = []
  · obtain rfl := hmore
    rw [appendProfiles_of_nothing (extraProfiles_eq_nil_iff.1 hextra), Except.ok.injEq] at hfirst
    subst hfirst
    rw [appendProfiles_congr hjoined hnext, hsecond]
  by_cases hothers : others = []
  · obtain rfl := hothers
    rw [List.append_nil] at hjoined
    rw [appendProfiles_of_nothing (extraProfiles_eq_nil_iff.1 hnext), Except.ok.injEq] at hsecond
    rw [appendProfiles_congr hjoined hextra, hfirst, hsecond]
  obtain ⟨members, earlier, hread, hearlier, rfl⟩ :=
    (appendProfiles_eq_ok_iff hextra hmore).1 hfirst
  obtain ⟨between, profiles, hback, hprofiles, rfl⟩ :=
    (appendProfiles_eq_ok_iff hnext hothers).1 hsecond
  have hfree := (floatFree_appended_iff (ordered_of_regular (regular_of_read? hread)) hearlier).2
    ⟨hfloat _ hread, hfloatMore⟩
  obtain rfl : between = appended members earlier more :=
    Value.object.inj ((regular_appended hread hearlier hextra).eq_of_read? hfree hback)
  obtain rfl := hprofiles.eq_of_appended
  rw [appended_appended]
  exact (appendProfiles_eq_ok_iff hjoined (List.append_ne_nil_of_left_ne_nil hmore _)).2
    ⟨members, earlier, hread, hearlier, rfl⟩

/-- To append nothing leaves all bytes as they are. To append anything else works out if and only
if it can be read as an array, and the base as an object whose profiles are an array or missing.
The result is written of the members of that object, of which just the profiles have changed: those
to append are behind those that were there. Without floating-point numbers it is read back as
these members if and only if the base's own value and what is appended are read back as themselves,
and what is appended is less deep than the reader allows by one. When profiles were appended and
then others, the bytes are the same as when all of them are appended at once. -/
theorem appendProfiles_lossless (base extra : Bytes) :
    (AddsNothing extra → appendProfiles base extra = .ok base) ∧
    (¬ AddsNothing extra →
      ((∃ out, appendProfiles base extra = .ok out) ↔
        ∃ more members earlier, readItems? extra = some more ∧
          read? base = some (.object members) ∧ HasProfiles members earlier) ∧
      ∀ out, appendProfiles base extra = .ok out →
        ∃ (more earlier : List Value) (members merged : Members), readItems? extra = some more ∧
          read? base = some (.object members) ∧ HasProfiles members earlier ∧
          out = write (.object merged) ∧
          merged.get? "profiles" = some (.array (earlier ++ more)) ∧
          (∀ name, name ≠ "profiles" → merged.get? name = members.get? name) ∧
          ((Value.object members).floatFree → (Value.array more).floatFree →
            (read? out = some (.object merged) ↔ (Value.object members).ReadsBack ∧
              (Value.array more).ReadsBack ∧ (Value.array more).depth < maxOpen))) ∧
    ∀ next joined mid out more others, extraProfiles extra = .ok more →
      extraProfiles next = .ok others → extraProfiles joined = .ok (more ++ others) →
      (∀ v, read? base = some v → v.floatFree) → (Value.array more).floatFree →
      appendProfiles base extra = .ok mid → appendProfiles mid next = .ok out →
      appendProfiles base joined = .ok out := by
  refine ⟨appendProfiles_of_nothing, fun hextra => ⟨?_, fun out hout => ?_⟩,
    fun next joined mid out more others => appendProfiles_append⟩
  · constructor
    · rintro ⟨out, hout⟩
      obtain ⟨more, hmore, members, earlier, hread, hearlier, -⟩ :=
        (appendProfiles_eq_ok_iff_items hextra).1 hout
      exact ⟨more, members, earlier, hmore, hread, hearlier⟩
    · rintro ⟨more, members, earlier, hmore, hread, hearlier⟩
      exact ⟨_, (appendProfiles_eq_ok_iff_items hextra).2 ⟨more, hmore, members, earlier, hread,
        hearlier, rfl⟩⟩
  · obtain ⟨more, hmore, members, earlier, hread, hearlier, rfl⟩ :=
      (appendProfiles_eq_ok_iff_items hextra).1 hout
    refine ⟨more, earlier, members, appended members earlier more, hmore, hread, hearlier, rfl,
      Members.get?_insert_self, fun name hname => Members.get?_insert_of_ne hname, ?_⟩
    exact readsBack_appended_iff hread hearlier ((extraProfiles_eq_ok_iff hextra).2 hmore)

/-- The number one is appended to the catalog without profiles, is read back there, and is appended
once more, to the same bytes as two of them at once. -/
theorem appendProfiles_lossless_twice :
    ∃ (mid : Bytes) (merged : Members) (out : Bytes),
      AddsNothing [] ∧ appendProfiles emptyCatalog [] = .ok emptyCatalog ∧
      ¬ AddsNothing oneProfile ∧ appendProfiles emptyCatalog oneProfile = .ok mid ∧
      read? mid = some (.object merged) ∧ merged.get? "profiles" = some (.array [.integer 1]) ∧
      appendProfiles mid oneProfile = .ok out ∧
      appendProfiles emptyCatalog (write (.array [.integer 1, .integer 1])) = .ok out := by
  have hblank : AddsNothing [] := .inl rfl
  have hone : extraProfiles oneProfile = .ok [.integer 1] := extraProfiles_oneProfile
  have hsome : ¬ AddsNothing oneProfile := fun hnothing => by
    rw [extraProfiles_eq_nil_iff.2 hnothing] at hone
    cases hone
  have hitems := (extraProfiles_eq_ok_iff hsome).1 hone
  have hregular : Value.Regular (.integer 1) := .integer (by decide) (by decide)
  have htwo : extraProfiles (write (.array [.integer 1, .integer 1])) =
      .ok [.integer 1, .integer 1] :=
    extraProfiles_write (List.forall_mem_cons.2 ⟨hregular, List.forall_mem_singleton.2 hregular⟩)
      (by decide) (by decide)
  have hbase : (Value.object [("profiles", .array [])]).ReadsBack :=
    ((regular_of_read? read?_emptyCatalog).readsBack_iff rfl).2 ⟨by decide, by decide⟩
  have hextra : (Value.array [.integer 1]).ReadsBack :=
    ((Value.Regular.array (List.forall_mem_singleton.2 hregular)).readsBack_iff rfl).2
      ⟨by decide, by decide⟩
  obtain ⟨-, hnonempty, hcompose⟩ := appendProfiles_lossless emptyCatalog oneProfile
  obtain ⟨-, hparts⟩ := hnonempty hsome
  have hfirst := appendProfiles_emptyCatalog hone
  obtain ⟨more, earlier, members, merged, hmore, hread, hearlier, -, hprofiles, -, hback⟩ :=
    hparts _ hfirst
  obtain rfl : [.integer 1] = more := Option.some.inj (hitems.symm.trans hmore)
  obtain rfl : [("profiles", .array [])] = members :=
    Value.object.inj (Option.some.inj (read?_emptyCatalog.symm.trans hread))
  obtain rfl : earlier = [] := by
    rcases hearlier with ⟨hnone, -⟩ | hsome
    · cases hnone
    · exact (Value.array.inj (Option.some.inj hsome)).symm
  have hmid := (hback rfl rfl).2 ⟨hbase, hextra, by decide⟩
  obtain ⟨out, hsecond⟩ := ((appendProfiles_lossless (catalogOf (.integer 1)) oneProfile).2.1
    hsome).1.2 ⟨[.integer 1], merged, [.integer 1], hitems, hmid, .inr hprofiles⟩
  have hfloat : ∀ v, read? emptyCatalog = some v → v.floatFree := by
    intro v hv
    rw [read?_emptyCatalog] at hv
    cases hv
    rfl
  exact ⟨_, merged, out, hblank, (appendProfiles_lossless emptyCatalog []).1 hblank, hsome, hfirst,
    hmid, hprofiles, hsecond, hcompose _ _ _ _ _ _ hone hone htwo hfloat rfl hfirst hsecond⟩

end Results

end GatewayConfig.Telemetry
