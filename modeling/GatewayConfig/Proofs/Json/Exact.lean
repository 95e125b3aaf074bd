import GatewayConfig.Proofs.Json.RoundTrip

/-!
# Values that are read back as themselves

A value without floating-point numbers that a reader has yielded is read back as itself when it is
written, unless it is too deep or an object in it starts with the mark of a carrier:
`readsBack_iff`. The conditions are put as conditions on the parts of a value here, so that they can
be followed through a change of one member.
-/

namespace GatewayConfig.Json

mutual

/-- Whether there is no floating-point number in a value. -/
def Value.floatFree : Value → Bool
  | .float _ => false
  | .array items => floatFreeItems items
  | .object members => floatFreeMembers members
  | _ => true

/-- Whether that is so of items. -/
def floatFreeItems : List Value → Bool
  | [] => true
  | v :: rest => v.floatFree && floatFreeItems rest

/-- Whether that is so of the values of members. -/
def floatFreeMembers : List (String × Value) → Bool
  | [] => true
  | (_, v) :: rest => v.floatFree && floatFreeMembers rest

end

section Parts

variable {items : List Value} {members : Members} {limit : Nat}

/-- Items are without floating-point numbers when each of them is. -/
theorem floatFreeItems_iff :
    floatFreeItems items = true ↔ ∀ v ∈ items, v.floatFree = true := by
  induction items with
  | nil => simp [floatFreeItems]
  | cons v rest ih => rw [floatFreeItems, Bool.and_eq_true, ih, List.forall_mem_cons]

/-- So are members. -/
theorem floatFreeMembers_iff :
    floatFreeMembers members = true ↔ ∀ m ∈ members, m.2.floatFree = true := by
  induction members with
  | nil => simp [floatFreeMembers]
  | cons m rest ih => rw [floatFreeMembers, Bool.and_eq_true, ih, List.forall_mem_cons]

/-- Items are without marks of carriers when each of them is. -/
theorem unmarkedItems_iff : unmarkedItems items = true ↔ ∀ v ∈ items, v.unmarked = true := by
  induction items with
  | nil => simp [unmarkedItems]
  | cons v rest ih => rw [unmarkedItems, Bool.and_eq_true, ih, List.forall_mem_cons]

/-- So are members, by their values alone. -/
theorem unmarkedMembers_iff :
    unmarkedMembers members = true ↔ ∀ m ∈ members, m.2.unmarked = true := by
  induction members with
  | nil => simp [unmarkedMembers]
  | cons m rest ih => rw [unmarkedMembers, Bool.and_eq_true, ih, List.forall_mem_cons]

/-- The depth of items is bounded when that of each of them is. -/
theorem depthItems_le_iff : depthItems items ≤ limit ↔ ∀ v ∈ items, v.depth ≤ limit := by
  induction items with
  | nil => simp [depthItems]
  | cons v rest ih => rw [depthItems, Nat.max_le, ih, List.forall_mem_cons]

/-- So is the depth of members. -/
theorem depthMembers_le_iff : depthMembers members ≤ limit ↔ ∀ m ∈ members, m.2.depth ≤ limit := by
  induction members with
  | nil => simp [depthMembers]
  | cons m rest ih => rw [depthMembers, Nat.max_le, ih, List.forall_mem_cons]

namespace Value

/-- An array is one level deeper than its items. -/
theorem depth_array_le_iff :
    (array items).depth ≤ limit + 1 ↔ ∀ v ∈ items, v.depth ≤ limit := by
  rw [depth, Nat.add_le_add_iff_right, depthItems_le_iff]

/-- An object is one level deeper than its values. -/
theorem depth_object_le_iff :
    (object members).depth ≤ limit + 1 ↔ ∀ m ∈ members, m.2.depth ≤ limit := by
  rw [depth, Nat.add_le_add_iff_right, depthMembers_le_iff]

/-- An array has no mark of its own. -/
theorem unmarked_array_iff :
    (array items).unmarked = true ↔ ∀ v ∈ items, v.unmarked = true := by
  rw [unmarked, unmarkedItems_iff]

/-- An object is marked by the name of its first member. -/
theorem unmarked_object_iff :
    (object members).unmarked = true ↔
      members.head?.map Prod.fst ≠ some carrierName ∧ ∀ m ∈ members, m.2.unmarked = true := by
  rw [unmarked, Bool.and_eq_true, bne_iff_ne, unmarkedMembers_iff]

/-- An array has the numbers of its items. -/
theorem floatFree_array_iff :
    (array items).floatFree = true ↔ ∀ v ∈ items, v.floatFree = true := by
  rw [floatFree, floatFreeItems_iff]

/-- An object has those of its values. -/
theorem floatFree_object_iff :
    (object members).floatFree = true ↔ ∀ m ∈ members, m.2.floatFree = true := by
  rw [floatFree, floatFreeMembers_iff]

end Value

end Parts

mutual

/-- Only floating-point numbers are moved when they are read back. -/
theorem Value.settled_of_floatFree :
    ∀ v : Value, v.floatFree = true → v.settled = v
  | .null, _ => rfl
  | .bool _, _ => rfl
  | .integer _, _ => rfl
  | .float _, h => nomatch h
  | .string _, _ => rfl
  | .array items, h => congrArg Value.array (settledItems_of_floatFree items h)
  | .object members, h => congrArg Value.object (settledMembers_of_floatFree members h)

/-- So it is with items. -/
theorem settledItems_of_floatFree :
    ∀ items : List Value, floatFreeItems items = true → settledItems items = items
  | [], _ => rfl
  | v :: rest, h => by
    obtain ⟨hv, hrest⟩ := Bool.and_eq_true_iff.1 h
    rw [settledItems, v.settled_of_floatFree hv, settledItems_of_floatFree rest hrest]

/-- And with members. -/
theorem settledMembers_of_floatFree :
    ∀ members : List (String × Value), floatFreeMembers members = true →
      settledMembers members = members
  | [], _ => rfl
  | (name, v) :: rest, h => by
    obtain ⟨hv, hrest⟩ := Bool.and_eq_true_iff.1 h
    rw [settledMembers, v.settled_of_floatFree hv, settledMembers_of_floatFree rest hrest]

end

/-- A value is the one that is read when it was written. -/
def Value.ReadsBack (v : Value) : Prop := read? (write v) = some v

/-- Which values without floating-point numbers are read back as themselves. -/
theorem Value.Regular.readsBack_iff {v : Value} (h : v.Regular) (hfloat : v.floatFree = true) :
    v.ReadsBack ↔ v.depth ≤ maxOpen ∧ v.unmarked = true := by
  rw [Value.ReadsBack, read?_write h, v.settled_of_floatFree hfloat]
  constructor
  · intro hread
    by_contra hunfit
    rw [if_neg hunfit] at hread
    cases hread
  · exact fun hfit => if_pos hfit

/-- When such a value is read at all, it is read as itself. -/
theorem Value.Regular.eq_of_read? {v w : Value} (h : v.Regular) (hfloat : v.floatFree = true)
    (hread : read? (write v) = some w) : w = v := by
  rw [read?_write h, v.settled_of_floatFree hfloat] at hread
  split at hread
  · exact (Option.some.inj hread).symm
  · cases hread

namespace Members

variable {members : Members} {name other : String} {v w : Value}

/-- The other members keep their values. -/
theorem get?_insert_of_ne (h : other ≠ name) :
    (members.insert name v).get? other = members.get? other := by
  have hbeq : (other == name) = false := beq_eq_false_iff_ne.2 h
  induction members with
  | nil =>
    rw [insert, get?, List.lookup_cons, hbeq]
    rfl
  | cons m rest ih =>
    rw [get?] at ih
    rw [insert]
    split
    next heq =>
      subst heq
      rw [get?, get?, List.lookup_cons, List.lookup_cons, hbeq]
    split
    · rw [get?, get?, List.lookup_cons, hbeq]
    · rw [get?, get?, List.lookup_cons, List.lookup_cons, ih, get?]

/-- Of two values for one name the second stays. -/
theorem insert_insert_self :
    (members.insert name v).insert name w = members.insert name w := by
  induction members with
  | nil => rw [insert, insert, insert, if_pos rfl]
  | cons m rest ih =>
    rw [insert]
    split
    next heq => rw [insert, if_pos rfl, insert, if_pos heq]
    next hne =>
      split
      next hless => rw [insert, if_pos rfl, insert, if_neg hne, if_pos hless]
      next hnotless => rw [insert, if_neg hne, if_neg hnotless, ih, insert, if_neg hne,
          if_neg hnotless]

/-- Each name occurs once, so a member is what is found under its name. -/
theorem Ordered.get?_eq_some_iff (h : members.Ordered) :
    members.get? name = some v ↔ (name, v) ∈ members := by
  induction members with
  | nil => simp [get?]
  | cons m rest ih =>
    obtain ⟨hfirst, hrest⟩ := List.pairwise_cons.1 h
    rw [get?, List.lookup_cons, List.mem_cons]
    cases hname : name == m.1 with
    | true =>
      obtain rfl := beq_iff_eq.1 hname
      have hnot : (m.1, v) ∉ rest := fun hm => lt_irrefl m.1 (hfirst (m.1, v) hm)
      rw [or_iff_left hnot, Prod.ext_iff, Option.some_inj]
      exact ⟨fun heq => ⟨rfl, heq.symm⟩, fun heq => heq.2.symm⟩
    | false =>
      have hnot : (name, v) ≠ m := fun heq => beq_eq_false_iff_ne.1 hname (by rw [← heq])
      rw [or_iff_right hnot]
      exact ih hrest

/-- What is so of all values after a member was set is so of the value that was set, and of those
of the other members. -/
theorem Ordered.forall_insert_iff (h : members.Ordered) {P : Value → Prop} :
    (∀ m ∈ members.insert name v, P m.2) ↔ P v ∧ ∀ m ∈ members, m.1 ≠ name → P m.2 := by
  constructor
  · intro hall
    exact ⟨hall _ mem_insert_self, fun m hm hne => hall m (mem_insert_of_ne hm hne)⟩
  · rintro ⟨hv, hothers⟩ m hm
    by_cases hname : m.1 = name
    · have hordered : (members.insert name v).Ordered := h.insert
      have hget := hordered.get?_eq_some_iff.2 hm
      rw [hname, get?_insert_self] at hget
      rw [← Option.some.inj hget]
      exact hv
    · refine hothers m ((mem_insert hm).resolve_left fun heq => hname ?_) hname
      rw [heq]

/-- A name that comes behind the mark of a carrier neither puts it in front nor takes it from
there. -/
theorem head?_insert_iff (h : carrierName < name) :
    (members.insert name v).head?.map Prod.fst = some carrierName ↔
      members.head?.map Prod.fst = some carrierName := by
  cases members with
  | nil => simp [insert, h.ne']
  | cons m rest =>
    rw [insert]
    split
    next heq => simp [heq]
    split
    next hless => simp [h.ne', (h.trans hless).ne']
    · rfl

end Members

end GatewayConfig.Json
