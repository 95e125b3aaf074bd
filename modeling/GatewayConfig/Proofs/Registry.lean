import GatewayConfig.Group

/-!
# What a registry contains

A registry is made from the empty or the built-in one by registering ids. Ids are trimmed when they
are registered, so an id that a registry contains has no white space at its ends, and the id of the
whole configuration is never registered.
-/

namespace GatewayConfig

namespace Registry

/-- The registries that a service can have. -/
inductive Reachable : Registry → Prop
  /-- The registry without ids. -/
  | empty : Reachable .empty
  /-- The registry that every service starts from. -/
  | builtin : Reachable .builtin
  /-- A registry with more ids. -/
  | registerAll {r : Registry} (h : Reachable r) (ids : List String) : Reachable (r.registerAll ids)

section Ids

variable {p : String → Prop}

/-- What holds of the identifiers, and of an identifier that can be added, holds after a
registration. The root identifier is never added. -/
theorem forall_id_register {r : Registry} (hr : ∀ e ∈ r.entries, p e.1)
    (hnew : ∀ raw, Text.trim raw ≠ rootId → p (Text.trim raw)) (raw : String) :
    ∀ e ∈ (r.register raw).entries, p e.1 := by
  rw [Registry.register]
  split
  · exact hr
  next hid =>
    intro e he
    rcases List.mem_append.1 he with he | he
    · exact hr e he
    · rw [List.mem_singleton.1 he]
      exact hnew raw fun hroot => hid (.inr (.inl hroot))

/-- The same after any list of registrations. -/
theorem forall_id_registerAll {r : Registry} (hr : ∀ e ∈ r.entries, p e.1)
    (hnew : ∀ raw, Text.trim raw ≠ rootId → p (Text.trim raw)) (ids : List String) :
    ∀ e ∈ (r.registerAll ids).entries, p e.1 := by
  induction ids generalizing r with
  | nil => exact hr
  | cons id ids ih => exact ih (forall_id_register hr hnew id)

/-- What holds of the builtin identifiers, and of each that can be added, holds of every identifier
of a reachable registry. -/
theorem Reachable.forall_id {r : Registry} (h : r.Reachable)
    (hbuiltin : ∀ e ∈ Registry.builtin.entries, p e.1)
    (hnew : ∀ raw, Text.trim raw ≠ rootId → p (Text.trim raw)) : ∀ e ∈ r.entries, p e.1 := by
  induction h with
  | empty => exact List.forall_mem_nil _
  | builtin => exact hbuiltin
  | registerAll _ ids ih => exact forall_id_registerAll ih hnew ids

end Ids

/-- An identifier that is found stands in the list with the bit that was found. -/
theorem mem_of_lookup_eq_some {id : String} {bit : Nat} {entries : List (String × Nat)}
    (h : entries.lookup id = some bit) : (id, bit) ∈ entries := by
  obtain ⟨before, after, rfl, -⟩ := List.lookup_eq_some_iff.1 h
  exact List.mem_append_right before List.mem_cons_self

/-- What holds of the built-in ids and of every id that can be registered holds of every id that a
registry contains. -/
theorem Reachable.of_contains {r : Registry} (h : r.Reachable) (p : String → Prop)
    (hbuiltin : ∀ e ∈ Registry.builtin.entries, p e.1)
    (hnew : ∀ raw, Text.trim raw ≠ rootId → p (Text.trim raw)) {id : String}
    (hc : r.contains id = true) : p id := by
  obtain ⟨bit, hb⟩ := Option.isSome_iff_exists.1 hc
  have hm : (id, bit) ∈ r.entries := mem_of_lookup_eq_some hb
  exact h.forall_id hbuiltin hnew (id, bit) hm

/-- An id that is registered is trimmed. -/
theorem Reachable.trim_eq {r : Registry} (h : r.Reachable) {id : String}
    (hc : r.contains id = true) : Text.trim id = id :=
  h.of_contains (fun id => Text.trim id = id) (by decide) (fun raw _ => Text.trim_trim raw) hc

/-- An id that is registered names a part of the configuration. -/
theorem Reachable.ne_root {r : Registry} (h : r.Reachable) {id : String}
    (hc : r.contains id = true) : id ≠ rootId :=
  h.of_contains (fun id => id ≠ rootId) (by decide) (fun _ hne => hne) hc

end Registry

end GatewayConfig
