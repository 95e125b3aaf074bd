import GatewayConfig.Proofs.Version

/-!
# When two tokens are the same

A token keeps eight bytes of a digest and loses the rest, so different byte strings may share one.
`token_eq_iff` says that this is the only way in which different groups, or different lists of
tokens, can do so: what is hashed for them is different already, as long as no part of it contains
a separator. The conditions cannot be dropped, as the examples at the end show.
-/

namespace GatewayConfig

/-- The hexadecimal digits differ. -/
theorem digitChar_inj :
    ∀ m < 16, ∀ n < 16, Nat.digitChar m = Nat.digitChar n → m = n := by
  decide

/-- A byte string is known by its hexadecimal digits. -/
theorem Bytes.hex_inj {a b : Bytes} : hex a = hex b ↔ a = b := by
  refine ⟨fun h => ?_, congrArg hex⟩
  have hdigits := String.ofList_injective h
  clear h
  induction a generalizing b with
  | nil =>
    cases b with
    | nil => rfl
    | cons y b => cases hdigits
  | cons x a ih =>
    cases b with
    | nil => cases hdigits
    | cons y b =>
      rw [List.flatMap_cons, List.flatMap_cons] at hdigits
      obtain ⟨hhigh, hlow⟩ := List.cons.inj hdigits
      obtain ⟨hlow, hrest⟩ := List.cons.inj hlow
      have hx := x.toNat_lt
      have hy := y.toNat_lt
      have hquotient := digitChar_inj (x.toNat / 16) (by omega) (y.toNat / 16) (by omega) hhigh
      have hremainder := digitChar_inj (x.toNat % 16) (by omega) (y.toNat % 16) (by omega) hlow
      have hbyte : x = y := UInt8.toNat_inj.1 (by omega)
      rw [hbyte, ih hrest]

namespace Version

/-- Two byte strings that the hash of a token does not tell apart. -/
structure Collide (a b : Bytes) : Prop where
  /-- They are different. -/
  different : a ≠ b
  /-- Their digests agree in the bytes that a token keeps. -/
  same : (Sha256.digest a).take 8 = (Sha256.digest b).take 8

variable {a b : Bytes} {ms ns : List (String × Version)} {vs ws : List Version}

/-- Hashed versions are equal exactly when the bytes are, or collide. -/
theorem hashed_eq_iff : hashed a = hashed b ↔ a = b ∨ Collide a b := by
  have hkept : hashed a = hashed b ↔ (Sha256.digest a).take 8 = (Sha256.digest b).take 8 := by
    rw [hashed, hashed, Version.mk.injEq, Bytes.hex_inj]
  rw [hkept]
  constructor
  · intro h
    by_cases heq : a = b
    · exact .inl heq
    · exact .inr ⟨heq, h⟩
  · rintro (rfl | h)
    · rfl
    · exact h.same

/-- Root versions are equal exactly when the members are, in their order, or the two texts
collide. -/
theorem root_eq_iff (hm : ∀ m ∈ ms, Separable m) (hn : ∀ n ∈ ns, Separable n) :
    root ms = root ns ↔ ms = ns ∨ Collide (rootText ms) (rootText ns) := by
  rw [root, root, hashed_eq_iff]
  exact or_congr_left ⟨rootText_inj hm hn, congrArg rootText⟩

/-- Combined versions are equal exactly when the versions are, in their order, or the two texts
collide. -/
theorem combine_eq_iff (hv : ∀ v ∈ vs, Char.ofNat 0 ∉ v.token.toList)
    (hw : ∀ w ∈ ws, Char.ofNat 0 ∉ w.token.toList) :
    combine vs = combine ws ↔ vs = ws ∨ Collide (combineText vs) (combineText ws) := by
  rw [combine, combine, hashed_eq_iff]
  exact or_congr_left ⟨combineText_inj hv hw, congrArg combineText⟩

/-- What is hashed for a group determines its members, in number and in order, if ids and tokens
stay on their lines and no token contains an equals sign. What is hashed for a list of tokens
determines the tokens if none of them contains a zero character. So two different groups, and two
different lists such as those of a link's version and a content's digest, have one token only if
the hash collides on what is hashed for them. -/
theorem token_eq_iff :
    (∀ ms ns : List (String × Version), (∀ m ∈ ms, Separable m) → (∀ n ∈ ns, Separable n) →
      (rootText ms = rootText ns ↔ ms = ns) ∧
      (root ms = root ns ↔ ms = ns ∨ Collide (rootText ms) (rootText ns))) ∧
    (∀ vs ws : List Version, (∀ v ∈ vs, Char.ofNat 0 ∉ v.token.toList) →
      (∀ w ∈ ws, Char.ofNat 0 ∉ w.token.toList) →
      (combineText vs = combineText ws ↔ vs = ws) ∧
      (combine vs = combine ws ↔ vs = ws ∨ Collide (combineText vs) (combineText ws))) := by
  constructor
  · intro ms ns hm hn
    exact ⟨⟨rootText_inj hm hn, congrArg rootText⟩, root_eq_iff hm hn⟩
  · intro vs ws hv hw
    exact ⟨⟨combineText_inj hv hw, congrArg combineText⟩, combine_eq_iff hv hw⟩

/-- An equals sign in an id and an empty token are no way around this: two members whose characters
run together to the same text are hashed as different byte strings, and so are two tokens. -/
theorem token_eq_iff_sample :
    rootText [("a=b", ⟨"c"⟩), ("d", ⟨""⟩)] ≠ rootText [("a", ⟨"c"⟩), ("b=d", ⟨""⟩)] ∧
      combineText [⟨"ab"⟩, ⟨""⟩] ≠ combineText [⟨"a"⟩, ⟨"b"⟩] := by
  obtain ⟨hroot, hcombine⟩ := token_eq_iff
  have hleft : ∀ m ∈ [("a=b", (⟨"c"⟩ : Version)), ("d", ⟨""⟩)], Separable m :=
    List.forall_mem_cons.2 ⟨⟨by decide, by decide, by decide⟩,
      List.forall_mem_singleton.2 ⟨by decide, by decide, by decide⟩⟩
  have hright : ∀ m ∈ [("a", (⟨"c"⟩ : Version)), ("b=d", ⟨""⟩)], Separable m :=
    List.forall_mem_cons.2 ⟨⟨by decide, by decide, by decide⟩,
      List.forall_mem_singleton.2 ⟨by decide, by decide, by decide⟩⟩
  refine ⟨fun h => ?_, fun h => ?_⟩
  · exact absurd ((hroot _ _ hleft hright).1.1 h) (by decide)
  · exact absurd ((hcombine _ _ (by decide) (by decide)).1.1 h) (by decide)

/-- A token with an equals sign can pass for a part of the id. -/
example : rootText [("a", ⟨"b=c"⟩)] = rootText [("a=b", ⟨"c"⟩)] := by decide

/-- A token with a line feed can pass for another member. -/
example : rootText [("a", ⟨"b\nc=d"⟩)] = rootText [("a", ⟨"b"⟩), ("c", ⟨"d"⟩)] := by decide

/-- A token with a zero character can pass for two. -/
example : combineText [⟨"a\x00b"⟩] = combineText [⟨"a"⟩, ⟨"b"⟩] := by decide

end Version

end GatewayConfig
