import GatewayConfig.Proofs.Bytes.Utf8
import GatewayConfig.Proofs.Text.Lines
import GatewayConfig.Text.Header
import GatewayConfig.Version

/-!
# What tokens are made of

A token is sixteen hexadecimal digits. The byte strings that are hashed for a group and for a list
of tokens determine the group and the list, as long as the separators occur in none of their parts,
and no token contains a separator.
-/

namespace GatewayConfig

/-- A piece that ends where the separator first occurs is determined by the whole. -/
theorem append_inj_of_separator {α : Type} {x : α} {l l' r r' : List α} (hl : x ∉ l) (hl' : x ∉ l')
    (hr : ∀ y ∈ r.head?, y = x) (hr' : ∀ y ∈ r'.head?, y = x) (h : l ++ r = l' ++ r') :
    l = l' ∧ r = r' := by
  rcases List.append_eq_append_iff.1 h with ⟨u, rfl, rfl⟩ | ⟨u, rfl, rfl⟩
  · cases u with
    | nil => exact ⟨(List.append_nil l).symm, rfl⟩
    | cons y u => exact absurd (hr y rfl) (by rintro rfl; simp at hl')
  · cases u with
    | nil => exact ⟨List.append_nil l', rfl⟩
    | cons y u => exact absurd (hr' y rfl) (by rintro rfl; simp at hl)

/-- A piece that begins where the separator last occurs is determined by the whole. -/
theorem append_cons_inj_of_last {α : Type} {x : α} {l l' r r' : List α} (hr : x ∉ r) (hr' : x ∉ r')
    (h : l ++ x :: r = l' ++ x :: r') : l = l' ∧ r = r' := by
  have hreverse : r.reverse ++ x :: l.reverse = r'.reverse ++ x :: l'.reverse := by
    simpa using congrArg List.reverse h
  obtain ⟨hright, hleft⟩ := append_inj_of_separator (by simpa using hr) (by simpa using hr')
    (by simp) (by simp) hreverse
  exact ⟨List.reverse_inj.1 (List.cons.inj hleft).2, List.reverse_inj.1 hright⟩

/-- A byte below 128 occurs in a text where its character does. -/
theorem Bytes.mem_ofText_iff {s : String} {c : Char} (hc : c.toNat < 128) :
    UInt8.ofNat c.toNat ∈ Bytes.ofText s ↔ c ∈ s.toList := by
  have hx : (UInt8.ofNat c.toNat).toNat = c.toNat := by
    rw [UInt8.toNat_ofNat', Nat.mod_eq_of_lt (by omega)]
  rw [Bytes.ofText_eq_flatMap]
  constructor
  · intro h
    obtain ⟨before, after, hsplit⟩ := List.append_of_mem h
    obtain ⟨l, d, l', hs, hd, -, -⟩ := Bytes.exists_of_flatMap_eq (by omega) hsplit
    obtain rfl : d = c := Char.toNat_inj.1 (hd.trans hx)
    rw [hs]
    exact List.mem_append_right l List.mem_cons_self
  · intro h
    rw [List.mem_flatMap]
    refine ⟨c, h, ?_⟩
    rw [Bytes.utf8EncodeChar_eq_singleton hc]
    exact List.mem_singleton_self _

/-- A text of characters below 128 has as many bytes as characters. -/
theorem Bytes.length_ofText {s : String} (h : ∀ c ∈ s.toList, c.toNat < 128) :
    (Bytes.ofText s).length = s.toList.length := by
  rw [Bytes.ofText_eq_flatMap]
  revert h
  induction s.toList with
  | nil => exact fun _ => rfl
  | cons c l ih =>
    intro h
    obtain ⟨hc, hl⟩ := List.forall_mem_cons.1 h
    rw [List.flatMap_cons, Bytes.utf8EncodeChar_eq_singleton hc, List.singleton_append,
      List.length_cons, List.length_cons, ih hl]

namespace Version

/-- A hashed version has sixteen digits, whatever was hashed. -/
theorem length_hashed (b : Bytes) : (hashed b).token.toList.length = 16 := by
  rw [hashed, Bytes.length_hex, List.length_take, Sha256.length_digest]
  rfl

/-- A hashed version is not empty. -/
theorem token_hashed_ne_empty (b : Bytes) : (hashed b).token ≠ "" := by
  intro h
  have hlength := length_hashed b
  rw [h] at hlength
  cases hlength

/-- Its digits are ASCII, so they are sixteen bytes. -/
theorem length_ofText_hashed (b : Bytes) : (Bytes.ofText (hashed b).token).length = 16 := by
  have hdigit : ∀ k < 16, (Nat.digitChar k).toNat < 128 := by decide
  rw [Bytes.length_ofText, length_hashed]
  intro c hc
  obtain ⟨k, hk, rfl⟩ := Bytes.exists_digitChar_of_mem_hex hc
  exact hdigit k hk

/-- A character that is no hexadecimal digit occurs in no token. -/
theorem not_mem_hashed {c : Char} (hc : ∀ k < 16, Nat.digitChar k ≠ c) (b : Bytes) :
    c ∉ (hashed b).token.toList := by
  intro h
  obtain ⟨k, hk, rfl⟩ := Bytes.exists_digitChar_of_mem_hex h
  exact hc k hk rfl

/-- A hashed version survives trimming and stays on its line. -/
theorem plain_hashed (b : Bytes) : Text.Plain (hashed b).token := by
  have hdigit : ∀ k < 16, (!Text.isBlank (Nat.digitChar k)) = true := by decide
  refine Text.plain_of_all (List.all_eq_true.2 fun c hc => ?_)
  obtain ⟨k, hk, rfl⟩ := Bytes.exists_digitChar_of_mem_hex hc
  exact hdigit k hk

/-- A token of sixteen hexadecimal digits, the letters among them small. -/
structure IsHex (v : Version) : Prop where
  /-- There are sixteen characters. -/
  length : v.token.toList.length = 16
  /-- Each of them is a digit. -/
  digits : ∀ c ∈ v.token.toList, c ∈ "0123456789abcdef".toList

/-- A hashed version is hexadecimal. -/
theorem isHex_hashed (b : Bytes) : (hashed b).IsHex := by
  have hdigit : ∀ k < 16, Nat.digitChar k ∈ "0123456789abcdef".toList := by decide
  refine ⟨length_hashed b, fun c hc => ?_⟩
  obtain ⟨k, hk, rfl⟩ := Bytes.exists_digitChar_of_mem_hex hc
  exact hdigit k hk

/-- A token can be sent in a header. -/
theorem IsHex.isHeaderValue {v : Version} (h : v.IsHex) : Text.isHeaderValue v.token = true := by
  have hdigits : "0123456789abcdef".toList.all (fun c => c.toNat < 128 &&
      (UInt8.ofNat c.toNat == 9 || (32 ≤ UInt8.ofNat c.toNat && UInt8.ofNat c.toNat != 127))) =
        true := by decide
  rw [Text.isHeaderValue, List.all_eq_true]
  intro x hx
  rw [Bytes.ofText_eq_flatMap] at hx
  obtain ⟨c, hc, hx⟩ := List.mem_flatMap.1 hx
  obtain ⟨hsmall, hsent⟩ :=
    Bool.and_eq_true_iff.1 (List.all_eq_true.1 hdigits c (h.digits c hc))
  rw [Bytes.utf8EncodeChar_eq_singleton (of_decide_eq_true hsmall), List.mem_singleton] at hx
  rw [hx]
  exact hsent

/-- A combined text has a zero byte behind the first token. -/
theorem combineText_cons (v : Version) (vs : List Version) :
    combineText (v :: vs) = Bytes.ofText v.token ++ 0 :: combineText vs := by
  simp [combineText]

/-- Two lists of tokens without zero characters are told apart by what is hashed for them. -/
theorem combineText_inj {vs ws : List Version} (hv : ∀ v ∈ vs, Char.ofNat 0 ∉ v.token.toList)
    (hw : ∀ w ∈ ws, Char.ofNat 0 ∉ w.token.toList) (h : combineText vs = combineText ws) :
    vs = ws := by
  induction vs generalizing ws with
  | nil =>
    cases ws with
    | nil => rfl
    | cons w ws => simp [combineText] at h
  | cons v vs ih =>
    cases ws with
    | nil => simp [combineText] at h
    | cons w ws =>
      obtain ⟨hv0, hvs⟩ := List.forall_mem_cons.1 hv
      obtain ⟨hw0, hws⟩ := List.forall_mem_cons.1 hw
      have hv0 : 0 ∉ Bytes.ofText v.token := fun hm => hv0 ((Bytes.mem_ofText_iff (by decide)).1 hm)
      have hw0 : 0 ∉ Bytes.ofText w.token := fun hm => hw0 ((Bytes.mem_ofText_iff (by decide)).1 hm)
      rw [combineText_cons, combineText_cons] at h
      obtain ⟨htoken, hrest⟩ := append_inj_of_separator hv0 hw0 (by simp) (by simp) h
      have htail := ih hvs hws (List.cons.inj hrest).2
      have hhead : v = w := congrArg Version.mk (Bytes.ofText_injective htoken)
      rw [hhead, htail]

/-- The line of a member in what is hashed for a group. -/
def rootLine (m : String × Version) : Bytes :=
  10 :: (Bytes.ofText m.1 ++ 61 :: Bytes.ofText m.2.token)

/-- A root text is a name and the lines of the members. -/
theorem rootText_eq (ms : List (String × Version)) :
    rootText ms = Bytes.ofText "root" ++ ms.flatMap rootLine := rfl

/-- A member whose line can be told from its neighbours and split into its parts. -/
structure Separable (m : String × Version) : Prop where
  /-- The id stays on its line. -/
  id : '\n' ∉ m.1.toList
  /-- So does the token. -/
  token : '\n' ∉ m.2.token.toList
  /-- The last equals sign is the one between them. -/
  noEquals : '=' ∉ m.2.token.toList

/-- A separable member has no line end within its line. -/
theorem Separable.not_mem_line {m : String × Version} (h : Separable m) :
    (10 : UInt8) ∉ Bytes.ofText m.1 ++ 61 :: Bytes.ofText m.2.token := by
  have hid : (10 : UInt8) ∉ Bytes.ofText m.1 :=
    fun hx => h.id ((Bytes.mem_ofText_iff (by decide)).1 hx)
  have htoken : (10 : UInt8) ∉ Bytes.ofText m.2.token :=
    fun hx => h.token ((Bytes.mem_ofText_iff (by decide)).1 hx)
  simp [hid, htoken]

/-- Its token has no equals sign. -/
theorem Separable.not_mem_token {m : String × Version} (h : Separable m) :
    (61 : UInt8) ∉ Bytes.ofText m.2.token :=
  fun hx => h.noEquals ((Bytes.mem_ofText_iff (by decide)).1 hx)

/-- Lines of members start with a line end, if there are any. -/
theorem head?_flatMap_rootLine (ms : List (String × Version)) :
    ∀ x ∈ (ms.flatMap rootLine).head?, x = 10 := by
  intro x hx
  cases ms with
  | nil => cases hx
  | cons m ms => exact (Option.some.inj hx).symm

/-- Members can be read back from their lines: a line starts at each line end and is cut at its last
equals sign. -/
theorem flatMap_rootLine_inj {ms ns : List (String × Version)} (hm : ∀ m ∈ ms, Separable m)
    (hn : ∀ n ∈ ns, Separable n) (h : ms.flatMap rootLine = ns.flatMap rootLine) : ms = ns := by
  induction ms generalizing ns with
  | nil =>
    cases ns with
    | nil => rfl
    | cons n ns => simp [rootLine] at h
  | cons m ms ih =>
    cases ns with
    | nil => simp [rootLine] at h
    | cons n ns =>
      obtain ⟨hm0, hms⟩ := List.forall_mem_cons.1 hm
      obtain ⟨hn0, hns⟩ := List.forall_mem_cons.1 hn
      rw [List.flatMap_cons, List.flatMap_cons, rootLine, rootLine, List.cons_append,
        List.cons_append] at h
      obtain ⟨hbody, hrest⟩ := append_inj_of_separator hm0.not_mem_line hn0.not_mem_line
        (head?_flatMap_rootLine ms) (head?_flatMap_rootLine ns) (List.cons.inj h).2
      obtain ⟨hid, htoken⟩ :=
        append_cons_inj_of_last hm0.not_mem_token hn0.not_mem_token hbody
      have hhead : m = n := Prod.ext (Bytes.ofText_injective hid)
        (congrArg Version.mk (Bytes.ofText_injective htoken))
      rw [hhead, ih hms hns hrest]

/-- Two groups of separable members are told apart by what is hashed for them. -/
theorem rootText_inj {ms ns : List (String × Version)} (hm : ∀ m ∈ ms, Separable m)
    (hn : ∀ n ∈ ns, Separable n) (h : rootText ms = rootText ns) : ms = ns := by
  rw [rootText_eq, rootText_eq] at h
  exact flatMap_rootLine_inj hm hn (List.append_cancel_left h)

end Version

end GatewayConfig
