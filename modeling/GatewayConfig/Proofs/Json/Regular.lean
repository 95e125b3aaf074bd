import GatewayConfig.Json.Reader
import GatewayConfig.Proofs.Decimal.Reading
import Mathlib.Data.String.Basic

/-!
# What a reader yields

A reader keeps the members of an object in the order of their names, each name once, and its
numbers within their formats. An object that stands for another value is never yielded, so an
object that is not empty has a member of another name. `regular_of_read?` says so of every value,
also of one that was carried as a text inside another.
-/

namespace GatewayConfig.Json

/-- Members with names in order, each name once. -/
def Members.Ordered (members : Members) : Prop := members.Pairwise fun m m' => m.1 < m'.1

/-- A value as a reader yields it. -/
inductive Value.Regular : Value → Prop
  /-- The literal `null`. -/
  | null : Regular .null
  /-- A truth value. -/
  | bool (b : Bool) : Regular (.bool b)
  /-- An integer of 64 bits. -/
  | integer {n : Int} (hlow : -2 ^ 63 ≤ n) (hhigh : n < 2 ^ 64) : Regular (.integer n)
  /-- A number of the format. -/
  | float {f : Decimal.Binary64} (h : f.Finite) : Regular (.float f)
  /-- A text. -/
  | string (s : String) : Regular (.string s)
  /-- A list of such values. -/
  | array {items : List Value} (h : ∀ v ∈ items, v.Regular) : Regular (.array items)
  /-- Such values under names in order, not all of which are the one that marks a carrier. -/
  | object {members : Members} (hordered : members.Ordered)
    (hname : members ≠ [] → ∃ m ∈ members, m.1 ≠ carrierName)
    (h : ∀ m ∈ members, m.2.Regular) : Regular (.object members)

namespace Members

variable {members : Members} {name : String} {v : Value}

/-- A member of an object is the one that was put last or one that was there. -/
theorem mem_insert {m : String × Value} (h : m ∈ members.insert name v) :
    m = (name, v) ∨ m ∈ members := by
  induction members with
  | nil => exact .inl (List.mem_singleton.1 h)
  | cons m' rest ih =>
    rw [insert] at h
    split at h
    · exact (List.mem_cons.1 h).imp_right (List.mem_cons_of_mem _)
    split at h
    · exact List.mem_cons.1 h
    · rcases List.mem_cons.1 h with rfl | hrest
      · exact .inr List.mem_cons_self
      · exact (ih hrest).imp_right (List.mem_cons_of_mem _)

/-- The new member is there. -/
theorem mem_insert_self : (name, v) ∈ members.insert name v := by
  induction members with
  | nil => exact List.mem_singleton_self _
  | cons m rest ih =>
    rw [insert]
    split
    · exact List.mem_cons_self
    split
    · exact List.mem_cons_self
    · exact List.mem_cons_of_mem _ ih

/-- Every other member stays. -/
theorem mem_insert_of_ne {m : String × Value} (h : m ∈ members) (hne : m.1 ≠ name) :
    m ∈ members.insert name v := by
  induction members with
  | nil => cases h
  | cons m' rest ih =>
    rw [insert]
    split
    next heq =>
      refine List.mem_cons_of_mem _ ((List.mem_cons.1 h).resolve_left fun hm => hne ?_)
      rw [hm, heq]
    split
    · exact List.mem_cons_of_mem _ h
    · rcases List.mem_cons.1 h with rfl | hrest
      · exact List.mem_cons_self
      · exact List.mem_cons_of_mem _ (ih hrest)

/-- An object stays in the order of its names. -/
theorem Ordered.insert (h : members.Ordered) : (members.insert name v).Ordered := by
  induction members with
  | nil => exact List.pairwise_singleton _ _
  | cons m rest ih =>
    obtain ⟨hfirst, hrest⟩ := List.pairwise_cons.1 h
    rw [Members.insert]
    split
    next heq => exact List.pairwise_cons.2 ⟨by rwa [heq], hrest⟩
    split
    next hless =>
      refine List.pairwise_cons.2 ⟨fun m' hm' => ?_, h⟩
      rcases List.mem_cons.1 hm' with rfl | hm'
      · exact hless
      · exact hless.trans (hfirst m' hm')
    next hne hnotless =>
      have hgreater : m.1 < name := lt_of_le_of_ne (not_lt.1 hnotless) (Ne.symm hne)
      refine List.pairwise_cons.2 ⟨fun m' hm' => ?_, ih hrest⟩
      rcases mem_insert hm' with rfl | hm'
      · exact hgreater
      · exact hfirst m' hm'

/-- A member after all others goes to the end. -/
theorem insert_of_forall_lt (h : ∀ m ∈ members, m.1 < name) :
    members.insert name v = members ++ [(name, v)] := by
  induction members with
  | nil => rfl
  | cons m rest ih =>
    obtain ⟨hfirst, hrest⟩ := List.forall_mem_cons.1 h
    rw [insert, if_neg hfirst.ne', if_neg hfirst.asymm, ih hrest, List.cons_append]

/-- The value of the new member is found. -/
theorem get?_insert_self : (members.insert name v).get? name = some v := by
  induction members with
  | nil => simp [insert, get?]
  | cons m rest ih =>
    rw [insert]
    split
    · simp [get?]
    split
    · simp [get?]
    next hne _ =>
      have hne' : (name == m.1) = false := beq_eq_false_iff_ne.2 hne
      rw [get?, List.lookup_cons, hne']
      exact ih

end Members

/-- To add a member keeps an object regular, unless it would be the only one and mark a carrier. -/
theorem Value.Regular.insert {members : Members} {name : String} {v : Value}
    (h : (Value.object members).Regular) (hname : members = [] → name ≠ carrierName)
    (hv : v.Regular) : (Value.object (members.insert name v)).Regular := by
  obtain ⟨hordered, hother, hvalues⟩ : members.Ordered ∧
      (members ≠ [] → ∃ m ∈ members, m.1 ≠ carrierName) ∧ ∀ m ∈ members, m.2.Regular := by
    cases h with
    | object hordered hname h => exact ⟨hordered, hname, h⟩
  refine .object hordered.insert (fun _ => ?_) fun m hm => ?_
  · by_cases hcarrier : name = carrierName
    · obtain ⟨m, hm, hne⟩ := hother fun hnil => hname hnil hcarrier
      exact ⟨m, Members.mem_insert_of_ne hm (by rwa [hcarrier]), hne⟩
    · exact ⟨_, Members.mem_insert_self, hcarrier⟩
  · rcases Members.mem_insert hm with rfl | hm
    · exact hv
    · exact hvalues m hm

/-- A member of a regular object has a regular value. -/
theorem Value.Regular.of_get? {members : Members} {name : String} {v : Value}
    (h : (Value.object members).Regular) (hget : members.get? name = some v) : v.Regular := by
  cases h with
  | object _ _ h =>
    obtain ⟨before, after, rfl, -⟩ := List.lookup_eq_some_iff.1 hget
    exact h (name, v) (List.mem_append_right before List.mem_cons_self)

section Numbers

variable {negative : Bool}

/-- A literal that is read as a floating-point number is read as one of the format. -/
theorem finite_of_floatOf? {whole fraction : List Char} {exponent : Option (Bool × List Char)}
    {f : Decimal.Binary64} (h : floatOf? negative whole fraction exponent = some f) :
    f.Finite := by
  rw [floatOf?] at h
  obtain ⟨g, hg, hread⟩ := Option.bind_eq_some_iff.1 h
  exact Decimal.Binary64.finite_of_ofDecimal?
    (Decimal.Binary64.finite_of_ofRatio? Nat.one_pos hg) hread

/-- The number that a literal denotes is a value of a reader. -/
theorem regular_of_numberOf? {whole : List Char} {fraction : Option (List Char)}
    {exponent : Option (Bool × List Char)} {v : Value}
    (h : numberOf? negative whole fraction exponent = some v) : v.Regular := by
  have hfloat {whole fraction : List Char} {exponent : Option (Bool × List Char)}
      (hf : (floatOf? negative whole fraction exponent).map Value.float = some v) :
      v.Regular := by
    obtain ⟨f, hread, rfl⟩ := Option.map_eq_some_iff.1 hf
    exact .float (finite_of_floatOf? hread)
  rw [numberOf?.eq_def] at h
  dsimp only at h
  split at h
  · split at h
    next htest =>
      obtain rfl := Option.some.inj h
      have hless := of_decide_eq_true (Bool.and_eq_true_iff.1 htest).2
      have hbits : Text.numberUpTo (Nat.pow 2 64) whole < 2 ^ 64 := hless
      exact .integer (by omega) (by omega)
    split at h
    next htest =>
      obtain rfl := Option.some.inj h
      have hless := of_decide_eq_true (Bool.and_eq_true_iff.1 htest).2
      have hbits : Text.numberUpTo (Nat.pow 2 64) whole ≤ 2 ^ 63 := hless
      exact .integer (by omega) (by omega)
    · exact hfloat h
  · exact hfloat h

/-- A number that is read is one. -/
theorem regular_of_number? {l rest : List Char} {v : Value} (h : number? l = some (v, rest)) :
    v.Regular := by
  have hunsigned {negative : Bool} {l : List Char}
      (h : unsignedNumber? negative l = some (v, rest)) : v.Regular := by
    simp only [unsignedNumber?, Option.bind_eq_bind, Option.bind_eq_some_iff, Prod.exists] at h
    obtain ⟨_, _, -, _, _, -, _, _, -, _, hnumber, heq⟩ := h
    obtain ⟨rfl, -⟩ := Prod.mk.inj (Option.some.inj heq)
    exact regular_of_numberOf? hnumber
  rw [number?.eq_def] at h
  split at h
  · exact hunsigned h
  · exact hunsigned h

end Numbers

/-- A token whose value, if it has one, is regular. -/
def Token.Regular : Token → Prop
  | .scalar v => v.Regular
  | _ => True

/-- A token that is read has such a value, if it has any. -/
theorem regular_of_token? {l rest : List Char} {t : Token} (h : token? l = some (t, rest)) :
    t.Regular := by
  unfold token? at h
  split at h
  case h_1 => cases h
  case h_8 =>
    obtain ⟨_, -, heq⟩ := Option.map_eq_some_iff.1 h
    obtain ⟨rfl, -⟩ := Prod.mk.inj heq
    trivial
  case h_9 =>
    obtain ⟨_, -, heq⟩ := Option.map_eq_some_iff.1 h
    obtain ⟨rfl, -⟩ := Prod.mk.inj heq
    exact .null
  case h_10 =>
    obtain ⟨_, -, heq⟩ := Option.map_eq_some_iff.1 h
    obtain ⟨rfl, -⟩ := Prod.mk.inj heq
    exact .bool true
  case h_11 =>
    obtain ⟨_, -, heq⟩ := Option.map_eq_some_iff.1 h
    obtain ⟨rfl, -⟩ := Prod.mk.inj heq
    exact .bool false
  case h_12 =>
    obtain ⟨_, hnumber, heq⟩ := Option.map_eq_some_iff.1 h
    obtain ⟨rfl, -⟩ := Prod.mk.inj heq
    exact regular_of_number? hnumber
  all_goals
    obtain ⟨rfl, -⟩ := Prod.mk.inj (Option.some.inj h)
    trivial

/-- So have all tokens of a text. -/
theorem regular_of_tokensFrom? {passed tokens : List Token} {l : List Char}
    (hpassed : ∀ t ∈ passed, t.Regular) (h : tokensFrom? passed l = some tokens) :
    ∀ t ∈ tokens, t.Regular := by
  fun_induction tokensFrom? passed l with
  | case1 passed =>
    obtain rfl := Option.some.inj h
    exact fun t ht => hpassed t (List.mem_reverse.1 ht)
  | case2 passed c rest hspace ih => exact ih hpassed h
  | case3 passed c rest hspace hnone => cases h
  | case4 passed c rest hspace t rest' htoken ih =>
    exact ih (List.forall_mem_cons.2 ⟨regular_of_token? htoken, hpassed⟩) h

/-- What is open holds regular values. -/
def Frame.Regular : Frame → Prop
  | .array items => ∀ v ∈ items, v.Regular
  | .object members => (Value.object members).Regular
  | .member members name =>
    (Value.object members).Regular ∧ (members = [] → name ≠ carrierName)
  | .carrier => True
  | .carried v => v.Regular

/-- The innermost object, if that is what is innermost, has a member. -/
def HasMember : List Frame → Prop
  | .object [] :: _ => False
  | _ => True

/-- A reader that has read regular values. Where a name or a comma comes next, the innermost object
has a member. -/
def Reading.Regular : Reading → Prop
  | .complete v => v.Regular
  | .inside stack expect =>
    (∀ f ∈ stack, f.Regular) ∧ (expect = .name ∨ expect = .next → HasMember stack)

namespace Reading

variable {carried : String → Option Value} {stack : List Frame} {r r' : Reading} {t : Token}
  {v : Value}

/-- A place where neither a name nor a comma comes next asks nothing of what is open. -/
theorem regular_inside (hstack : ∀ f ∈ stack, f.Regular) {expect : Expect}
    (hname : expect ≠ .name) (hnext : expect ≠ .next) : (inside stack expect).Regular :=
  ⟨hstack, fun h => absurd h (not_or.2 ⟨hname, hnext⟩)⟩

/-- A value of a reader is put where it belongs. -/
theorem regular_finish (hv : v.Regular) (hstack : ∀ f ∈ stack, f.Regular)
    (h : finish v stack = some r) : r.Regular := by
  rw [finish.eq_def] at h
  split at h
  · obtain rfl := Option.some.inj h
    exact hv
  next items rest =>
    obtain rfl := Option.some.inj h
    obtain ⟨hitems, hrest⟩ := List.forall_mem_cons.1 hstack
    exact ⟨List.forall_mem_cons.2 ⟨List.forall_mem_cons.2 ⟨hv, hitems⟩, hrest⟩, fun _ => trivial⟩
  next members name rest =>
    obtain rfl := Option.some.inj h
    obtain ⟨⟨hmembers, hname⟩, hrest⟩ := List.forall_mem_cons.1 hstack
    refine ⟨List.forall_mem_cons.2 ⟨hmembers.insert hname hv, hrest⟩, fun _ => ?_⟩
    have hmem : (name, v) ∈ members.insert name v := Members.mem_insert_self
    rw [HasMember.eq_def]
    split
    next heq =>
      obtain ⟨hnil, -⟩ := List.cons.inj heq
      rw [Frame.object.inj hnil] at hmem
      cases hmem
    · trivial
  · cases h

/-- What is put inside others leaves them as they are. -/
theorem regular_replace {f g : Frame} {expect : Expect} (hg : g.Regular)
    (hstack : ∀ f' ∈ f :: stack, f'.Regular) (hname : expect ≠ .name) (hnext : expect ≠ .next) :
    (inside (g :: stack) expect).Regular := by
  obtain ⟨-, hrest⟩ := List.forall_mem_cons.1 hstack
  exact regular_inside (List.forall_mem_cons.2 ⟨hg, hrest⟩) hname hnext

/-- An array or an object is opened on what is open already. -/
theorem regular_push {f : Frame} {expect : Expect} (hf : f.Regular)
    (hname : expect ≠ .name) (hnext : expect ≠ .next) (hstack : ∀ f ∈ stack, f.Regular)
    (h : push f expect stack = some r) : r.Regular := by
  rw [push] at h
  split at h
  · obtain rfl := Option.some.inj h
    exact regular_inside (List.forall_mem_cons.2 ⟨hf, hstack⟩) hname hnext
  · cases h

/-- An object without members is a value of a reader. -/
theorem regular_object_nil : (Value.object []).Regular :=
  .object List.Pairwise.nil (fun h => absurd rfl h) (List.forall_mem_nil _)

/-- A value that starts keeps the reader within its values. -/
theorem regular_startValue (ht : t.Regular) (hstack : ∀ f ∈ stack, f.Regular)
    (h : startValue stack t = some r) : r.Regular := by
  rw [startValue.eq_def] at h
  split at h
  · have hempty : (Frame.array []).Regular := List.forall_mem_nil _
    exact regular_push hempty (by decide) (by decide) hstack h
  · have hempty : (Frame.object []).Regular := regular_object_nil
    exact regular_push hempty (by decide) (by decide) hstack h
  next s => exact regular_finish (.string s) hstack h
  · exact regular_finish ht hstack h
  · cases h

/-- A name that is not the first, or does not mark a carrier. -/
theorem regular_startMember
    (hname : ∀ members rest name, stack = .object members :: rest → t = .text name →
      members = [] → name ≠ carrierName)
    (hstack : ∀ f ∈ stack, f.Regular) (h : startMember stack t = some r) : r.Regular := by
  rw [startMember.eq_def] at h
  split at h
  next members rest name =>
    obtain rfl := Option.some.inj h
    have hmember : (Frame.member members name).Regular :=
      ⟨(List.forall_mem_cons.1 hstack).1, hname members rest name rfl rfl⟩
    exact regular_replace hmember hstack (by decide) (by decide)
  · cases h

/-- So does the name of a first member, or the mark of a carrier. -/
theorem regular_startFirstMember (hstack : ∀ f ∈ stack, f.Regular)
    (h : startFirstMember stack t = some r) : r.Regular := by
  rw [startFirstMember.eq_def] at h
  split at h
  next members rest name =>
    split at h
    · obtain rfl := Option.some.inj h
      have hcarrier : Frame.carrier.Regular := trivial
      exact regular_replace hcarrier hstack (by decide) (by decide)
    next hne =>
      refine regular_startMember (fun members' rest' name' _ ht _ => ?_) hstack h
      rwa [← Token.text.inj ht]
  · cases h

/-- So does the value of a member, or that of a carrier, which is read from its text. -/
theorem regular_memberValue (hcarried : ∀ s v, carried s = some v → v.Regular) (ht : t.Regular)
    (hstack : ∀ f ∈ stack, f.Regular) (h : memberValue carried stack t = some r) : r.Regular := by
  rw [memberValue.eq_def] at h
  split at h
  next rest s =>
    obtain ⟨v, hv, rfl⟩ := Option.map_eq_some_iff.1 h
    obtain ⟨-, hrest⟩ := List.forall_mem_cons.1 hstack
    exact ⟨List.forall_mem_cons.2 ⟨hcarried s v hv, hrest⟩, fun _ => trivial⟩
  · cases h
  · exact regular_startValue ht hstack h

/-- One token more: what was regular stays so. -/
theorem regular_step (hcarried : ∀ s v, carried s = some v → v.Regular) (ht : t.Regular)
    (hr : r.Regular) (h : r.step carried t = some r') : r'.Regular := by
  rw [step.eq_def] at h
  split at h
  · cases h
  next stack => exact regular_memberValue hcarried ht hr.1 h
  next rest =>
    obtain ⟨-, hrest⟩ := List.forall_mem_cons.1 hr.1
    exact regular_finish (.array (List.forall_mem_nil _)) hrest h
  next stack _ => exact regular_startValue ht hr.1 h
  next rest =>
    obtain ⟨-, hrest⟩ := List.forall_mem_cons.1 hr.1
    exact regular_finish regular_object_nil hrest h
  next stack _ => exact regular_startFirstMember hr.1 h
  next stack =>
    refine regular_startMember (fun members rest name hstack _ hnil => ?_) hr.1 h
    have hmember := hr.2 (.inl rfl)
    rw [hstack, hnil] at hmember
    exact hmember.elim
  next stack =>
    obtain rfl := Option.some.inj h
    exact regular_inside hr.1 (by decide) (by decide)
  next items rest =>
    obtain rfl := Option.some.inj h
    exact regular_inside hr.1 (by decide) (by decide)
  next items rest =>
    obtain ⟨hitems, hrest⟩ := List.forall_mem_cons.1 hr.1
    refine regular_finish (.array fun v hv => hitems v (List.mem_reverse.1 hv)) hrest h
  next members rest =>
    obtain rfl := Option.some.inj h
    exact ⟨hr.1, fun _ => hr.2 (.inr rfl)⟩
  next members rest =>
    obtain ⟨hmembers, hrest⟩ := List.forall_mem_cons.1 hr.1
    exact regular_finish hmembers hrest h
  next v rest =>
    obtain ⟨hv, hrest⟩ := List.forall_mem_cons.1 hr.1
    exact regular_finish hv hrest h
  · cases h

/-- So it does over any tokens. -/
theorem regular_run (hcarried : ∀ s v, carried s = some v → v.Regular) {tokens : List Token}
    (htokens : ∀ t ∈ tokens, t.Regular) (hr : r.Regular) (h : r.run carried tokens = some r') :
    r'.Regular := by
  induction tokens generalizing r with
  | nil =>
    obtain rfl := Option.some.inj h
    exact hr
  | cons t rest ih =>
    obtain ⟨ht, hrest⟩ := List.forall_mem_cons.1 htokens
    rw [run] at h
    cases hstep : r.step carried t with
    | none => rw [hstep] at h; cases h
    | some next =>
      rw [hstep] at h
      exact ih hrest (regular_step hcarried ht hr hstep) h

end Reading

/-- Tokens that make up a value make up a value of a reader. -/
theorem regular_of_ofTokens? {carried : String → Option Value} {tokens : List Token} {v : Value}
    (hcarried : ∀ s v, carried s = some v → v.Regular) (htokens : ∀ t ∈ tokens, t.Regular)
    (h : ofTokens? carried tokens = some v) : v.Regular := by
  rw [ofTokens?] at h
  split at h
  next w hrun =>
    obtain rfl := Option.some.inj h
    have hstart : (Reading.inside [] .value).Regular :=
      Reading.regular_inside (List.forall_mem_nil _) (by decide) (by decide)
    exact Reading.regular_run hcarried htokens hstart hrun
  · cases h

/-- The induction is on how often texts are carried in one another: a carried text yields a regular
value as it is read with one level fewer. -/
theorem regular_of_valueWithin? {levels : Nat} {l : List Char} {v : Value}
    (h : valueWithin? levels l = some v) : v.Regular := by
  induction levels generalizing l v with
  | zero => cases h
  | succ levels ih =>
    obtain ⟨tokens, htokens, hvalue⟩ := Option.bind_eq_some_iff.1 h
    exact regular_of_ofTokens? (fun s w hw => ih hw)
      (regular_of_tokensFrom? (List.forall_mem_nil _) htokens) hvalue

/-- What is read of bytes is regular. -/
theorem regular_of_read? {b : Bytes} {v : Value} (h : read? b = some v) : v.Regular := by
  obtain ⟨s, -, hvalue⟩ := Option.bind_eq_some_iff.1 h
  exact regular_of_valueWithin? hvalue

/-- So are the items of an array. -/
theorem regular_of_readItems? {b : Bytes} {items : List Value} (h : readItems? b = some items) :
    ∀ v ∈ items, v.Regular := by
  obtain ⟨s, -, hitems⟩ := Option.bind_eq_some_iff.1 h
  dsimp only at hitems
  split at hitems
  next found _ hvalue =>
    obtain rfl := Option.some.inj hitems
    cases regular_of_valueWithin? hvalue with
    | array h => exact h
  · cases hitems

end GatewayConfig.Json
