import GatewayConfig.Proofs.Bytes.Utf8
import GatewayConfig.Proofs.Json.Number
import GatewayConfig.Proofs.Json.Regular
import GatewayConfig.Proofs.Json.Text

/-!
# What is written is read back, up to the limits of the reader

The writer writes values of any depth and with any names. The reader lets at most `maxOpen` arrays
and objects be open at once, and takes an object whose first name is `carrierName` for a carrier.
`read?_write` says that these are the only values of a reader that it does not read back, and what
the others are read back as: the same but for floating-point numbers, which may move to a neighbour.
-/

namespace GatewayConfig.Json

mutual

/-- How many arrays and objects are open at once inside a value. -/
def Value.depth : Value → Nat
  | .array items => depthItems items + 1
  | .object members => depthMembers members + 1
  | _ => 0

/-- The greatest depth of items. -/
def depthItems : List Value → Nat
  | [] => 0
  | v :: rest => max v.depth (depthItems rest)

/-- The greatest depth of the values of members. -/
def depthMembers : List (String × Value) → Nat
  | [] => 0
  | (_, v) :: rest => max v.depth (depthMembers rest)

end

mutual

/-- Whether no object inside a value has the mark of a carrier for its first name. -/
def Value.unmarked : Value → Bool
  | .array items => unmarkedItems items
  | .object members => members.head?.map Prod.fst != some carrierName && unmarkedMembers members
  | _ => true

/-- Whether that is so of items. -/
def unmarkedItems : List Value → Bool
  | [] => true
  | v :: rest => v.unmarked && unmarkedItems rest

/-- Whether that is so of the values of members. -/
def unmarkedMembers : List (String × Value) → Bool
  | [] => true
  | (_, v) :: rest => v.unmarked && unmarkedMembers rest

end

mutual

/-- What a value is read back as. -/
def Value.settled : Value → Value
  | .float f => .float (reread f)
  | .array items => .array (settledItems items)
  | .object members => .object (settledMembers members)
  | v => v

/-- What items are read back as. -/
def settledItems : List Value → List Value
  | [] => []
  | v :: rest => v.settled :: settledItems rest

/-- What members are read back as. -/
def settledMembers : List (String × Value) → List (String × Value)
  | [] => []
  | (name, v) :: rest => (name, v.settled) :: settledMembers rest

end

mutual

/-- The tokens of a written value. -/
def Value.tokens : Value → List Token
  | .float f => [.scalar (.float (reread f))]
  | .string s => [.text s]
  | .array items => .openArray :: (itemTokens items ++ [.closeArray])
  | .object members => .openObject :: (memberTokens members ++ [.closeObject])
  | v => [.scalar v]

/-- The tokens of items. -/
def itemTokens : List Value → List Token
  | [] => []
  | [v] => v.tokens
  | v :: rest => v.tokens ++ .comma :: itemTokens rest

/-- The tokens of members. -/
def memberTokens : List (String × Value) → List Token
  | [] => []
  | [(name, v)] => .text name :: .colon :: v.tokens
  | (name, v) :: rest => .text name :: .colon :: (v.tokens ++ .comma :: memberTokens rest)

end

section Members

/-- Put members in their places, one after the other. -/
def Members.insertAll (acc members : Members) : Members :=
  members.foldl (fun acc m => acc.insert m.1 m.2) acc

/-- The first member is put in its place, and the others after it. -/
theorem Members.insertAll_cons (acc : Members) (name : String) (v : Value) (members : Members) :
    acc.insertAll ((name, v) :: members) = (acc.insert name v).insertAll members := rfl

/-- Members that come in order, behind those that are there, go to the end. -/
theorem Members.insertAll_of_ordered {acc members : Members} (h : Ordered (acc ++ members)) :
    acc.insertAll members = acc ++ members := by
  induction members generalizing acc with
  | nil => rw [List.append_nil]; rfl
  | cons m rest ih =>
    obtain ⟨name, v⟩ := m
    have hbefore : ∀ m ∈ acc, m.1 < name := fun m hm =>
      (List.pairwise_append.1 h).2.2 m hm _ List.mem_cons_self
    have hrest : Ordered (acc ++ [(name, v)] ++ rest) := by
      rwa [List.append_assoc]
    rw [Members.insertAll_cons, Members.insert_of_forall_lt hbefore, ih hrest, List.append_assoc]
    rfl

/-- What is read back has the names that were written. -/
theorem map_fst_settledMembers (members : Members) :
    (settledMembers members).map Prod.fst = members.map Prod.fst := by
  induction members with
  | nil => rfl
  | cons m rest ih =>
    obtain ⟨name, v⟩ := m
    rw [settledMembers, List.map_cons, List.map_cons, ih]

/-- What is read back is in the order of what was written. -/
theorem Members.Ordered.settled {members : Members} (h : members.Ordered) :
    Members.Ordered (settledMembers members) := by
  rw [Members.Ordered, ← List.pairwise_map, map_fst_settledMembers, List.pairwise_map]
  exact h

end Members

section Tokens

/-- A number may be the end of a text. -/
theorem endsNumber_nil : EndsNumber [] := fun c hc => by cases hc

/-- A number may stand before a comma or a closing bracket. -/
theorem endsNumber_cons {c : Char} (hc : c = ',' ∨ c = ']' ∨ c = '\x7d') (rest : List Char) :
    EndsNumber (c :: rest) := by
  intro c' hc'
  obtain rfl := Option.some.inj hc'
  rcases hc with rfl | rfl | rfl <;> decide

/-- White space starts no token. -/
theorem token?_of_isSpace {c : Char} (h : isSpace c = true) (rest : List Char) :
    token? (c :: rest) = none := by
  simp only [isSpace, Bool.or_eq_true, beq_iff_eq] at h
  rcases h with ((rfl | rfl) | rfl) | rfl <;> rfl

/-- A token that is read at the start is the next one. -/
theorem tokensFrom?_of_token? {l rest : List Char} {t : Token} (h : token? l = some (t, rest))
    (passed : List Token) : tokensFrom? passed l = tokensFrom? (t :: passed) rest := by
  cases l with
  | nil => cases h
  | cons c tail =>
    have hspace : ¬ isSpace c = true := by
      intro hc
      rw [token?_of_isSpace hc] at h
      cases h
    rw [tokensFrom?.eq_def]
    dsimp only
    rw [if_neg hspace]
    split
    next hnone => rw [hnone] at h; cases h
    next hsome =>
      rw [hsome] at h
      obtain ⟨rfl, rfl⟩ := Prod.mk.inj (Option.some.inj h)
      rfl

/-- A comma is a token of its own. -/
theorem tokensFrom?_comma (rest : List Char) (passed : List Token) :
    tokensFrom? passed (',' :: rest) = tokensFrom? (.comma :: passed) rest :=
  tokensFrom?_of_token? rfl passed

/-- So is a colon. -/
theorem tokensFrom?_colon (rest : List Char) (passed : List Token) :
    tokensFrom? passed (':' :: rest) = tokensFrom? (.colon :: passed) rest :=
  tokensFrom?_of_token? rfl passed

/-- A text is one token, whatever follows. -/
theorem tokensFrom?_writeString (s : String) (rest : List Char) (passed : List Token) :
    tokensFrom? passed (writeString s ++ rest) = tokensFrom? (.text s :: passed) rest :=
  tokensFrom?_of_token? (token?_writeString s rest) passed

/-- The text of a value is its tokens, whatever marks follow. -/
def Lexes (v : Value) : Prop :=
  ∀ rest, EndsNumber rest → ∀ passed,
    tokensFrom? passed (writeChars v ++ rest) = tokensFrom? (v.tokens.reverse ++ passed) rest

/-- Written items are their tokens, with the commas. -/
theorem tokensFrom?_writeItems {items : List Value} (h : ∀ v ∈ items, Lexes v) (rest : List Char)
    (hrest : EndsNumber rest) (passed : List Token) :
    tokensFrom? passed (writeItems items ++ rest) =
      tokensFrom? ((itemTokens items).reverse ++ passed) rest := by
  induction items generalizing passed with
  | nil => rw [writeItems, itemTokens]; rfl
  | cons v more ih =>
    obtain ⟨hv, hmore⟩ := List.forall_mem_cons.1 h
    cases more with
    | nil =>
      rw [writeItems, itemTokens]
      exact hv rest hrest passed
    | cons w more =>
      rw [writeItems, itemTokens, List.append_assoc, List.cons_append,
        hv _ (endsNumber_cons (.inl rfl) _), tokensFrom?_comma, ih hmore, List.reverse_append,
        List.reverse_cons, List.append_assoc, List.append_assoc]
      · rfl
      · exact List.cons_ne_nil _ _
      · exact List.cons_ne_nil _ _

/-- Written members are their tokens, with the colons and the commas. -/
theorem tokensFrom?_writeMembers {members : Members} (h : ∀ m ∈ members, Lexes m.2)
    (rest : List Char) (hrest : EndsNumber rest) (passed : List Token) :
    tokensFrom? passed (writeMembers members ++ rest) =
      tokensFrom? ((memberTokens members).reverse ++ passed) rest := by
  induction members generalizing passed with
  | nil => rw [writeMembers, memberTokens]; rfl
  | cons m more ih =>
    obtain ⟨hm, hmore⟩ := List.forall_mem_cons.1 h
    obtain ⟨name, v⟩ := m
    cases more with
    | nil =>
      rw [writeMembers, memberTokens, List.append_assoc, List.cons_append,
        tokensFrom?_writeString, tokensFrom?_colon, hm rest hrest, List.reverse_cons,
        List.reverse_cons, List.append_assoc, List.append_assoc]
      rfl
    | cons w more =>
      rw [writeMembers, memberTokens, List.append_assoc, List.append_assoc, List.cons_append,
        List.cons_append, tokensFrom?_writeString, tokensFrom?_colon,
        hm _ (endsNumber_cons (.inl rfl) _), tokensFrom?_comma, ih hmore, List.reverse_cons,
        List.reverse_cons, List.reverse_append, List.reverse_cons]
      · simp only [List.append_assoc, List.cons_append, List.nil_append]
      · exact List.cons_ne_nil _ _
      · exact List.cons_ne_nil _ _

/-- A value of a reader is written as its tokens. -/
theorem Value.Regular.lexes {v : Value} (h : v.Regular) : Lexes v := by
  induction h with
  | null => exact fun rest _ passed => tokensFrom?_of_token? rfl passed
  | bool b =>
    intro rest _ passed
    cases b <;> exact tokensFrom?_of_token? rfl passed
  | integer hlow hhigh =>
    exact fun rest hrest passed =>
      tokensFrom?_of_token? (token?_writeInteger hlow hhigh hrest) passed
  | float hf =>
    exact fun rest hrest passed => tokensFrom?_of_token? (token?_writeFloat hf hrest).1 passed
  | string s => exact fun rest _ passed => tokensFrom?_writeString s rest passed
  | @array items _ ih =>
    intro rest _ passed
    have hopen (rest : List Char) : tokensFrom? passed ('[' :: rest) =
        tokensFrom? (.openArray :: passed) rest := tokensFrom?_of_token? rfl passed
    have hclose (passed : List Token) : tokensFrom? passed (']' :: rest) =
        tokensFrom? (.closeArray :: passed) rest := tokensFrom?_of_token? rfl passed
    rw [writeChars, Value.tokens, List.cons_append, List.cons_append, List.append_assoc,
      List.singleton_append, hopen,
      tokensFrom?_writeItems ih _ (endsNumber_cons (.inr (.inl rfl)) _), hclose]
    simp only [List.reverse_cons, List.reverse_append, List.append_assoc, List.reverse_nil,
      List.nil_append, List.cons_append]
  | @object members _ _ _ ih =>
    intro rest _ passed
    have hopen (rest : List Char) : tokensFrom? passed ('\x7b' :: rest) =
        tokensFrom? (.openObject :: passed) rest := tokensFrom?_of_token? rfl passed
    have hclose (passed : List Token) : tokensFrom? passed ('\x7d' :: rest) =
        tokensFrom? (.closeObject :: passed) rest := tokensFrom?_of_token? rfl passed
    rw [writeChars, Value.tokens, List.cons_append, List.cons_append, List.append_assoc,
      List.singleton_append, hopen,
      tokensFrom?_writeMembers ih _ (endsNumber_cons (.inr (.inr rfl)) _), hclose]
    simp only [List.reverse_cons, List.reverse_append, List.append_assoc, List.reverse_nil,
      List.nil_append, List.cons_append]

/-- A written value is its tokens and nothing else. -/
theorem tokens?_writeChars {v : Value} (h : v.Regular) :
    tokens? (writeChars v) = some v.tokens := by
  have hlexes := h.lexes [] endsNumber_nil []
  rw [List.append_nil, List.append_nil] at hlexes
  rw [tokens?, hlexes, tokensFrom?, List.reverse_reverse]

end Tokens

section Machine

open Reading

variable {carried : String → Option Value} {stack : List Frame} {t : Token} {v : Value}

/-- A reader takes one token and goes on from there. -/
theorem run_cons (r : Reading) (t : Token) (rest : List Token) :
    r.run carried (t :: rest) = (r.step carried t).bind fun r' => r'.run carried rest := by
  rw [run]
  cases r.step carried t <;> rfl

/-- Where a value can start that is no carried text. -/
inductive Starts : List Frame → Expect → Prop
  /-- A value comes next, and the innermost object is no carrier. -/
  | value {stack : List Frame} (h : ∀ rest, stack ≠ .carrier :: rest) : Starts stack .value
  /-- The first item of an array may come next. -/
  | firstItem (stack : List Frame) : Starts stack .firstItem

/-- Where a value can start, a token that does not close an array starts one. -/
theorem step_of_starts {expect : Expect} (h : Starts stack expect) (ht : t ≠ .closeArray) :
    (inside stack expect).step carried t = startValue stack t := by
  cases h with
  | value h =>
    rw [step, memberValue.eq_def]
    split
    · exact absurd rfl (h _)
    · exact absurd rfl (h _)
    · rfl
  | firstItem =>
    rw [step.eq_def]
    split <;> simp_all

/-- A value is read back when what is open leaves room for it, and not at all otherwise. -/
def RunsBack (carried : String → Option Value) (v : Value) : Prop :=
  ∀ stack expect rest, Starts stack expect → stack.length ≤ maxOpen →
    (inside stack expect).run carried (v.tokens ++ rest) =
      if stack.length + v.depth ≤ maxOpen ∧ v.unmarked = true then
        (finish v.settled stack).bind fun r => r.run carried rest
      else none

/-- A value that is one token is read back. -/
theorem runsBack_of_tokens (ht : v.tokens = [t]) (hclose : t ≠ .closeArray)
    (hstart : ∀ stack, startValue stack t = finish v.settled stack) (hdepth : v.depth = 0)
    (hunmarked : v.unmarked = true) : RunsBack carried v := by
  intro stack expect rest hstarts hstack
  rw [ht, List.singleton_append, run_cons, step_of_starts hstarts hclose, hstart, hdepth,
    if_pos ⟨hstack, hunmarked⟩]

/-- An array is opened while there is room for it. -/
theorem startValue_openArray (stack : List Frame) :
    startValue stack .openArray =
      if stack.length + 1 ≤ maxOpen then some (inside (.array [] :: stack) .firstItem)
      else none := rfl

/-- So is an object. -/
theorem startValue_openObject (stack : List Frame) :
    startValue stack .openObject =
      if stack.length + 1 ≤ maxOpen then some (inside (.object [] :: stack) .firstName)
      else none := rfl

/-- Two parts fit if each does. -/
theorem fits_and_iff (n a b limit : Nat) (p q : Bool) :
    (n + max a b ≤ limit ∧ (p && q) = true) ↔
      (n + a ≤ limit ∧ p = true) ∧ n + b ≤ limit ∧ q = true := by
  rw [Bool.and_eq_true, ← Nat.add_max_add_left, Nat.max_le]
  exact and_and_and_comm

/-- The items of an array that is open are read back one after the other. -/
theorem run_itemTokens {items : List Value} (h : ∀ v ∈ items, RunsBack carried v)
    (hne : items ≠ []) {acc : List Value} {expect : Expect}
    (hexpect : expect = .value ∨ expect = .firstItem) (hstack : stack.length + 1 ≤ maxOpen)
    (rest : List Token) :
    (inside (.array acc :: stack) expect).run carried (itemTokens items ++ rest) =
      if stack.length + 1 + depthItems items ≤ maxOpen ∧ unmarkedItems items = true then
        (inside (.array ((settledItems items).reverse ++ acc) :: stack) .next).run carried rest
      else none := by
  have hstarts {acc : List Value} {expect : Expect}
      (hexpect : expect = .value ∨ expect = .firstItem) :
      Starts (.array acc :: stack) expect := by
    rcases hexpect with rfl | rfl
    · exact .value fun rest heq => by cases heq
    · exact .firstItem _
  induction items generalizing acc expect with
  | nil => exact absurd rfl hne
  | cons v more ih =>
    obtain ⟨hv, hmore⟩ := List.forall_mem_cons.1 h
    have hlength : (Frame.array acc :: stack).length = stack.length + 1 := rfl
    by_cases hnil : more = []
    · rw [hnil, itemTokens, hv _ _ rest (hstarts hexpect) hstack, hlength, finish,
        Option.bind_some]
      simp [depthItems, unmarkedItems, settledItems]
    · rw [itemTokens, List.append_assoc, hv _ _ _ (hstarts hexpect) hstack, hlength, finish,
        Option.bind_some, List.cons_append, run_cons, step, Option.bind_some,
        ih hmore hnil (.inl rfl), ← ite_and, depthItems, unmarkedItems, settledItems,
        List.reverse_cons, List.append_assoc, List.singleton_append]
      · exact if_congr (fits_and_iff _ _ _ _ _ _).symm rfl rfl
      · exact hnil

/-- The name of a member is taken, unless it is the mark of a carrier at the start of an object. -/
theorem step_name {acc : Members} {name : String} {expect : Expect}
    (hexpect : expect = .name ∨ expect = .firstName ∧ name ≠ carrierName) :
    (inside (.object acc :: stack) expect).step carried (.text name) =
      some (inside (.member acc name :: stack) .colon) := by
  rcases hexpect with rfl | ⟨rfl, hne⟩
  · rfl
  · have hstart : startFirstMember (.object acc :: stack) (.text name) =
        startMember (.object acc :: stack) (.text name) := if_neg hne
    cases acc <;> exact hstart

/-- The members of an object that is open are read back one after the other, each in its place
among those that are there. -/
theorem run_memberTokens {members : Members} (h : ∀ m ∈ members, RunsBack carried m.2)
    (hne : members ≠ []) {acc : Members} {expect : Expect}
    (hexpect : expect = .name ∨
      expect = .firstName ∧ members.head?.map Prod.fst ≠ some carrierName)
    (hstack : stack.length + 1 ≤ maxOpen) (rest : List Token) :
    (inside (.object acc :: stack) expect).run carried (memberTokens members ++ rest) =
      if stack.length + 1 + depthMembers members ≤ maxOpen ∧ unmarkedMembers members = true then
        (inside (.object (acc.insertAll (settledMembers members)) :: stack) .next).run carried rest
      else none := by
  induction members generalizing acc expect with
  | nil => exact absurd rfl hne
  | cons m more ih =>
    obtain ⟨name, v⟩ := m
    obtain ⟨hv, hmore⟩ := List.forall_mem_cons.1 h
    have hname : (inside (.object acc :: stack) expect).step carried (.text name) =
        some (inside (.member acc name :: stack) .colon) :=
      step_name (hexpect.imp_right fun hfirst => ⟨hfirst.1, fun heq => hfirst.2 (by rw [heq]; rfl)⟩)
    have hstarts : Starts (.member acc name :: stack) .value :=
      .value fun rest heq => by cases heq
    have hlength : (Frame.member acc name :: stack).length = stack.length + 1 := rfl
    by_cases hnil : more = []
    · rw [hnil, memberTokens, List.cons_append, List.cons_append, run_cons, hname,
        Option.bind_some, run_cons, step, Option.bind_some, hv _ _ rest hstarts hstack, hlength,
        finish, Option.bind_some]
      simp [depthMembers, unmarkedMembers, settledMembers, Members.insertAll]
    · rw [memberTokens, List.cons_append, List.cons_append, run_cons, hname, Option.bind_some,
        run_cons, step, Option.bind_some, List.append_assoc, hv _ _ _ hstarts hstack, hlength,
        finish, Option.bind_some, List.cons_append, run_cons, step, Option.bind_some,
        ih hmore hnil (.inl rfl), ← ite_and, depthMembers, unmarkedMembers, settledMembers,
        Members.insertAll_cons]
      · exact if_congr (fits_and_iff _ _ _ _ _ _).symm rfl rfl
      · exact hnil

/-- A value starts with a text only if it is one, and never with a closing bracket. -/
theorem exists_tokens_cons (v : Value) :
    ∃ t more, v.tokens = t :: more ∧ t ≠ .closeArray ∧
      ((∃ s, t = .text s) → more = []) := by
  cases v with
  | string s => exact ⟨_, _, rfl, by simp, fun _ => rfl⟩
  | array items => exact ⟨_, _, rfl, by simp, by simp⟩
  | object members => exact ⟨_, _, rfl, by simp, by simp⟩
  | null => exact ⟨_, _, rfl, by simp, by simp⟩
  | bool b => exact ⟨_, _, rfl, by simp, by simp⟩
  | integer n => exact ⟨_, _, rfl, by simp, by simp⟩
  | float f => exact ⟨_, _, rfl, by simp, by simp⟩

/-- A carrier with more than the text that it carries is not read. -/
theorem run_carrier (v : Value) (rest : List Token) :
    (inside (.carrier :: stack) .value).run carried (v.tokens ++ .comma :: rest) = none := by
  obtain ⟨t, more, htokens, -, htext⟩ := exists_tokens_cons v
  rw [htokens, List.cons_append, run_cons, step, memberValue.eq_def]
  split
  next s heq =>
    rw [htext ⟨s, rfl⟩, List.nil_append]
    cases carried s with
    | none => rfl
    | some w => rfl
  · rfl
  next hcarrier _ => exact absurd rfl (hcarrier _)

/-- An object that starts with the mark of a carrier and has another member is not read. -/
theorem run_marked {members : Members} (hhead : members.head?.map Prod.fst = some carrierName)
    (hother : ∃ m ∈ members, m.1 ≠ carrierName) (rest : List Token) :
    (inside (.object [] :: stack) .firstName).run carried (memberTokens members ++ rest) =
      none := by
  obtain ⟨m, more, rfl⟩ : ∃ m more, members = m :: more := by
    cases members with
    | nil => cases hhead
    | cons m more => exact ⟨m, more, rfl⟩
  obtain ⟨name, v⟩ := m
  obtain rfl : name = carrierName := Option.some.inj hhead
  have hmore : more ≠ [] := by
    rintro rfl
    obtain ⟨m, hm, hne⟩ := hother
    exact hne (by rw [List.mem_singleton.1 hm])
  have hcarrier : (inside (.object [] :: stack) .firstName).step carried (.text carrierName) =
      some (inside (.carrier :: stack) .colon) := rfl
  rw [memberTokens, List.cons_append, List.cons_append, run_cons, hcarrier, Option.bind_some,
    run_cons, step, Option.bind_some, List.append_assoc, List.cons_append, run_carrier]
  exact hmore

/-- An array is read back when its items are. -/
theorem runsBack_array {items : List Value} (h : ∀ v ∈ items, RunsBack carried v) :
    RunsBack carried (.array items) := by
  intro stack expect rest hstarts hstack
  rw [Value.tokens, List.cons_append, List.append_assoc, run_cons,
    step_of_starts hstarts (by simp), startValue_openArray, Value.depth, Value.unmarked,
    Value.settled]
  by_cases hroom : stack.length + 1 ≤ maxOpen
  · rw [if_pos hroom, Option.bind_some]
    by_cases hnil : items = []
    · rw [hnil, itemTokens, List.nil_append, List.singleton_append, run_cons, step,
        if_pos ⟨hroom, rfl⟩]
      rfl
    · rw [run_itemTokens h hnil (.inr rfl) hroom, List.append_nil, List.singleton_append,
        run_cons, step, List.reverse_reverse]
      refine if_congr ?_ rfl rfl
      rw [Nat.add_comm (depthItems items), Nat.add_assoc]
  · rw [if_neg hroom, Option.bind_none, if_neg]
    omega

/-- An object is read back when its members are, unless it is marked. -/
theorem runsBack_object {members : Members} (hordered : members.Ordered)
    (hother : members ≠ [] → ∃ m ∈ members, m.1 ≠ carrierName)
    (h : ∀ m ∈ members, RunsBack carried m.2) : RunsBack carried (.object members) := by
  intro stack expect rest hstarts hstack
  have hunmarked : (members.head?.map Prod.fst != some carrierName &&
      unmarkedMembers members) = true ↔
      members.head?.map Prod.fst ≠ some carrierName ∧ unmarkedMembers members = true := by
    rw [Bool.and_eq_true, bne_iff_ne]
  rw [Value.tokens, List.cons_append, List.append_assoc, run_cons,
    step_of_starts hstarts (by simp), startValue_openObject, Value.depth, Value.unmarked,
    Value.settled]
  by_cases hroom : stack.length + 1 ≤ maxOpen
  · rw [if_pos hroom, Option.bind_some]
    by_cases hnil : members = []
    · rw [hnil, memberTokens, List.nil_append, List.singleton_append, run_cons, step,
        if_pos ⟨hroom, by decide⟩]
      rfl
    by_cases hmarked : members.head?.map Prod.fst = some carrierName
    · rw [run_marked hmarked (hother hnil), if_neg fun h => (hunmarked.1 h.2).1 hmarked]
    · have hinsert : Members.insertAll [] (settledMembers members) = settledMembers members :=
        Members.insertAll_of_ordered hordered.settled
      rw [run_memberTokens h hnil (.inr ⟨rfl, hmarked⟩) hroom, hinsert, List.singleton_append,
        run_cons, step]
      refine if_congr ?_ rfl rfl
      rw [Nat.add_comm (depthMembers members), Nat.add_assoc, hunmarked]
      exact and_congr_right fun _ => (and_iff_right hmarked).symm
  · rw [if_neg hroom, Option.bind_none, if_neg]
    omega

/-- A value of a reader is read back if there is room for it and no object in it starts with the
mark of a carrier. -/
theorem Value.Regular.runsBack (h : v.Regular) : RunsBack carried v := by
  induction h with
  | null => exact runsBack_of_tokens rfl (by simp) (fun _ => rfl) rfl rfl
  | bool b => exact runsBack_of_tokens rfl (by simp) (fun _ => rfl) rfl rfl
  | integer hlow hhigh => exact runsBack_of_tokens rfl (by simp) (fun _ => rfl) rfl rfl
  | float hf => exact runsBack_of_tokens rfl (by simp) (fun _ => rfl) rfl rfl
  | string s => exact runsBack_of_tokens rfl (by simp) (fun _ => rfl) rfl rfl
  | array _ ih => exact runsBack_array ih
  | object hordered hother _ ih => exact runsBack_object hordered hother ih

end Machine

/-- The tokens of a value of a reader make up what it settles to, unless it is too deep or marked
as a carrier. -/
theorem ofTokens?_tokens {carried : String → Option Value} {v : Value} (h : v.Regular) :
    ofTokens? carried v.tokens =
      if v.depth ≤ maxOpen ∧ v.unmarked = true then some v.settled else none := by
  have hruns : RunsBack carried v := h.runsBack
  have hrun := hruns [] .value [] (.value fun rest h => by cases h) (Nat.zero_le _)
  rw [List.append_nil, List.length_nil, Nat.zero_add] at hrun
  rw [ofTokens?, hrun]
  by_cases hfits : v.depth ≤ maxOpen ∧ v.unmarked = true
  · rw [if_pos hfits, if_pos hfits]
    rfl
  · rw [if_neg hfits, if_neg hfits]

/-- What is written for a value of a reader is read back as characters, unless it is too deep or
marked as a carrier. -/
theorem value?_writeChars {v : Value} (h : v.Regular) :
    value? (writeChars v) =
      if v.depth ≤ maxOpen ∧ v.unmarked = true then some v.settled else none := by
  rw [value?, valueWithin?, tokens?_writeChars h]
  exact ofTokens?_tokens h

/-- What is written for a value of a reader is read back, unless it is too deep or marked as a
carrier. -/
theorem read?_write {v : Value} (h : v.Regular) :
    read? (write v) =
      if v.depth ≤ maxOpen ∧ v.unmarked = true then some v.settled else none := by
  have hvalue := value?_writeChars h
  rw [read?, write, Bytes.text?_ofText]
  rwa [← String.toList_ofList (l := writeChars v)] at hvalue

/-- The items of a written array are read back. -/
theorem readItems?_write {items : List Value} (h : ∀ v ∈ items, v.Regular)
    (hdepth : (Value.array items).depth ≤ maxOpen)
    (hunmarked : (Value.array items).unmarked = true) :
    readItems? (write (.array items)) = some (settledItems items) := by
  have hvalue := value?_writeChars (.array h)
  rw [if_pos ⟨hdepth, hunmarked⟩, Value.settled] at hvalue
  have hfirst : ((writeChars (.array items)).dropWhile isSpace).head? = some '[' := by
    rw [writeChars]
    rfl
  rw [readItems?, write, Bytes.text?_ofText]
  simp only [Option.bind_eq_bind, Option.bind_some, String.toList_ofList]
  rw [hfirst, hvalue]
  rfl

/-- A member is read back under its name. -/
theorem get?_settledMembers (members : Members) (name : String) :
    Members.get? (settledMembers members) name = (members.get? name).map Value.settled := by
  induction members with
  | nil => rfl
  | cons m rest ih =>
    obtain ⟨name', v⟩ := m
    rw [settledMembers, Members.get?, Members.get?, List.lookup_cons, List.lookup_cons]
    split
    · rfl
    · exact ih

end GatewayConfig.Json
