import GatewayConfig.Proofs.Registry
import Mathlib.Data.List.Induction
import Mathlib.Data.List.Nodup
import Mathlib.Tactic.Ring

/-!
# Positions of registered ids

The next position is computed from the greatest one in use. What holds of every registry is
simpler: its ids are numbered from one in the order in which they came (`Numbered`). Registering a
list of ids puts those of them that are new behind the others, each where it first occurs
(`ids_registerAll`), so a position that is given out stays as it is.
-/

namespace GatewayConfig.Registry

/-- The registered ids, oldest first. -/
def ids (r : Registry) : List String := r.entries.map Prod.fst

/-- Whether a raw id may get a position: it is neither blank, nor `root`, nor registered. -/
def admits (r : Registry) (id : String) : Bool := id ≠ "" && id ≠ rootId && !r.contains id

/-- The ids of a list that are new to a registry, trimmed, each where it first occurs. -/
def fresh (r : Registry) (raws : List String) : List String :=
  ((raws.map Text.trim).filter r.admits).eraseDups

/-- The position after the highest one in use, computed with words of 32 bits. -/
def nextWord (r : Registry) : UInt32 :=
  r.entries.foldl (fun n e => if n < UInt32.ofNat e.2 then UInt32.ofNat e.2 else n) 0 + 1

/-- No id is registered twice, and the ids are numbered from one in their order. -/
structure Numbered (r : Registry) : Prop where
  /-- Each id has the position behind that of the id before it. -/
  entries_eq : r.entries = r.ids.zipIdx 1
  /-- The ids are different. -/
  nodup : r.ids.Nodup

section

variable {r : Registry} {id raw : String} {raws : List String}

/-- There are as many identifiers as entries. -/
theorem length_ids (r : Registry) : r.ids.length = r.size := List.length_map _

/-- A registry contains an identifier exactly when it lists it. -/
theorem contains_iff : r.contains id = true ↔ id ∈ r.ids := by
  rw [contains, bit?, ids]
  induction r.entries with
  | nil => simp
  | cons e entries ih =>
    rw [List.lookup_cons, List.map_cons, List.mem_cons, ← ih]
    cases h : id == e.1 with
    | true => simp [beq_iff_eq.1 h]
    | false => simp [beq_eq_false_iff_ne.1 h]

/-- An identifier can be added when it is nonempty, new and not the one of the root. -/
theorem admits_iff : r.admits id = true ↔ id ≠ "" ∧ id ≠ rootId ∧ id ∉ r.ids := by
  rw [← contains_iff]
  simp [admits, and_assoc]

/-- Registering one id appends it with the next position, or changes nothing. -/
theorem register_cases (r : Registry) (raw : String) :
    r.admits (Text.trim raw) = true ∧
        (r.register raw).entries = r.entries ++ [(Text.trim raw, r.nextBit)] ∨
      r.admits (Text.trim raw) = false ∧ r.register raw = r := by
  rw [register]
  split
  next hskip =>
    refine .inr ⟨?_, rfl⟩
    rw [Bool.eq_false_iff, Ne, admits_iff, ← contains_iff]
    rintro ⟨hblank, hroot, hnew⟩
    rcases hskip with h | h | h
    · exact hblank h
    · exact hroot h
    · exact hnew h
  next hnew =>
    rw [not_or, not_or, contains_iff] at hnew
    exact .inl ⟨admits_iff.2 hnew, rfl⟩

/-- An id that is not admitted changes nothing. -/
theorem register_eq_self (h : r.admits (Text.trim raw) = false) : r.register raw = r := by
  rcases register_cases r raw with ⟨hadmits, -⟩ | ⟨-, hsame⟩
  · rw [h] at hadmits
    cases hadmits
  · exact hsame

/-- A registration appends the trimmed identifier if it can be added, and otherwise changes
nothing. -/
theorem ids_register (r : Registry) (raw : String) :
    (r.register raw).ids =
      r.ids ++ if r.admits (Text.trim raw) = true then [Text.trim raw] else [] := by
  rcases register_cases r raw with ⟨hadmits, hentries⟩ | ⟨hskip, hsame⟩
  · rw [if_pos hadmits, ids, hentries, List.map_append]
    rfl
  · rw [if_neg (Bool.eq_false_iff.1 hskip), hsame, List.append_nil]

/-- Of ids numbered from one the last has the greatest position. -/
theorem foldl_max_zipIdx (l : List String) :
    (l.zipIdx 1).foldl (fun n e => max n e.2) 0 = l.length := by
  induction l using List.reverseRecOn with
  | nil => rfl
  | append_singleton l id ih =>
    rw [List.zipIdx_append, List.foldl_append, ih, List.length_append]
    simp only [List.zipIdx_singleton, List.foldl_cons, List.foldl_nil, List.length_singleton]
    omega

/-- With words of 32 bits it is the same position, as long as the ids can be counted with them. -/
theorem foldl_max_zipIdx_word {l : List String} (h : l.length < 2 ^ 32) :
    ((l.zipIdx 1).foldl (fun n e => if n < UInt32.ofNat e.2 then UInt32.ofNat e.2 else n) 0).toNat =
      l.length := by
  induction l using List.reverseRecOn with
  | nil => rfl
  | append_singleton l id ih =>
    rw [List.length_append, List.length_singleton] at h
    have hlast : (UInt32.ofNat (1 + l.length)).toNat = 1 + l.length :=
      UInt32.toNat_ofNat_of_lt' (show 1 + l.length < 2 ^ 32 by omega)
    have hbefore := ih (by omega)
    rw [List.zipIdx_append, List.foldl_append, List.length_append]
    simp only [List.zipIdx_singleton, List.foldl_cons, List.foldl_nil, List.length_singleton]
    rw [if_pos (UInt32.lt_iff_toNat_lt.2 (by omega)), hlast, Nat.add_comm]

/-- The next free position of a numbered registry follows its last one. -/
theorem Numbered.nextBit_eq (h : r.Numbered) : r.nextBit = r.size + 1 := by
  rw [nextBit, h.entries_eq, foldl_max_zipIdx, length_ids]

/-- Below the bound of a word the next position in code is the next free position. -/
theorem Numbered.toNat_nextWord (h : r.Numbered) (hsize : r.size + 1 < 2 ^ 32) :
    r.nextWord.toNat = r.nextBit := by
  have hlength : r.ids.length < 2 ^ 32 := by
    rw [length_ids]
    omega
  have hone : (1 : UInt32).toNat = 1 := rfl
  rw [h.nextBit_eq, nextWord, h.entries_eq, UInt32.toNat_add, foldl_max_zipIdx_word hlength, hone,
    length_ids, Nat.mod_eq_of_lt hsize]

/-- Ids stay numbered when one more is registered. -/
theorem Numbered.register (h : r.Numbered) (raw : String) : (r.register raw).Numbered := by
  rcases register_cases r raw with ⟨hadmits, hentries⟩ | ⟨-, hsame⟩
  · have hids := ids_register r raw
    rw [if_pos hadmits] at hids
    constructor
    · rw [hids, hentries, h.nextBit_eq, List.zipIdx_append, ← h.entries_eq, length_ids,
        List.zipIdx_singleton, Nat.add_comm]
    · rw [hids]
      refine h.nodup.append (List.nodup_singleton _) ?_
      rw [List.disjoint_singleton]
      exact (admits_iff.1 hadmits).2.2
  · rwa [hsame]

/-- Any list of registrations keeps the positions numbered. -/
theorem Numbered.registerAll (h : r.Numbered) (raws : List String) :
    (r.registerAll raws).Numbered := by
  induction raws generalizing r with
  | nil => exact h
  | cons raw raws ih => exact ih (h.register raw)

/-- In every registry of a service the ids are numbered. -/
theorem Reachable.numbered (h : r.Reachable) : r.Numbered := by
  induction h with
  | empty => exact ⟨rfl, List.nodup_nil⟩
  | builtin => exact ⟨rfl, by decide +kernel⟩
  | registerAll _ raws ih => exact ih.registerAll raws

/-- Where no id stands twice, every entry is the one that is found under its id. -/
theorem lookup_eq_some_of_mem {bit : Nat} {entries : List (String × Nat)}
    (h : (entries.map Prod.fst).Nodup) (hmem : (id, bit) ∈ entries) :
    entries.lookup id = some bit := by
  obtain ⟨before, after, rfl⟩ := List.append_of_mem hmem
  refine List.lookup_eq_some_iff.2 ⟨before, after, rfl, fun e he => bne_iff_ne.2 fun heq => ?_⟩
  rw [List.map_append, List.map_cons] at h
  exact (List.nodup_append.1 h).2.2 e.1 (List.mem_map_of_mem he) id List.mem_cons_self heq.symm

/-- The id in a place of the order has the position with its number. -/
theorem Numbered.bit?_eq_some_iff (h : r.Numbered) {n : Nat} :
    r.bit? id = some n ↔ 1 ≤ n ∧ r.ids[n - 1]? = some id := by
  rw [← List.mk_mem_zipIdx_iff_le_and_getElem?_sub, ← h.entries_eq]
  exact ⟨mem_of_lookup_eq_some, lookup_eq_some_of_mem h.nodup⟩

/-- What is admitted behind an id that was registered differs from it. -/
theorem admits_register (hadmits : r.admits (Text.trim raw) = true) :
    (r.register raw).admits = fun id => !id == Text.trim raw && r.admits id := by
  funext id
  rw [Bool.eq_iff_iff, Bool.and_eq_true, admits_iff, admits_iff, ids_register, if_pos hadmits,
    List.mem_append, List.mem_singleton, not_or, Bool.not_eq_true', beq_eq_false_iff_ne]
  constructor
  · rintro ⟨hblank, hroot, hnew, hne⟩
    exact ⟨hne, hblank, hroot, hnew⟩
  · rintro ⟨hne, hblank, hroot, hnew⟩
    exact ⟨hblank, hroot, hnew, hne⟩

/-- New ids stand behind the others, each where it first occurs. -/
theorem ids_registerAll (r : Registry) (raws : List String) :
    (r.registerAll raws).ids = r.ids ++ r.fresh raws := by
  induction raws generalizing r with
  | nil => exact (List.append_nil _).symm
  | cons raw raws ih =>
    have hrest : (r.registerAll (raw :: raws)).ids =
        (r.register raw).ids ++ (r.register raw).fresh raws := ih (r.register raw)
    rw [hrest, ids_register, fresh, fresh, List.map_cons]
    cases hadmits : r.admits (Text.trim raw) with
    | true =>
      rw [if_pos rfl, List.filter_cons_of_pos hadmits, List.eraseDups_cons, List.filter_filter,
        admits_register hadmits, List.append_assoc, List.singleton_append]
    | false =>
      rw [if_neg Bool.false_ne_true, List.append_nil, register_eq_self hadmits,
        List.filter_cons_of_neg (Bool.eq_false_iff.1 hadmits)]

/-- What is added by a list is what it names, trimmed, and the registry admits. -/
theorem mem_fresh_iff {raws : List String} :
    id ∈ r.fresh raws ↔ (∃ raw ∈ raws, Text.trim raw = id) ∧ r.admits id = true := by
  rw [fresh, List.mem_eraseDups, List.mem_filter, List.mem_map]

/-- Calls one after the other register what one call with all their ids does. -/
theorem foldl_registerAll (r : Registry) (calls : List (List String)) :
    calls.foldl Registry.registerAll r = r.registerAll calls.flatten := by
  rw [Registry.registerAll, List.foldl_flatten]
  rfl

/-- Behind a call none of its ids is admitted any more, whatever else is registered. -/
theorem admits_after (r : Registry) (xs ys : List String) :
    ∀ raw ∈ xs, ((r.registerAll xs).registerAll ys).admits (Text.trim raw) = false := by
  intro raw hraw
  rw [Bool.eq_false_iff, Ne, admits_iff, ids_registerAll, ids_registerAll]
  rintro ⟨hblank, hroot, hnew⟩
  refine hnew (List.mem_append_left _ ?_)
  by_cases hmem : Text.trim raw ∈ r.ids
  · exact List.mem_append_left _ hmem
  · exact List.mem_append_right _
      (mem_fresh_iff.2 ⟨⟨raw, hraw, rfl⟩, admits_iff.2 ⟨hblank, hroot, hmem⟩⟩)

/-- Nor does a list of ids none of which is admitted. -/
theorem registerAll_eq_self (h : ∀ raw ∈ raws, r.admits (Text.trim raw) = false) :
    r.registerAll raws = r := by
  induction raws with
  | nil => rfl
  | cons raw raws ih =>
    obtain ⟨hraw, hraws⟩ := List.forall_mem_cons.1 h
    rw [Registry.registerAll, List.foldl_cons, register_eq_self hraw]
    exact ih hraws

/-- A registered id is trimmed, and it is neither empty nor `root`. -/
theorem Reachable.named (h : r.Reachable) :
    ∀ id ∈ r.ids, id ≠ "" ∧ Text.trim id = id ∧ id ≠ rootId := by
  induction h with
  | empty => exact List.forall_mem_nil _
  | builtin => decide +kernel
  | registerAll _ raws ih =>
    intro id hid
    rw [ids_registerAll, List.mem_append] at hid
    rcases hid with hid | hid
    · exact ih id hid
    · obtain ⟨⟨raw, -, rfl⟩, hadmits⟩ := mem_fresh_iff.1 hid
      obtain ⟨hblank, hroot, -⟩ := admits_iff.1 hadmits
      exact ⟨hblank, Text.trim_trim raw, hroot⟩

end

/-- What the positions of a registry are, and what becomes of them when ids are registered. -/
structure Settled (r : Registry) : Prop where
  /-- The positions in use are those from one to the number of ids. -/
  dense : ∀ n, (∃ id, r.bit? id = some n) ↔ 1 ≤ n ∧ n ≤ r.size
  /-- Two ids have two positions. -/
  distinct : ∀ id id' n, r.bit? id = some n → r.bit? id' = some n → id = id'
  /-- A registered id is not blank, has no white space at its ends, and is not `root`. -/
  named : ∀ id, r.contains id = true → id ≠ "" ∧ Text.trim id = id ∧ id ≠ rootId
  /-- Whatever is registered later, an id keeps its position. -/
  stable : ∀ (calls : List (List String)) id n, r.bit? id = some n →
    (calls.foldl Registry.registerAll r).bit? id = some n
  /-- A call registers the ids that are new to the registry, and no others. -/
  contains_iff : ∀ raws id, (r.registerAll raws).contains id = true ↔
    r.contains id = true ∨ id ∈ r.fresh raws
  /-- They get the positions above all others, in the order in which they first occur. -/
  bit?_fresh : ∀ raws i id, (r.fresh raws)[i]? = some id →
    (r.registerAll raws).bit? id = some (r.size + 1 + i)
  /-- Two calls do what one call with the ids of both does. -/
  append : ∀ xs ys, (r.registerAll xs).registerAll ys = r.registerAll (xs ++ ys)
  /-- A call that is made again changes nothing, also behind other calls. -/
  again : ∀ xs (calls : List (List String)),
    (calls.foldl Registry.registerAll (r.registerAll xs)).registerAll xs =
      calls.foldl Registry.registerAll (r.registerAll xs)
  /-- Fewer than 2^32 ids have positions of 32 bits. -/
  fits : r.size < 2 ^ 32 → ∀ id n, r.bit? id = some n → n < 2 ^ 32
  /-- If there is room for one more id, words of 32 bits give the same next position. -/
  next : r.size + 1 < 2 ^ 32 → r.nextWord.toNat = r.size + 1 ∧ r.nextBit = r.size + 1

section

variable {r : Registry}

/-- A position that was assigned stays with its identifier through any registrations. -/
theorem Numbered.bit?_registerAll (h : r.Numbered) (raws : List String) {id : String} {n : Nat}
    (hbit : r.bit? id = some n) : (r.registerAll raws).bit? id = some n := by
  rw [h.bit?_eq_some_iff] at hbit
  rw [(h.registerAll raws).bit?_eq_some_iff, ids_registerAll]
  have hlt : n - 1 < r.ids.length := (List.getElem?_eq_some_iff.1 hbit.2).1
  exact ⟨hbit.1, (List.getElem?_append_left hlt).trans hbit.2⟩

/-- The positions in use are exactly those from one up to the size. -/
theorem Numbered.dense (h : r.Numbered) (n : Nat) :
    (∃ id, r.bit? id = some n) ↔ 1 ≤ n ∧ n ≤ r.size := by
  rw [← length_ids]
  constructor
  · rintro ⟨id, hbit⟩
    obtain ⟨hpos, hget⟩ := h.bit?_eq_some_iff.1 hbit
    have hlt : n - 1 < r.ids.length := (List.getElem?_eq_some_iff.1 hget).1
    exact ⟨hpos, by omega⟩
  · rintro ⟨hpos, hle⟩
    have hlt : n - 1 < r.ids.length := by omega
    exact ⟨r.ids[n - 1], h.bit?_eq_some_iff.2 ⟨hpos, List.getElem?_eq_getElem hlt⟩⟩

/-- In every registry of a service the positions are unique, dense and stable. -/
theorem positions_settled (h : r.Reachable) : r.Settled where
  dense := h.numbered.dense
  distinct := by
    intro id id' n hbit hbit'
    rw [h.numbered.bit?_eq_some_iff] at hbit hbit'
    exact Option.some.inj (hbit.2.symm.trans hbit'.2)
  named := fun id hid => h.named id (Registry.contains_iff.1 hid)
  stable := by
    intro calls id n hbit
    rw [foldl_registerAll]
    exact h.numbered.bit?_registerAll _ hbit
  contains_iff := by
    intro raws id
    rw [Registry.contains_iff, Registry.contains_iff, ids_registerAll, List.mem_append]
  bit?_fresh := by
    intro raws i id hfresh
    rw [(h.numbered.registerAll raws).bit?_eq_some_iff, ids_registerAll, ← length_ids]
    refine ⟨by omega, ?_⟩
    rw [List.getElem?_append_right (by omega)]
    have hplace : r.ids.length + 1 + i - 1 - r.ids.length = i := by omega
    rw [hplace, hfresh]
  append := fun xs ys => (List.foldl_append).symm
  again := by
    intro xs calls
    rw [foldl_registerAll]
    exact registerAll_eq_self (admits_after r xs calls.flatten)
  fits := by
    intro hsize id n hbit
    have hle := ((h.numbered.dense n).1 ⟨id, hbit⟩).2
    omega
  next := by
    intro hsize
    rw [h.numbered.toNat_nextWord hsize, and_self, h.numbered.nextBit_eq]

end

/-- The built-in registry with two more ids, given among blanks, `root` and ids it has already. -/
def extended : Registry :=
  builtin.registerAll ["gadget", "lan", " ", "root", " widget\t", "gadget"]

/-- The two ids have the positions behind the built-in ones and keep them when another call brings
two new ids, which have the positions behind these. -/
theorem positions_settled_extended :
    extended.Reachable ∧ extended.bit? "gadget" = some 37 ∧ extended.bit? "widget" = some 38 ∧
      (extended.registerAll ["doc", "lan", "doc ", "map"]).bit? "widget" = some 38 ∧
      (extended.registerAll ["doc", "lan", "doc ", "map"]).bit? "doc" = some 39 ∧
      (extended.registerAll ["doc", "lan", "doc ", "map"]).bit? "map" = some 40 := by
  have hreachable : extended.Reachable := .registerAll .builtin _
  have hsettled := positions_settled hreachable
  have hgadget : extended.bit? "gadget" = some 37 := by decide +kernel
  have hwidget : extended.bit? "widget" = some 38 := by decide +kernel
  have hsize : extended.size = 38 := by decide +kernel
  have hfresh : extended.fresh ["doc", "lan", "doc ", "map"] = ["doc", "map"] := by decide +kernel
  have hnew := hsettled.bit?_fresh ["doc", "lan", "doc ", "map"]
  rw [hsize, hfresh] at hnew
  exact ⟨hreachable, hgadget, hwidget,
    hsettled.stable [["doc", "lan", "doc ", "map"]] "widget" 38 hwidget, hnew 0 "doc" rfl,
    hnew 1 "map" rfl⟩

end GatewayConfig.Registry
