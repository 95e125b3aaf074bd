import GatewayConfig.Text.Blank

/-!
# Splitting texts

Lists separated by one character, a pair cut at its first separator, and the lines of a header
block. A text always has one more element than it has separators, so the empty text has one
element, the empty text. `join_split` says that splitting loses nothing.
-/

namespace GatewayConfig.Text

/-- The elements between the separators, empty ones included. -/
def split (separator : Char) (s : String) : List String :=
  (s.toList.splitOn separator).map .ofList

/-- The elements with one separator between neighbours. -/
def join (separator : Char) (parts : List String) : String :=
  .ofList ([separator].intercalate (parts.map String.toList))

/-- Splitting at a separator and joining with it again gives the text itself. -/
@[simp] theorem join_split (separator : Char) (s : String) :
    join separator (split separator s) = s := by
  have h : (String.toList ∘ String.ofList) = id := by
    funext l
    simp
  simp [join, split, h, List.intercalate_splitOn]

/-- A text without the separator is one element. -/
theorem split_eq_singleton {separator : Char} {s : String} (h : separator ∉ s.toList) :
    split separator s = [s] := by
  rw [split, List.splitOn_eq_singleton h, List.map_singleton, String.ofList_toList]

/-- The first element reaches to the first separator. -/
theorem split_append {separator : Char} {s : String} (h : separator ∉ s.toList) (t : String) :
    split separator (s ++ .singleton separator ++ t) = s :: split separator t := by
  have hl : (s ++ .singleton separator ++ t).toList = s.toList ++ separator :: t.toList := by simp
  rw [split, hl, List.splitOn_append_cons_self_of_not_mem h, List.map_cons, String.ofList_toList,
    split]

/-- What stands before and after the first separator. -/
def cutChars? (separator : Char) : List Char → Option (List Char × List Char)
  | [] => none
  | c :: rest =>
    if c = separator then some ([], rest)
    else (cutChars? separator rest).map fun (before, after) => (c :: before, after)

/-- What stands before and after the first separator of a text. -/
def cut? (separator : Char) (s : String) : Option (String × String) :=
  (cutChars? separator s.toList).map fun (before, after) => (.ofList before, .ofList after)

/-- A cut of a list of characters is made at the first separator. -/
theorem cutChars?_eq_some_iff {separator : Char} {l before after : List Char} :
    cutChars? separator l = some (before, after) ↔
      l = before ++ separator :: after ∧ separator ∉ before := by
  induction l generalizing before with
  | nil => simp [cutChars?]
  | cons c rest ih =>
    by_cases hc : c = separator
    · subst hc
      rw [cutChars?, if_pos rfl]
      cases before with
      | nil => simp
      | cons d before =>
        simp only [Option.some.injEq, Prod.mk.injEq, List.nil_eq, reduceCtorEq, false_and,
          List.cons_append, List.cons.injEq, List.mem_cons, not_or, false_iff]
        rintro ⟨⟨rfl, -⟩, h, -⟩
        exact h rfl
    · rw [cutChars?, if_neg hc]
      cases before with
      | nil => simp [hc]
      | cons d before =>
        rw [Option.map_eq_some_iff]
        constructor
        · rintro ⟨⟨before', after'⟩, hr, he⟩
          cases he
          obtain ⟨rfl, hn⟩ := ih.1 hr
          exact ⟨rfl, by simp [hn, Ne.symm hc]⟩
        · rintro ⟨he, hn⟩
          obtain ⟨rfl, rfl⟩ := List.cons.inj he
          exact ⟨(before, after), ih.2 ⟨rfl, fun h => hn (List.mem_cons_of_mem _ h)⟩, rfl⟩

/-- A cut of a text is made at the first separator. -/
theorem cut?_eq_some_iff {separator : Char} {s before after : String} :
    cut? separator s = some (before, after) ↔
      s.toList = before.toList ++ separator :: after.toList ∧ separator ∉ before.toList := by
  simp only [cut?, Option.map_eq_some_iff, Prod.exists, cutChars?_eq_some_iff, Prod.mk.injEq]
  constructor
  · rintro ⟨b, a, h, rfl, rfl⟩
    simpa using h
  · intro h
    exact ⟨_, _, h, by simp, by simp⟩

/-- A text is not cut exactly when it has no separator. -/
theorem cut?_eq_none_iff {separator : Char} {s : String} :
    cut? separator s = none ↔ separator ∉ s.toList := by
  simp only [cut?, Option.map_eq_none_iff]
  induction s.toList with
  | nil => simp [cutChars?]
  | cons c rest ih =>
    by_cases hc : c = separator
    · simp [cutChars?, hc]
    · simp [cutChars?, hc, ih, Ne.symm hc]

/-- The lines of a text in which a carriage return and a line feed together end a line. Either
character alone belongs to its line. -/
def lineChars : List Char → List (List Char)
  | [] => [[]]
  | [c] => [[c]]
  | c :: d :: rest =>
    if c = '\r' ∧ d = '\n' then [] :: lineChars rest
    else
      match lineChars (d :: rest) with
      | [] => [[c]]
      | line :: lines => (c :: line) :: lines

/-- The lines of a text, each without its line end. -/
def lines (s : String) : List String := (lineChars s.toList).map .ofList

/-- The elements of a comma-separated list, trimmed, without those that are blank. -/
def commaList (s : String) : List String := ((split ',' s).map trim).filter (· ≠ "")

end GatewayConfig.Text
