import GatewayConfig.Text.Split

/-!
# Separated lists

Elements without the separator are found again behind each other, and white space at the ends of a
list or of its elements makes no difference to what is read: `map_trim_split_trim` says that a list
may be trimmed before it is split, when its elements are trimmed afterwards. `lists_iff` says what
the elements of a list are without splitting it, and `find?_unknown_eq_some_iff` which name of a
list is the first that is not known.
-/

namespace GatewayConfig.Text

/-- Elements without the separator are found again. -/
theorem split_join {separator : Char} {parts : List String} (hne : parts ≠ [])
    (h : ∀ p ∈ parts, separator ∉ p.toList) : split separator (join separator parts) = parts := by
  have hlists : ∀ l ∈ parts.map String.toList, separator ∉ l := List.forall_mem_map.2 h
  have hmap : parts.map (String.ofList ∘ String.toList) = parts := by
    simp only [Function.comp_def, String.ofList_toList, List.map_id']
  rw [split, join, String.toList_ofList,
    List.splitOn_intercalate separator hlists (by simpa using hne), List.map_map, hmap]

/-- No element of a list that was split has the separator. -/
theorem not_mem_of_mem_splitOn {separator : Char} {l piece : List Char}
    (h : piece ∈ l.splitOn separator) : separator ∉ piece := by
  induction l generalizing piece with
  | nil =>
    rw [List.splitOn_nil, List.mem_singleton] at h
    rw [h]
    exact List.not_mem_nil
  | cons c l ih =>
    rw [List.splitOn_cons_eq_if_modifyHead] at h
    split at h
    · rcases List.mem_cons.1 h with rfl | hpiece
      · exact List.not_mem_nil
      · exact ih hpiece
    next hc =>
      cases hs : l.splitOn separator with
      | nil => exact absurd hs (List.splitOn_ne_nil separator l)
      | cons first rest =>
        rw [hs, List.modifyHead_cons] at h
        rw [hs] at ih
        rcases List.mem_cons.1 h with rfl | hpiece
        · have hfirst := ih List.mem_cons_self
          rw [List.mem_cons, not_or]
          exact ⟨fun he => hc (by simp [he]), hfirst⟩
        · exact ih (List.mem_cons_of_mem first hpiece)

/-- The elements of a list, of which there is at least one: no element has the separator, and
joined they are the list. -/
structure Lists (separator : Char) (s : String) (elements : List String) : Prop where
  /-- There is an element, which may be empty. -/
  nonempty : elements ≠ []
  /-- The separator stands between elements only. -/
  separate : ∀ e ∈ elements, separator ∉ e.toList
  /-- Nothing is lost. -/
  joined : join separator elements = s

/-- The elements of a list are those that it is split into. -/
theorem lists_iff {separator : Char} {s : String} {elements : List String} :
    Lists separator s elements ↔ split separator s = elements := by
  constructor
  · rintro ⟨hne, hseparate, rfl⟩
    exact split_join hne hseparate
  · rintro rfl
    refine ⟨?_, ?_, join_split separator s⟩
    · rw [split, ne_eq, List.map_eq_nil_iff]
      exact List.splitOn_ne_nil separator s.toList
    · intro e he
      obtain ⟨piece, hpiece, rfl⟩ := List.mem_map.1 he
      rw [String.toList_ofList]
      exact not_mem_of_mem_splitOn hpiece

section Unknown

variable {known : String → Bool} {names : List String}

/-- No name is unknown exactly when every one is known. -/
theorem find?_unknown_eq_none_iff :
    names.find? (fun name => !known name) = none ↔ ∀ name ∈ names, known name = true := by
  simp only [List.find?_eq_none, Bool.not_eq_true', Bool.not_eq_false]

/-- The first name that is not known has only known ones before it. -/
theorem find?_unknown_eq_some_iff {name : String} :
    names.find? (fun name => !known name) = some name ↔
      known name = false ∧
        ∃ before rest, names = before ++ name :: rest ∧ ∀ k ∈ before, known k = true := by
  simp only [List.find?_eq_some_iff_append, Bool.not_eq_true', Bool.not_not]

end Unknown

/-- A blank in front is trimmed. -/
theorem trimChars_cons {c : Char} (hc : isBlank c = true) (l : List Char) :
    trimChars (c :: l) = trimChars l := by
  rw [trimChars, List.dropWhile_cons_of_pos hc, trimChars]

/-- A blank at the end is trimmed. -/
theorem trimChars_concat {c : Char} (hc : isBlank c = true) (l : List Char) :
    trimChars (l ++ [c]) = trimChars l := by
  rw [trimChars, trimChars, List.dropWhile_append]
  split
  next hblank =>
    rw [List.isEmpty_iff.1 hblank, List.dropWhile_cons_of_pos hc, List.dropWhile_nil]
  next => rw [List.reverse_append, List.reverse_singleton, List.singleton_append,
      List.dropWhile_cons_of_pos hc]

section Lists

variable {separator c : Char}

/-- A character that is no separator goes to the front of the first element. -/
theorem splitOn_cons_of_ne (hc : c ≠ separator) (l : List Char) :
    (c :: l).splitOn separator = (l.splitOn separator).modifyHead (List.cons c) := by
  rw [List.splitOn_cons_eq_if_modifyHead, if_neg (by simpa using hc)]

/-- Another character at the end of a list goes to the last element. -/
theorem exists_splitOn_concat (hc : c ≠ separator) (l : List Char) :
    ∃ init last, l.splitOn separator = init ++ [last] ∧
      (l ++ [c]).splitOn separator = init ++ [last ++ [c]] := by
  induction l with
  | nil => exact ⟨[], [], rfl, splitOn_cons_of_ne hc []⟩
  | cons d l ih =>
    obtain ⟨init, last, hl, hconcat⟩ := ih
    rw [List.cons_append, List.splitOn_cons_eq_if_modifyHead, List.splitOn_cons_eq_if_modifyHead,
      hl, hconcat]
    split
    · exact ⟨[] :: init, last, rfl, rfl⟩
    · cases init with
      | nil => exact ⟨[], d :: last, rfl, rfl⟩
      | cons i init => exact ⟨(d :: i) :: init, last, rfl, rfl⟩

/-- The elements of a list, trimmed. -/
def trimmedElements (separator : Char) (l : List Char) : List (List Char) :=
  (l.splitOn separator).map trimChars

/-- A blank in front of the list is no part of its first element, unless it separates. -/
theorem trimmedElements_cons (hc : isBlank c = true) (hne : c ≠ separator) (l : List Char) :
    trimmedElements separator (c :: l) = trimmedElements separator l := by
  rw [trimmedElements, trimmedElements, splitOn_cons_of_ne hne]
  cases h : l.splitOn separator with
  | nil => exact absurd h (List.splitOn_ne_nil separator l)
  | cons first rest =>
    rw [List.modifyHead_cons, List.map_cons, List.map_cons, trimChars_cons hc]

/-- A blank at the end of the list is no part of its last element, unless it separates. -/
theorem trimmedElements_concat (hc : isBlank c = true) (hne : c ≠ separator) (l : List Char) :
    trimmedElements separator (l ++ [c]) = trimmedElements separator l := by
  obtain ⟨init, last, hl, hconcat⟩ := exists_splitOn_concat hne l
  rw [trimmedElements, trimmedElements, hl, hconcat, List.map_append, List.map_append,
    List.map_singleton, List.map_singleton, trimChars_concat hc]

/-- All blanks in front of the list may go when the separator is no blank. -/
theorem trimmedElements_dropWhile (hs : isBlank separator = false) (l : List Char) :
    trimmedElements separator (l.dropWhile isBlank) = trimmedElements separator l := by
  induction l with
  | nil => rfl
  | cons d l ih =>
    cases hd : isBlank d with
    | false => rw [List.dropWhile_cons_of_neg (by simp [hd])]
    | true =>
      have hne : d ≠ separator := by
        rintro rfl
        rw [hs] at hd
        cases hd
      rw [List.dropWhile_cons_of_pos hd, ih, trimmedElements_cons hd hne]

/-- So may all blanks at the end. The list is read from the back. -/
theorem trimmedElements_reverse_dropWhile (hs : isBlank separator = false) (l : List Char) :
    trimmedElements separator (l.dropWhile isBlank).reverse =
      trimmedElements separator l.reverse := by
  induction l with
  | nil => rfl
  | cons d l ih =>
    cases hd : isBlank d with
    | false => rw [List.dropWhile_cons_of_neg (by simp [hd])]
    | true =>
      have hne : d ≠ separator := by
        rintro rfl
        rw [hs] at hd
        cases hd
      rw [List.dropWhile_cons_of_pos hd, ih, List.reverse_cons, trimmedElements_concat hd hne]

end Lists

/-- The elements of a text are those of its characters, trimmed. -/
theorem map_trim_split (separator : Char) (s : String) :
    (split separator s).map trim = (trimmedElements separator s.toList).map .ofList := by
  simp only [split, trimmedElements, trim, List.map_map, Function.comp_def, String.toList_ofList]

/-- Whether a list is trimmed before it is split makes no difference to its trimmed elements. -/
theorem map_trim_split_trim {separator : Char} (hs : isBlank separator = false) (s : String) :
    (split separator (trim s)).map trim = (split separator s).map trim := by
  have hends := trimmedElements_reverse_dropWhile hs (s.toList.dropWhile isBlank).reverse
  rw [List.reverse_reverse, trimmedElements_dropWhile hs] at hends
  rw [map_trim_split, map_trim_split, trim, String.toList_ofList, trimChars, hends]

/-- A list whose first element is not blank is not blank. -/
theorem trim_join_ne_empty {separator : Char} (hs : isBlank separator = false) {first : String}
    {rest : List String} (hfirst : trim first ≠ "")
    (h : ∀ p ∈ first :: rest, separator ∉ p.toList) :
    trim (join separator (first :: rest)) ≠ "" := by
  intro hblank
  have helements := map_trim_split_trim hs (join separator (first :: rest))
  have hnone : separator ∉ "".toList := List.not_mem_nil
  rw [hblank, split_eq_singleton hnone, split_join (List.cons_ne_nil _ _) h] at helements
  exact hfirst (List.cons.inj helements).1.symm

end GatewayConfig.Text
