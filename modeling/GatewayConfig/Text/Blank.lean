/-!
# White space

The characters with the Unicode property `White_Space`, and the removal of such characters from
both ends of a text. The class is wider than `Char.isWhitespace`, which knows ASCII alone, and it
excludes U+200B and U+FEFF, which look blank but are not white space.
-/

namespace GatewayConfig.Text

/-- The Unicode property `White_Space`, which twenty-five characters have. -/
def isBlank (c : Char) : Bool :=
  let n := c.toNat
  (9 ≤ n && n ≤ 13) || n == 0x20 || n == 0x85 || n == 0xA0 || n == 0x1680 ||
    (0x2000 ≤ n && n ≤ 0x200A) || n == 0x2028 || n == 0x2029 || n == 0x202F || n == 0x205F ||
    n == 0x3000

/-- The characters between the first and the last that are not white space. -/
def trimChars (l : List Char) : List Char :=
  ((l.dropWhile isBlank).reverse.dropWhile isBlank).reverse

/-- A text without white space at its ends. -/
def trim (s : String) : String := .ofList (trimChars s.toList)

/-- A present text, trimmed, unless nothing is left of it. -/
def trimmed? (s : Option String) : Option String :=
  (s.map trim).filter (· ≠ "")

/-- Nothing is removed from the ends of a list when neither of them is to go. -/
theorem dropWhile_ends_eq_self {p : Char → Bool} {l : List Char}
    (first : ∀ c ∈ l.head?, p c = false) (last : ∀ c ∈ l.getLast?, p c = false) :
    ((l.dropWhile p).reverse.dropWhile p).reverse = l := by
  have keep : ∀ k : List Char, (∀ c ∈ k.head?, p c = false) → k.dropWhile p = k := by
    intro k hk
    cases k with
    | nil => rfl
    | cons c k => exact List.dropWhile_cons_of_neg (by simp [hk c (by simp)])
  rw [keep l first, keep l.reverse (by simpa using last), List.reverse_reverse]

/-- A text with no blank at either end is trimmed already. The empty one is. -/
theorem trim_eq_self {s : String} (first : ∀ c ∈ s.toList.head?, isBlank c = false)
    (last : ∀ c ∈ s.toList.getLast?, isBlank c = false) : trim s = s := by
  rw [trim, trimChars, dropWhile_ends_eq_self first last, String.ofList_toList]

/-- Where dropping stops there is no element of that kind. -/
theorem not_of_head?_dropWhile {p : Char → Bool} {l : List Char} :
    ∀ c ∈ (l.dropWhile p).head?, p c = false := by
  induction l with
  | nil => simp
  | cons d l ih =>
    cases hd : p d with
    | true =>
      rw [List.dropWhile_cons_of_pos hd]
      exact ih
    | false =>
      rw [List.dropWhile_cons_of_neg (by simp [hd])]
      simp [hd]

/-- What is left of a text has no white space at its ends. -/
theorem trim_trim (s : String) : trim (trim s) = trim s := by
  have hlast : ∀ c ∈ (trim s).toList.getLast?, isBlank c = false := by
    rw [trim, String.toList_ofList, trimChars, List.getLast?_reverse]
    exact not_of_head?_dropWhile
  have hfirst : ∀ c ∈ (trim s).toList.head?, isBlank c = false := by
    rw [trim, String.toList_ofList, trimChars, List.head?_reverse]
    intro c hc
    obtain ⟨dropped, hd⟩ := List.dropWhile_suffix (l := (s.toList.dropWhile isBlank).reverse)
      isBlank
    apply not_of_head?_dropWhile (l := s.toList)
    rw [← List.getLast?_reverse, ← hd, List.getLast?_append]
    rw [hc]
    rfl
  exact trim_eq_self hfirst hlast

/-- White space in front of a text does not survive trimming. -/
theorem trim_space_append (s : String) : trim (" " ++ s) = trim s := by
  have h : (" " ++ s).toList = ' ' :: s.toList := by simp
  rw [trim, trim, trimChars, trimChars, h, List.dropWhile_cons_of_pos (by decide)]

end GatewayConfig.Text
