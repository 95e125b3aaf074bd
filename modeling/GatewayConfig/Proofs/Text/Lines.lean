import GatewayConfig.Proofs.Bytes.Occurrence
import GatewayConfig.Proofs.Bytes.Utf8
import GatewayConfig.Text.Split

/-!
# Lines of a header block

Lines joined by line ends are found again, both in the text (`lines_joinLines`) and in its bytes,
where the first blank line is the one behind the last of them (`firstAt_joinLines`). A text that a
line can carry as a value is *plain*.
-/

namespace GatewayConfig.Text

/-- A text in which no carriage return stands before a line feed. -/
def OneLine (s : String) : Prop := ¬ ['\r', '\n'] <:+: s.toList

instance (s : String) : Decidable (OneLine s) := inferInstanceAs (Decidable (¬ _))

/-- Lines with a line end between neighbours. -/
def joinLines : List String → String
  | [] => ""
  | [line] => line
  | line :: rest => line ++ "\r\n" ++ joinLines rest

/-- A list without a line end is one line. -/
theorem lineChars_eq_singleton {l : List Char} (h : ¬ ['\r', '\n'] <:+: l) : lineChars l = [l] := by
  induction l with
  | nil => rfl
  | cons c l ih =>
    cases l with
    | nil => rfl
    | cons d l =>
      have hc : ¬ (c = '\r' ∧ d = '\n') := by
        rintro ⟨rfl, rfl⟩
        exact h ⟨[], l, rfl⟩
      rw [lineChars, if_neg hc, ih fun hi => h (hi.trans (List.suffix_cons _ _).isInfix)]

/-- The first line of a list reaches to the first line end. -/
theorem lineChars_append {l : List Char} (h : ¬ ['\r', '\n'] <:+: l) (rest : List Char) :
    lineChars (l ++ '\r' :: '\n' :: rest) = l :: lineChars rest := by
  induction l with
  | nil => simp [lineChars]
  | cons c l ih =>
    have hl := ih fun hi => h (hi.trans (List.suffix_cons _ _).isInfix)
    cases l with
    | nil => simp [lineChars]
    | cons d l =>
      have hc : ¬ (c = '\r' ∧ d = '\n') := by
        rintro ⟨rfl, rfl⟩
        exact h ⟨[], l, rfl⟩
      simp only [List.cons_append] at hl ⊢
      rw [lineChars, if_neg hc, hl]

/-- One line is split into itself, also the empty one. -/
theorem lines_of_oneLine {s : String} (h : OneLine s) : lines s = [s] := by
  rw [lines, lineChars_eq_singleton h, List.map_singleton, String.ofList_toList]

/-- A line is cut off at the line end behind it. -/
theorem lines_append {s : String} (h : OneLine s) (rest : String) :
    lines (s ++ "\r\n" ++ rest) = s :: lines rest := by
  have hl : (s ++ "\r\n" ++ rest).toList = s.toList ++ '\r' :: '\n' :: rest.toList := by simp
  rw [lines, hl, lineChars_append h, List.map_cons, String.ofList_toList, lines]

/-- Joining lines and splitting them again gives the lines. -/
theorem lines_joinLines {ls : List String} (hne : ls ≠ []) (h : ∀ l ∈ ls, OneLine l) :
    lines (joinLines ls) = ls := by
  induction ls with
  | nil => exact absurd rfl hne
  | cons l ls ih =>
    obtain ⟨hl, hls⟩ := List.forall_mem_cons.1 h
    cases ls with
    | nil => exact lines_of_oneLine hl
    | cons m ls =>
      rw [joinLines, lines_append hl, ih (List.cons_ne_nil _ _) hls]
      exact List.cons_ne_nil _ _

/-- There is no line end in the bytes of one line. -/
theorem OneLine.not_infix {s : String} (h : OneLine s) : ¬ Bytes.crlf <:+: Bytes.ofText s :=
  fun hi => h (Bytes.crlf_infix_ofText_iff.1 hi)

/-- Joined lines are the first, a line end and the others joined. -/
theorem ofText_joinLines_cons (l m : String) (ls : List String) :
    Bytes.ofText (joinLines (l :: m :: ls)) =
      Bytes.ofText l ++ Bytes.crlf ++ Bytes.ofText (joinLines (m :: ls)) := by
  simp [joinLines]

/-- A nonempty text has bytes. -/
theorem ofText_ne_nil {s : String} (h : s ≠ "") : Bytes.ofText s ≠ [] := fun he =>
  h (Bytes.ofText_injective (t := "") he)

/-- Lines that begin with a nonempty one have bytes. -/
theorem ofText_joinLines_ne_nil {l : String} (ls : List String) (hne : l ≠ "") :
    Bytes.ofText (joinLines (l :: ls)) ≠ [] := by
  cases ls with
  | nil => exact ofText_ne_nil hne
  | cons m ls => simp [ofText_joinLines_cons, Bytes.crlf]

/-- Lines that are not empty do not start with a line end. -/
theorem not_crlf_prefix_joinLines {l : String} (ls : List String) (hne : l ≠ "") (h : OneLine l) :
    ¬ Bytes.crlf <+: Bytes.ofText (joinLines (l :: ls)) := by
  have hp : ¬ Bytes.crlf <+: Bytes.ofText l := fun hp => h.not_infix hp.isInfix
  cases ls with
  | nil => exact hp
  | cons m ls =>
    rw [ofText_joinLines_cons]
    exact Bytes.not_crlf_prefix_append (ofText_ne_nil hne) hp _

/-- The first blank line behind lines that are not empty is the one that ends them. -/
theorem firstAt_joinLines {ls : List String} (hne : ls ≠ []) (h : ∀ l ∈ ls, l ≠ "" ∧ OneLine l)
    (rest : Bytes) :
    Bytes.FirstAt (Bytes.crlf ++ Bytes.crlf)
      (Bytes.ofText (joinLines ls) ++ Bytes.crlf ++ Bytes.crlf ++ rest)
      (Bytes.ofText (joinLines ls)).length := by
  induction ls with
  | nil => exact absurd rfl hne
  | cons l ls ih =>
    obtain ⟨⟨-, hl⟩, hls⟩ := List.forall_mem_cons.1 h
    cases ls with
    | nil => exact Bytes.firstAt_blankLine hl.not_infix rest
    | cons m ls =>
      obtain ⟨⟨hm, hml⟩, -⟩ := List.forall_mem_cons.1 hls
      have hstart := Bytes.not_crlf_prefix_append (ofText_joinLines_ne_nil ls hm)
        (not_crlf_prefix_joinLines ls hm hml) (Bytes.crlf ++ rest)
      have hfirst := Bytes.firstAt_blankLine_append hl.not_infix (by simpa using hstart)
        (ih (List.cons_ne_nil _ _) hls)
      have hlength : (Bytes.ofText l ++ Bytes.crlf ++ Bytes.ofText (joinLines (m :: ls))).length =
          (Bytes.ofText l).length + 2 + (Bytes.ofText (joinLines (m :: ls))).length := by
        simp only [List.length_append]
        rfl
      rw [ofText_joinLines_cons, hlength]
      simpa using hfirst

/-- A text that a header carries unchanged: it has no white space at its ends and no line end. -/
structure Plain (s : String) : Prop where
  /-- Nothing is trimmed. -/
  trimmed : trim s = s
  /-- The text stays on its line. -/
  oneLine : OneLine s

/-- A text without blanks is plain. -/
theorem plain_of_all {s : String} (h : s.toList.all (fun c => !isBlank c) = true) :
    Plain s := by
  have hall : ∀ c ∈ s.toList, isBlank c = false := by simpa using h
  refine ⟨trim_eq_self (fun c hc => hall c (List.mem_of_mem_head? hc))
    (fun c hc => hall c (List.mem_of_mem_getLast? hc)), fun hi => ?_⟩
  have := hall '\r' (hi.subset List.mem_cons_self)
  cases this

/-- A decimal number is plain. -/
theorem plain_toString (n : Nat) : Plain (toString n) := by
  refine plain_of_all (List.all_eq_true.2 fun c hc => ?_)
  have hm : c ∈ Nat.toDigits 10 n := by simpa using hc
  have hd : c.isDigit = true := Nat.isDigit_of_mem_toDigits (by decide) (by decide) hm
  obtain ⟨hlow, hhigh⟩ : 48 ≤ c.toNat ∧ c.toNat ≤ 57 := by
    simpa [Char.isDigit, UInt32.le_iff_toNat_le] using hd
  have hblank : isBlank c = false := by
    simp only [isBlank]
    grind
  rw [hblank]
  rfl

/-- A text without carriage returns before one line makes one line. -/
theorem oneLine_append {s t : String} (hs : '\r' ∉ s.toList) (ht : OneLine t) :
    OneLine (s ++ t) := by
  rw [OneLine, String.toList_append]
  revert hs
  induction s.toList with
  | nil => exact fun _ => ht
  | cons c l ih =>
    intro hs
    rw [List.mem_cons, not_or] at hs
    rw [List.cons_append, List.infix_cons_iff, not_or]
    refine ⟨fun hp => hs.1 ?_, ih hs.2⟩
    exact (List.cons_prefix_cons.1 hp).1

end GatewayConfig.Text
