import GatewayConfig.Percent

/-!
# What is escaped in a URL

Each component of a URL has a set of characters that cannot stand in it as they are and that are
written as the percent encodings of their bytes. Characters outside ASCII belong to every set.
A percent sign belongs to none, so text that is escaped already stays as it is.
-/

namespace GatewayConfig.Url

/-- The characters that are escaped in every component. -/
def escapedEverywhere (c : Char) : Bool := c.toNat < 0x20 || 0x7F ≤ c.toNat

/-- The characters escaped in a fragment. -/
def escapedInFragment (c : Char) : Bool :=
  escapedEverywhere c || [' ', '"', '<', '>', '\x60'].contains c

/-- The characters escaped in a path. -/
def escapedInPath (c : Char) : Bool :=
  escapedInFragment c || ['#', '?', '\x7b', '\x7d'].contains c

/-- The characters escaped in a user name or a password. -/
def escapedInUserinfo (c : Char) : Bool :=
  escapedInPath c || ['/', ':', ';', '=', '@', '[', '\\', ']', '^', '|'].contains c

/-- The characters escaped in a query. A quote is escaped only under the schemes that have a
fixed meaning. -/
def escapedInQuery (special : Bool) (c : Char) : Bool :=
  escapedEverywhere c || [' ', '"', '#', '<', '>'].contains c || (special && c == '\'')

/-- The text with the characters of a set escaped. -/
def escape (set : Char → Bool) (l : List Char) : List Char :=
  l.flatMap fun c =>
    if set c then (Bytes.ofText (.singleton c)).flatMap Percent.encodeByte else [c]

/-- Characters that need no escape stay as they are. -/
theorem escape_eq_self {set : Char → Bool} {l : List Char} (h : ∀ c ∈ l, set c = false) :
    escape set l = l := by
  induction l with
  | nil => rfl
  | cons c rest ih =>
    have hc : set c = false := h c (by simp)
    have hr : escape set rest = rest := ih fun d hd => h d (by simp [hd])
    unfold escape at hr ⊢
    simp [hc, hr]

/-- The characters that do not count where they stand in a URL: tabs and line ends. -/
def isLineBreak (c : Char) : Bool := c == '\t' || c == '\n' || c == '\r'

/-- A text without tabs and line ends. -/
def dropLineBreaks (l : List Char) : List Char := l.filter fun c => !isLineBreak c

end GatewayConfig.Url
