import GatewayConfig.Bytes
import GatewayConfig.Uuid

/-!
# The storage backend

All documents live in one map from keys to byte strings. A backend may be failing, and then every
access is refused and nothing changes. Each access, refused or not, leaves a line in a journal, so
that a statement can say which keys an operation touched. The keys of the map are pairwise
distinct: a write replaces what stood under its key.
-/

namespace GatewayConfig.Store

/-- The stored values by key, the latest write first. -/
abbrev Entries := List (String × Bytes)

namespace Entries

/-- The value under a key. -/
def get? (es : Entries) (key : String) : Option Bytes := es.lookup key

/-- The map without a key. -/
def erase (es : Entries) (key : String) : Entries := es.filter fun e => e.1 != key

/-- The map with a value under a key, in place of any earlier value. -/
def insert (es : Entries) (key : String) (value : Bytes) : Entries := (key, value) :: es.erase key

/-- Removing a key, also one that is not there, leaves every other one. -/
theorem get?_erase (es : Entries) (key k : String) :
    (es.erase key).get? k = if k = key then none else es.get? k := by
  induction es with
  | nil => simp [erase, get?]
  | cons e es ih =>
    obtain ⟨a, v⟩ := e
    simp only [erase, get?] at ih ⊢
    by_cases ha : a = key
    · subst ha
      by_cases hk : k = a
      · simpa [hk] using ih
      · simpa [hk, List.lookup_cons, beq_eq_false_iff_ne.2 hk] using ih
    · by_cases hk : k = a
      · simp [hk, ha]
      · simpa [ha, List.lookup_cons, beq_eq_false_iff_ne.2 hk] using ih

/-- Inserting at a key, also one that is there, leaves every other one. -/
theorem get?_insert (es : Entries) (key k : String) (value : Bytes) :
    (es.insert key value).get? k = if k = key then some value else es.get? k := by
  by_cases hk : k = key
  · simp [insert, get?, hk]
  · have h := get?_erase es key k
    rw [if_neg hk] at h ⊢
    simpa [insert, get?, List.lookup_cons, hk, beq_eq_false_iff_ne.2 hk] using h

end Entries

/-- One access to the backend. -/
inductive Access where
  /-- The value under a key was asked for. -/
  | read (key : String)
  /-- A value was to be stored under a key. -/
  | write (key : String)
  /-- A key was to be removed. -/
  | delete (key : String)
  deriving DecidableEq, Repr

/-- A map from keys to values, and whether it answers. -/
structure Backend where
  /-- What is stored. -/
  entries : Entries := []
  /-- Whether every access is refused. -/
  failing : Bool := false
  /-- The accesses so far, the latest first. -/
  journal : List Access := []
  deriving DecidableEq, Repr

/-- What is wrong with a stored value. -/
inductive Damage where
  /-- A record has no tag. -/
  | emptyRecord
  /-- A record ends before the length of its version. -/
  | missingVersion
  /-- A record ends inside its version. -/
  | truncatedVersion
  /-- The version of a record is not UTF-8. -/
  | versionEncoding
  /-- The reference id of a record is not UTF-8. -/
  | referenceEncoding
  /-- The tag of a record is neither that of bytes nor that of a reference. -/
  | unknownTag
  /-- Query params are not UTF-8. -/
  | paramsEncoding
  deriving DecidableEq, Repr

/-- The text of a damage. -/
def Damage.message : Damage → String
  | emptyRecord => "empty record"
  | missingVersion => "missing version"
  | truncatedVersion => "truncated version"
  | versionEncoding => "version is not UTF-8"
  | referenceEncoding => "reference id is not UTF-8"
  | unknownTag => "unknown record tag"
  | paramsEncoding => "query params are not UTF-8"

/-- Why a stored document cannot be read or written. A missing key is not an error. -/
inductive Error where
  /-- The backend is failing. -/
  | unavailable
  /-- The value under a key is damaged. -/
  | corrupt (key : String) (damage : Damage)
  deriving DecidableEq, Repr

/-- The text of an error. -/
def Error.message : Error → String
  | unavailable => "storage backend error: unavailable"
  | corrupt key damage => "corrupt record at " ++ key ++ ": " ++ damage.message

/-- A backend and the supply of fresh identifiers: all that a store operation can change. -/
structure State where
  /-- The stored documents. -/
  backend : Backend := {}
  /-- The identifiers to come. -/
  uuids : UuidSupply := {}
  deriving DecidableEq, Repr

/-- An operation on the store. What it changed before an error stays changed. -/
abbrev Action (ε α : Type) := ExceptT ε (StateM State) α

/-- One access to the backend: it is noted, and refused when the backend is failing. -/
def access (note : Access) (act : Entries → α × Entries) : Action Error α := fun s =>
  let b := { s.backend with journal := note :: s.backend.journal }
  if b.failing then (.error .unavailable, { s with backend := b })
  else
    let (result, entries) := act b.entries
    (.ok result, { s with backend := { b with entries } })

/-- The value under a key. -/
def get (key : String) : Action Error (Option Bytes) :=
  access (.read key) fun es => (es.get? key, es)

/-- Store a value under a key. -/
def put (key : String) (value : Bytes) : Action Error Unit :=
  access (.write key) fun es => ((), es.insert key value)

/-- Remove a key. Removing a missing key succeeds. -/
def delete (key : String) : Action Error Unit :=
  access (.delete key) fun es => ((), es.erase key)

/-- Switch the backend's failure on or off. -/
def setFailing (on : Bool) (s : State) : State :=
  { s with backend := { s.backend with failing := on } }

end GatewayConfig.Store
