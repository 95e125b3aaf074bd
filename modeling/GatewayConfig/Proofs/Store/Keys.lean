import GatewayConfig.Proofs.Mac
import GatewayConfig.Proofs.Store.Layout

/-!
# The keys of documents

Reference documents, links and query params share one backend. `DocumentName.key_inj` says that the
kind of a document, its device and its id can all be read off its key, whatever characters an id
is made of, so that no two documents stand under one key.
-/

namespace GatewayConfig.Store

/-- What a key stands for. -/
inductive DocumentName where
  /-- A reference document. -/
  | reference (id : String)
  /-- The link of a subdocument. -/
  | link (mac : Mac) (id : String)
  /-- The query params of a device. -/
  | params (mac : Mac)
  deriving DecidableEq

namespace DocumentName

/-- The key of a document. -/
def key : DocumentName → String
  | reference id => referenceKey id
  | link mac id => linkKey mac id
  | params mac => paramsKey mac

/-- Parameters of different devices have different keys. -/
theorem paramsKey_inj {mac mac' : Mac} : paramsKey mac = paramsKey mac' ↔ mac = mac' := by
  constructor
  · intro h
    have hlist := congrArg String.toList h
    simp only [paramsKey, String.toList_append] at hlist
    exact Mac.text_inj.1 (String.toList_inj.1 (List.append_cancel_left hlist))
  · exact congrArg paramsKey

/-- No identifier gives a reference document the key of parameters. -/
theorem referenceKey_ne_paramsKey (id : String) (mac : Mac) : referenceKey id ≠ paramsKey mac := by
  intro h
  have hlist := congrArg String.toList h
  simp [referenceKey, paramsKey] at hlist

/-- No identifier gives a link the key of parameters, for the same device or another. -/
theorem linkKey_ne_paramsKey (mac : Mac) (id : String) (mac' : Mac) :
    linkKey mac id ≠ paramsKey mac' := by
  intro h
  have hlist := congrArg String.toList h
  simp [linkKey, paramsKey] at hlist

/-- Documents are told apart by their keys. -/
theorem key_inj {d d' : DocumentName} : d.key = d'.key ↔ d = d' := by
  constructor
  · intro h
    cases d with
    | reference id =>
      cases d' with
      | reference id' => rw [referenceKey_inj.1 h]
      | link mac' id' => exact absurd h (referenceKey_ne_linkKey id mac' id')
      | params mac' => exact absurd h (referenceKey_ne_paramsKey id mac')
    | link mac id =>
      cases d' with
      | reference id' => exact absurd h.symm (referenceKey_ne_linkKey id' mac id)
      | link mac' id' =>
        obtain ⟨hmac, hid⟩ := linkKey_inj.1 h
        rw [hmac, hid]
      | params mac' => exact absurd h (linkKey_ne_paramsKey mac id mac')
    | params mac =>
      cases d' with
      | reference id' => exact absurd h.symm (referenceKey_ne_paramsKey id' mac)
      | link mac' id' => exact absurd h.symm (linkKey_ne_paramsKey mac' id' mac)
      | params mac' => rw [paramsKey_inj.1 h]
  · exact congrArg key

end DocumentName

end GatewayConfig.Store
