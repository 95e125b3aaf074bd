/-!
# Running actions

An action is a function of a state that yields a value or an error, with the state it leaves behind
in either case. These are the equations of its building blocks, for states of any kind, and what is
known of the steps of a computation without a state that succeeds or fails.
-/

namespace GatewayConfig

variable {σ ε ε' α β : Type}

/-- A value that is at hand leaves the state alone. -/
theorem run_pure (x : α) (s : σ) : (pure x : ExceptT ε (StateM σ) α) s = (.ok x, s) := rfl

/-- A change of the error type touches neither values nor the state. -/
theorem run_adapt (g : ε → ε') (a : ExceptT ε (StateM σ) α) (s : σ) :
    a.adapt g s = ((a s).1.mapError g, (a s).2) := rfl

/-- What follows an action is run on the state that the action leaves, unless the action fails. -/
theorem run_bind (a : ExceptT ε (StateM σ) α) (f : α → ExceptT ε (StateM σ) β) (s : σ) :
    (a >>= f) s = match a s with
      | (.ok x, t) => f x t
      | (.error e, t) => (.error e, t) := by
  cases h : a s with
  | mk result t =>
    simp only [bind, ExceptT.bind, ExceptT.mk, StateT.bind, h]
    cases result <;> rfl

/-- An action that succeeds hands its value and its state on. -/
theorem run_bind_of_ok {a : ExceptT ε (StateM σ) α} {x : α} {s t : σ} (h : a s = (.ok x, t))
    (f : α → ExceptT ε (StateM σ) β) : (a >>= f) s = f x t := by
  rw [run_bind, h]

/-- An action that fails is the last one. -/
theorem run_bind_of_error {a : ExceptT ε (StateM σ) α} {e : ε} {s t : σ}
    (h : a s = (.error e, t)) (f : α → ExceptT ε (StateM σ) β) :
    (a >>= f) s = (.error e, t) := by
  rw [run_bind, h]

/-- What is made of the value of an action does not touch the state. -/
theorem run_bind_pure (a : ExceptT ε (StateM σ) α) (f : α → β) (s : σ) :
    (a >>= fun x => pure (f x)) s = ((a s).1.map f, (a s).2) := by
  rw [run_bind]
  cases a s with
  | mk result t => cases result <;> rfl

/-- A chain that succeeds succeeds at its first link. -/
theorem exists_of_bind_eq_ok {x : Except ε α} {f : α → Except ε β} {y : β}
    (h : x >>= f = .ok y) : ∃ a, x = .ok a ∧ f a = .ok y := by
  cases x with
  | error e => cases h
  | ok a => exact ⟨a, rfl, h⟩

/-- A first link that succeeds hands its value on. -/
theorem bind_of_eq_ok {x : Except ε α} {a : α} (h : x = .ok a) (f : α → Except ε β) :
    x >>= f = f a := by
  rw [h]
  rfl

/-- A chain that fails fails at its first link or behind it. -/
theorem error_of_bind_eq_error {x : Except ε α} {f : α → Except ε β} {e : ε}
    (h : x >>= f = .error e) : x = .error e ∨ ∃ a, x = .ok a ∧ f a = .error e := by
  cases x with
  | error e' => exact .inl (congrArg Except.error (Except.error.inj h))
  | ok a => exact .inr ⟨a, rfl, h⟩

/-- A change of the error makes no success of a failure. -/
theorem eq_ok_of_mapError_eq_ok {x : Except ε α} {g : ε → ε'} {a : α}
    (h : x.mapError g = .ok a) : x = .ok a := by
  cases x with
  | error e => cases h
  | ok a' => exact congrArg Except.ok (Except.ok.inj h)

/-- A changed error comes from an error. -/
theorem exists_of_mapError_eq_error {x : Except ε α} {g : ε → ε'} {e' : ε'}
    (h : x.mapError g = .error e') : ∃ e, x = .error e ∧ g e = e' := by
  cases x with
  | error e => exact ⟨e, rfl, Except.error.inj h⟩
  | ok a => cases h

end GatewayConfig
