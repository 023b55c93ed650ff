import Mathlib.Control.Basic
import Mathlib.Order.Defs.Unbundled

/-! # Computations that succeed

What is known of the result of a computation, provided that it has one. A computation may
only fail, or work on a state as well.
-/

namespace TaggedPage

/-- Two steps that succeed together both succeed. -/
theorem bind_eq_ok {ε α β : Type} {x : Except ε α} {f : α → Except ε β} {b : β}
    (h : x >>= f = .ok b) : ∃ a, x = .ok a ∧ f a = .ok b := by
  cases x with
  | error e => cases h
  | ok a => exact ⟨a, rfl, h⟩

/-- A renamed result is the result of a computation that succeeds. -/
theorem map_eq_ok {ε α β : Type} {x : Except ε α} {f : α → β} {b : β} (h : x.map f = .ok b) :
    ∃ a, x = .ok a ∧ f a = b := by
  cases x with
  | error e => cases h
  | ok a => exact ⟨a, rfl, Except.ok.inj h⟩

/-- A computation that succeeds has no error to rename. -/
theorem mapError_eq_ok {ε ε' α : Type} {x : Except ε α} {f : ε → ε'} {a : α}
    (h : x.mapError f = .ok a) : x = .ok a := by
  cases x with
  | error e => cases h
  | ok b => exact congrArg Except.ok (Except.ok.inj h)

section State

variable {σ ε α β : Type}

/-- Behind a step that succeeds a computation goes on in the state that it left. -/
theorem run_bind_of_ok {x : ExceptT ε (StateM σ) α} {s t : σ} {a : α}
    (h : x.run.run s = (.ok a, t)) (f : α → ExceptT ε (StateM σ) β) :
    (x >>= f).run.run s = (f a).run.run t := by
  rw [ExceptT.run_bind, StateT.run_bind, h]
  rfl

/-- A step that fails ends a computation. -/
theorem run_bind_of_error {x : ExceptT ε (StateM σ) α} {s t : σ} {e : ε}
    (h : x.run.run s = (.error e, t)) (f : α → ExceptT ε (StateM σ) β) :
    (x >>= f).run.run s = (.error e, t) := by
  rw [ExceptT.run_bind, StateT.run_bind, h]
  rfl

/-- `run_bind_of_ok` for a computation that keeps a state of its own beside the first one. -/
theorem run_run_bind_of_ok {τ : Type} {x : ExceptT ε (StateT τ (StateM σ)) α} {s t : σ}
    {n n' : τ} {a : α} (h : (x.run.run n).run s = ((.ok a, n'), t))
    (f : α → ExceptT ε (StateT τ (StateM σ)) β) :
    ((x >>= f).run.run n).run s = ((f a).run.run n').run t := by
  rw [ExceptT.run_bind, StateT.run_bind, StateT.run_bind, h]
  rfl

/-- `run_bind_of_error` for a computation that keeps a state of its own beside the first one. -/
theorem run_run_bind_of_error {τ : Type} {x : ExceptT ε (StateT τ (StateM σ)) α} {s t : σ}
    {n n' : τ} {e : ε} (h : (x.run.run n).run s = ((.error e, n'), t))
    (f : α → ExceptT ε (StateT τ (StateM σ)) β) :
    ((x >>= f).run.run n).run s = ((.error e, n'), t) := by
  rw [ExceptT.run_bind, StateT.run_bind, StateT.run_bind, h]
  rfl

/-- A computation whose errors are renamed ends as before but for the name. -/
theorem run_adapt {ε' : Type} (f : ε → ε') (x : ExceptT ε (StateM σ) α) (s : σ) :
    (ExceptT.adapt f x).run.run s = ((x.run.run s).1.mapError f, (x.run.run s).2) := rfl

/-- Two steps that succeed together both succeed, the second one in the state that the first
one left. -/
theorem run_bind_eq_ok {x : ExceptT ε (StateM σ) α} {f : α → ExceptT ε (StateM σ) β} {s u : σ}
    {b : β} (h : (x >>= f).run.run s = (.ok b, u)) :
    ∃ a t, x.run.run s = (.ok a, t) ∧ (f a).run.run t = (.ok b, u) := by
  cases hrun : x.run.run s with
  | mk result t =>
    cases result with
    | error e =>
      rw [run_bind_of_error hrun] at h
      cases (Prod.mk.inj h).1
    | ok a => exact ⟨a, t, rfl, (run_bind_of_ok hrun f).symm.trans h⟩

theorem run_adapt_eq_ok {ε' : Type} {f : ε → ε'} {x : ExceptT ε (StateM σ) α} {s t : σ} {a : α}
    (h : (ExceptT.adapt f x).run.run s = (.ok a, t)) : x.run.run s = (.ok a, t) := by
  rw [run_adapt] at h
  obtain ⟨hresult, hstate⟩ := Prod.mk.inj h
  exact Prod.ext (mapError_eq_ok hresult) hstate

/-- A handler starts in the state that the failure left. -/
theorem run_tryCatch (x : ExceptT ε (StateM σ) α) (handle : ε → ExceptT ε (StateM σ) α) (s : σ) :
    (MonadExcept.tryCatch x handle).run.run s =
      StateT.run (match (x.run.run s).1 with
        | .ok a => (Pure.pure (.ok a) : StateM σ (Except ε α))
        | .error e => (handle e).run) (x.run.run s).2 := rfl

/-- A step that cannot fail succeeds. -/
theorem run_lift (x : StateM σ α) (s : σ) :
    (ExceptT.lift x : ExceptT ε (StateM σ) α).run.run s = (.ok (x.run s).1, (x.run s).2) := rfl

theorem run_lift_eq_ok {x : StateM σ α} {s t : σ} {a : α}
    (h : (ExceptT.lift x : ExceptT ε (StateM σ) α).run.run s = (.ok a, t)) : x.run s = (a, t) := by
  rw [run_lift] at h
  obtain ⟨hresult, hstate⟩ := Prod.mk.inj h
  exact Prod.ext (Except.ok.inj hresult) hstate

/-- Whenever the computation succeeds, its result has the property. -/
def Yields (x : ExceptT ε (StateM σ) α) (P : α → Prop) : Prop :=
  ∀ s a s', x.run.run s = (.ok a, s') → P a

theorem Yields.pure {P : α → Prop} {a : α} (h : P a) :
    Yields (Pure.pure a : ExceptT ε (StateM σ) α) P := by
  intro s b s' heq
  obtain ⟨hresult, -⟩ := Prod.mk.inj heq
  exact Except.ok.inj hresult ▸ h

theorem Yields.lift {P : α → Prop} {x : StateM σ α} (h : ∀ a, P a) :
    Yields (ExceptT.lift x : ExceptT ε (StateM σ) α) P :=
  fun _ a _ _ => h a

theorem Yields.bind {P : α → Prop} {Q : β → Prop} {x : ExceptT ε (StateM σ) α}
    {f : α → ExceptT ε (StateM σ) β} (hx : Yields x P) (hf : ∀ a, P a → Yields (f a) Q) :
    Yields (x >>= f) Q := by
  intro s b s' heq
  obtain ⟨a, t, hrun, hrest⟩ := run_bind_eq_ok heq
  exact hf a (hx s a t hrun) t b s' hrest

/-! ## What happens to the state -/

/-- Whether it succeeds or fails, the computation leads from every state to a related one. -/
def Keeps (R : σ → σ → Prop) (x : ExceptT ε (StateM σ) α) : Prop := ∀ s, R s (x.run.run s).2

namespace Keeps

variable {R : σ → σ → Prop} [IsPreorder σ R]

theorem pure (a : α) : Keeps R (Pure.pure a : ExceptT ε (StateM σ) α) := fun s => Std.Refl.refl s

theorem throw (e : ε) : Keeps R (MonadExcept.throw e : ExceptT ε (StateM σ) α) :=
  fun s => Std.Refl.refl s

omit [IsPreorder σ R] in
theorem lift {x : StateM σ α} (h : ∀ s, R s (x.run s).2) :
    Keeps R (ExceptT.lift x : ExceptT ε (StateM σ) α) := h

theorem bind {x : ExceptT ε (StateM σ) α} {f : α → ExceptT ε (StateM σ) β} (hx : Keeps R x)
    (hf : ∀ a, Keeps R (f a)) : Keeps R (x >>= f) := by
  intro s
  have hstep := hx s
  cases hrun : x.run.run s with
  | mk result t =>
    rw [hrun] at hstep
    cases result with
    | error e =>
      rw [run_bind_of_error hrun]
      exact hstep
    | ok a =>
      rw [run_bind_of_ok hrun]
      exact IsTrans.trans _ _ _ hstep (hf a t)

omit [IsPreorder σ R] in
theorem adapt {ε' : Type} {x : ExceptT ε (StateM σ) α} (h : Keeps R x) (f : ε → ε') :
    Keeps R (ExceptT.adapt f x) := h

theorem tryCatch {x : ExceptT ε (StateM σ) α} {handle : ε → ExceptT ε (StateM σ) α}
    (hx : Keeps R x) (hhandle : ∀ e, Keeps R (handle e)) :
    Keeps R (MonadExcept.tryCatch x handle) := by
  intro s
  have hstep := hx s
  rw [run_tryCatch]
  cases (x.run.run s).1 with
  | ok a => exact hstep
  | error e => exact IsTrans.trans _ _ _ hstep (hhandle e _)

end Keeps

/-- Computations that leave every state as it is. -/
abbrev Reads (x : ExceptT ε (StateM σ) α) : Prop := Keeps Eq x

/-- A step that only reads either ends the computation or hands its result on, in the same
state. -/
theorem Reads.run_bind {x : ExceptT ε (StateM σ) α} (h : Reads x)
    (f : α → ExceptT ε (StateM σ) β) (s : σ) :
    (∃ e, x.run.run s = (.error e, s) ∧ (x >>= f).run.run s = (.error e, s)) ∨
      ∃ a, x.run.run s = (.ok a, s) ∧ (x >>= f).run.run s = (f a).run.run s := by
  have hsame : s = (x.run.run s).2 := h s
  cases hrun : x.run.run s with
  | mk result t =>
    rw [hrun] at hsame
    subst hsame
    cases result with
    | error e => exact .inl ⟨e, rfl, run_bind_of_error hrun f⟩
    | ok a => exact .inr ⟨a, rfl, run_bind_of_ok hrun f⟩

end State

end TaggedPage
