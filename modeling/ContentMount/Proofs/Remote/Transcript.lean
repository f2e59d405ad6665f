/-
This file records the questions that a dialogue asks when it is run, and the answers that it gets.
-/

import ContentMount.Remote.Request
import Mathlib.Data.List.Basic
import Mathlib.Data.List.Infix

namespace ContentMount

namespace Dialogue

variable {Question : Type} {Answer : Question → Type} {α β σ : Type}

/-- The questions that a run asks, in their order. -/
def questions (respond : (q : Question) → StateM σ (Answer q)) :
    Dialogue Question Answer α → σ → List Question
  | .done _, _ => []
  | .ask question next, state =>
    let step := respond question state
    question :: (next step.1).questions respond step.2

/-- The questions of a run with their answers, in their order. -/
def transcript (respond : (q : Question) → StateM σ (Answer q)) :
    Dialogue Question Answer α → σ → List ((q : Question) × Answer q)
  | .done _, _ => []
  | .ask question next, state =>
    let step := respond question state
    ⟨question, step.1⟩ :: (next step.1).transcript respond step.2

theorem map_fst_transcript (respond : (q : Question) → StateM σ (Answer q))
    (dialogue : Dialogue Question Answer α) (state : σ) :
    (dialogue.transcript respond state).map Sigma.fst = dialogue.questions respond state := by
  induction dialogue generalizing state with
  | done result => rfl
  | ask question next ih => simp [transcript, questions, ih]

theorem transcript_bind (respond : (q : Question) → StateM σ (Answer q))
    (dialogue : Dialogue Question Answer α) (f : α → Dialogue Question Answer β) (state : σ) :
    (dialogue.bind f).transcript respond state =
      dialogue.transcript respond state ++
        (f (dialogue.run respond state).1).transcript respond (dialogue.run respond state).2 := by
  induction dialogue generalizing state with
  | done result => rfl
  | ask question next ih => simp [transcript, run, ih]

/-- Two respondents that have given the same answers so far are asked the same question next. -/
theorem questions_prefix {τ : Type} {respond : (q : Question) → StateM σ (Answer q)}
    {other : (q : Question) → StateM τ (Answer q)} (dialogue : Dialogue Question Answer α)
    {state : σ} {otherState : τ} {before : List ((q : Question) × Answer q)}
    {last : (q : Question) × Answer q}
    (split : dialogue.transcript respond state = before ++ [last])
    (same : before <+: dialogue.transcript other otherState) :
    dialogue.questions respond state <+: dialogue.questions other otherState := by
  induction dialogue generalizing state otherState before with
  | done result => simp [transcript] at split
  | ask question next ih =>
      cases before with
      | nil =>
          obtain ⟨-, rest⟩ := List.cons.inj split
          have none := map_fst_transcript respond (next (respond question state).1)
            (respond question state).2
          rw [rest] at none
          rw [questions, ← none]
          exact ⟨_, rfl⟩
      | cons first before =>
          obtain ⟨rfl, rest⟩ := List.cons.inj split
          obtain ⟨equal, others⟩ := List.cons_prefix_cons.mp same
          rw [questions, questions, List.cons_prefix_cons]
          have answers : (respond question state).1 = (other question otherState).1 :=
            eq_of_heq (Sigma.mk.inj equal).2
          rw [answers] at rest ⊢
          exact ⟨rfl, ih _ rest others⟩

/-- A dialogue asks allowed questions only, whatever the answers are. -/
inductive Asks (allowed : Question → Prop) : Dialogue Question Answer α → Prop where
  | done (result : α) : Asks allowed (.done result)
  | ask {question : Question} {next : Answer question → Dialogue Question Answer α}
      (first : allowed question) (later : ∀ answer, Asks allowed (next answer)) :
      Asks allowed (.ask question next)

theorem Asks.bind {allowed : Question → Prop} {dialogue : Dialogue Question Answer α}
    {f : α → Dialogue Question Answer β} (first : dialogue.Asks allowed)
    (second : ∀ result, (f result).Asks allowed) : (dialogue.bind f).Asks allowed := by
  induction first with
  | done result => exact second result
  | ask first _ ih => exact .ask first ih

/-- Every question in a run of such a dialogue is allowed. -/
theorem Asks.of_mem_questions {allowed : Question → Prop}
    {dialogue : Dialogue Question Answer α} (asks : dialogue.Asks allowed)
    (respond : (q : Question) → StateM σ (Answer q)) (state : σ) {question : Question}
    (member : question ∈ dialogue.questions respond state) : allowed question := by
  induction asks generalizing state with
  | done result => simp [questions] at member
  | @ask other next first _ ih =>
      rcases List.mem_cons.mp member with rfl | later
      · exact first
      · exact ih _ _ later

/-- What every allowed question keeps is kept by the whole dialogue. -/
theorem Asks.keeps {allowed : Question → Prop} {dialogue : Dialogue Question Answer α}
    (asks : dialogue.Asks allowed) {respond : (q : Question) → StateM σ (Answer q)}
    (kept : σ → Prop) (each : ∀ state question, kept state → allowed question →
      kept (respond question state).2)
    {state : σ} (holds : kept state) : kept (dialogue.run respond state).2 := by
  induction asks generalizing state with
  | done result => exact holds
  | @ask question _ first _ ih => exact ih _ (each state question holds first)

end Dialogue

namespace Remote

/-- The requests that a program sends to a store from a state on. -/
def Store.requests {σ α : Type} (store : Store σ) (program : Asking α) (state : σ) :
    List Request :=
  program.questions store.answer state

/-- A request with the answer to it. -/
abbrev Answered : Type := (request : Request) × request.Answer

/-- What a program and a store exchange from a state on. -/
def Store.transcript {σ α : Type} (store : Store σ) (program : Asking α) (state : σ) :
    List Answered :=
  Dialogue.transcript store.answer program state

/-- The same store with a record of every exchange. -/
def Store.recorded {σ : Type} (store : Store σ) : Store (σ × List Answered) where
  name := store.name
  answer request := fun (state, log) =>
    let (answer, next) := store.answer request state
    (answer, next, log ++ [⟨request, answer⟩])

/-- A recorded run goes as the run itself and records its transcript. -/
theorem run_recorded {σ α : Type} (store : Store σ) (program : Asking α) (state : σ)
    (log : List Answered) :
    store.recorded.run program (state, log) =
      ((store.run program state).1, (store.run program state).2,
        log ++ store.transcript program state) := by
  induction program generalizing state log with
  | done result => simp [Store.run, Dialogue.run, Store.transcript, Dialogue.transcript]
  | ask request next ih =>
      refine (ih _ _ _).trans ?_
      simp only [List.append_assoc, List.singleton_append]
      rfl

end Remote

end ContentMount
