/-
This file defines programs that work only by asking questions.
Who answers, and what an answer costs, is decided when such a program is run.
-/

namespace ContentMount

/-- A dialogue is over, or it asks one question and goes on with the answer. -/
inductive Dialogue (Question : Type) (Answer : Question → Type) (α : Type) where
  | done (result : α)
  | ask (question : Question) (next : Answer question → Dialogue Question Answer α)

namespace Dialogue

variable {Question : Type} {Answer : Question → Type} {α β : Type}

/-- The second dialogue starts where the first is over. -/
def bind : Dialogue Question Answer α → (α → Dialogue Question Answer β) →
    Dialogue Question Answer β
  | .done result, f => f result
  | .ask question next, f => .ask question fun answer => (next answer).bind f

instance : Monad (Dialogue Question Answer) where
  pure := .done
  bind := bind

/-- The dialogue of a single question. -/
def question (q : Question) : Dialogue Question Answer (Answer q) :=
  .ask q .done

/-- A respondent answers each question and may change with every answer. -/
def run {σ : Type} (respond : (q : Question) → StateM σ (Answer q)) :
    Dialogue Question Answer α → StateM σ α
  | .done result, state => (result, state)
  | .ask question next, state =>
    let step := respond question state
    (next step.1).run respond step.2

@[simp] theorem bind_done (result : α) (f : α → Dialogue Question Answer β) :
    (Dialogue.done result).bind f = f result := rfl

@[simp] theorem bind_ask (q : Question) (next : Answer q → Dialogue Question Answer α)
    (f : α → Dialogue Question Answer β) :
    (Dialogue.ask q next).bind f = .ask q fun answer => (next answer).bind f := rfl

@[simp] theorem bind_pure_done (dialogue : Dialogue Question Answer α) :
    dialogue.bind .done = dialogue := by
  induction dialogue with
  | done => rfl
  | ask q next ih => simp [ih]

theorem bind_assoc {γ : Type} (dialogue : Dialogue Question Answer α)
    (f : α → Dialogue Question Answer β) (g : β → Dialogue Question Answer γ) :
    (dialogue.bind f).bind g = dialogue.bind fun a => (f a).bind g := by
  induction dialogue with
  | done => rfl
  | ask q next ih => simp [ih]

instance : LawfulMonad (Dialogue Question Answer) :=
  LawfulMonad.mk' _ bind_pure_done (fun _ _ => rfl) bind_assoc

/-- Running one dialogue after another passes the respondent on. -/
theorem run_bind {σ : Type} (respond : (q : Question) → StateM σ (Answer q))
    (dialogue : Dialogue Question Answer α) (f : α → Dialogue Question Answer β) (state : σ) :
    (dialogue.bind f).run respond state =
      (f (dialogue.run respond state).1).run respond (dialogue.run respond state).2 := by
  induction dialogue generalizing state with
  | done => rfl
  | ask q next ih => simp [run, ih]

end Dialogue

end ContentMount
