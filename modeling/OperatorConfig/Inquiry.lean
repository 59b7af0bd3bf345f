/-!
# Computations that ask

What the operator does with its collaborators (the store of secrets, the database, the cluster) is an
`Inquiry`: a computation that asks questions, goes on with the answers, and leaves notes for the log. It
says what is asked in which order and leaves open who answers, so that the same computation runs against
a cluster, against a script, or against a function from questions to answers.
-/

namespace OperatorConfig

/-- A computation with questions `Q`, whose answers are `A`, and notes `N`. -/
inductive Inquiry (Q : Type) (A : Q → Type) (N : Type) (α : Type) where
  | done (value : α)
  | note (entry : N) (rest : Inquiry Q A N α)
  | ask (question : Q) (next : A question → Inquiry Q A N α)

namespace Inquiry

variable {Q : Type} {A : Q → Type} {N : Type} {α β : Type}

/-- Goes on with the value of a computation. -/
def bind (inquiry : Inquiry Q A N α) (next : α → Inquiry Q A N β) : Inquiry Q A N β :=
  match inquiry with
  | .done value => next value
  | .note entry rest => .note entry (rest.bind next)
  | .ask question answered => .ask question fun answer => (answered answer).bind next

instance : Monad (Inquiry Q A N) where
  pure := .done
  bind := bind

def noted (entry : N) : Inquiry Q A N Unit := .note entry (.done ())

def notes (entries : List N) : Inquiry Q A N Unit :=
  entries.foldr .note (.done ())

def question (q : Q) : Inquiry Q A N (A q) := .ask q .done

/-- Runs a computation: `answer` answers its questions and `write` takes its notes. -/
def run {m : Type → Type} [Monad m] (answer : (q : Q) → m (A q)) (write : N → m Unit) :
    Inquiry Q A N α → m α
  | .done value => pure value
  | .note entry rest => do
      write entry
      rest.run answer write
  | .ask question next => do
      (next (← answer question)).run answer write

/-- The value of a computation whose questions a function answers. -/
def value (answer : (q : Q) → A q) : Inquiry Q A N α → α
  | .done value => value
  | .note _ rest => rest.value answer
  | .ask question next => (next (answer question)).value answer

/-- The questions that a computation asks when a function answers them. -/
def asked (answer : (q : Q) → A q) : Inquiry Q A N α → List Q
  | .done _ => []
  | .note _ rest => rest.asked answer
  | .ask question next => question :: (next (answer question)).asked answer

/-- Answers each question by a computation that asks others. -/
def through {Q' : Type} {A' : Q' → Type} (answer : (q : Q) → Inquiry Q' A' N (A q)) :
    Inquiry Q A N α → Inquiry Q' A' N α
  | .done value => .done value
  | .note entry rest => .note entry (rest.through answer)
  | .ask question next => (answer question).bind fun given => (next given).through answer

@[simp] theorem value_bind (answer : (q : Q) → A q) (inquiry : Inquiry Q A N α)
    (next : α → Inquiry Q A N β) :
    (inquiry.bind next).value answer = (next (inquiry.value answer)).value answer := by
  induction inquiry with
  | done => rfl
  | note _ _ ih => exact ih
  | ask q _ ih => exact ih (answer q)

@[simp] theorem asked_bind (answer : (q : Q) → A q) (inquiry : Inquiry Q A N α)
    (next : α → Inquiry Q A N β) :
    (inquiry.bind next).asked answer
      = inquiry.asked answer ++ (next (inquiry.value answer)).asked answer := by
  induction inquiry with
  | done => rfl
  | note _ _ ih => exact ih
  | ask q _ ih => exact congrArg (q :: ·) (ih (answer q))

end Inquiry

end OperatorConfig
