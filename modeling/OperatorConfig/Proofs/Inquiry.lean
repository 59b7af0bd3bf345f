import OperatorConfig.Operator

/-!
# What a computation answers and asks

The value of a computation and the list of its questions, step by step along `do` notation. Notes for the
log change neither.
-/

namespace OperatorConfig

namespace Inquiry

variable {Q : Type} {A : Q → Type} {N : Type} {α β : Type}

@[simp] theorem bind_eq_bind (inquiry : Inquiry Q A N α) (next : α → Inquiry Q A N β) :
    inquiry >>= next = inquiry.bind next := rfl

@[simp] theorem value_pure (answer : (q : Q) → A q) (a : α) :
    (pure a : Inquiry Q A N α).value answer = a := rfl

@[simp] theorem asked_pure (answer : (q : Q) → A q) (a : α) :
    (pure a : Inquiry Q A N α).asked answer = [] := rfl

@[simp] theorem asked_notes (answer : (q : Q) → A q) (entries : List N) :
    (notes entries : Inquiry Q A N Unit).asked answer = [] := by
  induction entries with
  | nil => rfl
  | cons entry rest ih => exact ih

/-- Only the answers to what is asked matter. -/
theorem value_asked_congr (answer other : (q : Q) → A q) (inquiry : Inquiry Q A N α)
    (h : ∀ q ∈ inquiry.asked answer, answer q = other q) :
    inquiry.value answer = inquiry.value other ∧ inquiry.asked answer = inquiry.asked other := by
  induction inquiry with
  | done => exact ⟨rfl, rfl⟩
  | note _ _ ih => exact ih h
  | ask q next ih =>
      have hq : answer q = other q := h q List.mem_cons_self
      obtain ⟨hvalue, hasked⟩ := ih (answer q) fun q' hmem => h q' (List.mem_cons_of_mem q hmem)
      simp only [value, asked]
      rw [hvalue, hasked, hq]
      exact ⟨rfl, rfl⟩

end Inquiry

namespace Operator

variable (answer : (q : Question) → q.Answer)

@[simp] theorem value_secrets (name namespaceName : String) :
    (secrets name namespaceName).value answer = answer (.secrets name namespaceName) := rfl

@[simp] theorem value_containers (namespaceName : String) :
    (containers namespaceName).value answer = answer (.containers namespaceName) := rfl

@[simp] theorem value_runningBanner (connection : Connection) :
    (runningBanner connection).value answer = answer (.runningBanner connection) := rfl

@[simp] theorem value_targetBanner (namespaceName : String) :
    (targetBanner namespaceName).value answer = answer (.targetBanner namespaceName) := rfl

@[simp] theorem value_routeHost (namespaceName : String) :
    (routeHost namespaceName).value answer = answer (.routeHost namespaceName) := rfl

@[simp] theorem asked_secrets (name namespaceName : String) :
    (secrets name namespaceName).asked answer = [.secrets name namespaceName] := rfl

@[simp] theorem asked_containers (namespaceName : String) :
    (containers namespaceName).asked answer = [.containers namespaceName] := rfl

@[simp] theorem asked_runningBanner (connection : Connection) :
    (runningBanner connection).asked answer = [.runningBanner connection] := rfl

@[simp] theorem asked_targetBanner (namespaceName : String) :
    (targetBanner namespaceName).asked answer = [.targetBanner namespaceName] := rfl

@[simp] theorem asked_note (event : Event) : (note event).asked answer = [] := rfl

@[simp] theorem asked_notes (events : List Event) : (notes events).asked answer = [] :=
  Inquiry.asked_notes answer events

/-- The answers of a cluster in which there is nothing. -/
def nothing : (q : Question) → q.Answer
  | .secrets _ _ => .ok none
  | .containers _ => .ok none
  | .runningBanner _ => .ok ""
  | .targetBanner _ => .ok ""
  | .routeHost _ => .ok none

/-- The answers, with the given data as what is stored. -/
def storing (stored : Option Table) (answer : (q : Question) → q.Answer) :
    (q : Question) → q.Answer
  | .secrets _ _ => .ok stored
  | .containers namespaceName => answer (.containers namespaceName)
  | .runningBanner connection => answer (.runningBanner connection)
  | .targetBanner namespaceName => answer (.targetBanner namespaceName)
  | .routeHost namespaceName => answer (.routeHost namespaceName)

/-- The answers, with a database that shows its banner only to those who know its password. -/
def guarding (password : String) (answer : (q : Question) → q.Answer) : (q : Question) → q.Answer
  | .secrets name namespaceName => answer (.secrets name namespaceName)
  | .containers namespaceName => answer (.containers namespaceName)
  | .runningBanner connection =>
      if connection.password = password then answer (.runningBanner connection)
      else .error (.versionProbe "password authentication failed")
  | .targetBanner namespaceName => answer (.targetBanner namespaceName)
  | .routeHost namespaceName => answer (.routeHost namespaceName)

end Operator

end OperatorConfig
