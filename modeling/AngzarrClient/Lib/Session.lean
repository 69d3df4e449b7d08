/-
Machines that answer one request after the other.  A service that is sent the log of all
that happened with every request answers like one that keeps a state, if it looks at the
log only through a view that follows what is appended.
-/
import Mathlib.Data.List.Basic

universe u v w x y

namespace Session

variable {σ : Type u} {τ : Type v} {ι : Type w} {ω : Type x} {E : Type y}

/-- The answers to the requests, each in the state that the requests before it left. -/
def answers (step : σ → ι → ω × σ) : σ → List ι → List ω
  | _, [] => []
  | s, request :: rest => (step s request).1 :: answers step (step s request).2 rest

/-- Machines related by a view of the state answer alike. -/
theorem answers_of_view {step : σ → ι → ω × σ} {step' : τ → ι → ω × τ} {view : σ → τ}
    (hanswer : ∀ s request, (step s request).1 = (step' (view s) request).1)
    (hnext : ∀ s request, view (step s request).2 = (step' (view s) request).2)
    (s : σ) (requests : List ι) :
    answers step s requests = answers step' (view s) requests := by
  induction requests generalizing s with
  | nil => rfl
  | cons request rest ih => rw [answers, answers, hanswer, ih, hnext]

/-- A turn: a request, and what is appended to the log once it is answered. -/
structure Turn (ι : Type w) (ω : Type x) (E : Type y) where
  request : ι
  append : ω → List E

/-- The service reads the log. -/
def logStep (answer : List E → ι → ω) (log : List E) (turn : Turn ι ω E) : ω × List E :=
  (answer log turn.request, log ++ turn.append (answer log turn.request))

/-- The service keeps a state, which follows the log. -/
def liveStep (answer : τ → ι → ω) (advance : τ → List E → τ) (state : τ)
    (turn : Turn ι ω E) : ω × τ :=
  (answer state turn.request, advance state (turn.append (answer state turn.request)))

theorem answers_logStep {answer : List E → ι → ω} {answer' : τ → ι → ω}
    {advance : τ → List E → τ} {view : List E → τ}
    (hanswer : ∀ log request, answer log request = answer' (view log) request)
    (hview : ∀ log more, view (log ++ more) = advance (view log) more)
    (log : List E) (turns : List (Turn ι ω E)) :
    answers (logStep answer) log turns =
      answers (liveStep answer' advance) (view log) turns := by
  apply answers_of_view
  · intro log turn
    exact hanswer log turn.request
  · intro log turn
    rw [logStep, liveStep, hview, hanswer]

end Session
