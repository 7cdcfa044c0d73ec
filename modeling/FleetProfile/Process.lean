/-!
Computations in steps. Nothing comes between the two ends of a step; between two steps of one
computation, steps of another may come.
-/
namespace FleetProfile

/-- A computation on a state, which gives an `α` in the end. -/
inductive Process (S α : Type) where
  | done (a : α)
  | step {β : Type} (act : S → β × S) (next : β → Process S α)

namespace Process

def bind : Process S α → (α → Process S β) → Process S β
  | done a, f => f a
  | step act next, f => step act fun b => (next b).bind f

instance : Monad (Process S) where
  pure := done
  bind := bind

/-- A single step. -/
def atom (act : S → α × S) : Process S α :=
  step act done

/-- All steps of a computation from a state on, with nothing between them. -/
def run : Process S α → S → α × S
  | done a, s => (a, s)
  | step act next, s =>
    let (b, s) := act s
    (next b).run s

/-- The next step of either of two computations, as the state decides. -/
def either (first : S → Bool × S) (act : S → β × S) (act' : S → γ × S) (s : S) :
    (β ⊕ γ) × S :=
  let (isFirst, s) := first s
  if isFirst then
    let (b, s) := act s
    (.inl b, s)
  else
    let (c, s) := act' s
    (.inr c, s)

/--
A step `act` and what `left` makes of it, beside another computation; `alone` is for what is left
when that one is done.
-/
def beside (first : S → Bool × S) (act : S → δ × S) (left : δ → Process S β → Process S γ)
    (alone : β → Process S γ) : Process S β → Process S γ
  | done b => alone b
  | step act' next' =>
    step (either first act act') fun
      | .inl b => left b (step act' next')
      | .inr c => beside first act left alone (next' c)

/-- Two computations side by side. Before each step `first` decides which of them it is one of. -/
def both (first : S → Bool × S) : Process S α → Process S β → Process S (α × β)
  | done a, q => do
    let b ← q
    done (a, b)
  | step act next, q =>
    beside first act (fun b => both first (next b))
      (fun b => do
        let a ← step act next
        done (a, b)) q

/-- Computations side by side, with their results in order. -/
def all (first : S → Bool × S) : List (Process S α) → Process S (List α)
  | [] => done []
  | p :: ps => do
    let (a, as) ← both first p (all first ps)
    done (a :: as)

end Process

end FleetProfile
