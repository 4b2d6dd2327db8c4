import RequestCredentials.Evaluation.Decoding
import RequestCredentials.Evaluation.Selection
/-
  Running a sequence of operations

  The operations of a sequence are applied one after another, and the first
  failure is the failure of the whole. An alternation runs its branches on the
  same value: the first success is its result, and if all fail it fails with
  all their failures. A run never breaks down: a fault of a step becomes a
  failure of the sequence it stands in.
-/

namespace RequestCredentials

/-- The result of a step in a sequence. -/
def settle (step : OperationKind) : Answer → Except Failure Value
  | .ok result => result
  | .error fault => .error (.brokeDown step fault)

mutual

/-- Applies one operation. -/
def Operation.apply (v : Value) : Operation → Except Failure Value
  | .decode kind => settle .decode (v.decode kind)
  | .lookup selector => settle .lookup (v.lookup selector)
  | .alternation branches =>
    match firstSuccess v branches with
    | .ok w => .ok w
    | .error failures => .error (.exhausted failures)

/-- Applies the operations one after another. -/
def run (v : Value) : List Operation → Except Failure Value
  | [] => .ok v
  | op :: rest =>
    match op.apply v with
    | .ok w => run w rest
    | .error failure => .error failure

/-- The result of the first branch that succeeds, or the failures of all. -/
def firstSuccess (v : Value) : List (List Operation) → Except (List Failure) Value
  | [] => .error []
  | branch :: rest =>
    match run v branch with
    | .ok w => .ok w
    | .error failure => (firstSuccess v rest).mapError (failure :: ·)

end

theorem run_append (v : Value) (first second : List Operation) :
    run v (first ++ second) =
      match run v first with
      | .ok w => run w second
      | .error failure => .error failure := by
  induction first generalizing v with
  | nil => rfl
  | cons op rest ih =>
    simp only [List.cons_append, run]
    cases op.apply v with
    | ok w => exact ih w
    | error failure => rfl

/-- Unwraps a seed by the operations of a location. -/
def Location.unwrap (l : Location) (seed : Value) : Except Failure Value := run seed l.ops

end RequestCredentials
