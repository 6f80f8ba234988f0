import Mathlib.Data.List.Infix

/-! # The stages of a non-streaming request

Modelled from the spec (§4.3): the state machine of a non-streaming request,
`RECEIVED → NORMALIZED → MODEL_CALL_CHECKED → FORWARDED → RESPONSE_NORMALIZED →
TOOL_CALLS_CHECKED → MODEL_RESPONSE_CHECKED → RETURNED`, with a terminal `BLOCKED`, and a terminal
`FAILED` for the error responses of §7.

A run of the machine is a list of events, one for each step that happens: a check that passed,
the forwarding, the return, a block, a failure. `accepts s evs` is the stage the events lead to
from `s`, or `none` when one of them is not allowed where it comes.

Transcription choices:

* Parsing and normalizing make no call, so `NORMALIZED` is merged into `received` and
  `RESPONSE_NORMALIZED` into `forwarded`.
* The spec places no stage for the checks of embedded tool responses; they are checks of the
  inbound request and loop on `received`. The checks of the function calls of a response loop on
  `toolCallsChecked`, which a response with no function call skips.
* A block may come at every stage before `RETURNED`, and so may a failure.
-/

namespace Capsem.Stages
set_option autoImplicit false

/-- The stages of a request. -/
inductive Stage where
  | received
  | modelCallChecked
  | forwarded
  | toolCallsChecked
  | modelResponseChecked
  | returned
  | blocked
  | failed
  deriving DecidableEq, Repr

/-- The stages no event leaves. -/
def Stage.terminal : Stage → Bool
  | .returned | .blocked | .failed => true
  | _ => false

/-- What happens at one step of a request. -/
inductive Event where
  /-- `on_tool_response` on an embedded tool response passed. -/
  | toolResponseChecked
  /-- `on_model_call` passed. -/
  | modelCallChecked
  /-- The provider answered. -/
  | forwarded
  /-- `on_tool_call` on a function call of the response passed. -/
  | toolCallChecked
  /-- `on_model_response` passed. -/
  | modelResponseChecked
  /-- The response went back to the client. -/
  | returned
  /-- A check answered `BLOCK`. -/
  | blocked
  /-- A step failed. -/
  | failed
  deriving DecidableEq, Repr

/-- The transitions of the machine. -/
def step : Stage → Event → Option Stage
  | .received, .toolResponseChecked => some .received
  | .received, .modelCallChecked => some .modelCallChecked
  | .modelCallChecked, .forwarded => some .forwarded
  | .forwarded, .toolCallChecked => some .toolCallsChecked
  | .toolCallsChecked, .toolCallChecked => some .toolCallsChecked
  | .forwarded, .modelResponseChecked => some .modelResponseChecked
  | .toolCallsChecked, .modelResponseChecked => some .modelResponseChecked
  | .modelResponseChecked, .returned => some .returned
  | s, .blocked => if s.terminal then none else some .blocked
  | s, .failed => if s.terminal then none else some .failed
  | _, _ => none

/-- The stage a list of events leads to from `s`, if the machine allows each of them. -/
def accepts : Stage → List Event → Option Stage
  | s, [] => some s
  | s, e :: es => (step s e).bind fun s' => accepts s' es

@[simp] theorem accepts_nil (s : Stage) : accepts s [] = some s := rfl

@[simp] theorem accepts_cons (s : Stage) (e : Event) (es : List Event) :
    accepts s (e :: es) = (step s e).bind fun s' => accepts s' es := rfl

theorem accepts_append (s : Stage) (es es' : List Event) :
    accepts s (es ++ es') = (accepts s es).bind fun s' => accepts s' es' := by
  induction es generalizing s with
  | nil => rfl
  | cons e es ih =>
    simp only [List.cons_append, accepts_cons, ih, Option.bind_assoc]

/-- A block ends every stage that is not terminal. -/
theorem step_blocked {s : Stage} (hs : s.terminal = false) : step s .blocked = some .blocked := by
  cases s <;> simp_all [Stage.terminal, step]

/-- A failure ends every stage that is not terminal. -/
theorem step_failed {s : Stage} (hs : s.terminal = false) : step s .failed = some .failed := by
  cases s <;> simp_all [Stage.terminal, step]

end Capsem.Stages
