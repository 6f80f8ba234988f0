import Capsem.Python.Json

/-! # The canonical event and decision model: `capsem.models` and `capsem.tools`

Neither module is among the sources; the proxy only imports them. What it uses of them is modelled
from the spec (§3, §4.1):

* `Verdict`, `Reason`, `Decision`: what a policy, and the security manager, answer.
* `Tool`: a declared or called tool. Its description is never empty, so the structure carries
  that as a field and `Tool.validate`, the pydantic constructor, is the one way the proxy builds it.
* `Agent`: the request-scoped identity handed to every policy call.
* `SecurityCall`: the four interception points the Gemini endpoints reach, with their arguments.
  The `media` argument is always `[]` there and is left out.
-/

namespace Capsem
set_option autoImplicit false

/-- Modelled from the spec: `capsem.models.Verdict`. -/
inductive Verdict where
  | allow
  | confirm
  | block
  deriving Repr, DecidableEq

/-- Modelled from the spec: `capsem.models.Reason`, with the members the sources name. -/
inductive Reason where
  | policyViolation
  | safe
  deriving Repr, DecidableEq

/-- Modelled from the spec: `capsem.models.Decision`, an immutable `{verdict, reason, details}`. -/
structure Decision where
  verdict : Verdict
  reason : Reason
  details : String
  deriving Repr, DecidableEq

/-- Modelled from the spec: `capsem.models.DEFAULT_SAFE_DECISION`, the no-opinion answer `ALLOW`
with reason `SAFE`. The spec gives it no details. -/
def defaultSafeDecision : Decision := ⟨.allow, .safe, ""⟩

/-- Modelled from the spec: `capsem.tools.Tool`. A tool has a `name`, a `description` that is
never empty, and `parameters`, a schema the pipeline forwards without reading. -/
structure Tool where
  name : String
  description : String
  parameters : Json
  description_ne : description ≠ ""

/-- Modelled from the spec: the pydantic constructor `Tool(name=..., description=...,
parameters=...)`. It raises a `ValidationError`, a `ValueError`, when the name is not a string or
the description is not a non-empty string. -/
def Tool.validate (name description parameters : Json) : Except PyExc Tool :=
  match name, description with
  | .str n, .str d =>
    if h : d = "" then .error (.valueError "1 validation error for Tool: description")
    else .ok ⟨n, d, parameters, h⟩
  | .str _, _ => .error (.valueError "1 validation error for Tool: description")
  | _, _ => .error (.valueError "1 validation error for Tool: name")

/-- A `Tool` is built only from a string name and a string description, which it keeps. -/
theorem Tool.validate_ok {name description parameters : Json} {t : Tool}
    (h : Tool.validate name description parameters = .ok t) :
    name = .str t.name ∧ description = .str t.description ∧ parameters = t.parameters := by
  unfold Tool.validate at h
  split at h
  · split at h
    · cases h
    · cases h
      exact ⟨rfl, rfl, rfl⟩
  all_goals cases h

/-- Modelled from the spec: `capsem.models.Agent`, the request's identity and declared tools. -/
structure Agent where
  name : String
  instructions : String
  tools : List Tool

/-- The interception points the Gemini endpoints call, with the arguments they pass. -/
inductive SecurityCall where
  | onToolResponse (invocationId : String) (agent : Agent) (tool : Tool) (response : Json)
  | onModelCall (invocationId : String) (agent : Agent) (modelName systemInstructions prompt : String)
  | onToolCall (invocationId : String) (agent : Agent) (tool : Tool) (args : List (String × Json))
  | onModelResponse (invocationId : String) (agent : Agent) (response thoughts : String)

/-- The agent a call carries. -/
def SecurityCall.agent : SecurityCall → Agent
  | .onToolResponse _ a _ _ | .onModelCall _ a _ _ _ | .onToolCall _ a _ _
  | .onModelResponse _ a _ _ => a

/-- The inbound interception points, which gate the request before it is forwarded. -/
def SecurityCall.inbound : SecurityCall → Bool
  | .onToolResponse .. | .onModelCall .. => true
  | .onToolCall .. | .onModelResponse .. => false

end Capsem
