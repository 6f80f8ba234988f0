import Capsem.Models

/-! # `capsem.policies.debug_policy.DebugPolicy`

The policy the proxy installs when no configuration directory is given. It blocks a call when the
literal trigger `capsem_block` occurs in the lower-cased text it inspects: the prompt, the model
response, the tool name, the tool arguments flattened by `", ".join(f"{k}={v}" ...)`, or the
tool response flattened by `str()`. Every other interception point answers the safe default.
-/

namespace Capsem.DebugPolicy
set_option autoImplicit false

/-- `DebugPolicy.DEBUG_TRIGGER`. -/
def debugTrigger : String := "capsem_block"

variable (U : UnicodeData)

/-- `'capsem_block' in s.lower()`. -/
def hasTrigger (s : List Char) : Bool := decide (debugTrigger.toList <:+: lower U s)

/-- The decision returned on a match, `f"Detected '{self.DEBUG_TRIGGER}' in {what}"`. -/
def blockDecision (what : String) : Decision :=
  ⟨.block, .policyViolation, "Detected '" ++ debugTrigger ++ "' in " ++ what⟩

/-- `", ".join(f"{k}={v}" for k, v in args.items())`. -/
def argsStr (args : List (String × Json)) : List Char :=
  ", ".toList.intercalate (args.map fun kv => kv.1.toList ++ ['='] ++ kv.2.pyStr U)

/-- `DebugPolicy.on_tool_call`. -/
def onToolCall (tool : Tool) (args : List (String × Json)) : Decision :=
  if hasTrigger U tool.name.toList then blockDecision "tool name"
  else if hasTrigger U (argsStr U args) then blockDecision "tool arguments"
  else defaultSafeDecision

/-- `DebugPolicy.on_tool_response`: the response is flattened by `str(response)`. -/
def onToolResponse (response : Json) : Decision :=
  if hasTrigger U (response.pyStr U) then blockDecision "tool response" else defaultSafeDecision

/-- `DebugPolicy.on_model_call`. -/
def onModelCall (prompt : String) : Decision :=
  if hasTrigger U prompt.toList then blockDecision "prompt" else defaultSafeDecision

/-- `DebugPolicy.on_model_response`. -/
def onModelResponse (response : String) : Decision :=
  if hasTrigger U response.toList then blockDecision "model response" else defaultSafeDecision

/-- The policy's answer at each interception point the endpoints reach. -/
def onCall : SecurityCall → Decision
  | .onToolResponse _ _ _ response => onToolResponse U response
  | .onModelCall _ _ _ _ prompt => onModelCall U prompt
  | .onToolCall _ _ tool args => onToolCall U tool args
  | .onModelResponse _ _ response _ => onModelResponse U response

@[simp] theorem blockDecision_verdict (what : String) : (blockDecision what).verdict = .block := rfl

theorem onModelCall_block_iff (prompt : String) :
    (onModelCall U prompt).verdict = .block ↔ debugTrigger.toList <:+: lower U prompt.toList := by
  unfold onModelCall hasTrigger
  split <;> simp_all [defaultSafeDecision]

theorem onToolResponse_block_iff (response : Json) :
    (onToolResponse U response).verdict = .block ↔
      debugTrigger.toList <:+: lower U (response.pyStr U) := by
  unfold onToolResponse hasTrigger
  split <;> simp_all [defaultSafeDecision]

theorem onToolCall_block_iff (tool : Tool) (args : List (String × Json)) :
    (onToolCall U tool args).verdict = .block ↔
      debugTrigger.toList <:+: lower U tool.name.toList ∨
        debugTrigger.toList <:+: lower U (argsStr U args) := by
  unfold onToolCall hasTrigger
  split_ifs <;> simp_all [defaultSafeDecision]

end Capsem.DebugPolicy
