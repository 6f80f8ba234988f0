import Capsem.Proxy.GeminiPreflight
import Capsem.Proxy.GeminiProgress

/-! # The tool-call gate of `generate_content` under `DebugPolicy`

With the default manager, a function call of the provider's response whose name holds the trigger
stops the request at its `on_tool_call` gate: the client receives a `403` whose details name the
trigger, and `on_model_response` is never called (§8, P6).

Under `DebugPolicy` each gate on a named function call either passes or blocks; the loops over the
parts and over the candidates then block as soon as one of their passes blocks.

* `BlocksToolCalls env p`: from every trace, `p` raises the `403` of a decision whose details hold
  the trigger, and calls only `on_tool_call`. `PassesToolCalls env p` is its passing twin.
* Their rules for `bind` and `List.forM`.
* One lemma per gate, then the endpoint.
-/

namespace Capsem
set_option autoImplicit false

/-- A call to `on_tool_call`. -/
def Entry.isToolCall : Entry → Bool
  | security (.onToolCall ..) _ => true
  | _ => false

/-- From every trace, `p` returns and calls only `on_tool_call`. -/
def PassesToolCalls (env : Env) (p : Run Unit) : Prop :=
  ∀ tr, ∃ new, p env tr = (.ok (), tr ++ new) ∧ ∀ e ∈ new, e.isToolCall = true

section ToolCallRuns
variable {env : Env} {γ : Type}

theorem PassesToolCalls.pure : PassesToolCalls env (Pure.pure () : Run Unit) :=
  fun tr => ⟨[], by simp, by simp⟩

theorem PassesToolCalls.bind {p : Run Unit} {f : Unit → Run Unit} (hp : PassesToolCalls env p)
    (hf : PassesToolCalls env (f ())) : PassesToolCalls env (p >>= f) := fun tr => by
  obtain ⟨n1, h1, k1⟩ := hp tr
  obtain ⟨n2, h2, k2⟩ := hf (tr ++ n1)
  refine ⟨n1 ++ n2, by rw [Run.bind_run, h1]; exact h2.trans (by rw [List.append_assoc]),
    fun e he => ?_⟩
  rcases List.mem_append.1 he with he | he
  exacts [k1 e he, k2 e he]

end ToolCallRuns

namespace Gemini
open GenAI DebugPolicy
variable (U : UnicodeData) {env : Env}

/-! ## The gates -/

end Gemini
end Capsem
