import Capsem.Proxy.GeminiPreflight

/-! # What the client does not see of a failure

A failure of the provider, or an unexpected exception of the security manager or the provider,
reaches the client only through the `except` clauses, which keep the status of an
`httpx.HTTPStatusError` and drop every message (§7). So two environments whose answers differ
only in those messages give both endpoints the same answer.

* `PyExc.scrub`, `Entry.scrub`: an exception, a call, with those messages erased.
* `Env.Alike env env'`: at calls alike, the two environments answer alike, and their runtimes
  give the same user ids and invocation id.
* `Hides p`: two runs of `p`, in environments alike and from calls alike, end alike and add calls
  alike. It holds of the primitives and `bind` and `List.forM` keep it; a phase that reads the
  environment keeps it when it reads only the runtime's values.
* An `except` clause that maps alike exceptions to one answer turns `Hides` into equal answers.
-/

namespace Capsem
set_option autoImplicit false

/-- An exception with the messages a client must not see erased: those of an upstream failure and
of an unexpected exception. -/
def PyExc.scrub : PyExc → PyExc
  | .httpStatusError s _ => .httpStatusError s ""
  | .httpError _ => .httpError ""
  | .other _ => .other ""
  | x => x

/-- A call with the messages of its outcome erased. -/
def Entry.scrub : Entry → Entry
  | .security c o => .security c (o.mapError PyExc.scrub)
  | .generateContent m b k o => .generateContent m b k (o.mapError PyExc.scrub)
  | .generateContentStream m b k o => .generateContentStream m b k (o.mapError PyExc.scrub)

/-- Two environments alike but for the messages of their failures. -/
structure Env.Alike (env env' : Env) : Prop where
  securityManager : ∀ tr tr', tr.map Entry.scrub = tr'.map Entry.scrub → ∀ c,
    (env.securityManager tr c).mapError PyExc.scrub =
      (env'.securityManager tr' c).mapError PyExc.scrub
  generateContent : ∀ tr tr', tr.map Entry.scrub = tr'.map Entry.scrub → ∀ m b k,
    (env.generateContent tr m b k).mapError PyExc.scrub =
      (env'.generateContent tr' m b k).mapError PyExc.scrub
  generateContentStream : ∀ tr tr', tr.map Entry.scrub = tr'.map Entry.scrub → ∀ m b k,
    (env.generateContentStream tr m b k).mapError PyExc.scrub =
      (env'.generateContentStream tr' m b k).mapError PyExc.scrub
  userIdOf : env.userIdOf = env'.userIdOf
  requestId : env.requestId = env'.requestId

/-- Two runs of `p`, in environments alike and from calls alike, end alike and add calls alike. -/
def Hides {α : Type} (p : Run α) : Prop :=
  ∀ env env', env.Alike env' → ∀ tr tr', tr.map Entry.scrub = tr'.map Entry.scrub →
    (p env tr).1.mapError PyExc.scrub = (p env' tr').1.mapError PyExc.scrub ∧
      (p env tr).2.map Entry.scrub = (p env' tr').2.map Entry.scrub

namespace Hides
variable {α β γ : Type}

/-- A computation that makes no call and whose result does not depend on the environment. -/
theorem const {p : Run α} (x : Except PyExc α) (h : ∀ env tr, p env tr = (x, tr)) : Hides p :=
  fun env env' _ tr tr' htr => by
    rw [h env tr, h env' tr']
    exact ⟨rfl, htr⟩

theorem pure (a : α) : Hides (Pure.pure a : Run α) := const (.ok a) fun _ _ => rfl

theorem lift (x : Except PyExc α) : Hides (Run.lift x) := const x fun _ _ => rfl

theorem raiseOnBlock (msg : String) (d : Decision) : Hides (Run.raiseOnBlock msg d) :=
  const (if d.verdict = .block then .error (.httpException 403 (msg ++ d.details)) else .ok ())
    fun _ _ => by by_cases hv : d.verdict = .block <;> simp only [Run.raiseOnBlock, hv,
      ↓reduceIte] <;> rfl

theorem ask (c : SecurityCall) : Hides (Run.ask c) := fun _ _ hA tr tr' htr => by
  have hc := hA.securityManager tr tr' htr c
  refine ⟨hc, ?_⟩
  simp only [Run.ask_run, List.map_append, List.map_cons, List.map_nil, Entry.scrub, htr, hc]

theorem generateContent (m : String) (b : Json) (k : String) :
    Hides (Run.generateContent m b k) := fun _ _ hA tr tr' htr => by
  have hc := hA.generateContent tr tr' htr m b k
  refine ⟨hc, ?_⟩
  simp only [Run.generateContent, List.map_append, List.map_cons, List.map_nil, Entry.scrub, htr,
    hc]

theorem generateContentStream (m : String) (b : Json) (k : String) :
    Hides (Run.generateContentStream m b k) := fun _ _ hA tr tr' htr => by
  have hc := hA.generateContentStream tr tr' htr m b k
  refine ⟨hc, ?_⟩
  simp only [Run.generateContentStream, List.map_append, List.map_cons, List.map_nil, Entry.scrub,
    htr, hc]

/-- Results alike are both values, then equal, or both exceptions. -/
theorem ok_of_alike {r r' : Except PyExc α} {a : α}
    (h : r.mapError PyExc.scrub = r'.mapError PyExc.scrub) (hr : r = .ok a) : r' = .ok a := by
  subst hr
  rcases r' with _ | _ <;> simp_all [Except.mapError]

theorem bind {p : Run α} {f : α → Run β} (hp : Hides p) (hf : ∀ a, Hides (f a)) :
    Hides (p >>= f) := fun env env' hA tr tr' htr => by
  obtain ⟨hr, htr1⟩ := hp env env' hA tr tr' htr
  rw [Run.bind_run, Run.bind_run]
  rcases hx : p env tr with ⟨x | a, tr1⟩
  · rcases hy : p env' tr' with ⟨y | b, tr2⟩
    · rw [hx, hy] at hr htr1
      dsimp only at hr htr1 ⊢
      simp only [Except.mapError, Except.error.injEq] at hr ⊢
      exact ⟨hr, htr1⟩
    · rw [hx, hy] at hr
      cases hr
  · rw [hx] at hr htr1
    have hy := ok_of_alike hr rfl
    rcases hp' : p env' tr' with ⟨y, tr2⟩
    rw [hp'] at hy htr1
    cases hy
    dsimp only at htr1 ⊢
    exact hf a env env' hA tr1 tr2 htr1

theorem forM {xs : List γ} {f : γ → Run PUnit} (h : ∀ x ∈ xs, Hides (f x)) :
    Hides (xs.forM f) := by
  induction xs with
  | nil => exact pure _
  | cons x xs ih =>
    exact bind (h x (List.mem_cons_self _ _)) fun _ =>
      ih fun y hy => h y (List.mem_cons_of_mem _ hy)

theorem check (msg : String) (c : SecurityCall) :
    Hides (Run.ask c >>= Run.raiseOnBlock msg) :=
  bind (ask c) (raiseOnBlock msg)

/-- A phase that reads the environment, and uses only what alike environments share. -/
theorem read_bind {f : Env → Run α} (hf : ∀ env env', env.Alike env' → f env = f env')
    (hf' : ∀ env, Hides (f env)) : Hides (Run.read >>= f) := fun env env' hA tr tr' htr => by
  rw [Run.bind_run, Run.bind_run, Run.read_run, Run.read_run]
  dsimp only
  rw [hf env env' hA]
  exact hf' env' env env' hA tr tr' htr

/-- The `except` clauses of an endpoint, when they answer alike exceptions alike: the two runs
answer the same. -/
theorem tryCatch_throw_eq {p : Run α} (h : Hides p) {g : PyExc → PyExc}
    (hg : ∀ x, g x.scrub = g x) {env env' : Env} (hA : env.Alike env') :
    ((Run.tryCatch p fun e => Run.throw (g e)) env []).1 =
      ((Run.tryCatch p fun e => Run.throw (g e)) env' []).1 := by
  rw [Run.tryCatch_throw_run, Run.tryCatch_throw_run]
  have hr := (h env env' hA [] [] rfl).1
  generalize (p env []).1 = r at hr ⊢
  generalize (p env' []).1 = r' at hr ⊢
  rcases r with x | a <;> rcases r' with y | b <;>
    simp only [Except.mapError, Except.error.injEq, Except.ok.injEq, reduceCtorEq] at hr ⊢
  · rw [← hg x, hr, hg]
  · exact hr

end Hides

namespace Gemini
open GenAI

/-! ## The endpoints -/

/-- The context depends on the environment only through the user ids and the invocation id. -/
theorem requestContext_of_alike {env env' : Env} (hA : env.Alike env')
    (jsonError : String → String) (req : Request) : requestContext jsonError env req = requestContext jsonError env' req := by
  simp only [requestContext, hA.userIdOf, hA.requestId]

theorem checkFunctionResponse_hides (requestId : String) (agent : Agent) (fr : FunctionResponse) :
    Hides (checkFunctionResponse requestId agent fr) :=
  Hides.bind (Hides.lift _) fun _ => Hides.check _ _

theorem checkContent_hides (requestId : String) (agent : Agent) (content : Json) :
    Hides (checkContent requestId agent content) := by
  unfold checkContent
  rcases Content.ofJson content with _ | ⟨_ | _ | ⟨p, ps⟩, role⟩
  iterate 3 exact Hides.pure _
  dsimp only
  rcases (p :: ps).getLast?.bind Part.functionResponse with _ | fr
  · exact Hides.pure _
  · exact checkFunctionResponse_hides requestId agent fr

theorem generateContentGates_hides (model : String) (ctx : Context) :
    Hides (generateContentGates model ctx) :=
  Hides.bind (Hides.forM fun c _ => checkContent_hides _ _ c) fun _ => Hides.check _ _

theorem generateContentInbound_hides (req : Request) : Hides (generateContentInbound req) :=
  Hides.read_bind (fun _ _ hA => by simp only [requestContext_of_alike hA]) fun _ =>
    Hides.bind (Hides.lift _) fun _ =>
      Hides.bind (generateContentGates_hides _ _) fun _ => Hides.pure _

theorem checkCandidate_hides (requestId : String) (agent : Agent) (candidate : Candidate) :
    Hides (checkCandidate requestId agent candidate) := by
  unfold checkCandidate
  rcases candidate.content with _ | ⟨_ | _ | ⟨p, ps⟩, role⟩
  iterate 3 exact Hides.pure _
  refine Hides.forM fun part _ => ?_
  rcases part.functionCall with _ | fc
  · exact Hides.pure _
  · exact Hides.bind (Hides.lift _) fun _ => Hides.check _ _

theorem responseGates_hides (ctx : Context) (candidates : List Candidate) :
    Hides (responseGates ctx candidates) :=
  Hides.bind (Hides.forM fun c _ => checkCandidate_hides _ _ c) fun _ => Hides.check _ _

theorem generateContentForward_hides (model : String) (ctx : Context) :
    Hides (generateContentForward model ctx) := by
  refine Hides.bind (Hides.generateContent _ _ _) fun _ =>
    Hides.bind (Hides.lift _) fun r => ?_
  rcases r.candidates with _ | _ | ⟨c, cs⟩
  iterate 2 exact Hides.pure _
  exact Hides.bind (responseGates_hides _ _) fun _ => Hides.pure _

theorem checkToolDef_hides (requestId : String) (agent : Agent) (toolDef : Json) :
    Hides (checkToolDef requestId agent toolDef) := by
  refine Hides.bind (Hides.lift _) fun b => ?_
  cases b
  · exact Hides.pure _
  · exact Hides.bind (Hides.lift _) fun _ => Hides.forM fun _ _ =>
      Hides.bind (Hides.lift _) fun _ => Hides.check _ _

theorem checkTools_hides (requestId : String) (agent : Agent) (tools : Json) :
    Hides (checkTools requestId agent tools) := by
  unfold checkTools
  split
  · exact Hides.bind (Hides.lift _) fun _ => Hides.forM fun d _ => checkToolDef_hides _ _ d
  · exact Hides.pure _

variable (U : UnicodeData)

theorem streamGenerateContentGates_hides (model : String) (ctx : Context) :
    Hides (streamGenerateContentGates U model ctx) :=
  Hides.bind (Hides.lift _) fun _ => Hides.bind (Hides.ask _) fun _ =>
    Hides.bind (Hides.raiseOnBlock _ _) fun _ =>
      Hides.bind (Hides.lift _) fun tools => checkTools_hides _ _ tools

theorem streamGenerateContentInbound_hides (req : Request) :
    Hides (streamGenerateContentInbound U req) :=
  Hides.read_bind (fun _ _ hA => by simp only [requestContext_of_alike hA]) fun _ =>
    Hides.bind (Hides.lift _) fun _ =>
      Hides.bind (streamGenerateContentGates_hides U _ _) fun _ => Hides.pure _

/-- Neither endpoint lets the client see the message of a provider failure or of an unexpected
exception: in two environments that differ only in those messages, `generate_content` gives the
same answer, and so does `stream_generate_content`. -/
theorem gemini_endpoints_hide_failure_messages {env env' : Env} (hA : env.Alike env')
    (req : Request) :
    (generateContent req env []).1 = (generateContent req env' []).1 ∧
      (streamGenerateContent U req env []).1 = (streamGenerateContent U req env' []).1 :=
  ⟨Hides.tryCatch_throw_eq (Hides.bind (generateContentInbound_hides req) fun ctx =>
      generateContentForward_hides req.model ctx) (fun x => by cases x <;> rfl) hA,
    Hides.tryCatch_throw_eq (Hides.bind (streamGenerateContentInbound_hides U req) fun ctx =>
      Hides.generateContentStream _ _ _) (fun x => by cases x <;> rfl) hA⟩

theorem gemini_endpoints_hide_upstream_body :
    Env.Alike (Env.fixed (fun _ => .ok defaultSafeDecision)
        (.error (.httpStatusError 500 "Traceback: upstream internals")))
      (Env.fixed (fun _ => .ok defaultSafeDecision) (.error (.httpStatusError 500 ""))) ∧
    (generateContent weatherRequest (Env.fixed (fun _ => .ok defaultSafeDecision)
        (.error (.httpStatusError 500 "Traceback: upstream internals"))) []).1 =
      (generateContent weatherRequest (Env.fixed (fun _ => .ok defaultSafeDecision)
        (.error (.httpStatusError 500 ""))) []).1 ∧
    (streamGenerateContent .asciiOnly weatherRequest (Env.fixed (fun _ => .ok defaultSafeDecision)
        (.error (.httpStatusError 500 "Traceback: upstream internals"))) []).1 =
      (streamGenerateContent .asciiOnly weatherRequest (Env.fixed
        (fun _ => .ok defaultSafeDecision) (.error (.httpStatusError 500 ""))) []).1 :=
  have hA : Env.Alike (Env.fixed (fun _ => .ok defaultSafeDecision)
        (.error (.httpStatusError 500 "Traceback: upstream internals")))
      (Env.fixed (fun _ => .ok defaultSafeDecision) (.error (.httpStatusError 500 ""))) :=
    ⟨fun _ _ _ _ => rfl, fun _ _ _ _ _ _ => rfl, fun _ _ _ _ _ _ => rfl, rfl, rfl⟩
  ⟨hA, gemini_endpoints_hide_failure_messages .asciiOnly hA weatherRequest⟩

end Gemini
end Capsem
