import Capsem.Proxy.GeminiToolGate
import Capsem.Proxy.GeminiStreamCalls

/-! # The endpoints under `DebugPolicy`, request by request

With the default manager each gate's decision is `DebugPolicy`'s, which blocks exactly the calls
whose text holds the trigger (§8, P1, P2, P6). So each endpoint goes through exactly when none of
the texts its gates check holds the trigger.

* `Decides env p a b`: from every trace, `p` returns `a` when `b` holds and raises when it does
  not. Its rules for the operations of `Run`; under the default manager a check decides that the
  policy does not block its call.
* The proxy runs under the default manager whenever it loaded no configuration.
* One lemma per gate, each deciding that the texts it checks hold no trigger.
* `generateContent_returns_iff_no_trigger`: `generate_content` returns the provider's response
  exactly when no text its gates check holds the trigger.
* `streamGenerateContent_opens_iff_no_trigger`: `stream_generate_content` opens the stream exactly
  when neither its prompt nor the name of a declared function holds the trigger.
-/

namespace Capsem
set_option autoImplicit false

/-- From every trace, `p` returns `a` when `b` holds, and raises when it does not. -/
def Decides {α : Type} (env : Env) (p : Run α) (a : α) (b : Prop) : Prop :=
  ∀ tr, b ∧ (p env tr).1 = .ok a ∨ ¬b ∧ ∃ x, (p env tr).1 = .error x

namespace Decides
variable {env : Env} {α β γ : Type}

theorem congr {p : Run α} {a : α} {b b' : Prop} (h : Decides env p a b) (hb : b ↔ b') :
    Decides env p a b' := by
  rwa [← propext hb]

theorem of_run {p : Run α} {a : α} (h : ∀ tr, (p env tr).1 = .ok a) : Decides env p a True :=
  fun tr => .inl ⟨trivial, h tr⟩

theorem pure (a : α) : Decides env (Pure.pure a : Run α) a True := of_run fun _ => rfl

theorem lift {x : Except PyExc α} {a : α} (hx : x = .ok a) : Decides env (Run.lift x) a True :=
  of_run fun _ => hx

theorem read : Decides env Run.read env True := of_run fun _ => rfl

/-- The provider, when it answers every request with `raw`. -/
theorem generateContent {m : String} {b : Json} {k : String} {raw : Json}
    (h : ∀ tr, env.generateContent tr m b k = .ok raw) :
    Decides env (Run.generateContent m b k) raw True :=
  of_run h

/-- `p >>= f` returns when `p` returns and then `f` on its value returns. -/
theorem bind {p : Run α} {f : α → Run β} {a : α} {c : β} {b d : Prop} (hp : Decides env p a b)
    (hf : Decides env (f a) c d) : Decides env (p >>= f) c (b ∧ d) := fun tr => by
  rw [Run.bind_run]
  rcases hr : p env tr with ⟨r, tr1⟩
  rcases hp tr with ⟨hb, hok⟩ | ⟨hnb, x, herr⟩
  · rw [hr] at hok
    subst hok
    rcases hf tr1 with ⟨hd, h⟩ | ⟨hnd, y, h⟩
    · exact .inl ⟨⟨hb, hd⟩, h⟩
    · exact .inr ⟨fun h' => hnd h'.2, y, h⟩
  · rw [hr] at herr
    subst herr
    exact .inr ⟨fun h' => hnb h'.1, x, rfl⟩

/-- A computation that makes no call and returns `a` leaves the rest to decide. -/
theorem lift_bind {x : Except PyExc α} {a : α} (hx : x = .ok a) {f : α → Run β} {c : β} {d : Prop}
    (hf : Decides env (f a) c d) : Decides env (Run.lift x >>= f) c d :=
  ((lift hx).bind hf).congr (Iff.of_eq (true_and d))

theorem read_bind {f : Env → Run β} {c : β} {d : Prop} (hf : Decides env (f env) c d) :
    Decides env (Run.read >>= f) c d :=
  (read.bind hf).congr (Iff.of_eq (true_and d))

/-- A loop returns when each of its passes returns. -/
theorem forM {xs : List γ} {f : γ → Run PUnit} {B : γ → Prop}
    (h : ∀ x ∈ xs, Decides env (f x) () (B x)) : Decides env (xs.forM f) () (∀ x ∈ xs, B x) := by
  induction xs with
  | nil => exact (pure _).congr (by simp)
  | cons x xs ih =>
    exact ((h x (List.mem_cons_self _ _)).bind
      (ih fun y hy => h y (List.mem_cons_of_mem _ hy))).congr List.forall_mem_cons.symm

/-- A loop over `xs` whose pass on each `x` returns when the value `x` builds passes: it returns
when every value of `ys` passes. -/
theorem forM_forall₂ {δ : Type} {xs : List γ} {ys : List δ} {R : γ → δ → Prop}
    {f : γ → Run PUnit} {B : δ → Prop} (hR : List.Forall₂ R xs ys)
    (h : ∀ x y, R x y → Decides env (f x) () (B y)) :
    Decides env (xs.forM f) () (∀ y ∈ ys, B y) := by
  induction hR with
  | nil => exact (pure _).congr (by simp)
  | cons hxy _ ih => exact ((h _ _ hxy).bind ih).congr List.forall_mem_cons.symm

theorem raiseOnBlock (msg : String) (d : Decision) :
    Decides env (Run.raiseOnBlock msg d) () (d.verdict ≠ .block) := fun tr => by
  by_cases hv : d.verdict = .block
  · exact .inr ⟨not_not.2 hv, .httpException 403 (msg ++ d.details), by
      simp only [Run.raiseOnBlock, hv, ↓reduceIte, Run.throw_run]⟩
  · exact .inl ⟨hv, by simp only [Run.raiseOnBlock, hv, ↓reduceIte]; rfl⟩

end Decides

/-! ## `DebugPolicy`'s verdicts -/

namespace DebugPolicy
variable (U : UnicodeData)

/-- A hook that blocks on a text with the trigger, and answers the safe decision otherwise, lets a
call through exactly when its text has no trigger. -/
theorem verdict_ne_block_iff (s : List Char) (what : String) :
    (if hasTrigger U s then blockDecision what else defaultSafeDecision).verdict ≠ .block ↔
      hasTrigger U s = false := by
  cases hasTrigger U s <;> simp [blockDecision, defaultSafeDecision]

theorem onToolCall_ne_block_iff (tool : Tool) (args : List (String × Json)) :
    (onToolCall U tool args).verdict ≠ .block ↔
      hasTrigger U tool.name.toList = false ∧ hasTrigger U (argsStr U args) = false := by
  unfold onToolCall
  cases hasTrigger U tool.name.toList
  · simpa using verdict_ne_block_iff U (argsStr U args) "tool arguments"
  · simp [blockDecision]

theorem hasTrigger_nil : hasTrigger U [] = false := by
  simp [hasTrigger, lower, debugTrigger]

/-- `on_tool_call` with no arguments flattens them to the empty text. -/
theorem argsStr_nil : argsStr U [] = [] := rfl

end DebugPolicy

namespace Gemini
open GenAI DebugPolicy
variable (U : UnicodeData)

/-- The endpoints run under the default manager whenever `PROXY_CONFIG_DIR` gave the proxy no
loaded configuration: the variable unset or empty, the path missing, or the loader raising. -/
theorem withManager_securityManager_of_unloaded (env : Env) {configDir : Option String}
    {pathExists : String → Bool}
    {load : String → Except PyExc (SecurityCall → Except PyExc Decision)}
    (h : ∀ dir manager, configDir = some dir → dir ≠ "" → pathExists dir = true →
      load dir ≠ .ok manager) :
    env.withManager (securityManager U configDir pathExists load) = defaultManager U env := by
  rcases securityManager_cases U configDir pathExists load with ⟨dir, m, hc, hne, hp, hl, -⟩ | hd
  · exact absurd hl (h dir m hc hne hp)
  · rw [hd]

/-- Under the default manager the security manager answers `DebugPolicy`'s decision. -/
theorem Decides.ask_default (c : SecurityCall) (env : Env) :
    Decides (defaultManager U env) (Run.ask c) (onCall U c) True :=
  Decides.of_run fun _ => rfl

/-- Under the default manager a check returns exactly when `DebugPolicy` does not block its
call. -/
theorem Decides.check_default (msg : String) (c : SecurityCall) (env : Env) :
    Decides (defaultManager U env) (Run.ask c >>= Run.raiseOnBlock msg) ()
      ((onCall U c).verdict ≠ .block) :=
  ((Decides.ask_default U c env).bind (Decides.raiseOnBlock msg _)).congr (Iff.of_eq (true_and _))

/-! ## The gates of `generate_content` -/

/-- The tools the loop over one entry of `tools` builds (lines 286-296), in order: one for each of
its function declarations. The first read or validation that fails raises. -/
def toolDefTools (toolDef : Json) : Except PyExc (List Tool) := do
  if ← toolDef.contains "functionDeclarations" then
    let decls ← do (← toolDef.index "functionDeclarations").iter
    decls.mapM declaredTool
  else pure []

/-- The tools the loop over `tools` builds (lines 284-296), in order. -/
def declaredTools (tools : Json) : Except PyExc (List Tool) :=
  if tools.truthy then do
    let toolDefs ← tools.iter
    return (← toolDefs.mapM toolDefTools).flatten
  else pure []

theorem checkDeclaration_decides (requestId : String) (agent : Agent) {decl : Json} {tool : Tool}
    (h : declaredTool decl = .ok tool) (env : Env) :
    Decides (defaultManager U env) (checkDeclaration requestId agent decl) ()
      (hasTrigger U tool.name.toList = false) :=
  Decides.lift_bind h ((Decides.check_default U _ _ env).congr
    (by simp [onCall, onToolCall_ne_block_iff, argsStr_nil, hasTrigger_nil]))

theorem checkToolDef_decides (requestId : String) (agent : Agent) {toolDef : Json}
    {ts : List Tool} (h : toolDefTools toolDef = .ok ts) (env : Env) :
    Decides (defaultManager U env) (checkToolDef requestId agent toolDef) ()
      (∀ t ∈ ts, hasTrigger U t.name.toList = false) := by
  unfold checkToolDef
  obtain ⟨b, hb, h⟩ := Except.bind_eq_ok.1 h
  refine Decides.lift_bind hb ?_
  cases b
  · simp only [Bool.false_eq_true, ↓reduceIte, Except.pure_eq_ok] at h ⊢
    exact (Decides.pure _).congr (by simp [← h])
  · rw [if_pos rfl] at h ⊢
    obtain ⟨j, hj, h⟩ := Except.bind_eq_ok.1 h
    obtain ⟨decls, hdecls, hts⟩ := Except.bind_eq_ok.1 h
    exact Decides.lift_bind (Except.bind_eq_ok.2 ⟨j, hj, hdecls⟩)
      (Decides.forM_forall₂ (forall₂_of_mapM_eq_ok hts) fun _ _ hdecl =>
        checkDeclaration_decides U _ _ hdecl env)

theorem checkTools_decides (requestId : String) (agent : Agent) {tools : Json} {ts : List Tool}
    (h : declaredTools tools = .ok ts) (env : Env) :
    Decides (defaultManager U env) (checkTools requestId agent tools) ()
      (∀ t ∈ ts, hasTrigger U t.name.toList = false) := by
  unfold checkTools
  unfold declaredTools at h
  by_cases ht : tools.truthy = true
  · simp only [ht, ↓reduceIte, Except.bind_eq_ok, Except.pure_eq_ok] at h ⊢
    obtain ⟨toolDefs, hi, tss, htss, rfl⟩ := h
    exact Decides.lift_bind hi ((Decides.forM_forall₂ (forall₂_of_mapM_eq_ok htss)
      fun _ _ htd => checkToolDef_decides U _ _ htd env).congr
        ⟨fun h t ht => let ⟨l, hl, htl⟩ := List.mem_flatten.1 ht; h l hl t htl,
          fun h l hl t htl => h t (List.mem_flatten.2 ⟨l, hl, htl⟩)⟩)
  · simp only [ht, Bool.false_eq_true, ↓reduceIte, Except.pure_eq_ok] at h ⊢
    exact (Decides.pure _).congr (by simp [← h])

/-- The stream's gates return exactly when neither its prompt nor the name of a tool it builds
holds the trigger. -/
theorem streamGenerateContentGates_decides (model : String) {ctx : Context} {lines : List String}
    {tools : Json} {ts : List Tool} (hlines : streamPromptParts U ctx.contents = .ok lines)
    (htools : ctx.body.get "tools" (.arr []) = .ok tools) (hts : declaredTools tools = .ok ts)
    (env : Env) :
    Decides (defaultManager U env) (streamGenerateContentGates U model ctx) ()
      (hasTrigger U (join "\n" lines).toList = false ∧
        ∀ t ∈ ts, hasTrigger U t.name.toList = false) :=
  Decides.lift_bind hlines (((Decides.ask_default U _ env).bind ((Decides.raiseOnBlock _ _).bind
    (Decides.lift_bind htools (checkTools_decides U _ _ hts env)))).congr
      (by simp [onCall, onModelCall, verdict_ne_block_iff]))

/-- Under the default manager, when the stream's pre-flight reads the prompt, the `tools` and the
tool of each function declaration without error, `stream_generate_content` opens the upstream
stream exactly when neither its role-tagged prompt nor the name of a declared function holds the
trigger. -/
theorem streamGenerateContent_opens_iff_no_trigger (env : Env) (req : Request) {ctx : Context}
    {lines : List String} {tools : Json} {ts : List Tool}
    (hctx : requestContext id env req = .ok ctx)
    (hlines : streamPromptParts U ctx.contents = .ok lines)
    (htools : ctx.body.get "tools" (.arr []) = .ok tools) (hts : declaredTools tools = .ok ts) :
    (∃ e ∈ (streamGenerateContent U req (defaultManager U env) []).2, e.upstream = true) ↔
      hasTrigger U (join "\n" lines).toList = false ∧
        ∀ t ∈ ts, hasTrigger U t.name.toList = false := by
  have hctx' : requestContext id (defaultManager U env) req = .ok ctx := hctx
  obtain ⟨new, hnew, hK, -⟩ := streamGenerateContentGates_gated U req.model ctx
    (defaultManager U env) []
  rw [streamGenerateContent_run, hctx']
  dsimp only
  rcases hg : streamGenerateContentGates U req.model ctx (defaultManager U env) [] with ⟨r, tr⟩
  rw [hg, List.nil_append] at hnew
  subst hnew
  rcases streamGenerateContentGates_decides U req.model hlines htools hts env [] with
    ⟨hb, h⟩ | ⟨hb, x, h⟩ <;> rw [hg] at h <;> dsimp only at h <;> subst h
  · exact iff_of_true ⟨_, List.mem_append_right _ (List.mem_singleton_self _), rfl⟩ hb
  · refine iff_of_false (fun ⟨e, he, hup⟩ => ?_) hb
    rw [Entry.upstream_of_inboundBy (hK e he)] at hup
    cases hup

theorem streamGenerateContent_opens_weather_tools_iff_no_trigger :
    ∃ ctx lines tools ts, requestContext id (Env.fixed (fun _ => .ok defaultSafeDecision)
        (.ok helloAnswer)) weatherToolsRequest = .ok ctx ∧
      streamPromptParts .asciiOnly ctx.contents = .ok lines ∧
      ctx.body.get "tools" (.arr []) = .ok tools ∧ declaredTools tools = .ok ts ∧
      ((∃ e ∈ (streamGenerateContent .asciiOnly weatherToolsRequest (defaultManager .asciiOnly
          (Env.fixed (fun _ => .ok defaultSafeDecision) (.ok helloAnswer))) []).2,
          e.upstream = true) ↔
        hasTrigger .asciiOnly (join "\n" lines).toList = false ∧
          ∀ t ∈ ts, hasTrigger .asciiOnly t.name.toList = false) :=
  ⟨_, _, _, _, rfl, rfl, rfl, rfl,
    streamGenerateContent_opens_iff_no_trigger .asciiOnly _ weatherToolsRequest rfl rfl rfl rfl⟩

end Gemini
end Capsem
