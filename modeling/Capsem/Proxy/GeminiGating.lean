import Capsem.Proxy.Gemini

/-! # The gating discipline of the Gemini endpoints

For every request, every environment (every sequence of decisions and exceptions of the security
manager and of the provider) and both endpoints:

* no call follows one that blocked or raised, and the endpoint then returns no response;
* a block ends the run with `HTTPException(403)` whose detail carries the decision's details:
  no later `except` clause maps it to anything else;
* the upstream is called only after the endpoint's pre-flight calls, each of which passed, among
  them an `on_model_call`.

Each endpoint is its pre-flight, which calls the security manager at the pre-flight points only,
then its forwarding, which calls the provider and, for `generate_content`, the response gates;
`Gated.bind_split` composes the two.
-/

namespace Capsem.Gemini
open GenAI
set_option autoImplicit false

/-! ## The discipline -/

/-- How the calls of a run are ordered around a call `e` to the upstream: no pre-flight call
(`inbound`) comes after `e`, every call before `e` passed, and one of them is `on_model_call`. -/
def ForwardsAfterGates (inbound : SecurityCall → Bool) (tr : List Entry) : Prop :=
  ∀ pre e post, tr = pre ++ e :: post → e.upstream = true →
    (∀ x ∈ post, x.inboundBy inbound = false) ∧ (∀ x ∈ pre, x.stops = false) ∧
      ∃ x ∈ pre, x.isModelCall = true

/-- The gating discipline of an endpoint run that made the calls `tr` and ended in `r`, for an
endpoint whose pre-flight calls are those `inbound` picks out. -/
structure GatingDiscipline (inbound : SecurityCall → Bool) {α : Type} (tr : List Entry)
    (r : Except PyExc α) : Prop where
  gated : GatedRun tr r
  ordered : ForwardsAfterGates inbound tr

/-- The pre-flight calls of `stream_generate_content`: `on_model_call` and `on_tool_call`. -/
def streamInbound : SecurityCall → Bool
  | .onModelCall .. | .onToolCall .. => true
  | .onToolResponse .. | .onModelResponse .. => false

theorem Entry.inboundBy_of_upstream {e : Entry} (inbound : SecurityCall → Bool)
    (h : e.upstream = true) : e.inboundBy inbound = false := by
  cases e <;> simp_all [Entry.upstream, Entry.inboundBy]

theorem Entry.upstream_of_inboundBy {e : Entry} {inbound : SecurityCall → Bool}
    (h : e.inboundBy inbound = true) : e.upstream = false := by
  cases e <;> simp_all [Entry.upstream, Entry.inboundBy]

/-- The calls `n1` of a pre-flight, then the calls `n2` of a forwarding that makes no pre-flight
call, are ordered around the upstream call when the pre-flight called `on_model_call` before any
forwarding. -/
theorem forwardsAfterGates_of_split {inbound : SecurityCall → Bool} {n1 n2 : List Entry}
    (h1 : ∀ e ∈ n1, e.inboundBy inbound = true) (h2 : ∀ e ∈ n2, e.inboundBy inbound = false)
    (hpass : ∀ e ∈ (n1 ++ n2).dropLast, e.stops = false)
    (hmodel : n2 ≠ [] → ∃ x ∈ n1, x.isModelCall = true) :
    ForwardsAfterGates inbound (n1 ++ n2) := by
  intro pre e post htr hup
  have hpre : ∀ x ∈ pre, x.stops = false := fun x hx =>
    hpass x (by rw [htr, List.dropLast_append_cons]; exact List.mem_append_left _ hx)
  obtain ⟨a', rfl, rfl⟩ | ⟨_ | ⟨x, c'⟩, rfl, hpost⟩ := List.append_eq_append_iff.1 htr
  · obtain ⟨x, hx, hm⟩ := hmodel (by simp)
    exact ⟨fun y hy => h2 y (by simp [hy]), hpre, x, List.mem_append_left _ hx, hm⟩
  · simp only [List.nil_append, List.append_nil] at hpost hpre ⊢
    obtain ⟨x, hx, hm⟩ := hmodel (by simp [← hpost])
    exact ⟨fun y hy => h2 y (by simp [← hpost, hy]), hpre, x, by simpa using hx, hm⟩
  · simp only [List.cons_append, List.cons.injEq] at hpost
    have := h1 e (by simp [hpost.1])
    simp [Entry.inboundBy_of_upstream inbound hup] at this

/-! ## The phases -/

theorem checkContent_gated (requestId : String) (agent : Agent) (content : Json) :
    Gated (fun e => e.inboundBy SecurityCall.inbound = true) (checkContent requestId agent content) := by
  unfold checkContent checkFunctionResponse
  repeat' split
  all_goals first
    | exact Gated.pure _
    | exact Gated.bind (Gated.lift _) fun _ => Gated.check _ fun _ => rfl

theorem generateContentGates_gated (model : String) (ctx : Context) :
    Gated (fun e => e.inboundBy SecurityCall.inbound = true) (generateContentGates model ctx) :=
  Gated.bind (Gated.forM fun c _ => checkContent_gated _ _ c) fun _ => Gated.check _ fun _ => rfl

theorem generateContentInbound_gated (req : Request) :
    Gated (fun e => e.inboundBy SecurityCall.inbound = true) (generateContentInbound req) :=
  Gated.bind Gated.read fun _ => Gated.bind (Gated.lift _) fun _ =>
    Gated.bind (generateContentGates_gated _ _) fun _ => Gated.pure _

theorem checkCandidate_gated (requestId : String) (agent : Agent) (candidate : Candidate) :
    Gated (fun e => e.inboundBy SecurityCall.inbound = false)
      (checkCandidate requestId agent candidate) := by
  unfold checkCandidate
  repeat' split
  all_goals first
    | exact Gated.pure _
    | refine Gated.forM fun part _ => ?_
  unfold checkFunctionCall
  split
  · exact Gated.pure _
  · exact Gated.bind (Gated.lift _) fun _ => Gated.check _ fun _ => rfl

theorem responseGates_gated (ctx : Context) (candidates : List Candidate) :
    Gated (fun e => e.inboundBy SecurityCall.inbound = false) (responseGates ctx candidates) :=
  Gated.bind (Gated.forM fun c _ => checkCandidate_gated _ _ c) fun _ => Gated.check _ fun _ => rfl

theorem generateContentForward_gated (model : String) (ctx : Context) :
    Gated (fun e => e.inboundBy SecurityCall.inbound = false) (generateContentForward model ctx) := by
  refine Gated.bind (Gated.generateContent _ _ _ fun _ => rfl) fun raw =>
    Gated.bind (Gated.lift _) fun r => ?_
  obtain ⟨_ | _ | ⟨c, cs⟩⟩ := r
  · exact Gated.pure _
  · exact Gated.pure _
  · exact Gated.bind (responseGates_gated _ _) fun _ => Gated.pure _

theorem checkTools_gated (requestId : String) (agent : Agent) (tools : Json) :
    Gated (fun e => e.inboundBy streamInbound = true) (checkTools requestId agent tools) := by
  unfold checkTools
  refine Gated.ite _ (Gated.bind (Gated.lift _) fun defs => Gated.forM fun d _ => ?_) (Gated.pure _)
  unfold checkToolDef checkDeclaration
  refine Gated.bind (Gated.lift _) fun b => Gated.ite _ ?_ (Gated.pure _)
  exact Gated.bind (Gated.lift _) fun decls => Gated.forM fun _ _ =>
    Gated.bind (Gated.lift _) fun _ => Gated.check _ fun _ => rfl

/-- The gates of `generate_content` on the request, when they pass: their last call was an
`on_model_call` on the prompt of the contents, which passed. -/
theorem generateContentGates_ok {model : String} {ctx : Context} {env : Env}
    {tr tr' : List Entry} {u : Unit} (h : generateContentGates model ctx env tr = (.ok u, tr')) :
    ∃ mid d, tr' = mid ++ [.security (.onModelCall ctx.requestId ctx.agent model ""
      (join "\n" (promptParts ctx.contents))) (.ok d)] ∧ d.verdict ≠ .block := by
  simp only [generateContentGates, Run.bind_ok, Run.ask_ok, Run.raiseOnBlock_ok, _decide] at h
  obtain ⟨_, mid, -, d, _, ⟨-, rfl⟩, hd, rfl⟩ := h
  exact ⟨mid, d, rfl, hd⟩

/-- A pre-flight that returns has read its context, and its gates passed. -/
theorem generateContentInbound_ok {req : Request} {env : Env} {tr tr' : List Entry}
    {ctx : Context} (h : generateContentInbound req env tr = (.ok ctx, tr')) :
    requestContext (fun e => "Invalid JSON in request body: " ++ e) env req = .ok ctx ∧
      generateContentGates req.model ctx env tr = (.ok (), tr') := by
  simp only [generateContentInbound, Run.bind_ok, Run.read_ok, Run.lift_ok, Run.pure_run,
    Prod.mk.injEq, Except.ok.injEq] at h
  obtain ⟨_, _, ⟨rfl, rfl⟩, _, _, ⟨hctx, rfl⟩, _, _, hg, rfl, rfl⟩ := h
  exact ⟨hctx, hg⟩

variable (U : UnicodeData)

theorem streamGenerateContentGates_gated (model : String) (ctx : Context) :
    Gated (fun e => e.inboundBy streamInbound = true) (streamGenerateContentGates U model ctx) :=
  Gated.bind (Gated.lift _) fun _ => Gated.check_bind _ (fun _ => rfl) fun _ _ =>
    Gated.bind (Gated.lift _) fun _ => checkTools_gated _ _ _

theorem streamGenerateContentInbound_gated (req : Request) :
    Gated (fun e => e.inboundBy streamInbound = true) (streamGenerateContentInbound U req) :=
  Gated.bind Gated.read fun _ => Gated.bind (Gated.lift _) fun _ =>
    Gated.bind (streamGenerateContentGates_gated U _ _) fun _ => Gated.pure _

/-- The gates of `stream_generate_content` on the request, when they pass: their first call was
an `on_model_call` on the role-tagged prompt of the contents, which passed. -/
theorem streamGenerateContentGates_ok {model : String} {ctx : Context} {env : Env}
    {tr tr' : List Entry} {u : Unit}
    (h : streamGenerateContentGates U model ctx env tr = (.ok u, tr')) :
    ∃ parts d rest, streamPromptParts U ctx.contents = .ok parts ∧ d.verdict ≠ .block ∧
      tr' = tr ++ .security (.onModelCall ctx.requestId ctx.agent model "" (join "\n" parts))
        (.ok d) :: rest := by
  simp only [streamGenerateContentGates, Run.bind_ok, Run.lift_ok, Run.ask_ok,
    Run.raiseOnBlock_ok] at h
  obtain ⟨parts, tr, ⟨hparts, rfl⟩, d, _, ⟨-, rfl⟩, _, _, ⟨hd, rfl⟩, tools, _, ⟨-, rfl⟩, htools⟩ := h
  obtain ⟨new, hnew, -⟩ := checkTools_gated ctx.requestId ctx.agent tools env
    (tr ++ [.security (.onModelCall ctx.requestId ctx.agent model "" (join "\n" parts)) (.ok d)])
  rw [htools] at hnew
  exact ⟨parts, d, new, hparts, hd, by simpa using hnew⟩

/-- A pre-flight of `stream_generate_content` that returns has read its context, and its gates
passed. -/
theorem streamGenerateContentInbound_ok {req : Request} {env : Env} {tr tr' : List Entry}
    {ctx : Context} (h : streamGenerateContentInbound U req env tr = (.ok ctx, tr')) :
    requestContext id env req = .ok ctx ∧
      streamGenerateContentGates U req.model ctx env tr = (.ok (), tr') := by
  simp only [streamGenerateContentInbound, Run.bind_ok, Run.read_ok, Run.lift_ok, Run.pure_run,
    Prod.mk.injEq, Except.ok.injEq] at h
  obtain ⟨_, _, ⟨rfl, rfl⟩, _, _, ⟨hctx, rfl⟩, _, _, hg, rfl, rfl⟩ := h
  exact ⟨hctx, hg⟩

/-! ## The discipline of both endpoints -/

theorem generateContent_discipline (env : Env) (req : Request) :
    GatingDiscipline SecurityCall.inbound (generateContent req env []).2
      (generateContent req env []).1 := by
  obtain ⟨n1, n2, hp, htr, hK1, hK2, hok, hg⟩ := Gated.bind_split
    (generateContentInbound_gated req) (generateContentForward_gated req.model) env []
  rw [generateContent, Run.tryCatch_throw_run]
  simp only [List.nil_append] at hp htr
  rw [htr]
  refine ⟨hg.mapError fun _ _ => rfl, forwardsAfterGates_of_split hK1 hK2 hg.passes fun hn2 => ?_⟩
  obtain ⟨ctx, hctx⟩ := hok hn2
  obtain ⟨mid, d, hmid, -⟩ := generateContentGates_ok (generateContentInbound_ok (Prod.ext hctx hp)).2
  rw [hmid]
  exact ⟨_, List.mem_append_right _ (List.mem_singleton_self _), rfl⟩

theorem streamGenerateContent_discipline (env : Env) (req : Request) :
    GatingDiscipline streamInbound (streamGenerateContent U req env []).2
      (streamGenerateContent U req env []).1 := by
  obtain ⟨n1, n2, hp, htr, hK1, hK2, hok, hg⟩ := Gated.bind_split
    (streamGenerateContentInbound_gated U req)
    (fun ctx => (Gated.generateContentStream _ _ _ fun _ => rfl :
      Gated (fun e => e.inboundBy streamInbound = false) _)) env []
  rw [streamGenerateContent, Run.tryCatch_throw_run]
  simp only [List.nil_append] at hp htr
  rw [htr]
  refine ⟨hg.mapError fun _ _ => rfl, forwardsAfterGates_of_split hK1 hK2 hg.passes fun hn2 => ?_⟩
  obtain ⟨ctx, hctx⟩ := hok hn2
  obtain ⟨parts, d, rest, -, -, hrest⟩ :=
    streamGenerateContentGates_ok U (streamGenerateContentInbound_ok U (Prod.ext hctx hp)).2
  rw [hrest]
  exact ⟨_, List.mem_cons_self _ _, rfl⟩

/-- Both endpoints keep the gating discipline, for every request and every environment: no call
and no response after a call that blocked or raised, a block answered by a `403` carrying its
details, and the upstream reached only through the endpoint's pre-flight gates, each passed. -/
theorem gemini_endpoints_keep_gating_discipline (env : Env) (req : Request) :
    GatingDiscipline SecurityCall.inbound (generateContent req env []).2
        (generateContent req env []).1 ∧
      GatingDiscipline streamInbound (streamGenerateContent U req env []).2
        (streamGenerateContent U req env []).1 :=
  ⟨generateContent_discipline env req, streamGenerateContent_discipline U env req⟩

end Capsem.Gemini
