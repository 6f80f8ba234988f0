import Capsem.Proxy.GeminiPreflight

/-! # The calls of `stream_generate_content`, in order

The stream's pre-flight makes `on_model_call` on its role-tagged prompt, then one `on_tool_call`
for each function declaration of `tools`, on the tool the declaration declares and with no
arguments (lines 253-307); then it opens the stream.

* `streamGenerateContentGatesPlan`: these calls, as the request fixes them.
* `checkDeclaration_planned`, `checkToolDef_planned`, `checkTools_planned`: the loop over
  `tools` follows the plan, one pass at a time.
* The last section: the calls before the stream is opened are exactly the plan's, each passed,
  and no call follows the opening.
-/

namespace Capsem.Gemini
open GenAI
set_option autoImplicit false

/-! ## The calls the plan names -/

/-- The function declarations the loop over `tools` reaches in one entry: those of its
`functionDeclarations` value, when it has that key and the value iterates. -/
def toolDefDeclarations (toolDef : Json) : List Json :=
  match toolDef.contains "functionDeclarations" with
  | .ok true =>
    match toolDef.index "functionDeclarations" >>= Json.iter with
    | .ok decls => decls
    | .error _ => []
  | _ => []

/-- The function declarations of `tools`, in order, when `tools` is truthy and iterates. -/
def declarations (tools : Json) : List Json :=
  if tools.truthy then
    match tools.iter with
    | .ok toolDefs => toolDefs.flatMap toolDefDeclarations
    | .error _ => []
  else []

/-- The call on one declaration: `on_tool_call` on the tool it declares, with no arguments. -/
def declarationCallOn (requestId : String) (agent : Agent) (decl : Json) (e : Entry) : Prop :=
  ∃ tool o, declaredTool decl = .ok tool ∧ e = .security (.onToolCall requestId agent tool []) o

variable (U : UnicodeData)

/-- The calls of the stream's pre-flight on the context `ctx`: `on_model_call` on the role-tagged
prompt, then one call for each function declaration of `tools`. -/
def streamGenerateContentGatesPlan (model : String) (ctx : Context) : List (Entry → Prop) :=
  match streamPromptParts U ctx.contents with
  | .error _ => []
  | .ok lines =>
    (fun e => ∃ o, e = .security
      (.onModelCall ctx.requestId ctx.agent model "" (join "\n" lines)) o) ::
    match ctx.body.get "tools" (.arr []) with
    | .ok tools => (declarations tools).map (declarationCallOn ctx.requestId ctx.agent)
    | .error _ => []

/-! ## The plans of the gates -/

theorem checkDeclaration_planned (requestId : String) (agent : Agent) (decl : Json) :
    Planned [declarationCallOn requestId agent decl] (checkDeclaration requestId agent decl) :=
  Planned.lift_bind fun tool htool => (Planned.check _ _).mono
    (List.forall₂_cons.2 ⟨fun _ ⟨o, he⟩ => ⟨tool, o, htool, he⟩, .nil⟩)

theorem checkToolDef_planned (requestId : String) (agent : Agent) (toolDef : Json) :
    Planned ((toolDefDeclarations toolDef).map (declarationCallOn requestId agent))
      (checkToolDef requestId agent toolDef) := by
  unfold checkToolDef toolDefDeclarations
  refine Planned.lift_bind fun b hb => ?_
  rw [hb]
  cases b
  · exact Planned.pure _
  · refine Planned.lift_bind fun decls hdecls => ?_
    rw [hdecls, List.map_eq_flatMap]
    exact Planned.forM fun d _ => checkDeclaration_planned requestId agent d

theorem checkTools_planned (requestId : String) (agent : Agent) (tools : Json) :
    Planned ((declarations tools).map (declarationCallOn requestId agent))
      (checkTools requestId agent tools) := by
  unfold checkTools declarations
  by_cases ht : tools.truthy = true
  · simp only [ht, ↓reduceIte]
    refine Planned.lift_bind fun toolDefs h => ?_
    rw [h, List.map_flatMap]
    exact Planned.forM fun d _ => checkToolDef_planned requestId agent d
  · simp only [ht, Bool.false_eq_true, ↓reduceIte]
    exact Planned.pure _

theorem streamGenerateContentGates_planned (model : String) (ctx : Context) :
    Planned (streamGenerateContentGatesPlan U model ctx)
      (streamGenerateContentGates U model ctx) := by
  unfold streamGenerateContentGates streamGenerateContentGatesPlan
  refine Planned.lift_bind fun lines hlines => ?_
  rw [hlines]
  have hQ : Planned (match ctx.body.get "tools" (.arr []) with
      | .ok tools => (declarations tools).map (declarationCallOn ctx.requestId ctx.agent)
      | .error _ => [])
      (Run.lift (ctx.body.get "tools" (.arr [])) >>= checkTools ctx.requestId ctx.agent) :=
    Planned.lift_bind fun tools htools => by
      rw [htools]
      exact checkTools_planned _ _ _
  have h := Planned.bind
    (Planned.ask (.onModelCall ctx.requestId ctx.agent model "" (join "\n" lines))) fun d =>
    Planned.bind (Planned.raiseOnBlock "Request blocked by security policy: " d) fun _ => hQ
  rwa [List.nil_append, List.singleton_append] at h

/-! ## The calls before the stream -/

/-- Before it opens the stream, `stream_generate_content` makes exactly the calls of its plan,
each of which passed: `on_model_call` on the role-tagged prompt, then one `on_tool_call` for each
function declaration of `tools`, in order. It opens the stream with the request's own model, body
and key, and makes no call after it. -/
theorem streamGenerateContent_checks_declarations (env : Env) (req : Request)
    {pre post : List Entry} {e : Entry}
    (h : (streamGenerateContent U req env []).2 = pre ++ e :: post) (he : e.upstream = true) :
    ∃ ctx, requestContext id env req = .ok ctx ∧
      Meets (streamGenerateContentGatesPlan U req.model ctx) pre ∧
      (∀ x ∈ pre, x.stops = false) ∧
      e = .generateContentStream req.model ctx.body ctx.apiKey
        (env.generateContentStream pre req.model ctx.body ctx.apiKey) ∧
      post = [] := by
  rw [streamGenerateContent_run] at h
  rcases hc : requestContext id env req with x | ctx
  · rw [hc] at h
    exact absurd h.symm (List.append_ne_nil_of_right_ne_nil _ (List.cons_ne_nil _ _))
  rw [hc] at h
  dsimp only at h
  obtain ⟨new, hnew, hplan⟩ := streamGenerateContentGates_planned U req.model ctx env []
  obtain ⟨new', hnew', hK, hgated⟩ := streamGenerateContentGates_gated U req.model ctx env []
  have hnot : ∀ x ∈ new', x.upstream = false := fun x hx => Entry.upstream_of_inboundBy (hK x hx)
  rcases hg : streamGenerateContentGates U req.model ctx env [] with ⟨x | _, tr⟩
  all_goals rw [hg, List.nil_append] at hnew hnew'
  all_goals subst hnew hnew'
  all_goals rw [hg] at h hplan hgated
  · have := hnot e (by rw [h]; exact List.mem_append_right _ (List.mem_cons_self _ _))
    rw [he] at this
    cases this
  · obtain ⟨rfl, rfl, rfl⟩ :=
      eq_of_upstream_split h hnot (fun _ h => absurd h (List.not_mem_nil _)) he
    exact ⟨ctx, rfl, hplan.meetsAll _ rfl, hgated.passes_of_ok, rfl, rfl⟩

theorem streamGenerateContent_checks_weather_declaration :
    ∃ ctx, requestContext id (Env.fixed (fun _ => .ok defaultSafeDecision) (.ok helloAnswer))
        weatherToolsRequest = .ok ctx ∧
      Meets (streamGenerateContentGatesPlan .asciiOnly weatherToolsRequest.model ctx)
        ((streamGenerateContent .asciiOnly weatherToolsRequest
          (Env.fixed (fun _ => .ok defaultSafeDecision) (.ok helloAnswer)) []).2.take 2) ∧
      (∀ x ∈ (streamGenerateContent .asciiOnly weatherToolsRequest
          (Env.fixed (fun _ => .ok defaultSafeDecision) (.ok helloAnswer)) []).2.take 2,
        x.stops = false) ∧
      Entry.generateContentStream "gemini-2.0-flash" weatherToolsBody "key" (.ok ()) =
        .generateContentStream weatherToolsRequest.model ctx.body ctx.apiKey (.ok ()) ∧
      (streamGenerateContent .asciiOnly weatherToolsRequest
        (Env.fixed (fun _ => .ok defaultSafeDecision) (.ok helloAnswer)) []).2.drop 3 = [] :=
  let env := Env.fixed (fun _ => .ok defaultSafeDecision) (.ok helloAnswer)
  @streamGenerateContent_checks_declarations .asciiOnly env weatherToolsRequest
    ((streamGenerateContent .asciiOnly weatherToolsRequest env []).2.take 2)
    ((streamGenerateContent .asciiOnly weatherToolsRequest env []).2.drop 3)
    (.generateContentStream "gemini-2.0-flash" weatherToolsBody "key" (.ok ())) rfl rfl

end Capsem.Gemini
