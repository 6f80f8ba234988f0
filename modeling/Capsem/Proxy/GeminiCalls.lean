import Capsem.Proxy.GeminiGating
import Capsem.Proxy.Plan
import Capsem.Policies.DebugTrigger

/-! # The calls of `generate_content`, in order

`GeminiGating` shows that `generate_content` stops at its first call that blocks or raises. Here
each of its two gating phases gets its plan, the calls it makes in order:

* the pre-flight gates (`generateContentGatesPlan`): one `on_tool_response` for each entry of
  `contents` whose last part carries a function response, then `on_model_call` on the prompt;
* the response gates (`responseGatesPlan`): one `on_tool_call` for each function call of the
  response, in candidate order and then part order, then `on_model_response` on its text.

`generateContent_run` and `generateContentForward_run` say what one run of the endpoint does,
phase by phase, and `generateContent_around_upstream` cuts a run at its provider call. The
results on the endpoint follow from these and from the plans.
-/

namespace Capsem.Gemini
open GenAI
set_option autoImplicit false

/-! ## The calls the plans name -/

/-- A tool is built for a function response or call only when it has a name, which it keeps. -/
theorem name_of_validate {name : Option String} {description parameters : Json} {tool : Tool}
    (h : Tool.validate (nameJson name) description parameters = .ok tool) :
    name = some tool.name := by
  have hname := (Tool.validate_ok h).1
  cases name <;> simp_all [nameJson]

/-- The `on_tool_response` call on the function response `fr`: a tool named as the response,
and the response's payload, `{}` when it has none. -/
def toolResponseOn (requestId : String) (agent : Agent) (fr : FunctionResponse) (e : Entry) :
    Prop :=
  ∃ tool o, fr.name = some tool.name ∧
    e = .security (.onToolResponse requestId agent tool (.obj (fr.response.getD []))) o

/-- The `on_tool_call` call on the function call `fc`: a tool named as the call, and the call's
arguments, `{}` when it has none. -/
def toolCallOn (requestId : String) (agent : Agent) (fc : FunctionCall) (e : Entry) : Prop :=
  ∃ tool o, fc.name = some tool.name ∧
    e = .security (.onToolCall requestId agent tool (fc.args.getD [])) o

/-- The function response the content loop checks for one entry of `contents`: that of the part
its inner loop ends on, the last, when the entry validates and has parts. -/
def lastFunctionResponse (content : Json) : Option FunctionResponse :=
  ((Content.ofJson content).bind Content.parts).bind fun parts =>
    parts.getLast?.bind Part.functionResponse

/-- The function calls of the parts of one candidate, in part order. -/
def candidateFunctionCalls (candidate : Candidate) : List FunctionCall :=
  ((candidate.content.bind Content.parts).getD []).filterMap Part.functionCall

/-- The function calls of a response's candidates, in candidate order and then part order. -/
def functionCalls (candidates : List Candidate) : List FunctionCall :=
  candidates.flatMap candidateFunctionCalls

/-! ## The plans of the gates -/

/-- The calls of the pre-flight gates of `generate_content` on the context `ctx`. -/
def generateContentGatesPlan (model : String) (ctx : Context) : List (Entry → Prop) :=
  (ctx.contents.filterMap lastFunctionResponse).map (toolResponseOn ctx.requestId ctx.agent) ++
    [fun e => ∃ o, e = .security (.onModelCall ctx.requestId ctx.agent model ""
      (join "\n" (promptParts ctx.contents))) o]

/-- The calls of the response gates of `generate_content` on the candidates of a response. -/
def responseGatesPlan (ctx : Context) (candidates : List Candidate) : List (Entry → Prop) :=
  (functionCalls candidates).map (toolCallOn ctx.requestId ctx.agent) ++
    [fun e => ∃ o, e = .security (.onModelResponse ctx.requestId ctx.agent
      (join "\n" (responseParts candidates)) (join "\n" (responseThoughts candidates))) o]

theorem checkFunctionResponse_planned (requestId : String) (agent : Agent)
    (fr : FunctionResponse) :
    Planned [toolResponseOn requestId agent fr] (checkFunctionResponse requestId agent fr) :=
  Planned.lift_bind fun tool htool => (Planned.check _ _).mono
    (List.forall₂_cons.2 ⟨fun _ ⟨o, he⟩ => ⟨tool, o, name_of_validate htool, he⟩, .nil⟩)

theorem checkContent_planned (requestId : String) (agent : Agent) (content : Json) :
    Planned ((lastFunctionResponse content).toList.map (toolResponseOn requestId agent))
      (checkContent requestId agent content) := by
  unfold checkContent lastFunctionResponse
  rcases Content.ofJson content with _ | ⟨_ | _ | ⟨p, ps⟩, role⟩
  iterate 3 exact Planned.pure _
  simp only [Option.some_bind]
  rcases (p :: ps).getLast?.bind Part.functionResponse with _ | fr
  · exact Planned.pure _
  · exact checkFunctionResponse_planned requestId agent fr

theorem generateContentGates_planned (model : String) (ctx : Context) :
    Planned (generateContentGatesPlan model ctx) (generateContentGates model ctx) := by
  have h := Planned.bind (Planned.forM fun c (_ : c ∈ ctx.contents) =>
    checkContent_planned ctx.requestId ctx.agent c)
    fun _ => Planned.check "Request blocked by security policy: "
      (.onModelCall ctx.requestId ctx.agent model "" (join "\n" (promptParts ctx.contents)))
  rwa [← List.map_flatMap, ← List.filterMap_eq_flatMap_toList] at h

theorem checkFunctionCall_planned (requestId : String) (agent : Agent) (fc : FunctionCall) :
    Planned [toolCallOn requestId agent fc] (checkFunctionCall requestId agent fc) :=
  Planned.lift_bind fun tool htool => (Planned.check _ _).mono
    (List.forall₂_cons.2 ⟨fun _ ⟨o, he⟩ => ⟨tool, o, name_of_validate htool, he⟩, .nil⟩)

theorem checkCandidate_planned (requestId : String) (agent : Agent) (candidate : Candidate) :
    Planned ((candidateFunctionCalls candidate).map (toolCallOn requestId agent))
      (checkCandidate requestId agent candidate) := by
  unfold checkCandidate candidateFunctionCalls
  rcases candidate.content with _ | ⟨_ | _ | ⟨p, ps⟩, role⟩
  iterate 3 exact Planned.pure _
  simp only [Option.some_bind, Option.getD_some]
  rw [List.filterMap_eq_flatMap_toList, List.map_flatMap]
  refine Planned.forM fun part _ => ?_
  rcases part.functionCall with _ | fc
  · exact Planned.pure _
  · exact checkFunctionCall_planned requestId agent fc

theorem responseGates_planned (ctx : Context) (candidates : List Candidate) :
    Planned (responseGatesPlan ctx candidates) (responseGates ctx candidates) := by
  have h := Planned.bind
    (Planned.forM fun c (_ : c ∈ candidates) => checkCandidate_planned ctx.requestId ctx.agent c)
    fun _ =>
      Planned.check "Request blocked by security policy: "
        (.onModelResponse ctx.requestId ctx.agent (join "\n" (responseParts candidates))
          (join "\n" (responseThoughts candidates)))
  rwa [← List.map_flatMap] at h

/-! ## One run of the endpoint -/

/-- One run of the forwarding: the provider call, then, for a response that validates and has
candidates, the response gates, whose result decides. -/
theorem generateContentForward_run (model : String) (ctx : Context) (env : Env)
    (tr : List Entry) :
    generateContentForward model ctx env tr =
      let up := env.generateContent tr model ctx.body ctx.apiKey
      let tr1 := tr ++ [.generateContent model ctx.body ctx.apiKey up]
      match up.bind validateResponse with
      | .error x => (.error x, tr1)
      | .ok r =>
        match r.candidates with
        | some (c :: cs) =>
          ((responseGates ctx (c :: cs) env tr1).1.map fun _ => r,
            (responseGates ctx (c :: cs) env tr1).2)
        | _ => (.ok r, tr1) := by
  simp only [generateContentForward, Run.bind_run, Run.generateContent, Run.lift_run]
  rcases env.generateContent tr model ctx.body ctx.apiKey with x | raw
  · rfl
  · dsimp only [Except.bind]
    rcases validateResponse raw with x | ⟨_ | _ | ⟨c, cs⟩⟩
    iterate 3 rfl
    simp only [Run.bind_run]
    rcases responseGates ctx (c :: cs) env _ with ⟨_ | _, _⟩ <;> rfl

/-- One run of `generate_content`: the context, the pre-flight gates, then the forwarding; the
`except` clauses map what any of them raises. -/
theorem generateContent_run (env : Env) (req : Request) :
    generateContent req env [] =
      match requestContext (fun e => "Invalid JSON in request body: " ++ e) env req with
      | .error x => (.error (handleGenerateContent x), [])
      | .ok ctx =>
        match generateContentGates req.model ctx env [] with
        | (.error x, tr) => (.error (handleGenerateContent x), tr)
        | (.ok _, tr) =>
          ((generateContentForward req.model ctx env tr).1.mapError handleGenerateContent,
            (generateContentForward req.model ctx env tr).2) := by
  rw [generateContent, Run.tryCatch_throw_run]
  simp only [generateContentInbound, Run.bind_run, Run.read_run, Run.lift_run]
  rcases requestContext _ env req with x | ctx
  · rfl
  · simp only
    rcases generateContentGates req.model ctx env [] with ⟨_ | _, tr⟩ <;> rfl

/-- A context read without error: the key and the body of the request, the invocation id of the
environment, and the agent and the entries of `contents` the body gives. The message for a body
that is not JSON plays no part in it. -/
theorem requestContext_ok {jsonError : String → String} {env : Env} {req : Request}
    {ctx : Context} (h : requestContext jsonError env req = .ok ctx) :
    ctx.apiKey = req.apiKey ∧ ctx.requestId = env.requestId ∧ req.body = .ok ctx.body ∧
      (ctx.body.get "tools" (.arr [])).bind
        (createAgent (env.userIdOf ("Bearer " ++ req.apiKey))) = .ok ctx.agent ∧
      (ctx.body.get "contents" (.arr [])).bind Json.iter = .ok ctx.contents ∧
      ∀ jsonError' : String → String, requestContext jsonError' env req = .ok ctx := by
  simp only [requestContext, Except.bind_eq_ok] at h
  obtain ⟨key, hkey, body, hbody, tools, htools, agent, hagent, cs, hcs, items, hitems, hctx⟩ := h
  have hk : key = req.apiKey := by
    unfold extractGeminiApiKey at hkey
    split at hkey <;> simp_all
  have hb : req.body = .ok body := by
    cases hrb : req.body <;> simp_all [Except.mapError]
  cases hctx
  subst hk
  refine ⟨rfl, rfl, hb, by simp only [htools]; exact hagent, by simp only [hcs]; exact hitems,
    fun j => ?_⟩
  simp only [requestContext, Except.bind_eq_ok]
  exact ⟨_, hkey, body, by simp [hb, Except.mapError], tools, htools, agent, hagent, cs, hcs, items,
    hitems, rfl⟩

/-- Every step of the response plan is a call to the security manager. -/
theorem responseGatesPlan_not_upstream (ctx : Context) (candidates : List Candidate) :
    ∀ s ∈ responseGatesPlan ctx candidates, ∀ e, s e → e.upstream = false := by
  simp only [responseGatesPlan, List.mem_append, List.mem_map, List.mem_singleton]
  rintro s (⟨fc, -, rfl⟩ | rfl) e ⟨_, _, -, rfl⟩ <;> rfl

/-- The calls of the forwarding: the provider call, then calls to the security manager only. -/
theorem generateContentForward_trace (model : String) (ctx : Context) (env : Env)
    (tr : List Entry) :
    ∃ rest, (generateContentForward model ctx env tr).2 = tr ++ .generateContent model ctx.body
        ctx.apiKey (env.generateContent tr model ctx.body ctx.apiKey) :: rest ∧
      ∀ x ∈ rest, x.upstream = false := by
  rw [generateContentForward_run]
  dsimp only
  split
  · exact ⟨[], by simp, by simp⟩
  · split
    · obtain ⟨new, hnew, hf⟩ := responseGates_planned ctx _ env (tr ++ [_])
      exact ⟨new, by rw [hnew]; simp, hf.forall_mem (responseGatesPlan_not_upstream _ _)⟩
    · exact ⟨[], by simp, by simp⟩

/-- Calls with one call to the provider split at it in one way. -/
theorem eq_of_upstream_split {n1 n2 pre post : List Entry} {u e : Entry}
    (h : n1 ++ u :: n2 = pre ++ e :: post) (h1 : ∀ x ∈ n1, x.upstream = false)
    (h2 : ∀ x ∈ n2, x.upstream = false) (he : e.upstream = true) :
    pre = n1 ∧ e = u ∧ post = n2 := by
  obtain ⟨_ | ⟨x, a⟩, rfl, h'⟩ | ⟨_ | ⟨x, c⟩, rfl, h'⟩ := List.append_eq_append_iff.1 h
  · simp_all
  · simp only [List.cons_append, List.cons.injEq] at h'
    simp [h2 e (by simp [h'.2]), he] at he
  · simp_all
  · simp only [List.cons_append, List.cons.injEq] at h'
    simp [h1 e (by simp [h'.1]), he] at he

/-- A run of `generate_content` around its call `e` to the provider: the pre-flight gates passed
and made the calls before `e`, and the forwarding made `e` and the calls after it, and decided
the endpoint's result. -/
theorem generateContent_around_upstream {env : Env} {req : Request} {pre post : List Entry}
    {e : Entry} (h : (generateContent req env []).2 = pre ++ e :: post) (he : e.upstream = true) :
    ∃ ctx, requestContext (fun e => "Invalid JSON in request body: " ++ e) env req = .ok ctx ∧
      generateContentGates req.model ctx env [] = (.ok (), pre) ∧
      e = .generateContent req.model ctx.body ctx.apiKey
        (env.generateContent pre req.model ctx.body ctx.apiKey) ∧
      (generateContentForward req.model ctx env pre).2 = pre ++ e :: post ∧
      (generateContent req env []).1 =
        (generateContentForward req.model ctx env pre).1.mapError handleGenerateContent := by
  rw [generateContent_run] at h ⊢
  rcases hc : requestContext _ env req with x | ctx
  · simp [hc] at h
  obtain ⟨n1, hn1, hK, -⟩ := generateContentGates_gated req.model ctx env []
  have hnot : ∀ x ∈ (generateContentGates req.model ctx env []).2, x.upstream = false :=
    fun x hx => Entry.upstream_of_inboundBy (hK x (by simpa [hn1] using hx))
  rcases hg : generateContentGates req.model ctx env [] with ⟨x | u, tr⟩
  · simp only [hc, hg] at h
    rw [hg] at hnot
    simp [hnot e (by simp [h]), he] at he
  · simp only [hc, hg] at h ⊢
    rw [hg] at hnot
    obtain ⟨rest, hrest, hup⟩ := generateContentForward_trace req.model ctx env tr
    rw [hrest] at h
    obtain ⟨rfl, rfl, rfl⟩ := eq_of_upstream_split h hnot hup he
    exact ⟨ctx, rfl, hg, rfl, hrest, rfl⟩

/-- When its context is built and its pre-flight gates pass, `generate_content` calls the
provider. -/
theorem generateContent_calls_upstream {env : Env} {req : Request} {ctx : Context}
    (hctx : requestContext (fun e => "Invalid JSON in request body: " ++ e) env req = .ok ctx)
    (hg : (generateContentGates req.model ctx env []).1 = .ok ()) :
    ∃ e ∈ (generateContent req env []).2, e.upstream = true := by
  rw [generateContent_run, hctx]
  rcases hg' : generateContentGates req.model ctx env [] with ⟨x | _, tr⟩
  · rw [hg'] at hg
    cases hg
  · obtain ⟨rest, hrest, -⟩ := generateContentForward_trace req.model ctx env tr
    dsimp only
    rw [hg', hrest]
    exact ⟨_, List.mem_append_right _ (List.mem_cons_self _ _), rfl⟩

/-- The response gates, when they pass: their last call was an `on_model_response` on the text
of the candidates, which passed. -/
theorem responseGates_ok {ctx : Context} {candidates : List Candidate} {env : Env}
    {tr tr' : List Entry} {u : Unit} (h : responseGates ctx candidates env tr = (.ok u, tr')) :
    ∃ mid d, tr' = mid ++ [.security (.onModelResponse ctx.requestId ctx.agent
      (join "\n" (responseParts candidates)) (join "\n" (responseThoughts candidates))) (.ok d)] ∧
      d.verdict ≠ .block := by
  simp only [responseGates, Run.bind_ok, Run.ask_ok, Run.raiseOnBlock_ok, _decide] at h
  obtain ⟨_, mid, -, d, _, ⟨-, rfl⟩, hd, rfl⟩ := h
  exact ⟨mid, d, rfl, hd⟩

/-! ## The response gates -/

/-- After a provider call whose response validates with candidates, `generate_content` calls
`on_tool_call` once for each function call of the response, in candidate order and then part
order, each with the call's name and its arguments or `{}`, and then `on_model_response` once: its
calls follow `responseGatesPlan`, all of it when the endpoint returns. They keep the gating
discipline, so a block at any of them is the last call and ends the run with its `403`. -/
theorem generateContent_gates_every_function_call (env : Env) (req : Request)
    {pre post : List Entry} {model key : String} {body raw : Json}
    {r : GenerateContentResponse} {cs : List Candidate}
    (h : (generateContent req env []).2 = pre ++ .generateContent model body key (.ok raw) :: post)
    (hr : validateResponse raw = .ok r) (hcs : r.candidates = some cs) (hne : cs ≠ []) :
    ∃ ctx, requestContext (fun e => "Invalid JSON in request body: " ++ e) env req = .ok ctx ∧
      FollowsPlan (responseGatesPlan ctx cs) post (generateContent req env []).1 ∧
      GatedRun post (generateContent req env []).1 := by
  obtain ⟨ctx, hctx, -, he, hfwd, hres⟩ := generateContent_around_upstream h rfl
  simp only [Entry.generateContent.injEq] at he
  obtain ⟨rfl, rfl, rfl, hup⟩ := he
  obtain ⟨c, cs, rfl⟩ := List.exists_cons_of_ne_nil hne
  rw [generateContentForward_run, ← hup] at hfwd
  rw [hres, generateContentForward_run, ← hup]
  simp only [Except.bind, hr, hcs] at hfwd ⊢
  obtain ⟨new, hnew, hplan⟩ := responseGates_planned ctx (c :: cs) env
    (pre ++ [.generateContent req.model ctx.body ctx.apiKey (.ok raw)])
  obtain ⟨new', hnew', -, hgated⟩ := responseGates_gated ctx (c :: cs) env
    (pre ++ [.generateContent req.model ctx.body ctx.apiKey (.ok raw)])
  rw [hfwd, List.append_assoc, List.singleton_append] at hnew hnew'
  simp only [List.append_cancel_left_eq, List.cons.injEq, true_and] at hnew hnew'
  subst hnew hnew'
  refine ⟨ctx, hctx, hplan.of_ok fun b hb => ?_, (hgated.map _).mapError fun _ _ => rfl⟩
  rcases hrg : (responseGates ctx (c :: cs) env _).1 with x | u
  · simp [hrg, Except.map, Except.mapError] at hb
  · exact ⟨u, rfl⟩

/-- A user turn asking for the weather. -/
def weatherBody : Json :=
  .obj [("contents", .arr [.obj [("role", .str "user"),
    ("parts", .arr [.obj [("text", .str "What is the weather in Paris?")]])]])]

/-- `weatherBody`, sent with a key. -/
def weatherRequest : Request := ⟨"gemini-2.0-flash", "key", .ok weatherBody⟩

/-- A provider answer whose one candidate calls a function. -/
def weatherCallAnswer : Json :=
  .obj [("candidates", .arr [.obj [("content", .obj [("role", .str "model"), ("parts", .arr
    [.obj [("functionCall", .obj [("name", .str "get_weather"),
      ("args", .obj [("city", .str "Paris")])])]])])]])]

theorem generateContent_gates_weather_call :
    ∃ r cs ctx, validateResponse weatherCallAnswer = .ok r ∧ r.candidates = some cs ∧ cs ≠ [] ∧
      FollowsPlan (responseGatesPlan ctx cs)
        ((generateContent weatherRequest (Env.fixed (fun _ => .ok defaultSafeDecision)
          (.ok weatherCallAnswer)) []).2.drop 2)
        (generateContent weatherRequest (Env.fixed (fun _ => .ok defaultSafeDecision)
          (.ok weatherCallAnswer)) []).1 :=
  let env := Env.fixed (fun _ => .ok defaultSafeDecision) (.ok weatherCallAnswer)
  let ⟨ctx, _, hplan, _⟩ := @generateContent_gates_every_function_call env weatherRequest
    ((generateContent weatherRequest env []).2.take 1) ((generateContent weatherRequest env []).2.drop 2)
    _ _ _ weatherCallAnswer _ _ rfl rfl rfl (List.cons_ne_nil _ _)
  ⟨_, _, ctx, rfl, rfl, List.cons_ne_nil _ _, hplan⟩

/-- When `generate_content` returns a response `r` with candidates, its last call was an
`on_model_response` on the `"\n"`-join of the visible texts of `r`'s candidates, which passed.
When `r` has no candidates, its last call was the provider's: `r` is returned unchecked. -/
theorem generateContent_returns_after_response_check (env : Env) (req : Request)
    {r : GenerateContentResponse} (h : (generateContent req env []).1 = .ok r) :
    ∃ ctx pre, requestContext (fun e => "Invalid JSON in request body: " ++ e) env req = .ok ctx ∧
      (r.candidates.getD [] ≠ [] → ∃ d, (generateContent req env []).2 = pre ++
          [.security (.onModelResponse ctx.requestId ctx.agent
            (join "\n" (responseParts (r.candidates.getD [])))
            (join "\n" (responseThoughts (r.candidates.getD [])))) (.ok d)] ∧
          d.verdict ≠ .block) ∧
      (r.candidates.getD [] = [] → ∃ raw, (generateContent req env []).2 =
          pre ++ [.generateContent req.model ctx.body ctx.apiKey (.ok raw)]) := by
  rw [generateContent_run] at h ⊢
  rcases hc : requestContext _ env req with x | ctx
  · simp [hc, Except.mapError] at h
  rcases hg : generateContentGates req.model ctx env [] with ⟨x | u, tr⟩
  · simp [hc, hg] at h
  simp only [hc, hg] at h ⊢
  rw [generateContentForward_run] at h ⊢
  rcases hup : env.generateContent tr req.model ctx.body ctx.apiKey with x | raw
  · simp [hup, Except.bind, Except.mapError] at h
  rcases hv : validateResponse raw with x | r'
  · simp [hup, hv, Except.bind, Except.mapError] at h
  simp only [hup, hv, Except.bind] at h ⊢
  rcases hcs : r'.candidates with _ | _ | ⟨c, cs⟩
  all_goals simp only [hcs, Except.mapError, Except.ok.injEq] at h
  iterate 2
    subst h
    exact ⟨ctx, tr, rfl, by simp [hcs], fun _ => ⟨raw, rfl⟩⟩
  · rcases hrg : responseGates ctx (c :: cs) env
      (tr ++ [.generateContent req.model ctx.body ctx.apiKey (.ok raw)]) with ⟨x | u, tr'⟩
    · simp [hrg, Except.map] at h
    · simp only [hrg, Except.map, Except.ok.injEq] at h
      subst h
      obtain ⟨mid, d, rfl, hd⟩ := responseGates_ok hrg
      exact ⟨ctx, mid, rfl, fun _ => ⟨d, by simp [hcs, hrg], hd⟩, by simp [hcs]⟩

theorem generateContent_returns_weather_call_after_check :
    ∃ r ctx pre, (generateContent weatherRequest (Env.fixed (fun _ => .ok defaultSafeDecision)
        (.ok weatherCallAnswer)) []).1 = .ok r ∧
      requestContext (fun e => "Invalid JSON in request body: " ++ e)
        (Env.fixed (fun _ => .ok defaultSafeDecision) (.ok weatherCallAnswer)) weatherRequest =
          .ok ctx ∧
      (r.candidates.getD [] ≠ [] → ∃ d, (generateContent weatherRequest
          (Env.fixed (fun _ => .ok defaultSafeDecision) (.ok weatherCallAnswer)) []).2 = pre ++
          [.security (.onModelResponse ctx.requestId ctx.agent
            (join "\n" (responseParts (r.candidates.getD [])))
            (join "\n" (responseThoughts (r.candidates.getD [])))) (.ok d)] ∧
          d.verdict ≠ .block) ∧
      (r.candidates.getD [] = [] → ∃ raw, (generateContent weatherRequest
          (Env.fixed (fun _ => .ok defaultSafeDecision) (.ok weatherCallAnswer)) []).2 =
          pre ++ [.generateContent weatherRequest.model ctx.body ctx.apiKey (.ok raw)]) :=
  let ⟨ctx, pre, h⟩ := generateContent_returns_after_response_check
    (Env.fixed (fun _ => .ok defaultSafeDecision) (.ok weatherCallAnswer)) weatherRequest rfl
  ⟨_, ctx, pre, rfl, h⟩

/-- A provider answer with an empty list of candidates. -/
def noCandidatesAnswer : Json := .obj [("candidates", .arr [])]

theorem generateContent_returns_unchecked_response :
    generateContent weatherRequest
        (Env.fixed (fun _ => .ok defaultSafeDecision) (.ok noCandidatesAnswer)) [] =
      (.ok ⟨some []⟩,
        [.security (.onModelCall "0" ⟨"proxy-user-Bearer key", "OpenAI API proxy user", []⟩
            "gemini-2.0-flash" "" "What is the weather in Paris?") (.ok defaultSafeDecision),
          .generateContent "gemini-2.0-flash" weatherBody "key" (.ok noCandidatesAnswer)]) :=
  rfl

/-! ## The pre-flight gates -/

/-- A provider answer with one text. -/
def helloAnswer : Json :=
  .obj [("candidates", .arr [.obj [("content", .obj [("role", .str "model"),
    ("parts", .arr [.obj [("text", .str "Hello")]])])]])]

/-- Every `on_tool_response` call of `generate_content` is on the last function response of an
entry of `contents`. -/
theorem toolResponse_of_generateContent {env : Env} {req : Request} {rid : String}
    {agent : Agent} {tool : Tool} {response : Json} {o : Except PyExc Decision}
    (h : Entry.security (.onToolResponse rid agent tool response) o ∈
      (generateContent req env []).2) :
    ∃ ctx, requestContext (fun e => "Invalid JSON in request body: " ++ e) env req = .ok ctx ∧
      ∃ fr ∈ ctx.contents.filterMap lastFunctionResponse,
        toolResponseOn ctx.requestId ctx.agent fr (.security (.onToolResponse rid agent tool response) o) := by
  rw [generateContent_run] at h
  rcases hc : requestContext _ env req with x | ctx
  · simp [hc] at h
  refine ⟨ctx, rfl, ?_⟩
  have hgates : Entry.security (.onToolResponse rid agent tool response) o ∈
      (generateContentGates req.model ctx env []).2 → ∃ fr ∈ ctx.contents.filterMap lastFunctionResponse,
        toolResponseOn ctx.requestId ctx.agent fr (.security (.onToolResponse rid agent tool response) o) := by
    obtain ⟨new, hnew, hplan⟩ := generateContentGates_planned req.model ctx env []
    rw [hnew, List.nil_append]
    intro hm
    have hstep := hplan.forall_mem (Q := fun e => (∃ fr ∈ ctx.contents.filterMap lastFunctionResponse,
      toolResponseOn ctx.requestId ctx.agent fr e) ∨ e.isModelCall = true) (by
        simp only [generateContentGatesPlan, List.mem_append, List.mem_map, List.mem_singleton]
        rintro s (⟨fr, hfr, rfl⟩ | rfl) e hs
        · exact .inl ⟨fr, hfr, hs⟩
        · obtain ⟨o, rfl⟩ := hs
          exact .inr rfl) _ hm
    simpa [Entry.isModelCall] using hstep
  simp only [hc] at h
  rcases hg : generateContentGates req.model ctx env [] with ⟨x | u, tr⟩
  · simp only [hg] at h
    exact hgates (by rw [hg]; exact h)
  · simp only [hg] at h
    obtain ⟨n2, hn2, hK, -⟩ := generateContentForward_gated req.model ctx env tr
    rw [hn2] at h
    rcases List.mem_append.1 h with h | h
    · exact hgates (by rw [hg]; exact h)
    · have := hK _ h
      simp [Entry.inboundBy, SecurityCall.inbound] at this

/-- An entry of `contents` that carries a function response in its first part and a text after
it; the response's payload holds the trigger. -/
def responseThenText : Json :=
  .obj [("role", .str "user"), ("parts", .arr [
    .obj [("functionResponse", .obj [("name", .str "get_weather"),
      ("response", .obj [("location", .str "capsem_block")])])],
    .obj [("text", .str "thanks")]])]

/-- A request whose one entry is `responseThenText`. -/
def responseThenTextRequest : Request :=
  ⟨"gemini-2.0-flash", "key", .ok (.obj [("contents", .arr [responseThenText])])⟩

theorem generateContent_skips_function_response_before_text (U : UnicodeData) (env : Env) :
    (∀ rid agent tool response o, Entry.security (.onToolResponse rid agent tool response) o ∉
      (generateContent responseThenTextRequest env []).2) ∧
    (∃ e ∈ (generateContent responseThenTextRequest
        (env.withManager fun c => .ok (defaultSecurityManager U c)) []).2, e.upstream = true) ∧
    (DebugPolicy.onToolResponse U (.obj [("location", .str "capsem_block")])).verdict = .block := by
  have hctx : ∀ env' : Env, requestContext (fun e => "Invalid JSON in request body: " ++ e) env'
      responseThenTextRequest = .ok ⟨"key", env'.requestId,
        .obj [("contents", .arr [responseThenText])],
        ⟨"proxy-user-" ++ env'.userIdOf "Bearer key", "OpenAI API proxy user", []⟩,
        [responseThenText]⟩ := fun _ => rfl
  refine ⟨fun rid agent tool response o h => ?_, generateContent_calls_upstream (hctx _) rfl,
    (DebugPolicy.onToolResponse_block_iff U _).2
      (DebugPolicy.trigger_in_pyStr U (s := "capsem_block") (by decide) ⟨[], [], rfl⟩)⟩
  obtain ⟨ctx, hc, fr, hfr, -⟩ := toolResponse_of_generateContent h
  rw [hctx] at hc
  cases hc
  exact List.not_mem_nil fr hfr

end Capsem.Gemini
