import Mathlib.Data.String.Basic
import Capsem.Proxy.GeminiCalls
import Capsem.Policies.DebugTrigger

/-! # The pre-flights of the two Gemini endpoints compared

`generate_content` and `stream_generate_content` read the same context and both gate the request
with `on_model_call`, on prompts they build in two ways:

* `generate_content` joins the visible texts of the entries that validate as a `Content`: the
  non-empty texts of the parts not marked `thought` (`promptParts`);
* `stream_generate_content` joins `f"{role}: {text}"` for every part of every entry that has a
  `text` key, thoughts included (`streamPromptParts`).

Each visible text of the first is the `text` of a part the second reads, so under the default
security manager a prompt that `generate_content` blocks makes the stream's pre-flight reject the
request too. The stream's prompt also carries
thought text, and the stream makes no `on_tool_response` call. The module ends with what both
endpoints answer to a client input error and to a call that raises, and with the agent they pass.
-/

namespace Capsem.Gemini
open GenAI DebugPolicy
set_option autoImplicit false

variable (U : UnicodeData)

/-! ## One run of `stream_generate_content` -/

/-- One run of `stream_generate_content`: the context, the pre-flight gates, then the opening of
the stream; the `except` clauses map what any of them raises. -/
theorem streamGenerateContent_run (env : Env) (req : Request) :
    streamGenerateContent U req env [] =
      match requestContext id env req with
      | .error x => (.error (handleStreamGenerateContent x), [])
      | .ok ctx =>
        match streamGenerateContentGates U req.model ctx env [] with
        | (.error x, tr) => (.error (handleStreamGenerateContent x), tr)
        | (.ok _, tr) =>
          ((env.generateContentStream tr req.model ctx.body ctx.apiKey).mapError
              handleStreamGenerateContent,
            tr ++ [.generateContentStream req.model ctx.body ctx.apiKey
              (env.generateContentStream tr req.model ctx.body ctx.apiKey)]) := by
  rw [streamGenerateContent, Run.tryCatch_throw_run]
  simp only [streamGenerateContentInbound, Run.bind_run, Run.read_run, Run.lift_run]
  rcases requestContext id env req with x | ctx
  · rfl
  · simp only
    rcases streamGenerateContentGates U req.model ctx env [] with ⟨_ | _, tr⟩ <;> rfl

/-- One run of the stream's gates: the prompt, the `on_model_call` gate on it, then the gates on
the declared tools. -/
theorem streamGenerateContentGates_run (model : String) (ctx : Context) (env : Env)
    (tr : List Entry) :
    streamGenerateContentGates U model ctx env tr =
      match streamPromptParts U ctx.contents with
      | .error x => (.error x, tr)
      | .ok parts =>
        let c := SecurityCall.onModelCall ctx.requestId ctx.agent model "" (join "\n" parts)
        let tr1 := tr ++ [.security c (env.securityManager tr c)]
        match env.securityManager tr c with
        | .error x => (.error x, tr1)
        | .ok d =>
          if d.verdict = .block then
            (.error (.httpException 403 ("Request blocked by security policy: " ++ d.details)),
              tr1)
          else
            match ctx.body.get "tools" (.arr []) with
            | .error x => (.error x, tr1)
            | .ok tools => checkTools ctx.requestId ctx.agent tools env tr1 := by
  simp only [streamGenerateContentGates, Run.bind_run, Run.lift_run, Run.ask_run]
  rcases streamPromptParts U ctx.contents with x | parts
  · rfl
  · dsimp only
    rcases env.securityManager tr _ with x | d
    · rfl
    · dsimp only
      by_cases hv : d.verdict = .block
      · simp only [Run.raiseOnBlock, hv, ↓reduceIte]; rfl
      · simp only [Run.raiseOnBlock, hv, ↓reduceIte]
        rcases ctx.body.get "tools" (.arr []) with x | tools <;> rfl

/-! ## The two prompts -/

/-- An occurrence of the trigger in a `"\n"`-join lies in one of the joined texts: the trigger has
no newline. -/
theorem trigger_in_join {ts : List String}
    (h : debugTrigger.toList <:+: lower U (join "\n" ts).toList) :
    ∃ t ∈ ts, debugTrigger.toList <:+: lower U t.toList := by
  induction ts with
  | nil => exact absurd (List.eq_nil_of_infix_nil h) (by decide)
  | cons t ts ih =>
    cases ts with
    | nil => exact ⟨t, List.mem_singleton_self _, by rwa [join_singleton] at h⟩
    | cons t' ts =>
      rw [toList_join_cons_cons, lower, List.flatMap_append, List.flatMap_append] at h
      rcases infix_or_infix_of_disjoint (M := ['\n']) (by decide) (List.cons_ne_nil _ _)
        (by decide) h with h | h
      · exact ⟨t, List.mem_cons_self _ _, h⟩
      · obtain ⟨u, hu, hu'⟩ := ih h
        exact ⟨u, List.mem_cons_of_mem _ hu, hu'⟩

/-- A visible text is the `text` of one of the parts. -/
theorem text_of_mem_visibleTexts {parts : List Part} {t : String} (h : t ∈ visibleTexts parts) :
    ∃ p ∈ parts, p.text = some t := by
  obtain ⟨p, hp, ht⟩ := List.mem_filterMap.1 h
  refine ⟨p, hp, ?_⟩
  split at ht
  · cases ht
  · exact (Option.filter_eq_some.1 ht).1

theorem any_key_of_lookup {k : String} {v : Json} :
    ∀ {kvs : List (String × Json)}, kvs.lookup k = some v → kvs.any (fun kv => kv.1 == k) = true
  | [], h => by cases h
  | (k', v') :: kvs, h => by
    by_cases hk : k = k'
    · simp [hk]
    · rw [List.lookup_cons, beq_false_of_ne hk] at h
      simp [any_key_of_lookup h]

/-- A part with a `text` string gives the stream a line that ends with that text. -/
theorem streamPartLines_line {role : Json} {pkv : List (String × Json)} {t : String}
    (ht : pkv.lookup "text" = some (.str t)) :
    ∀ {parts : List Json} {lines : List String}, streamPartLines U role parts = .ok lines →
      Json.obj pkv ∈ parts → ∃ line ∈ lines, t.toList <:+: line.toList
  | [], _, _, hmem => absurd hmem (List.not_mem_nil _)
  | part :: rest, lines, h, hmem => by
    simp only [streamPartLines, Except.bind_eq_ok] at h
    obtain ⟨b, hb, h⟩ := h
    have hrest : ∃ line ls, streamPartLines U role rest = .ok ls ∧ lines = line ++ ls ∧
        (part = .obj pkv → line = [String.mk (role.pyStr U ++ ": ".toList ++ t.toList)]) := by
      split at h
      · simp only [Except.bind_eq_ok, Except.pure_eq_ok] at h
        obtain ⟨text, htext, _, rfl, ls, hls, rfl⟩ := h
        refine ⟨_, ls, hls, rfl, ?_⟩
        rintro rfl
        simp only [Json.index, ht, Except.ok.injEq] at htext
        rw [← htext]
        rfl
      · simp only [Except.bind_eq_ok, Except.pure_eq_ok] at h
        obtain ⟨_, rfl, ls, hls, rfl⟩ := h
        refine ⟨[], ls, hls, rfl, ?_⟩
        rintro rfl
        simp only [Json.contains, any_key_of_lookup ht, Except.ok.injEq] at hb
        simp_all
    obtain ⟨line, ls, hls, rfl, hline⟩ := hrest
    rcases List.mem_cons.1 hmem with rfl | hmem
    · exact ⟨_, List.mem_append_left _ (by rw [hline rfl]; exact List.mem_singleton_self _),
        (List.suffix_append _ _).isInfix⟩
    · obtain ⟨l, hl, hsub⟩ := streamPartLines_line ht hls hmem
      exact ⟨l, List.mem_append_right _ hl, hsub⟩

/-- Each part with a `text` string, of an entry with a `parts` list, gives the stream a line that
ends with that text. -/
theorem streamPromptParts_line {kvs : List (String × Json)} {xs : List Json}
    {pkv : List (String × Json)} {t : String} (hparts : kvs.lookup "parts" = some (.arr xs))
    (hpart : Json.obj pkv ∈ xs) (ht : pkv.lookup "text" = some (.str t)) :
    ∀ {contents : List Json} {lines : List String}, streamPromptParts U contents = .ok lines →
      Json.obj kvs ∈ contents → ∃ line ∈ lines, t.toList <:+: line.toList
  | [], _, _, hmem => absurd hmem (List.not_mem_nil _)
  | c :: rest, lines, h, hmem => by
    simp only [streamPromptParts, Except.bind_eq_ok, Except.pure_eq_ok] at h
    obtain ⟨_, -, partsJ, hpartsJ, ps, hps, ls, hls, ls', hls', rfl⟩ := h
    rcases List.mem_cons.1 hmem with rfl | hmem
    · simp only [Json.get, hparts, Option.getD_some, Except.ok.injEq] at hpartsJ
      subst hpartsJ
      cases hps
      obtain ⟨l, hl, hsub⟩ := streamPartLines_line U ht hls hpart
      exact ⟨l, List.mem_append_left _ hl, hsub⟩
    · obtain ⟨l, hl, hsub⟩ := streamPromptParts_line hparts hpart ht hls' hmem
      exact ⟨l, List.mem_append_right _ hl, hsub⟩

/-- Each visible text of `generate_content`'s prompt lies in a line of the stream's prompt. -/
theorem streamPromptParts_covers {contents : List Json} {lines : List String} {t : String}
    (hlines : streamPromptParts U contents = .ok lines) (ht : t ∈ promptParts contents) :
    ∃ line ∈ lines, t.toList <:+: line.toList := by
  obtain ⟨parts, hparts, ht⟩ := List.mem_flatMap.1 ht
  obtain ⟨c, hc, hcp⟩ := List.mem_filterMap.1 hparts
  obtain ⟨p, hp, hpt⟩ := text_of_mem_visibleTexts ht
  obtain ⟨kvs, xs, rfl, hxs, x, hx, hpx⟩ := Content.parts_of_ofJson hcp hp
  obtain ⟨pkv, rfl, hpkv⟩ := Part.text_of_ofJson hpx hpt
  exact streamPromptParts_line U hxs hx hpkv hlines hc

/-- Where the policy finds the trigger in `generate_content`'s prompt, it finds it in the
stream's prompt. -/
theorem onModelCall_blocks_streamPrompt {contents : List Json} {lines : List String}
    (hlines : streamPromptParts U contents = .ok lines)
    (hblock : (onModelCall U (join "\n" (promptParts contents))).verdict = .block) :
    (onModelCall U (join "\n" lines)).verdict = .block := by
  rw [onModelCall_block_iff] at hblock ⊢
  obtain ⟨t, ht, htrig⟩ := trigger_in_join U hblock
  obtain ⟨line, hline, hsub⟩ := streamPromptParts_covers U hlines ht
  exact htrig.trans (infix_lower U (hsub.trans (infix_intercalate (List.mem_map_of_mem _ hline))))

/-! ## A blocked prompt is blocked by both endpoints -/

/-- The `except` clauses of `stream_generate_content` answer every exception with an
`HTTPException`. -/
theorem handleStreamGenerateContent_http (x : PyExc) :
    ∃ s d, handleStreamGenerateContent x = .httpException s d := by
  cases x <;> exact ⟨_, _, rfl⟩

/-- The manager of `capsem_integration`: `DebugPolicy` alone decides every call. -/
abbrev defaultManager (env : Env) : Env :=
  env.withManager fun c => .ok (defaultSecurityManager U c)

/-- Under the default manager the stream's pre-flight raises when the policy blocks every prompt
it can build from the contents. -/
theorem streamGenerateContentGates_raises {model : String} {ctx : Context} {env : Env}
    {tr : List Entry} (hb : ∀ lines, streamPromptParts U ctx.contents = .ok lines →
      (onModelCall U (join "\n" lines)).verdict = .block) :
    ∃ x, (streamGenerateContentGates U model ctx (defaultManager U env) tr).1 = .error x := by
  rw [streamGenerateContentGates_run]
  rcases hp : streamPromptParts U ctx.contents with x | lines
  · exact ⟨x, rfl⟩
  · simp only [Env.withManager, defaultSecurityManager, DebugPolicy.onCall, hb lines hp,
      ↓reduceIte]
    exact ⟨_, rfl⟩

/-- Under the default manager, a request whose prompt `generate_content`'s `on_model_call`
blocks is rejected by `stream_generate_content` with an `HTTPException`, before the stream is
opened. -/
theorem streamGenerateContent_rejects_blocked_prompt (env : Env) (req : Request) {ctx : Context}
    (hctx : requestContext (fun e => "Invalid JSON in request body: " ++ e) env req = .ok ctx)
    (hblock : (onModelCall U (join "\n" (promptParts ctx.contents))).verdict = .block) :
    (∃ s d, (streamGenerateContent U req (defaultManager U env) []).1 =
        .error (.httpException s d)) ∧
      ∀ e ∈ (streamGenerateContent U req (defaultManager U env) []).2, e.upstream = false := by
  have hctx' : requestContext id (defaultManager U env) req = .ok ctx :=
    (requestContext_ok hctx).2.2.2.2.2 id
  obtain ⟨x, hx⟩ := @streamGenerateContentGates_raises U req.model ctx env []
    fun lines hl => onModelCall_blocks_streamPrompt U hl hblock
  obtain ⟨new, hnew, hK, -⟩ := streamGenerateContentGates_gated U req.model ctx
    (defaultManager U env) []
  rcases hg : streamGenerateContentGates U req.model ctx (defaultManager U env) [] with
    ⟨y | _, tr⟩
  · rw [hg, List.nil_append] at hnew
    subst hnew
    obtain ⟨s, d, hsd⟩ := handleStreamGenerateContent_http y
    simp only [streamGenerateContent_run, hctx', hg, hsd]
    exact ⟨⟨s, d, rfl⟩, fun e he => Entry.upstream_of_inboundBy (hK e he)⟩
  · rw [hg] at hx
    cases hx

/-- A request whose prompt holds the trigger. -/
def triggerPromptRequest : Request :=
  ⟨"gemini-2.0-flash", "key", .ok (.obj [("contents", .arr [.obj [("role", .str "user"),
    ("parts", .arr [.obj [("text", .str "Say capsem_block")]])]])])⟩

theorem streamGenerateContent_rejects_trigger_prompt :
    (∃ s d, (streamGenerateContent .asciiOnly triggerPromptRequest (defaultManager .asciiOnly
        (Env.fixed (fun _ => .ok defaultSafeDecision) (.ok helloAnswer))) []).1 =
          .error (.httpException s d)) ∧
      ∀ e ∈ (streamGenerateContent .asciiOnly triggerPromptRequest (defaultManager .asciiOnly
        (Env.fixed (fun _ => .ok defaultSafeDecision) (.ok helloAnswer))) []).2,
          e.upstream = false :=
  streamGenerateContent_rejects_blocked_prompt .asciiOnly _ triggerPromptRequest rfl rfl

/-- A body whose one entry returns a function result holding the trigger. -/
def triggerResponseBody : Json :=
  .obj [("contents", .arr [.obj [("role", .str "user"), ("parts", .arr [
    .obj [("functionResponse", .obj [("name", .str "get_weather"),
      ("response", .obj [("location", .str "capsem_block")])])]])]])]

/-- Under the default manager `generate_content` rejects `triggerResponseBody` at
`on_tool_response`, while `stream_generate_content` makes no `on_tool_response` call and opens the
stream. -/
theorem streamGenerateContent_forwards_blocked_function_response :
    (generateContent ⟨"gemini-2.0-flash", "key", .ok triggerResponseBody⟩
        (Env.fixed (fun c => .ok (defaultSecurityManager .asciiOnly c)) (.ok helloAnswer)) []).1 =
      .error (.httpException 403
        "Request blocked by security policy: Detected 'capsem_block' in tool response") ∧
    streamGenerateContent .asciiOnly ⟨"gemini-2.0-flash", "key", .ok triggerResponseBody⟩
        (Env.fixed (fun c => .ok (defaultSecurityManager .asciiOnly c)) (.ok helloAnswer)) [] =
      (.ok (),
        [.security (.onModelCall "0" ⟨"proxy-user-Bearer key", "OpenAI API proxy user", []⟩
            "gemini-2.0-flash" "" "") (.ok defaultSafeDecision),
          .generateContentStream "gemini-2.0-flash" triggerResponseBody "key" (.ok ())]) :=
  ⟨rfl, rfl⟩

/-! ## Thought text in the prompts

`generate_content` reads the text of a part only when the part is not marked `thought`, so two
requests, or two responses, whose parts differ only in thought text give it the same texts. The
stream's prompt takes the text of every part.
-/

/-- An entry of `contents` whose first part is a thought with the text `t`, then a text. -/
def thoughtEntry (t : String) : Json :=
  .obj [("role", .str "user"), ("parts", .arr [
    .obj [("text", .str t), ("thought", .bool true)], .obj [("text", .str "hi")]])]

/-- A body whose one entry is `thoughtEntry t`. -/
def thoughtBody (t : String) : Json := .obj [("contents", .arr [thoughtEntry t])]

/-- Two parts that differ at most in the text of a part marked `thought`. -/
def SameButThought (p q : Part) : Prop :=
  p.thought = q.thought ∧ p.functionCall = q.functionCall ∧
    p.functionResponse = q.functionResponse ∧ (p.thought ≠ some true → p.text = q.text)

theorem visibleTexts_eq_of_sameButThought {ps qs : List Part}
    (h : List.Forall₂ SameButThought ps qs) : visibleTexts ps = visibleTexts qs := by
  induction h with
  | nil => rfl
  | @cons p q _ _ hpq _ ih =>
    obtain ⟨hth, -, -, htext⟩ := hpq
    simp only [visibleTexts, List.filterMap_cons] at ih ⊢
    rw [ih, ← hth]
    by_cases ht : p.thought = some true
    · simp only [ht, ↓reduceIte]
    · simp only [ht, ↓reduceIte, htext ht]

theorem flatMap_eq_of_forall₂ {α β : Type} {R : α → α → Prop} {f : α → List β}
    (hf : ∀ a b, R a b → f a = f b) :
    ∀ {xs ys : List α}, List.Forall₂ R xs ys → xs.flatMap f = ys.flatMap f
  | _, _, .nil => rfl
  | _, _, .cons hab h => by
    rw [List.flatMap_cons, List.flatMap_cons, hf _ _ hab, flatMap_eq_of_forall₂ hf h]

/-- Thought text reaches neither `generate_content`'s prompt nor the response text it checks:
contents, and candidates, whose parts differ only in the text of parts marked `thought` give the
same prompt and the same response text. -/
theorem generateContent_texts_ignore_thoughts {contents contents' : List Json}
    {candidates candidates' : List Candidate}
    (hc : List.Forall₂ (List.Forall₂ SameButThought) (contentParts contents)
      (contentParts contents'))
    (hr : List.Forall₂ (List.Forall₂ SameButThought) (candidateParts candidates)
      (candidateParts candidates')) :
    promptParts contents = promptParts contents' ∧
      responseParts candidates = responseParts candidates' :=
  ⟨flatMap_eq_of_forall₂ (fun _ _ h => visibleTexts_eq_of_sameButThought h) hc,
    flatMap_eq_of_forall₂ (fun _ _ h => visibleTexts_eq_of_sameButThought h) hr⟩

/-- A candidate whose first part is a thought with the text `t`, then a text. -/
def thoughtCandidate (t : String) : Candidate :=
  ⟨some ⟨some [⟨some t, some true, none, none⟩, ⟨some "Hello", none, none, none⟩], some "model"⟩⟩

theorem generateContent_texts_ignore_plans :
    promptParts [thoughtEntry "plan A"] = promptParts [thoughtEntry "plan B"] ∧
      responseParts [thoughtCandidate "plan A"] = responseParts [thoughtCandidate "plan B"] :=
  generateContent_texts_ignore_thoughts
    (.cons (.cons ⟨rfl, rfl, rfl, fun h => absurd rfl h⟩ (.cons ⟨rfl, rfl, rfl, fun _ => rfl⟩ .nil))
      .nil)
    (.cons (.cons ⟨rfl, rfl, rfl, fun h => absurd rfl h⟩ (.cons ⟨rfl, rfl, rfl, fun _ => rfl⟩ .nil))
      .nil)

theorem streamGenerateContent_prompt_holds_thought (t : String) :
    generateContent ⟨"gemini-2.0-flash", "key", .ok (thoughtBody t)⟩
        (Env.fixed (fun _ => .ok defaultSafeDecision) (.ok helloAnswer)) [] =
      (.ok ⟨some [⟨some ⟨some [⟨some "Hello", none, none, none⟩], some "model"⟩⟩]⟩,
        [.security (.onModelCall "0" ⟨"proxy-user-Bearer key", "OpenAI API proxy user", []⟩
            "gemini-2.0-flash" "" "hi") (.ok defaultSafeDecision),
          .generateContent "gemini-2.0-flash" (thoughtBody t) "key" (.ok helloAnswer),
          .security (.onModelResponse "0" ⟨"proxy-user-Bearer key", "OpenAI API proxy user", []⟩
            "Hello" "") (.ok defaultSafeDecision)]) ∧
    streamGenerateContent .asciiOnly ⟨"gemini-2.0-flash", "key", .ok (thoughtBody t)⟩
        (Env.fixed (fun _ => .ok defaultSafeDecision) (.ok helloAnswer)) [] =
      (.ok (),
        [.security (.onModelCall "0" ⟨"proxy-user-Bearer key", "OpenAI API proxy user", []⟩
            "gemini-2.0-flash" "" ("user: " ++ t ++ "\nuser: hi")) (.ok defaultSafeDecision),
          .generateContentStream "gemini-2.0-flash" (thoughtBody t) "key" (.ok ())]) :=
  ⟨rfl, rfl⟩

/-! ## What the endpoints answer to errors -/

/-- A key that is not empty is extracted as it is. -/
theorem extractGeminiApiKey_of_ne {key : String} (hkey : key ≠ "") :
    extractGeminiApiKey key = .ok key := by
  simp [extractGeminiApiKey, (String.isEmpty_iff key).not.2 hkey]

/-- A security manager that raises `ValueError(m)`, or a provider that does, makes both endpoints
answer `400` with the detail `m`: the `except ValueError` clauses catch it as a body error. -/
theorem gemini_endpoints_answer_valueError_with_400 (U : UnicodeData) (m : String) :
    (generateContent weatherRequest
        (Env.fixed (fun _ => .error (.valueError m)) (.ok helloAnswer)) []).1 =
      .error (.httpException 400 m) ∧
    (generateContent weatherRequest
        (Env.fixed (fun _ => .ok defaultSafeDecision) (.error (.valueError m))) []).1 =
      .error (.httpException 400 m) ∧
    (streamGenerateContent U weatherRequest
        (Env.fixed (fun _ => .error (.valueError m)) (.ok helloAnswer)) []).1 =
      .error (.httpException 400 m) ∧
    (streamGenerateContent U weatherRequest
        { Env.fixed (fun _ => .ok defaultSafeDecision) (.ok helloAnswer) with
          generateContentStream := fun _ _ _ _ => .error (.valueError m) } []).1 =
      .error (.httpException 400 m) :=
  ⟨rfl, rfl, rfl, rfl⟩

/-! ## The agent of a Gemini request -/

/-- A Gemini function declaration. -/
def weatherDeclaration : Json :=
  .obj [("name", .str "get_weather"), ("description", .str "Get the weather in a city")]

/-- The question of `weatherBody`, with one Gemini tool, which declares `weatherDeclaration`. -/
def weatherToolsBody : Json :=
  .obj [("contents", .arr [.obj [("role", .str "user"),
      ("parts", .arr [.obj [("text", .str "What is the weather in Paris?")]])]]),
    ("tools", .arr [.obj [("functionDeclarations", .arr [weatherDeclaration])]])]

/-- `weatherToolsBody`, sent with a key. -/
def weatherToolsRequest : Request := ⟨"gemini-2.0-flash", "key", .ok weatherToolsBody⟩

theorem gemini_agent_omits_function_declarations (env : Env) :
    (∀ jsonError : String → String,
      (requestContext jsonError env weatherToolsRequest).map (fun ctx => ctx.agent.tools) =
        .ok []) ∧
    (declaredTool weatherDeclaration).map Tool.name = .ok "get_weather" :=
  ⟨fun _ => rfl, rfl⟩

end Capsem.Gemini
