import Capsem.Proxy.Run
import Capsem.Proxy.Integration
import Capsem.GenAI.Types

/-! # `capsem_proxy.api.gemini`: the `generateContent` and `streamGenerateContent` endpoints

Each endpoint is an `except` wrapper around two phases, which are the source's two halves:

* the pre-flight (`generateContentInbound`, `streamGenerateContentInbound`): read the key, the
  body and the agent (`requestContext`), then gate the request: `on_tool_response` on embedded
  function responses and `on_model_call` on the prompt for `generate_content`; `on_model_call`
  on the prompt and `on_tool_call` on each declared function for `stream_generate_content`;
* the forwarding (`generateContentForward`, or the opening of the stream): call the provider;
  for `generate_content`, validate the response, gate each function call and the response text,
  and return the response.

The content loop of `generate_content` (lines 104-130) is split into its text, the pure
`promptParts`, and its calls, `checkContent`; the candidate loop (lines 162-188) likewise into
`responseParts`, `responseThoughts` and `checkCandidate`. Logging and printing are left out.
-/

namespace Capsem.Gemini
open GenAI
set_option autoImplicit false

/-- The request an endpoint receives. -/
structure Request where
  /-- The `{model}` of the path. -/
  model : String
  /-- The `x-goog-api-key` header. -/
  apiKey : String
  /-- `await request.json()`: the decoded body, or the decoder's message. -/
  body : Except String Json

/-- What an endpoint has read before its first call. -/
structure Context where
  apiKey : String
  requestId : String
  body : Json
  agent : Agent
  contents : List Json

/-- `extract_gemini_api_key(x_goog_api_key)`. -/
def extractGeminiApiKey (key : String) : Except PyExc String :=
  if key.isEmpty then .error (.valueError "Missing x-goog-api-key header") else .ok key

/-- The start both endpoints share (lines 76-100 and 235-254): the key, the user id, the
invocation id, the body, the agent and the entries of `contents`. A body that is not JSON raises
the `ValueError` `jsonError` builds from the decoder's message. -/
def requestContext (jsonError : String → String) (env : Env) (req : Request) :
    Except PyExc Context := do
  let apiKey ← extractGeminiApiKey req.apiKey
  let userId := env.userIdOf ("Bearer " ++ apiKey)
  let body ← req.body.mapError fun e => .valueError (jsonError e)
  let agent ← createAgent userId (← body.get "tools" (.arr []))
  let contents ← (← body.get "contents" (.arr [])).iter
  pure ⟨apiKey, env.requestId, body, agent, contents⟩

/-- `_decide(step, decision, request_id)`: a blocking decision raises a `403`. The step and the
invocation id only reach the log. -/
def _decide (decision : Decision) : Run Unit :=
  Run.raiseOnBlock "Request blocked by security policy: " decision

/-! ## Text -/

/-- The non-empty texts of the parts not marked `thought` (`if part.text: if part.thought:`). -/
def visibleTexts (parts : List Part) : List String :=
  parts.filterMap fun p => if p.thought = some true then none else p.text.filter (· != "")

/-- The non-empty texts of the parts marked `thought`. -/
def thoughtTexts (parts : List Part) : List String :=
  parts.filterMap fun p => if p.thought = some true then p.text.filter (· != "") else none

/-- The parts of each entry of `contents` that validates as a `Content` and has parts. -/
def contentParts (contents : List Json) : List (List Part) :=
  contents.filterMap fun c => (Content.ofJson c).bind Content.parts

/-- `prompt_parts` of `generate_content` (lines 102-117). -/
def promptParts (contents : List Json) : List String :=
  (contentParts contents).flatMap visibleTexts

/-- The parts of each candidate that has a content with parts. -/
def candidateParts (candidates : List Candidate) : List (List Part) :=
  candidates.filterMap fun c => c.content.bind Content.parts

/-- `response_parts` of `generate_content` (lines 158-172). -/
def responseParts (candidates : List Candidate) : List String :=
  (candidateParts candidates).flatMap visibleTexts

/-- `response_thoughts` of `generate_content` (lines 159-172). -/
def responseThoughts (candidates : List Candidate) : List String :=
  (candidateParts candidates).flatMap thoughtTexts

/-- `f"{role}: {part['text']}"` for each part of one entry that has a `text` key
(`stream_generate_content`, lines 259-261). -/
def streamPartLines (U : UnicodeData) (role : Json) : List Json → Except PyExc (List String)
  | [] => pure []
  | part :: rest => do
    let line ← if ← part.contains "text" then do
        let text ← part.index "text"
        pure [String.mk (role.pyStr U ++ ": ".toList ++ text.pyStr U)]
      else pure []
    return line ++ (← streamPartLines U role rest)

/-- `prompt_parts` of `stream_generate_content` (lines 255-261). -/
def streamPromptParts (U : UnicodeData) : List Json → Except PyExc (List String)
  | [] => pure []
  | content :: rest => do
    let role ← content.get "role" (.str "user")
    let parts ← (← content.get "parts" (.arr [])).iter
    let lines ← streamPartLines U role parts
    return lines ++ (← streamPromptParts U rest)

/-! ## `generate_content` -/

/-- The name a `Tool` gets from an optional field. -/
def nameJson (name : Option String) : Json := (name.map .str).getD .null

/-- The `on_tool_response` gate on one function response (lines 120-130). -/
def checkFunctionResponse (requestId : String) (agent : Agent) (fr : FunctionResponse) :
    Run Unit := do
  let tool ← Run.lift (Tool.validate (nameJson fr.name) (.str "Function response from model") (.obj []))
  _decide (← Run.ask (.onToolResponse requestId agent tool (.obj (fr.response.getD []))))

/-- One pass of the content loop (lines 104-130), its calls: an entry that validates and has
parts sends the function response of the part the inner loop ended on, when it has one. -/
def checkContent (requestId : String) (agent : Agent) (content : Json) : Run Unit :=
  match Content.ofJson content with
  | none => pure ()
  | some content =>
    match content.parts with
    | none | some [] => pure ()
    | some parts =>
      match parts.getLast?.bind Part.functionResponse with
      | none => pure ()
      | some fr => checkFunctionResponse requestId agent fr

/-- Lines 100-145 of `generate_content`: the content loop and the `on_model_call` gate. -/
def generateContentGates (model : String) (ctx : Context) : Run Unit := do
  ctx.contents.forM (checkContent ctx.requestId ctx.agent)
  let prompt := join "\n" (promptParts ctx.contents)
  _decide (← Run.ask (.onModelCall ctx.requestId ctx.agent model "" prompt))

/-- Lines 74-145 of `generate_content`: the context, then the gates on the request. -/
def generateContentInbound (req : Request) : Run Context := do
  let ctx ← Run.lift (requestContext (fun e => "Invalid JSON in request body: " ++ e) (← Run.read) req)
  generateContentGates req.model ctx
  pure ctx

/-- The `on_tool_call` gate on one function call of the response (lines 175-188). -/
def checkFunctionCall (requestId : String) (agent : Agent) (fc : FunctionCall) : Run Unit := do
  let tool ← Run.lift
    (Tool.validate (nameJson fc.name) (.str "Function call from model") (.obj (fc.args.getD [])))
  _decide (← Run.ask (.onToolCall requestId agent tool (fc.args.getD [])))

/-- One pass of the candidate loop (lines 162-188), its calls. -/
def checkCandidate (requestId : String) (agent : Agent) (candidate : Candidate) : Run Unit :=
  match candidate.content with
  | none => pure ()
  | some content =>
    match content.parts with
    | none | some [] => pure ()
    | some parts => parts.forM fun part =>
      match part.functionCall with
      | none => pure ()
      | some fc => checkFunctionCall requestId agent fc

/-- Lines 162-200 of `generate_content`: the candidate loop and the `on_model_response` gate. -/
def responseGates (ctx : Context) (candidates : List Candidate) : Run Unit := do
  candidates.forM (checkCandidate ctx.requestId ctx.agent)
  let responseText := join "\n" (responseParts candidates)
  let thoughts := join "\n" (responseThoughts candidates)
  _decide (← Run.ask (.onModelResponse ctx.requestId ctx.agent responseText thoughts))

/-- `GenerateContentResponse(**raw_response)`, a failure answered by a `502` (lines 150-154). -/
def validateResponse (rawResponse : Json) : Except PyExc GenerateContentResponse :=
  match GenerateContentResponse.ofJson rawResponse with
  | some response => .ok response
  | none => .error (.httpException 502 "Invalid response from provider")

/-- Lines 148-204 of `generate_content`: forward, validate the response, gate it, return it. A
response without candidates is returned at once. -/
def generateContentForward (model : String) (ctx : Context) : Run GenerateContentResponse := do
  let rawResponse ← Run.generateContent model ctx.body ctx.apiKey
  let response ← Run.lift (validateResponse rawResponse)
  match response.candidates with
  | none | some [] => pure response
  | some candidates => do
    responseGates ctx candidates
    pure response

/-- The `except` clauses of `generate_content` (lines 206-221). -/
def handleGenerateContent : PyExc → PyExc
  | .httpException s d => .httpException s d
  | .valueError m => .httpException 400 m
  | .httpStatusError s _ => .httpException s "Upstream provider error"
  | .httpError _ => .httpException 502 "Bad gateway"
  | .other _ => .httpException 500 "Internal server error"

/-- `generate_content(model, request, x_goog_api_key)`. -/
def generateContent (req : Request) : Run GenerateContentResponse :=
  Run.tryCatch (generateContentInbound req >>= generateContentForward req.model)
    fun e => Run.throw (handleGenerateContent e)

/-! ## `stream_generate_content` -/

/-- The `on_tool_call` gate on one declared function (lines 288-307); no arguments exist yet. -/
def checkDeclaration (requestId : String) (agent : Agent) (funcDecl : Json) : Run Unit := do
  let tool ← Run.lift (declaredTool funcDecl)
  let toolDecision ← Run.ask (.onToolCall requestId agent tool [])
  Run.raiseOnBlock "Tool blocked by security policy: " toolDecision

/-- One pass of the loop over `tools` (lines 285-307). -/
def checkToolDef (requestId : String) (agent : Agent) (toolDef : Json) : Run Unit := do
  if ← Run.lift (toolDef.contains "functionDeclarations") then
    let decls ← Run.lift (do (← toolDef.index "functionDeclarations").iter)
    decls.forM (checkDeclaration requestId agent)

/-- `if tools: for tool_def in tools: ...` (lines 284-307). -/
def checkTools (requestId : String) (agent : Agent) (tools : Json) : Run Unit :=
  if tools.truthy then do (← Run.lift tools.iter).forM (checkToolDef requestId agent)
  else pure ()

variable (U : UnicodeData)

/-- Lines 253-307 of `stream_generate_content`: the `on_model_call` gate on the role-tagged
prompt, then the `on_tool_call` gate on each declared function. -/
def streamGenerateContentGates (model : String) (ctx : Context) : Run Unit := do
  let prompt := join "\n" (← Run.lift (streamPromptParts U ctx.contents))
  let decision ← Run.ask (.onModelCall ctx.requestId ctx.agent model "" prompt)
  Run.raiseOnBlock "Request blocked by security policy: " decision
  checkTools ctx.requestId ctx.agent (← Run.lift (ctx.body.get "tools" (.arr [])))

/-- Lines 233-307 of `stream_generate_content`: the context, then the gates on the request. -/
def streamGenerateContentInbound (req : Request) : Run Context := do
  let ctx ← Run.lift (requestContext id (← Run.read) req)
  streamGenerateContentGates U req.model ctx
  pure ctx

/-- The `except` clauses of `stream_generate_content` (lines 314-324): no clause for
`httpx.HTTPStatusError`, which the `httpx.HTTPError` clause catches. -/
def handleStreamGenerateContent : PyExc → PyExc
  | .httpException s d => .httpException s d
  | .valueError m => .httpException 400 m
  | .httpStatusError _ _ | .httpError _ => .httpException 502 "Bad gateway"
  | .other _ => .httpException 500 "Internal server error"

/-- `stream_generate_content(model, request, x_goog_api_key)`: after the pre-flight it opens the
upstream stream and returns it as a `StreamingResponse`, whose chunks pass through unchecked. -/
def streamGenerateContent (req : Request) : Run Unit :=
  Run.tryCatch
    (streamGenerateContentInbound U req >>= fun ctx =>
      Run.generateContentStream req.model ctx.body ctx.apiKey)
    fun e => Run.throw (handleStreamGenerateContent e)

end Capsem.Gemini
