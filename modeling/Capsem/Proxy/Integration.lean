import Capsem.Policies.DebugPolicy

/-! # `capsem_proxy.capsem_integration`

* `createAgent`: `create_agent(user_id, tools)`, the request's `Agent`. It converts the entries
  of `tools` that have the OpenAI shape `{"type": "function", "function": {...}}`; every other
  entry is skipped.
* `defaultSecurityManager`: the manager built when no configuration directory is given, one
  `DebugPolicy`; `securityManager`: the choice between it and the policies of a configuration
  directory.
-/

namespace Capsem
set_option autoImplicit false

/-- The `Tool` built from a function declaration `func`, as `create_agent` (lines 67-74) and
`stream_generate_content` (lines 288-295) build it: the name defaults to `"unknown"`, a missing or
falsy description becomes a placeholder, the parameters default to an empty object schema. -/
def declaredTool (func : Json) : Except PyExc Tool := do
  let description ← func.get "description" (.str "")
  let description := if description.truthy then description else .str "No description provided"
  let name ← func.get "name" (.str "unknown")
  let parameters ← func.get "parameters" (.obj [("type", .str "object"), ("properties", .obj [])])
  Tool.validate name description parameters

/-- The loop of `create_agent` over the tool definitions. -/
def convertTools : List Json → Except PyExc (List Tool)
  | [] => pure []
  | toolDef :: rest => do
    let type ← toolDef.get "type" .null
    if type.isStr "function" then
      let tool ← declaredTool (← toolDef.get "function" (.obj []))
      return tool :: (← convertTools rest)
    else convertTools rest

/-- `create_agent(user_id, tools)`. -/
def createAgent (userId : String) (tools : Json) : Except PyExc Agent := do
  let capsemTools ← if tools.truthy then convertTools (← tools.iter) else pure []
  pure ⟨"proxy-user-" ++ userId, "OpenAI API proxy user", capsemTools⟩

/-! ## What `create_agent` declares -/

/-- An entry of `tools` that `create_agent` converts: `tool_def.get("type") == "function"`. -/
def isFunctionEntry (kvs : List (String × Json)) : Bool :=
  ((kvs.lookup "type").getD .null).isStr "function"

/-- A traversal that returns relates each item to its result. -/
theorem forall₂_of_mapM_eq_ok {α β : Type} {f : α → Except PyExc β} :
    ∀ {xs : List α} {ys : List β}, xs.mapM f = .ok ys → List.Forall₂ (fun x y => f x = .ok y) xs ys
  | [], ys, h => by
    cases h
    exact .nil
  | x :: xs, ys, h => by
    simp only [List.mapM_cons, Except.bind_eq_ok, Except.pure_eq_ok] at h
    obtain ⟨y, hy, ys', hys', rfl⟩ := h
    exact .cons hy (forall₂_of_mapM_eq_ok hys')

/-- The loop of `create_agent` over a list of `dict`s converts, in order, the `function` object
of each entry of type `"function"`, and skips the others. -/
theorem convertTools_objs (defs : List (List (String × Json))) :
    convertTools (defs.map .obj) = (defs.filter isFunctionEntry).mapM fun kvs =>
      declaredTool ((kvs.lookup "function").getD (.obj [])) := by
  induction defs with
  | nil => rfl
  | cons kvs defs ih =>
    by_cases h : isFunctionEntry kvs = true
    · rw [List.filter_cons_of_pos h, List.mapM_cons, ← ih]
      simp only [isFunctionEntry] at h
      simp only [List.map_cons, convertTools, Json.get, Except.ok_bind, h, ↓reduceIte]
    · rw [List.filter_cons_of_neg h, ← ih]
      simp only [isFunctionEntry] at h
      simp only [List.map_cons, convertTools, Json.get, Except.ok_bind, h, Bool.false_eq_true,
        ↓reduceIte]

/-- `create_agent` on a list of `dict`s: the agent of the user declares one tool for each entry of
type `"function"`, in order, the tool `declaredTool` builds from the entry's `function` object. -/
theorem createAgent_declares_function_entries {userId : String}
    {defs : List (List (String × Json))} {agent : Agent}
    (h : createAgent userId (.arr (defs.map .obj)) = .ok agent) :
    agent.name = "proxy-user-" ++ userId ∧
      List.Forall₂ (fun kvs t => declaredTool ((kvs.lookup "function").getD (.obj [])) = .ok t)
        (defs.filter isFunctionEntry) agent.tools := by
  rcases defs with _ | ⟨kvs, defs⟩
  · cases h
    exact ⟨rfl, .nil⟩
  · simp only [createAgent, List.map_cons, Json.truthy, List.isEmpty_cons, Bool.not_false,
      ↓reduceIte, Json.iter, Except.ok_bind, Except.bind_eq_ok, Except.pure_eq_ok] at h
    obtain ⟨tools, htools, rfl⟩ := h
    rw [← List.map_cons, convertTools_objs] at htools
    exact ⟨rfl, forall₂_of_mapM_eq_ok htools⟩

/-- Tools in the OpenAI shape: a function, then an entry of another type. -/
def openAiTools : List (List (String × Json)) :=
  [[("type", .str "function"), ("function", .obj [("name", .str "get_weather"),
      ("description", .str "Get the weather in a city")])],
    [("type", .str "retrieval")]]

theorem createAgent_declares_weather_function :
    ∃ agent, createAgent "u" (.arr (openAiTools.map .obj)) = .ok agent ∧
      agent.name = "proxy-user-u" ∧
      List.Forall₂ (fun kvs t => declaredTool ((kvs.lookup "function").getD (.obj [])) = .ok t)
        (openAiTools.filter isFunctionEntry) agent.tools :=
  ⟨_, rfl, @createAgent_declares_function_entries "u" openAiTools _ rfl⟩

/-- Modelled from the spec: `SecurityManager()` with the one policy `DebugPolicy()` added. With a
single policy the aggregated decision is that policy's decision (§4.2). -/
def defaultSecurityManager (U : UnicodeData) : SecurityCall → Decision :=
  DebugPolicy.onCall U

/-- The module-level choice of lines 28-47, made once at import: the manager
`load_policies_from_directory` builds from `PROXY_CONFIG_DIR` when the variable is set, not empty,
names an existing path and the loader returns; `defaultSecurityManager` otherwise, also when the
loader raises. The loader and the file system are not under src/ and are parameters. -/
def securityManager (U : UnicodeData) (configDir : Option String) (pathExists : String → Bool)
    (loadPoliciesFromDirectory : String → Except PyExc (SecurityCall → Except PyExc Decision)) :
    SecurityCall → Except PyExc Decision :=
  match configDir with
  | some dir =>
    if !dir.isEmpty && pathExists dir then
      match loadPoliciesFromDirectory dir with
      | .ok manager => manager
      | .error _ => fun c => .ok (defaultSecurityManager U c)
    else fun c => .ok (defaultSecurityManager U c)
  | none => fun c => .ok (defaultSecurityManager U c)

/-- The proxy runs `DebugPolicy` alone unless `PROXY_CONFIG_DIR` names an existing path whose
policies load; when they load, it runs the loaded manager. -/
theorem securityManager_cases (U : UnicodeData) (configDir : Option String)
    (pathExists : String → Bool)
    (load : String → Except PyExc (SecurityCall → Except PyExc Decision)) :
    (∃ dir manager, configDir = some dir ∧ dir ≠ "" ∧ pathExists dir = true ∧
        load dir = .ok manager ∧ securityManager U configDir pathExists load = manager) ∨
      securityManager U configDir pathExists load = fun c => .ok (defaultSecurityManager U c) := by
  rcases configDir with _ | dir
  · exact .inr rfl
  by_cases hd : !dir.isEmpty && pathExists dir
  · obtain ⟨hne, hp⟩ := Bool.and_eq_true_iff.1 hd
    rcases hl : load dir with x | manager
    · exact .inr (by simp only [securityManager, hd, hl, ↓reduceIte])
    · refine .inl ⟨dir, manager, rfl, ?_, hp, hl, by simp only [securityManager, hd, hl, ↓reduceIte]⟩
      rintro rfl
      exact absurd hne (by decide)
  · exact .inr (by simp only [securityManager, hd, Bool.false_eq_true, ↓reduceIte])

end Capsem
