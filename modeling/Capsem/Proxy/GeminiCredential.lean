import Capsem.Proxy.GeminiPreflight

/-! # Where the API key goes

The key of the `x-goog-api-key` header reaches two places: `get_user_id_from_auth`, whose hash
names the agent, and the provider calls it authenticates (§4.5). Nothing else of a run reads it:
no check, no security call, no message of an exception. So two requests that differ only in their
keys, with keys of the same user id, run alike in an environment that answers them alike: the
same answer to the client, and the same calls, but for the key each provider call carries.

* `Entry.eraseKey`: a call with the key it forwards erased.
* `Env.KeyBlind env k k'`: at calls alike up to keys, the security manager answers alike, and the
  provider answers a call with `k` as the same call with `k'`.
* `IgnoresKeys p`: two runs of `p` from calls alike up to keys end the same and add calls alike
  up to keys. It holds of the primitives but the provider calls, and `bind` and `List.forM` keep
  it; the response gates have it.
* The pre-flight gates never read the key, so both requests run the same pre-flight; the runs
  first differ at the provider call.
-/

namespace Capsem
set_option autoImplicit false

/-- A call with the key it forwards to the provider erased. -/
def Entry.eraseKey : Entry → Entry
  | .security c o => .security c o
  | .generateContent m b _ o => .generateContent m b "" o
  | .generateContentStream m b _ o => .generateContentStream m b "" o

/-- An environment that answers two keys alike: the security manager does not tell calls alike up
to keys apart, and the provider answers a call with `k` as it answers the same call with `k'`. -/
structure Env.KeyBlind (env : Env) (k k' : String) : Prop where
  securityManager : ∀ tr tr', tr.map Entry.eraseKey = tr'.map Entry.eraseKey →
    env.securityManager tr = env.securityManager tr'
  generateContent : ∀ tr tr', tr.map Entry.eraseKey = tr'.map Entry.eraseKey → ∀ m b,
    env.generateContent tr m b k = env.generateContent tr' m b k'
  generateContentStream : ∀ tr tr', tr.map Entry.eraseKey = tr'.map Entry.eraseKey → ∀ m b,
    env.generateContentStream tr m b k = env.generateContentStream tr' m b k'

/-- Two runs of `p`, in an environment blind to keys and from calls alike up to keys, end the same
and add calls alike up to keys. -/
def IgnoresKeys {α : Type} (p : Run α) : Prop :=
  ∀ env k k', env.KeyBlind k k' → ∀ tr tr', tr.map Entry.eraseKey = tr'.map Entry.eraseKey →
    (p env tr).1 = (p env tr').1 ∧
      (p env tr).2.map Entry.eraseKey = (p env tr').2.map Entry.eraseKey

namespace IgnoresKeys
variable {α β γ : Type}

/-- A computation that makes no call and whose result does not depend on the environment. -/
theorem const {p : Run α} (x : Except PyExc α) (h : ∀ env tr, p env tr = (x, tr)) :
    IgnoresKeys p := fun env _ _ _ tr tr' htr => by
  rw [h env tr, h env tr']
  exact ⟨rfl, htr⟩

theorem pure (a : α) : IgnoresKeys (Pure.pure a : Run α) := const (.ok a) fun _ _ => rfl

theorem lift (x : Except PyExc α) : IgnoresKeys (Run.lift x) := const x fun _ _ => rfl

theorem raiseOnBlock (msg : String) (d : Decision) : IgnoresKeys (Run.raiseOnBlock msg d) :=
  const (if d.verdict = .block then .error (.httpException 403 (msg ++ d.details)) else .ok ())
    fun _ _ => by by_cases hv : d.verdict = .block <;> simp only [Run.raiseOnBlock, hv,
      ↓reduceIte] <;> rfl

theorem ask (c : SecurityCall) : IgnoresKeys (Run.ask c) := fun env _ _ hK tr tr' htr => by
  have hc := congrFun (hK.securityManager tr tr' htr) c
  refine ⟨hc, ?_⟩
  simp only [Run.ask_run, List.map_append, List.map_cons, List.map_nil, Entry.eraseKey, htr, hc]

theorem bind {p : Run α} {f : α → Run β} (hp : IgnoresKeys p) (hf : ∀ a, IgnoresKeys (f a)) :
    IgnoresKeys (p >>= f) := fun env k k' hK tr tr' htr => by
  obtain ⟨hr, htr1⟩ := hp env k k' hK tr tr' htr
  rw [Run.bind_run, Run.bind_run]
  rcases hx : p env tr with ⟨x | a, tr1⟩ <;> rcases hy : p env tr' with ⟨y | b, tr2⟩ <;>
    rw [hx, hy] at hr htr1 <;> cases hr
  · exact ⟨rfl, htr1⟩
  · exact hf a env k k' hK tr1 tr2 htr1

theorem forM {xs : List γ} {f : γ → Run PUnit} (h : ∀ x ∈ xs, IgnoresKeys (f x)) :
    IgnoresKeys (xs.forM f) := by
  induction xs with
  | nil => exact pure _
  | cons x xs ih =>
    exact bind (h x (List.mem_cons_self _ _)) fun _ =>
      ih fun y hy => h y (List.mem_cons_of_mem _ hy)

theorem check (msg : String) (c : SecurityCall) :
    IgnoresKeys (Run.ask c >>= Run.raiseOnBlock msg) :=
  bind (ask c) (raiseOnBlock msg)

end IgnoresKeys

namespace Gemini
open GenAI

/-! ## The phases -/

/-- The key and the user id a request's context is read with: a second key of the same user id
gives the same context but for its key. -/
theorem requestContext_withKey {jsonError : String → String} {env : Env} {req : Request}
    {k' : String} (hk : req.apiKey ≠ "") (hk' : k' ≠ "")
    (hu : env.userIdOf ("Bearer " ++ req.apiKey) = env.userIdOf ("Bearer " ++ k')) :
    requestContext jsonError env { req with apiKey := k' } =
      (fun ctx => { ctx with apiKey := k' }) <$> requestContext jsonError env req := by
  simp only [requestContext, extractGeminiApiKey_of_ne hk, extractGeminiApiKey_of_ne hk', hu,
    Except.ok_bind, map_bind, map_pure]

/-- The pre-flight gates of `generate_content` do not read the key. -/
theorem generateContentGates_withKey (model : String) (ctx : Context) (k' : String) :
    generateContentGates model { ctx with apiKey := k' } = generateContentGates model ctx := rfl

/-- The response gates do not read the key. -/
theorem responseGates_withKey (ctx : Context) (candidates : List Candidate) (k' : String) :
    responseGates { ctx with apiKey := k' } candidates = responseGates ctx candidates := rfl

variable (U : UnicodeData)

/-- The pre-flight gates of `stream_generate_content` do not read the key. -/
theorem streamGenerateContentGates_withKey (model : String) (ctx : Context) (k' : String) :
    streamGenerateContentGates U model { ctx with apiKey := k' } =
      streamGenerateContentGates U model ctx := rfl

theorem checkCandidate_ignoresKeys (requestId : String) (agent : Agent) (candidate : Candidate) :
    IgnoresKeys (checkCandidate requestId agent candidate) := by
  unfold checkCandidate
  rcases candidate.content with _ | ⟨_ | _ | ⟨p, ps⟩, role⟩
  iterate 3 exact IgnoresKeys.pure _
  refine IgnoresKeys.forM fun part _ => ?_
  rcases part.functionCall with _ | fc
  · exact IgnoresKeys.pure _
  · exact IgnoresKeys.bind (IgnoresKeys.lift _) fun _ => IgnoresKeys.check _ _

theorem responseGates_ignoresKeys (ctx : Context) (candidates : List Candidate) :
    IgnoresKeys (responseGates ctx candidates) :=
  IgnoresKeys.bind (IgnoresKeys.forM fun c _ => checkCandidate_ignoresKeys _ _ c) fun _ =>
    IgnoresKeys.check _ _

/-- The forwarding, from the same calls, with the context's key and with another the environment
answers alike: the same answer, and calls alike up to keys. -/
theorem generateContentForward_withKey (model : String) (ctx : Context) {env : Env} {k' : String}
    (hK : env.KeyBlind ctx.apiKey k') (tr : List Entry) :
    (generateContentForward model ctx env tr).1 =
        (generateContentForward model { ctx with apiKey := k' } env tr).1 ∧
      (generateContentForward model ctx env tr).2.map Entry.eraseKey =
        (generateContentForward model { ctx with apiKey := k' } env tr).2.map Entry.eraseKey := by
  rw [generateContentForward_run, generateContentForward_run]
  dsimp only [responseGates_withKey]
  rw [← hK.generateContent tr tr rfl model ctx.body]
  generalize env.generateContent tr model ctx.body ctx.apiKey = up
  have htr : (tr ++ [Entry.generateContent model ctx.body ctx.apiKey up]).map Entry.eraseKey =
      (tr ++ [Entry.generateContent model ctx.body k' up]).map Entry.eraseKey := by
    simp only [List.map_append, List.map_cons, List.map_nil, Entry.eraseKey]
  rcases up.bind validateResponse with x | r
  · exact ⟨rfl, htr⟩
  dsimp only
  rcases r.candidates with _ | _ | ⟨c, cs⟩
  iterate 2 exact ⟨rfl, htr⟩
  obtain ⟨h1, h2⟩ := responseGates_ignoresKeys ctx (c :: cs) env _ _ hK _ _ htr
  exact ⟨congrArg (Except.map fun _ => r) h1, h2⟩

/-! ## The endpoints -/

section Endpoints
variable {env : Env} {req : Request} {k' : String}

theorem generateContent_withKey (hK : env.KeyBlind req.apiKey k') (hk : req.apiKey ≠ "")
    (hk' : k' ≠ "") (hu : env.userIdOf ("Bearer " ++ req.apiKey) = env.userIdOf ("Bearer " ++ k')) :
    (generateContent req env []).1 = (generateContent { req with apiKey := k' } env []).1 ∧
      (generateContent req env []).2.map Entry.eraseKey =
        (generateContent { req with apiKey := k' } env []).2.map Entry.eraseKey := by
  rw [generateContent_run, generateContent_run, requestContext_withKey hk hk' hu]
  rcases hc : requestContext _ env req with x | ctx
  · exact ⟨rfl, rfl⟩
  rw [← (requestContext_ok hc).1] at hK
  dsimp only [Functor.map, Except.map]
  rw [generateContentGates_withKey req.model ctx k']
  rcases generateContentGates req.model ctx env [] with ⟨x | _, tr⟩
  · exact ⟨rfl, rfl⟩
  obtain ⟨h1, h2⟩ := generateContentForward_withKey req.model ctx hK tr
  exact ⟨congrArg (Except.mapError handleGenerateContent) h1, h2⟩

theorem streamGenerateContent_withKey (hK : env.KeyBlind req.apiKey k') (hk : req.apiKey ≠ "")
    (hk' : k' ≠ "") (hu : env.userIdOf ("Bearer " ++ req.apiKey) = env.userIdOf ("Bearer " ++ k')) :
    (streamGenerateContent U req env []).1 =
        (streamGenerateContent U { req with apiKey := k' } env []).1 ∧
      (streamGenerateContent U req env []).2.map Entry.eraseKey =
        (streamGenerateContent U { req with apiKey := k' } env []).2.map Entry.eraseKey := by
  rw [streamGenerateContent_run, streamGenerateContent_run, requestContext_withKey hk hk' hu]
  rcases hc : requestContext id env req with x | ctx
  · exact ⟨rfl, rfl⟩
  rw [← (requestContext_ok hc).1] at hK
  dsimp only [Functor.map, Except.map]
  rw [streamGenerateContentGates_withKey U req.model ctx k']
  rcases streamGenerateContentGates U req.model ctx env [] with ⟨x | _, tr⟩
  · exact ⟨rfl, rfl⟩
  dsimp only
  rw [← hK.generateContentStream tr tr rfl]
  simp only [List.map_append, List.map_cons, List.map_nil, Entry.eraseKey, and_self]

/-- The API key reaches nothing but the provider calls and the user id: two requests that differ
only in their keys, keys of the same user id that the environment answers alike, get the same
answer from `generate_content` and make the same calls but for the key each provider call
carries; and so for `stream_generate_content`. -/
theorem gemini_endpoints_confine_api_key (hK : env.KeyBlind req.apiKey k') (hk : req.apiKey ≠ "")
    (hk' : k' ≠ "") (hu : env.userIdOf ("Bearer " ++ req.apiKey) = env.userIdOf ("Bearer " ++ k')) :
    ((generateContent req env []).1 = (generateContent { req with apiKey := k' } env []).1 ∧
      (generateContent req env []).2.map Entry.eraseKey =
        (generateContent { req with apiKey := k' } env []).2.map Entry.eraseKey) ∧
    ((streamGenerateContent U req env []).1 =
        (streamGenerateContent U { req with apiKey := k' } env []).1 ∧
      (streamGenerateContent U req env []).2.map Entry.eraseKey =
        (streamGenerateContent U { req with apiKey := k' } env []).2.map Entry.eraseKey) :=
  ⟨generateContent_withKey hK hk hk' hu, streamGenerateContent_withKey U hK hk hk' hu⟩

end Endpoints

/-- An environment whose user ids do not tell keys apart. -/
def sharedUserEnv : Env :=
  { Env.fixed (fun _ => .ok defaultSafeDecision) (.ok weatherCallAnswer) with
    userIdOf := fun _ => "user" }

theorem weather_call_confines_api_key :
    sharedUserEnv.KeyBlind weatherRequest.apiKey "other-key" ∧ weatherRequest.apiKey ≠ "" ∧
      "other-key" ≠ "" ∧ sharedUserEnv.userIdOf ("Bearer " ++ weatherRequest.apiKey) =
        sharedUserEnv.userIdOf ("Bearer " ++ "other-key") ∧
      ((generateContent weatherRequest sharedUserEnv []).1 =
          (generateContent { weatherRequest with apiKey := "other-key" } sharedUserEnv []).1 ∧
        (generateContent weatherRequest sharedUserEnv []).2.map Entry.eraseKey =
          (generateContent { weatherRequest with apiKey := "other-key" } sharedUserEnv []).2.map
            Entry.eraseKey) ∧
      ((streamGenerateContent .asciiOnly weatherRequest sharedUserEnv []).1 =
          (streamGenerateContent .asciiOnly { weatherRequest with apiKey := "other-key" }
            sharedUserEnv []).1 ∧
        (streamGenerateContent .asciiOnly weatherRequest sharedUserEnv []).2.map Entry.eraseKey =
          (streamGenerateContent .asciiOnly { weatherRequest with apiKey := "other-key" }
            sharedUserEnv []).2.map Entry.eraseKey) :=
  have hK : sharedUserEnv.KeyBlind weatherRequest.apiKey "other-key" :=
    ⟨fun _ _ _ => rfl, fun _ _ _ _ _ => rfl, fun _ _ _ _ _ => rfl⟩
  ⟨hK, by decide, by decide, rfl,
    gemini_endpoints_confine_api_key .asciiOnly hK (by decide) (by decide) rfl⟩

end Gemini
end Capsem
