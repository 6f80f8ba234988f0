import Capsem.Models

/-! # Runs of an endpoint against its environment

An endpoint talks to two components outside the proxy: the security manager and the upstream
provider. Neither is among the sources, and the results here range over everything they may
answer, so both form an oracle `Env`: each call is answered, from the calls made before it, by an
arbitrary decision, an arbitrary response or an arbitrary exception. A `Run` threads the calls
made so far (`Entry`: a call and what it gave back) and ends in a value or an exception; an
exception keeps the calls made before it.

* `Run.ask`, `Run.generateContent`, `Run.generateContentStream`: the three kinds of call.
* `raiseOnBlock msg`: raise `HTTPException(403, msg + details)` on a blocking decision.
* `Gated K p`: `p` adds only calls of kind `K`; every call it adds but the last one returned and
  passed; a call that raised or blocked makes `p` raise, a block a `403` carrying its details.
  It holds of a call followed by `raiseOnBlock`, and of a provider call, and `bind`, `List.forM`
  and a handler that makes no call keep it.
-/

namespace Capsem
set_option autoImplicit false

/-- One call an endpoint made, with what it gave back. -/
inductive Entry where
  | security (call : SecurityCall) (outcome : Except PyExc Decision)
  /-- `gemini_provider.generate_content(model, body, api_key)`. -/
  | generateContent (model : String) (body : Json) (apiKey : String) (outcome : Except PyExc Json)
  /-- `gemini_provider.generate_content_stream(model, body, api_key)`, which opens the stream. -/
  | generateContentStream (model : String) (body : Json) (apiKey : String)
      (outcome : Except PyExc Unit)

namespace Entry

/-- The call raised, or the security manager blocked: nothing may follow it. -/
def stops : Entry → Bool
  | security _ (.ok d) => d.verdict == .block
  | security _ (.error _) | generateContent _ _ _ (.error _)
  | generateContentStream _ _ _ (.error _) => true
  | generateContent _ _ _ (.ok _) | generateContentStream _ _ _ (.ok _) => false

/-- A call to the upstream provider. -/
def upstream : Entry → Bool
  | security .. => false
  | generateContent .. | generateContentStream .. => true

/-- A security-manager call at an interception point that `inbound` picks out. -/
def inboundBy (inbound : SecurityCall → Bool) : Entry → Bool
  | security c _ => inbound c
  | generateContent .. | generateContentStream .. => false

/-- A call to `on_model_call`. -/
def isModelCall : Entry → Bool
  | security (.onModelCall ..) _ => true
  | _ => false

end Entry

/-- The components an endpoint calls, and the values it draws from its runtime. -/
structure Env where
  /-- The security manager's answer to a call, given the calls made before it. -/
  securityManager : List Entry → SecurityCall → Except PyExc Decision
  /-- `gemini_provider.generate_content`'s answer: the raw JSON response, or an exception. -/
  generateContent : List Entry → String → Json → String → Except PyExc Json
  /-- Whether `gemini_provider.generate_content_stream` raises. -/
  generateContentStream : List Entry → String → Json → String → Except PyExc Unit
  /-- `get_user_id_from_auth`, a deterministic hash of the credential. -/
  userIdOf : String → String
  /-- `uuid.uuid4().hex`, the request's invocation id. -/
  requestId : String

/-- `env` with a security manager that answers each call by `m`, whatever came before it. -/
def Env.withManager (env : Env) (m : SecurityCall → Except PyExc Decision) : Env :=
  { env with securityManager := fun _ => m }

/-- An environment with fixed answers: the security manager answers each call by `m`, the
provider each request by `response`, the stream opens, the user id is the credential itself and
the invocation id is `"0"`. -/
def Env.fixed (m : SecurityCall → Except PyExc Decision) (response : Except PyExc Json) : Env :=
  ⟨fun _ => m, fun _ _ _ _ => response, fun _ _ _ _ => .ok (), id, "0"⟩

/-- A run: from the environment and the calls made so far, a value or an exception, and the calls
made so far, extended. -/
def Run (α : Type) : Type := Env → List Entry → Except PyExc α × List Entry

namespace Run
variable {α β γ : Type}

/-- Return `a`. -/
protected def pure (a : α) : Run α := fun _ tr => (.ok a, tr)

/-- Run `p`, then `f` on its value; an exception skips `f`. -/
protected def bind (p : Run α) (f : α → Run β) : Run β := fun env tr =>
  match p env tr with
  | (.ok a, tr') => f a env tr'
  | (.error e, tr') => (.error e, tr')

instance : Monad Run where
  pure := Run.pure
  bind := Run.bind

/-- `raise e`. -/
protected def throw (e : PyExc) : Run α := fun _ tr => (.error e, tr)

/-- `try p except: h`. -/
protected def tryCatch (p : Run α) (h : PyExc → Run α) : Run α := fun env tr =>
  match p env tr with
  | (.error e, tr') => h e env tr'
  | (.ok a, tr') => (.ok a, tr')

instance : MonadExceptOf PyExc Run where
  throw := Run.throw
  tryCatch := Run.tryCatch

/-- A computation that makes no call: its value, or its exception raised. -/
def lift (x : Except PyExc α) : Run α := fun _ tr => (x, tr)

/-- The environment. -/
def read : Run Env := fun env tr => (.ok env, tr)

/-- Call the security manager. -/
def ask (c : SecurityCall) : Run Decision := fun env tr =>
  (env.securityManager tr c, tr ++ [.security c (env.securityManager tr c)])

/-- `gemini_provider.generate_content(model, body, api_key)`. -/
def generateContent (model : String) (body : Json) (apiKey : String) : Run Json := fun env tr =>
  (env.generateContent tr model body apiKey,
    tr ++ [.generateContent model body apiKey (env.generateContent tr model body apiKey)])

/-- `gemini_provider.generate_content_stream(model, body, api_key)`. -/
def generateContentStream (model : String) (body : Json) (apiKey : String) : Run Unit :=
  fun env tr =>
  (env.generateContentStream tr model body apiKey,
    tr ++ [.generateContentStream model body apiKey (env.generateContentStream tr model body apiKey)])

/-- Raise `HTTPException(403, msg + details)` when the decision blocks. -/
def raiseOnBlock (msg : String) (d : Decision) : Run Unit :=
  if d.verdict = .block then Run.throw (.httpException 403 (msg ++ d.details)) else Run.pure ()

@[simp] theorem pure_run (a : α) (env : Env) (tr : List Entry) :
    (pure a : Run α) env tr = (.ok a, tr) := rfl

theorem bind_run (p : Run α) (f : α → Run β) (env : Env) (tr : List Entry) :
    (p >>= f) env tr = match p env tr with
      | (.ok a, tr') => f a env tr'
      | (.error e, tr') => (.error e, tr') := rfl

@[simp] theorem lift_run (x : Except PyExc α) (env : Env) (tr : List Entry) :
    lift x env tr = (x, tr) := rfl

@[simp] theorem read_run (env : Env) (tr : List Entry) : read env tr = (.ok env, tr) := rfl

@[simp] theorem throw_run (e : PyExc) (env : Env) (tr : List Entry) :
    (Run.throw e : Run α) env tr = (.error e, tr) := rfl

@[simp] theorem ask_run (c : SecurityCall) (env : Env) (tr : List Entry) :
    ask c env tr = (env.securityManager tr c, tr ++ [.security c (env.securityManager tr c)]) := rfl

/-- A run of `p >>= f` that returns is a run of `p` that returns, then one of `f`. -/
theorem bind_ok {p : Run α} {f : α → Run β} {env : Env} {tr tr'' : List Entry} {b : β} :
    (p >>= f) env tr = (.ok b, tr'') ↔
      ∃ a tr', p env tr = (.ok a, tr') ∧ f a env tr' = (.ok b, tr'') := by
  rw [bind_run]
  rcases p env tr with ⟨x | a, tr'⟩
  · simp
  · simp only [Prod.mk.injEq, Except.ok.injEq]
    exact ⟨fun h => ⟨a, tr', ⟨rfl, rfl⟩, h⟩, fun ⟨_, _, ⟨h1, h2⟩, h⟩ => h1 ▸ h2 ▸ h⟩

/-- The `except` clauses of an endpoint, which make no call: the run of the body, its exception
mapped. -/
theorem tryCatch_throw_run (p : Run α) (g : PyExc → PyExc) (env : Env) (tr : List Entry) :
    (Run.tryCatch p fun e => Run.throw (g e)) env tr = ((p env tr).1.mapError g, (p env tr).2) := by
  unfold Run.tryCatch
  rcases p env tr with ⟨x | a, tr'⟩ <;> rfl

@[simp] theorem lift_ok {x : Except PyExc α} {env : Env} {tr tr' : List Entry} {a : α} :
    lift x env tr = (.ok a, tr') ↔ x = .ok a ∧ tr' = tr := by
  simp [lift, eq_comm]

@[simp] theorem read_ok {env env' : Env} {tr tr' : List Entry} :
    read env tr = (.ok env', tr') ↔ env' = env ∧ tr' = tr := by
  simp [read, eq_comm]

@[simp] theorem ask_ok {c : SecurityCall} {env : Env} {tr tr' : List Entry} {d : Decision} :
    ask c env tr = (.ok d, tr') ↔
      env.securityManager tr c = .ok d ∧ tr' = tr ++ [.security c (.ok d)] := by
  simp only [ask_run, Prod.mk.injEq]
  constructor
  · rintro ⟨h1, h2⟩
    exact ⟨h1, by rw [← h2, h1]⟩
  · rintro ⟨h1, h2⟩
    exact ⟨h1, by rw [h2, h1]⟩

@[simp] theorem raiseOnBlock_ok {msg : String} {d : Decision} {env : Env} {tr tr' : List Entry}
    {u : Unit} : raiseOnBlock msg d env tr = (.ok u, tr') ↔ d.verdict ≠ .block ∧ tr' = tr := by
  unfold raiseOnBlock
  split <;> simp_all [Run.throw, Run.pure, eq_comm]

theorem raiseOnBlock_bind_block {msg : String} {d : Decision} (hb : d.verdict = .block)
    (f : Unit → Run α) (env : Env) (tr : List Entry) :
    (raiseOnBlock msg d >>= f) env tr = (.error (.httpException 403 (msg ++ d.details)), tr) := by
  simp [bind_run, raiseOnBlock, hb, Run.throw]

/-- A security-manager call followed by `raiseOnBlock`: one call, and its answer decides. -/
theorem check_run (msg : String) (c : SecurityCall) (env : Env) (tr : List Entry) :
    (ask c >>= raiseOnBlock msg) env tr =
      ((env.securityManager tr c).bind fun d =>
          if d.verdict = .block then .error (.httpException 403 (msg ++ d.details)) else .ok (),
        tr ++ [.security c (env.securityManager tr c)]) := by
  rw [bind_run, ask_run]
  rcases env.securityManager tr c with x | d
  · rfl
  · simp only [raiseOnBlock]
    split <;> simp_all [Except.bind, Run.throw, Run.pure]

end Run

/-! ## The gating discipline -/

@[simp] theorem Entry.stops_security_ok (c : SecurityCall) (d : Decision) :
    (Entry.security c (.ok d)).stops = (d.verdict == .block) := rfl

/-- The discipline of a run that extends the calls by `new` and ends in `r`: every call but the
last one returned and passed; a call that raised or blocked makes the run raise, and a block makes
it raise `HTTPException(403)` whose detail ends with the decision's details. -/
structure GatedRun {α : Type} (new : List Entry) (r : Except PyExc α) : Prop where
  passes : ∀ e ∈ new.dropLast, e.stops = false
  raises : ∀ e ∈ new, e.stops = true → ∃ x, r = .error x
  blocks : ∀ c d, Entry.security c (.ok d) ∈ new → d.verdict = .block →
    ∃ msg, r = .error (.httpException 403 (msg ++ d.details))

namespace GatedRun
variable {α β : Type}

theorem nil (r : Except PyExc α) : GatedRun [] r := ⟨by simp, by simp, by simp⟩

/-- A run that returned passed every call it made. -/
theorem passes_of_ok {new : List Entry} {a : α} (h : GatedRun new (.ok a)) :
    ∀ e ∈ new, e.stops = false := by
  intro e he
  cases hs : e.stops
  · rfl
  · obtain ⟨x, hx⟩ := h.raises e he hs
    cases hx

/-- A run that raised keeps the discipline at any result type. -/
theorem error {new : List Entry} {x : PyExc} (h : GatedRun new (.error x : Except PyExc α)) :
    GatedRun new (.error x : Except PyExc β) := by
  refine ⟨h.passes, fun _ _ _ => ⟨x, rfl⟩, fun c d hc hb => ?_⟩
  obtain ⟨m, hm⟩ := h.blocks c d hc hb
  cases hm
  exact ⟨m, rfl⟩

/-- An `except` clause that lets an `HTTPException` through unchanged keeps the discipline. -/
theorem mapError {new : List Entry} {r : Except PyExc α} {g : PyExc → PyExc} (h : GatedRun new r)
    (hg : ∀ s d, g (.httpException s d) = .httpException s d) : GatedRun new (r.mapError g) := by
  refine ⟨h.passes, fun e he hs => ?_, fun c d hc hb => ?_⟩
  · obtain ⟨x, rfl⟩ := h.raises e he hs
    exact ⟨g x, rfl⟩
  · obtain ⟨m, hm⟩ := h.blocks c d hc hb
    exact ⟨m, by rw [hm]; simp [Except.mapError, hg]⟩

/-- The calls after some first calls of a gated run keep the discipline. -/
theorem right {n1 n2 : List Entry} {r : Except PyExc α} (h : GatedRun (n1 ++ n2) r) :
    GatedRun n2 r := by
  refine ⟨fun e he => h.passes e ?_, fun e he => h.raises e (List.mem_append_right _ he),
    fun c d hc => h.blocks c d (List.mem_append_right _ hc)⟩
  rcases n2.eq_nil_or_concat with rfl | ⟨n2', x, rfl⟩
  · simp at he
  · simp only [List.concat_eq_append, ← List.append_assoc, List.dropLast_concat] at he ⊢
    exact List.mem_append_right _ he

/-- Mapping the value of a run keeps the discipline. -/
theorem map {new : List Entry} {r : Except PyExc α} (f : α → β) (h : GatedRun new r) :
    GatedRun new (r.map f) := by
  rcases r with x | a
  · exact h.error
  · exact ⟨h.passes, fun e he hs => absurd (h.raises e he hs) (by simp),
      fun c d hc hb => absurd (h.blocks c d hc hb) (by simp)⟩

/-- Calls that all passed, then a gated run. -/
theorem append {n1 n2 : List Entry} {r : Except PyExc α} (h1 : ∀ e ∈ n1, e.stops = false)
    (h2 : GatedRun n2 r) : GatedRun (n1 ++ n2) r := by
  refine ⟨fun e he => ?_, fun e he hs => ?_, fun c d hc hb => ?_⟩
  · rcases n2.eq_nil_or_concat with rfl | ⟨n2', x, rfl⟩
    · exact h1 e (List.mem_of_mem_dropLast (by simpa using he))
    · have hp := h2.passes
      simp only [List.concat_eq_append, ← List.append_assoc, List.dropLast_concat] at he hp
      rcases List.mem_append.1 he with he | he
      · exact h1 e he
      · exact hp e he
  · rcases List.mem_append.1 he with he | he
    · simp [h1 e he] at hs
    · exact h2.raises e he hs
  · rcases List.mem_append.1 hc with hc | hc
    · simpa [hb] using h1 _ hc
    · exact h2.blocks c d hc hb

end GatedRun

/-- Every run of `p` keeps the discipline and adds only calls of kind `K`. -/
def Gated {α : Type} (K : Entry → Prop) (p : Run α) : Prop :=
  ∀ env tr, ∃ new, (p env tr).2 = tr ++ new ∧ (∀ e ∈ new, K e) ∧ GatedRun new (p env tr).1

namespace Gated
variable {α β γ : Type} {K K' : Entry → Prop}

theorem mono {p : Run α} (h : Gated K p) (hK : ∀ e, K e → K' e) : Gated K' p := fun env tr =>
  let ⟨new, h1, h2, h3⟩ := h env tr
  ⟨new, h1, fun e he => hK e (h2 e he), h3⟩

/-- A computation that makes no call. -/
theorem of_run {p : Run α} (h : ∀ env tr, (p env tr).2 = tr) : Gated K p := fun env tr =>
  ⟨[], by simp [h], by simp, GatedRun.nil _⟩

theorem pure (a : α) : Gated K (Pure.pure a : Run α) := of_run fun _ _ => rfl

theorem lift (x : Except PyExc α) : Gated K (Run.lift x) := of_run fun _ _ => rfl

theorem read : Gated K Run.read := of_run fun _ _ => rfl

theorem throw (e : PyExc) : Gated K (Run.throw e : Run α) := of_run fun _ _ => rfl

/-- The calls of `p >>= f` are those of `p`, then, if `p` returned, those of `f`. -/
theorem bind_split {p : Run α} {f : α → Run β} (hp : Gated K p) (hf : ∀ a, Gated K' (f a))
    (env : Env) (tr : List Entry) :
    ∃ n1 n2, (p env tr).2 = tr ++ n1 ∧ ((p >>= f) env tr).2 = tr ++ (n1 ++ n2) ∧
      (∀ e ∈ n1, K e) ∧ (∀ e ∈ n2, K' e) ∧ (n2 ≠ [] → ∃ a, (p env tr).1 = .ok a) ∧
      GatedRun (n1 ++ n2) ((p >>= f) env tr).1 := by
  obtain ⟨n1, h1, hK1, hg1⟩ := hp env tr
  rw [Run.bind_run]
  rcases hr : p env tr with ⟨x | a, tr1⟩
  · rw [hr] at h1 hg1
    exact ⟨n1, [], h1, by simpa using h1, hK1, by simp, by simp, by simpa using hg1.error⟩
  · rw [hr] at h1 hg1
    obtain ⟨n2, h2, hK2, hg2⟩ := hf a env tr1
    exact ⟨n1, n2, h1, by rw [h2, show tr1 = tr ++ n1 from h1, List.append_assoc], hK1, hK2,
      fun _ => ⟨a, rfl⟩, hg2.append hg1.passes_of_ok⟩

theorem bind {p : Run α} {f : α → Run β} (hp : Gated K p) (hf : ∀ a, Gated K (f a)) :
    Gated K (p >>= f) := fun env tr =>
  let ⟨n1, n2, _, h, hK1, hK2, _, hg⟩ := bind_split hp hf env tr
  ⟨n1 ++ n2, h, fun e he => (List.mem_append.1 he).elim (hK1 e) (hK2 e), hg⟩

theorem forM {xs : List γ} {f : γ → Run PUnit} (h : ∀ x ∈ xs, Gated K (f x)) :
    Gated K (xs.forM f) := by
  induction xs with
  | nil => exact pure _
  | cons x xs ih =>
    exact bind (h x (List.mem_cons_self ..)) fun _ =>
      ih fun y hy => h y (List.mem_cons_of_mem _ hy)

/-- An `except` clause that makes no call and lets an `HTTPException` through unchanged. -/
theorem tryCatch {p : Run α} {g : PyExc → PyExc} (hp : Gated K p)
    (hg : ∀ s d, g (.httpException s d) = .httpException s d) :
    Gated K (Run.tryCatch p fun e => Run.throw (g e)) := fun env tr =>
  let ⟨n, h1, hK, hgr⟩ := hp env tr
  ⟨n, by rw [Run.tryCatch_throw_run, h1], hK, by rw [Run.tryCatch_throw_run]; exact hgr.mapError hg⟩

theorem ite {p q : Run α} (c : Prop) [Decidable c] (hp : Gated K p) (hq : Gated K q) :
    Gated K (if c then p else q) := by
  split <;> assumption

theorem raiseOnBlock (msg : String) (d : Decision) : Gated K (Run.raiseOnBlock msg d) :=
  of_run fun _ _ => by unfold Run.raiseOnBlock; split <;> rfl

/-- A security-manager call whose continuation raises a `403` carrying the details on a block. -/
theorem ask_bind {c : SecurityCall} {f : Decision → Run α} (hK : ∀ o, K (.security c o))
    (hf : ∀ d, Gated K (f d))
    (hblock : ∀ d, d.verdict = .block → ∃ msg, ∀ env tr,
      f d env tr = (.error (.httpException 403 (msg ++ d.details)), tr)) :
    Gated K (Run.ask c >>= f) := by
  intro env tr
  rw [Run.bind_run, Run.ask_run]
  rcases ho : env.securityManager tr c with x | d
  · exact ⟨[.security c (.error x)], rfl, by simpa using hK _,
      ⟨by simp, fun _ _ _ => ⟨x, rfl⟩, by simp⟩⟩
  · by_cases hb : d.verdict = .block
    · obtain ⟨msg, hmsg⟩ := hblock d hb
      refine ⟨[.security c (.ok d)], by simp [hmsg], by simpa using hK _,
        ⟨by simp, fun _ _ _ => ⟨.httpException 403 (msg ++ d.details), by simp [hmsg]⟩,
          fun c' d' hc _ => ⟨msg, ?_⟩⟩⟩
      simp only [List.mem_singleton, Entry.security.injEq, Except.ok.injEq] at hc
      simp [hmsg, hc.2]
    · obtain ⟨new, h1, hK1, hg⟩ := hf d env (tr ++ [.security c (.ok d)])
      have hpass : ∀ e ∈ [Entry.security c (.ok d)], e.stops = false := by simp [hb]
      exact ⟨.security c (.ok d) :: new, by simp [h1], by simpa using ⟨hK _, hK1⟩,
        by simpa using GatedRun.append hpass hg⟩

/-- A security-manager call followed by `raiseOnBlock`. -/
theorem check (msg : String) {c : SecurityCall} (hK : ∀ o, K (.security c o)) :
    Gated K (Run.ask c >>= Run.raiseOnBlock msg) :=
  ask_bind hK (fun d => raiseOnBlock msg d) fun d hb =>
    ⟨msg, fun _ _ => by simp [Run.raiseOnBlock, hb, Run.throw]⟩

/-- `raiseOnBlock` after a security-manager call, then the rest of the run. -/
theorem check_bind (msg : String) {c : SecurityCall} {f : Decision → Unit → Run α}
    (hK : ∀ o, K (.security c o)) (hf : ∀ d u, Gated K (f d u)) :
    Gated K (Run.ask c >>= fun d => Run.raiseOnBlock msg d >>= f d) :=
  ask_bind hK (fun d => bind (raiseOnBlock msg d) (hf d))
    fun _ hb => ⟨msg, Run.raiseOnBlock_bind_block hb _⟩

/-- A provider call: it never blocks, and raises exactly when the provider does. -/
theorem generateContent (m : String) (b : Json) (k : String)
    (hK : ∀ o, K (.generateContent m b k o)) : Gated K (Run.generateContent m b k) := by
  intro env tr
  refine ⟨_, rfl, by simpa using hK _, ⟨by simp, ?_, by simp⟩⟩
  rcases ho : env.generateContent tr m b k with x | j <;> simp [Entry.stops, Run.generateContent, ho]

theorem generateContentStream (m : String) (b : Json) (k : String)
    (hK : ∀ o, K (.generateContentStream m b k o)) :
    Gated K (Run.generateContentStream m b k) := by
  intro env tr
  refine ⟨_, rfl, by simpa using hK _, ⟨by simp, ?_, by simp⟩⟩
  rcases ho : env.generateContentStream tr m b k with x | j <;>
    simp [Entry.stops, Run.generateContentStream, ho]

end Gated
end Capsem
