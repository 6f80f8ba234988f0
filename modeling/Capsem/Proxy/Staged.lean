import Capsem.Proxy.Run
import Capsem.Spec.RequestStages

/-! # Runs read as runs of the request machine

Each call of a run is one event of the request machine of §4.3 (`Entry.event`): a check that
passed is the event of its interception point, a provider call that answered is `forwarded`, a
block is `blocked`, a call that raised is `failed`. A run that raises with no call that stopped
it failed at a step that made no call, one more `failed` event (`failClose`).

`Staged S S' p` says that every run of `p` is a run of the machine: from a stage of `S`, the events
of its calls lead to a stage of `S' a` when it returns `a`, and to `blocked` or `failed` when it
raises. It is closed under the operations of `Run`, as `Gated` and `Planned` are:

* `Staged.bind`: the stages `p` leaves are those `f` starts from.
* `Staged.forM`: a loop whose passes keep the stage in `S` keeps it in `S`.
* `Staged.check`: a security-manager call followed by `raiseOnBlock` moves the machine by the
  event of its interception point, or blocks, or fails.
-/

namespace Capsem
open Stages
set_option autoImplicit false

/-! ## Calls as events -/

/-- The event of a check at an interception point that passed. -/
def SecurityCall.event : SecurityCall → Event
  | .onToolResponse .. => .toolResponseChecked
  | .onModelCall .. => .modelCallChecked
  | .onToolCall .. => .toolCallChecked
  | .onModelResponse .. => .modelResponseChecked

/-- A call, read as an event of the request machine. -/
def Entry.event : Entry → Event
  | .security c (.ok d) => if d.verdict = .block then .blocked else c.event
  | .security _ (.error _) | .generateContent _ _ _ (.error _)
  | .generateContentStream _ _ _ (.error _) => .failed
  | .generateContent _ _ _ (.ok _) | .generateContentStream _ _ _ (.ok _) => .forwarded

/-- The failure that ends a run that raised, unless its last call stopped it. -/
def failClose (new : List Entry) : List Event :=
  if new.getLast?.any Entry.stops then [] else [.failed]

/-- A call that stops a run is a block or a failure. -/
theorem Entry.event_of_stops {e : Entry} (h : e.stops = true) :
    e.event = .blocked ∨ e.event = .failed := by
  rcases e with ⟨c, _ | d⟩ | ⟨_, _, _, _ | _⟩ | ⟨_, _, _, _ | _⟩ <;>
    simp_all [Entry.stops, Entry.event]

/-- A block or a failure leads to a terminal stage. -/
theorem terminal_of_step_stop {u t : Stage} {e : Event} (he : e = .blocked ∨ e = .failed)
    (h : step u e = some t) : t.terminal = true := by
  rcases he with rfl | rfl <;> cases u <;> simp [step, Stage.terminal] at h <;> subst h <;> rfl

/-- Every stage a run of the machine leads to through a last block or failure is terminal. -/
theorem terminal_of_accepts_stop {s t : Stage} {es : List Event} {e : Event}
    (he : e = .blocked ∨ e = .failed) (h : accepts s (es ++ [e]) = some t) :
    t.terminal = true := by
  rw [accepts_append] at h
  obtain ⟨u, -, hu⟩ := Option.bind_eq_some.1 h
  simp only [accepts_cons, accepts_nil, Option.bind_eq_some] at hu
  obtain ⟨t', ht', h'⟩ := hu
  exact Option.some.inj h' ▸ terminal_of_step_stop he ht'

/-- The calls of a run that leads to a stage that is not terminal end with a call that did not
stop it. -/
theorem getLast_not_stops {s t : Stage} {new : List Entry}
    (h : accepts s (new.map Entry.event) = some t) (ht : t.terminal = false) :
    ∀ e, new.getLast? = some e → e.stops = false := by
  intro e he
  obtain ⟨init, rfl⟩ := List.getLast?_eq_some_iff.1 he
  by_contra hs
  rw [List.map_append, List.map_singleton] at h
  rw [terminal_of_accepts_stop (Entry.event_of_stops (Bool.not_eq_false _ ▸ hs)) h] at ht
  cases ht

theorem failClose_append {n1 n2 : List Entry}
    (h : ∀ e, n1.getLast? = some e → e.stops = false) :
    failClose (n1 ++ n2) = failClose n2 := by
  rcases n2.eq_nil_or_concat with rfl | ⟨n2, e, rfl⟩
  · rcases hl : n1.getLast? with _ | e
    · simp [failClose, hl]
    · simp [failClose, hl, h e hl]
  · simp [failClose, List.getLast?_append]

/-! ## Runs of the machine -/

/-- The calls `new` of a run that ended in `r`, read as events, are a run of the machine: from a
stage of `S`, they lead to a stage of `S' a` when it returned `a`, and to `blocked` or `failed`
when it raised. -/
structure StagedRun {α : Type} (S : Stage → Prop) (S' : α → Stage → Prop) (new : List Entry)
    (r : Except PyExc α) : Prop where
  returns : ∀ a, r = .ok a → ∀ s, S s →
    ∃ t, accepts s (new.map Entry.event) = some t ∧ S' a t
  raises : ∀ x, r = .error x → ∀ s, S s →
    ∃ t, accepts s (new.map Entry.event ++ failClose new) = some t ∧
      (t = .blocked ∨ t = .failed)

/-- Every run of `p` is a run of the machine from `S` to `S'`. -/
def Staged {α : Type} (S : Stage → Prop) (S' : α → Stage → Prop) (p : Run α) : Prop :=
  ∀ env tr, ∃ new, (p env tr).2 = tr ++ new ∧ StagedRun S S' new (p env tr).1

/-- The stages no event leaves are not in `S`. -/
def NonTerminal (S : Stage → Prop) : Prop := ∀ s, S s → s.terminal = false

namespace Staged
variable {α β γ : Type} {S : Stage → Prop} {S' : α → Stage → Prop}

theorem mono {p : Run α} (h : Staged S S' p) {S'' : α → Stage → Prop}
    (hS : ∀ a t, S' a t → S'' a t) : Staged S S'' p := fun env tr =>
  let ⟨new, h1, hr⟩ := h env tr
  ⟨new, h1, fun a ha s hs => let ⟨t, ht, h'⟩ := hr.returns a ha s hs; ⟨t, ht, hS a t h'⟩,
    hr.raises⟩

/-- A run from a stage of `S` is a run from a stage of any part of `S`. -/
theorem of_pre {p : Run α} (h : Staged S S' p) {T : Stage → Prop} (hT : ∀ s, T s → S s) :
    Staged T S' p := fun env tr =>
  let ⟨new, h1, hr⟩ := h env tr
  ⟨new, h1, fun a ha s hs => hr.returns a ha s (hT s hs),
    fun x hx s hs => hr.raises x hx s (hT s hs)⟩

/-- A computation that makes no call, whose values leave the stage in `S'`. -/
theorem of_run {p : Run α} (hS : NonTerminal S) (h : ∀ env tr, (p env tr).2 = tr)
    (hok : ∀ env tr a, (p env tr).1 = .ok a → ∀ s, S s → S' a s) : Staged S S' p :=
  fun env tr =>
  ⟨[], by simp [h], fun a ha s hs => ⟨s, rfl, hok env tr a ha s hs⟩,
    fun _ _ s hs => ⟨.failed, by simp [failClose, step_failed (hS s hs)], .inr rfl⟩⟩

theorem pure (hS : NonTerminal S) (a : α) : Staged S (fun _ => S) (Pure.pure a : Run α) :=
  of_run hS (fun _ _ => rfl) fun _ _ _ _ _ hs => hs

theorem read (hS : NonTerminal S) : Staged S (fun _ => S) Run.read :=
  of_run hS (fun _ _ => rfl) fun _ _ _ _ _ hs => hs

/-- A computation that makes no call and whose value decides the rest. -/
theorem lift_bind (hS : NonTerminal S) {x : Except PyExc α} {f : α → Run β}
    {S' : β → Stage → Prop} (hf : ∀ a, x = .ok a → Staged S S' (f a)) :
    Staged S S' (Run.lift x >>= f) := by
  intro env tr
  rcases hx : x with e | a
  · exact ⟨[], by simp [Run.bind_run], (fun _ h => by simp [Run.bind_run] at h),
      fun _ _ s hs => ⟨.failed, by simp [failClose, step_failed (hS s hs)], .inr rfl⟩⟩
  · simpa [Run.bind_run] using hf a hx env tr

/-- The stages `p` leaves are those `f` starts from. -/
theorem bind {T : α → Stage → Prop} {S' : β → Stage → Prop} {p : Run α} {f : α → Run β}
    (hp : Staged S T p) (hT : ∀ a, NonTerminal (T a)) (hf : ∀ a, Staged (T a) S' (f a)) :
    Staged S S' (p >>= f) := by
  intro env tr
  obtain ⟨n1, h1, hr1⟩ := hp env tr
  rw [Run.bind_run]
  rcases hr : p env tr with ⟨x | a, tr1⟩
  · rw [hr] at h1 hr1
    dsimp only at hr1 ⊢
    exact ⟨n1, h1, (fun _ h => by cases h), fun _ h => by cases h; exact hr1.raises x rfl⟩
  · rw [hr] at h1 hr1
    dsimp only
    obtain ⟨n2, h2, hr2⟩ := hf a env tr1
    refine ⟨n1 ++ n2, by rw [h2, show tr1 = tr ++ n1 from h1, List.append_assoc], ?_, ?_⟩
    · intro b hb s hs
      obtain ⟨t, ht, hTt⟩ := hr1.returns a rfl s hs
      obtain ⟨t', ht', hS'⟩ := hr2.returns b hb t hTt
      exact ⟨t', by rw [List.map_append, accepts_append, ht]; exact ht', hS'⟩
    · intro x hx s hs
      obtain ⟨t, ht, hTt⟩ := hr1.returns a rfl s hs
      obtain ⟨t', ht', hstop⟩ := hr2.raises x hx t hTt
      refine ⟨t', ?_, hstop⟩
      rw [failClose_append (getLast_not_stops ht (hT a t hTt)), List.map_append,
        List.append_assoc, accepts_append, ht]
      exact ht'

/-- A loop whose passes keep the stage in `S` keeps it in `S`. -/
theorem forM (hS : NonTerminal S) {xs : List γ} {f : γ → Run PUnit}
    (h : ∀ x ∈ xs, Staged S (fun _ => S) (f x)) : Staged S (fun _ => S) (xs.forM f) := by
  induction xs with
  | nil => exact pure hS _
  | cons x xs ih =>
    exact bind (h x (List.mem_cons_self ..)) (fun _ => hS) fun _ =>
      ih fun y hy => h y (List.mem_cons_of_mem _ hy)

/-- A security-manager call followed by `raiseOnBlock`: the event of its interception point
when it passes, else a block or a failure. -/
theorem check (hS : NonTerminal S) (msg : String) (c : SecurityCall) {S' : Stage → Prop}
    (hc : ∀ s, S s → ∃ t, step s c.event = some t ∧ S' t) :
    Staged S (fun _ => S') (Run.ask c >>= Run.raiseOnBlock msg) := by
  intro env tr
  rw [Run.check_run]
  refine ⟨_, rfl, ?_⟩
  rcases env.securityManager tr c with x | d
  · exact ⟨(fun _ h => by cases h), fun _ _ s hs =>
      ⟨.failed, by simp [failClose, Entry.stops, Entry.event, step_failed (hS s hs)], .inr rfl⟩⟩
  · by_cases hb : d.verdict = .block
    · refine ⟨(fun _ h => by simp [hb, Except.bind] at h), fun _ _ s hs => ⟨.blocked, ?_, .inl rfl⟩⟩
      simp [failClose, Entry.stops, Entry.event, hb, step_blocked (hS s hs)]
    · refine ⟨fun _ _ s hs => ?_, (fun _ h => by simp [hb, Except.bind] at h)⟩
      obtain ⟨t, ht, hS'⟩ := hc s hs
      exact ⟨t, by simp [Entry.event, hb, ht], hS'⟩

/-- The provider call: `forwarded` when it answers, else a failure. -/
theorem generateContent (hS : NonTerminal S) (m : String) (b : Json) (k : String)
    {S' : Stage → Prop} (hc : ∀ s, S s → ∃ t, step s .forwarded = some t ∧ S' t) :
    Staged S (fun _ => S') (Run.generateContent m b k) := by
  intro env tr
  refine ⟨[.generateContent m b k (env.generateContent tr m b k)], rfl, ?_⟩
  show StagedRun S _ _ (env.generateContent tr m b k)
  rcases env.generateContent tr m b k with x | raw
  · exact ⟨(fun _ h => by cases h), fun _ _ s hs =>
      ⟨.failed, by simp [failClose, Entry.stops, Entry.event, step_failed (hS s hs)], .inr rfl⟩⟩
  · refine ⟨fun _ _ s hs => ?_, (fun _ h => by cases h)⟩
    obtain ⟨t, ht, hS'⟩ := hc s hs
    exact ⟨t, by simp [Entry.event, ht], hS'⟩

/-- The `except` clauses of an endpoint change its exception, not its calls. -/
theorem tryCatch_throw {p : Run α} (h : Staged S S' p) (g : PyExc → PyExc) :
    Staged S S' (Run.tryCatch p fun e => Run.throw (g e)) := by
  intro env tr
  obtain ⟨new, h1, hr⟩ := h env tr
  rw [Run.tryCatch_throw_run]
  refine ⟨new, h1, fun a ha => hr.returns a ?_, fun x hx => ?_⟩
  · rcases hp : (p env tr).1 with _ | _ <;> simp_all [Except.mapError]
  · rcases hp : (p env tr).1 with y | _
    · exact hr.raises y hp
    · simp [hp, Except.mapError] at hx

end Staged

/-! ## The events of an endpoint -/

/-- The events of a run of an endpoint: its calls, then its return, or the failure of a step that
no call shows. -/
def runEvents {α : Type} (r : Except PyExc α) (trace : List Entry) : List Event :=
  trace.map Entry.event ++ match r with
    | .ok _ => [.returned]
    | .error _ => failClose trace

end Capsem
