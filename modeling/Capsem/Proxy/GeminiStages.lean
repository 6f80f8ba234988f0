import Capsem.Proxy.GeminiCalls
import Capsem.Proxy.Staged

/-! # `generate_content` as a run of the request machine

Each phase of `generate_content` moves the request machine of §4.3 between two sets of stages:

* the pre-flight gates, from `received` to `modelCallChecked`: the checks of the embedded tool
  responses loop on `received`, then `on_model_call`;
* the provider call, to `forwarded`;
* the response gates, from `forwarded` to `modelResponseChecked`: the checks of the function
  calls loop on `toolCallsChecked`, then `on_model_response`.

A response without candidates is returned from `forwarded`, which the machine does not allow.
Every other run of the endpoint is a run of the machine that ends in a terminal stage.
-/

namespace Capsem.Gemini
open GenAI Stages
set_option autoImplicit false

/-! ## The stages of each phase -/

theorem nonTerminal_received : NonTerminal (· = .received) := fun _ hs => hs ▸ rfl

theorem nonTerminal_modelCallChecked : NonTerminal (· = .modelCallChecked) :=
  fun _ hs => hs ▸ rfl

theorem nonTerminal_forwarded : NonTerminal (· = .forwarded) := fun _ hs => hs ▸ rfl

theorem nonTerminal_modelResponseChecked : NonTerminal (· = .modelResponseChecked) :=
  fun _ hs => hs ▸ rfl

/-- The stages of the loop over the function calls of a response. -/
def InToolCalls (s : Stage) : Prop := s = .forwarded ∨ s = .toolCallsChecked

theorem nonTerminal_inToolCalls : NonTerminal InToolCalls := by
  rintro _ (rfl | rfl) <;> rfl

/-! ## The pre-flight gates -/

theorem checkFunctionResponse_staged (requestId : String) (agent : Agent)
    (fr : FunctionResponse) :
    Staged (· = .received) (fun _ => (· = .received))
      (checkFunctionResponse requestId agent fr) :=
  Staged.lift_bind (nonTerminal_received) fun _ _ =>
    Staged.check (nonTerminal_received) _ _ fun _ hs => ⟨.received, by rw [hs]; rfl, rfl⟩

theorem checkContent_staged (requestId : String) (agent : Agent) (content : Json) :
    Staged (· = .received) (fun _ => (· = .received)) (checkContent requestId agent content) := by
  unfold checkContent
  rcases Content.ofJson content with _ | ⟨_ | _ | ⟨p, ps⟩, role⟩
  iterate 3 exact Staged.pure (nonTerminal_received) _
  dsimp only
  rcases (p :: ps).getLast?.bind Part.functionResponse with _ | fr
  · exact Staged.pure (nonTerminal_received) _
  · exact checkFunctionResponse_staged requestId agent fr

theorem generateContentGates_staged (model : String) (ctx : Context) :
    Staged (· = .received) (fun _ => (· = .modelCallChecked))
      (generateContentGates model ctx) :=
  Staged.bind (Staged.forM (nonTerminal_received) fun c _ =>
      checkContent_staged ctx.requestId ctx.agent c) (fun _ => nonTerminal_received) fun _ =>
    Staged.check nonTerminal_received _ _ fun _ hs =>
      ⟨.modelCallChecked, by rw [hs]; rfl, rfl⟩

theorem generateContentInbound_staged (req : Request) :
    Staged (· = .received) (fun _ => (· = .modelCallChecked)) (generateContentInbound req) :=
  Staged.bind (Staged.read (nonTerminal_received)) (fun _ => nonTerminal_received) fun _ =>
    Staged.lift_bind (nonTerminal_received) fun _ _ =>
      Staged.bind (generateContentGates_staged _ _) (fun _ => nonTerminal_modelCallChecked) fun _ =>
        Staged.pure (nonTerminal_modelCallChecked) _

/-! ## The response gates -/

theorem checkFunctionCall_staged (requestId : String) (agent : Agent) (fc : FunctionCall) :
    Staged InToolCalls (fun _ => InToolCalls) (checkFunctionCall requestId agent fc) :=
  Staged.lift_bind nonTerminal_inToolCalls fun _ _ =>
    Staged.check nonTerminal_inToolCalls _ _ fun _ hs =>
      ⟨.toolCallsChecked, by rcases hs with rfl | rfl <;> rfl, .inr rfl⟩

theorem checkCandidate_staged (requestId : String) (agent : Agent) (candidate : Candidate) :
    Staged InToolCalls (fun _ => InToolCalls) (checkCandidate requestId agent candidate) := by
  unfold checkCandidate
  rcases candidate.content with _ | ⟨_ | _ | ⟨p, ps⟩, role⟩
  iterate 3 exact Staged.pure nonTerminal_inToolCalls _
  refine Staged.forM nonTerminal_inToolCalls fun part _ => ?_
  rcases part.functionCall with _ | fc
  · exact Staged.pure nonTerminal_inToolCalls _
  · exact checkFunctionCall_staged requestId agent fc

theorem responseGates_staged (ctx : Context) (candidates : List Candidate) :
    Staged InToolCalls (fun _ => (· = .modelResponseChecked)) (responseGates ctx candidates) :=
  Staged.bind (Staged.forM nonTerminal_inToolCalls fun c _ =>
      checkCandidate_staged ctx.requestId ctx.agent c) (fun _ => nonTerminal_inToolCalls) fun _ =>
    Staged.check nonTerminal_inToolCalls _ _ fun _ hs =>
      ⟨.modelResponseChecked, by rcases hs with rfl | rfl <;> rfl, rfl⟩

/-! ## The whole endpoint -/

/-- The stage the forwarding leaves: `forwarded` when the response has no candidates, else
`modelResponseChecked`. -/
def forwardStage (r : GenerateContentResponse) : Stage :=
  if (r.candidates.getD []).isEmpty then .forwarded else .modelResponseChecked

theorem generateContentForward_staged (model : String) (ctx : Context) :
    Staged (· = .modelCallChecked) (fun r => (· = forwardStage r))
      (generateContentForward model ctx) := by
  refine Staged.bind (T := fun _ => (· = .forwarded))
    (Staged.generateContent (nonTerminal_modelCallChecked) _ _ _ fun _ hs =>
      ⟨.forwarded, by rw [hs]; rfl, rfl⟩) (fun _ => nonTerminal_forwarded) fun _ =>
    Staged.lift_bind (nonTerminal_forwarded) fun r _ => ?_
  rcases hc : r.candidates with _ | _ | ⟨c, cs⟩
  iterate 2
    exact Staged.of_run (nonTerminal_forwarded) (fun _ _ => rfl) fun _ _ _ ha _ hs => by
      cases ha
      simp [forwardStage, hc, hs]
  refine Staged.bind ((responseGates_staged ctx (c :: cs)).of_pre fun _ hs => .inl hs)
    (fun _ => nonTerminal_modelResponseChecked) fun _ =>
    Staged.of_run (nonTerminal_modelResponseChecked) (fun _ _ => rfl) fun _ _ _ ha _ hs => ?_
  cases ha
  simp [forwardStage, hc, hs]

theorem generateContent_staged (req : Request) :
    Staged (· = .received) (fun r => (· = forwardStage r)) (generateContent req) :=
  Staged.tryCatch_throw (Staged.bind (generateContentInbound_staged req)
    (fun _ => nonTerminal_modelCallChecked) fun ctx =>
      generateContentForward_staged req.model ctx) _

/-! ## Refinement -/

/-- `generate_content` refines the request machine. Read as events, its calls, then its return or
the failure of a step that no call shows, are a run of the machine from `received`. The run ends
in a terminal stage, `returned` exactly when the endpoint returned, provided the response it
returned has a candidate: a response without candidates goes back unchecked, from `forwarded`. -/
theorem generateContent_refines_request_stages (env : Env) (req : Request)
    (hcand : ∀ r, (generateContent req env []).1 = .ok r →
      (r.candidates.getD []).isEmpty = false) :
    ∃ t, accepts .received
        (runEvents (generateContent req env []).1 (generateContent req env []).2) = some t ∧
      t.terminal = true ∧ (t = .returned ↔ ∃ r, (generateContent req env []).1 = .ok r) := by
  obtain ⟨new, hnew, hrun⟩ := generateContent_staged req env []
  rw [hnew, List.nil_append]
  rcases hres : (generateContent req env []).1 with x | r
  · obtain ⟨t, ht, hstop⟩ := hrun.raises x hres _ rfl
    refine ⟨t, ht, by rcases hstop with rfl | rfl <;> rfl, fun h => ?_,
      fun ⟨_, h⟩ => nomatch h⟩
    rcases hstop with rfl | rfl <;> cases h
  · obtain ⟨t, ht, rfl⟩ := hrun.returns r hres _ rfl
    have hchecked : forwardStage r = .modelResponseChecked := by
      simp only [forwardStage, hcand r hres, Bool.false_eq_true, ↓reduceIte]
    refine ⟨.returned, ?_, rfl, by simp⟩
    rw [runEvents, accepts_append, ht, hchecked]
    rfl

theorem generateContent_refines_stages_on_weather_call :
    (∀ r, (generateContent weatherRequest (Env.fixed (fun _ => .ok defaultSafeDecision)
        (.ok weatherCallAnswer)) []).1 = .ok r → (r.candidates.getD []).isEmpty = false) ∧
    ∃ t, accepts .received
        (runEvents (generateContent weatherRequest (Env.fixed (fun _ => .ok defaultSafeDecision)
            (.ok weatherCallAnswer)) []).1
          (generateContent weatherRequest (Env.fixed (fun _ => .ok defaultSafeDecision)
            (.ok weatherCallAnswer)) []).2) = some t ∧
      t.terminal = true ∧ (t = .returned ↔ ∃ r, (generateContent weatherRequest
        (Env.fixed (fun _ => .ok defaultSafeDecision) (.ok weatherCallAnswer)) []).1 = .ok r) :=
  have hcand : ∀ r, (generateContent weatherRequest (Env.fixed (fun _ => .ok defaultSafeDecision)
      (.ok weatherCallAnswer)) []).1 = .ok r → (r.candidates.getD []).isEmpty = false :=
    fun _ h => by cases h; rfl
  ⟨hcand, generateContent_refines_request_stages _ weatherRequest hcand⟩

/-- The one way out of the machine: a response without candidates is returned right after the
provider's answer, a return the machine does not allow from `forwarded`. -/
theorem generateContent_returns_from_forwarded (env : Env) (req : Request)
    {r : GenerateContentResponse} (hres : (generateContent req env []).1 = .ok r)
    (hempty : (r.candidates.getD []).isEmpty = true) :
    accepts .received (.map Entry.event (generateContent req env []).2) = some .forwarded ∧
      accepts .received
        (runEvents (generateContent req env []).1 (generateContent req env []).2) = none := by
  obtain ⟨new, hnew, hrun⟩ := generateContent_staged req env []
  obtain ⟨t, ht, rfl⟩ := hrun.returns r hres _ rfl
  have hfwd : forwardStage r = .forwarded := by simp only [forwardStage, hempty, ↓reduceIte]
  rw [hnew, List.nil_append, hres, runEvents, accepts_append, ht, hfwd]
  exact ⟨rfl, rfl⟩

theorem generateContent_returns_no_candidates_from_forwarded :
    (generateContent weatherRequest (Env.fixed (fun _ => .ok defaultSafeDecision)
        (.ok noCandidatesAnswer)) []).1 = .ok ⟨some []⟩ ∧
      (((⟨some []⟩ : GenerateContentResponse).candidates.getD []).isEmpty = true) ∧
      accepts .received (.map Entry.event (generateContent weatherRequest
        (Env.fixed (fun _ => .ok defaultSafeDecision) (.ok noCandidatesAnswer)) []).2) =
          some .forwarded ∧
      accepts .received (runEvents (generateContent weatherRequest
          (Env.fixed (fun _ => .ok defaultSafeDecision) (.ok noCandidatesAnswer)) []).1
        (generateContent weatherRequest
          (Env.fixed (fun _ => .ok defaultSafeDecision) (.ok noCandidatesAnswer)) []).2) = none :=
  ⟨rfl, rfl, generateContent_returns_from_forwarded _ weatherRequest rfl rfl⟩

end Capsem.Gemini
