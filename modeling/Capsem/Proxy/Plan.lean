import Mathlib.Data.List.Forall2
import Capsem.Proxy.Run

/-! # The calls a run makes, in order

`Gated` bounds the kinds of call a run makes. A plan fixes the calls themselves: a list of steps,
each a predicate on one call. `Planned plan p` holds when every run of `p` makes calls that meet
the first steps of `plan`, one call a step, and meet all of them when the run returns.

* `Planned.bind`: the plan of `p >>= f` is the plan of `p`, then the plan of `f`.
* `Planned.forM`: the plan of a loop is the plans of its passes, in order.
* `Planned.ask`: a security-manager call is one step; a computation that makes no call has the
  empty plan.
-/

namespace Capsem
set_option autoImplicit false

/-- The calls `new` meet the steps of `plan`, one call a step. -/
def Meets (plan : List (Entry → Prop)) (new : List Entry) : Prop :=
  List.Forall₂ (fun step e => step e) plan new

/-- The calls `new` of a run that ended in `r` meet the first steps of `plan`, and all of them
when the run returned. -/
structure FollowsPlan {α : Type} (plan : List (Entry → Prop)) (new : List Entry)
    (r : Except PyExc α) : Prop where
  meetsFirst : ∃ pre, pre <+: plan ∧ Meets pre new
  meetsAll : ∀ a, r = .ok a → Meets plan new

/-- Every run of `p` makes calls that follow `plan`. -/
def Planned {α : Type} (plan : List (Entry → Prop)) (p : Run α) : Prop :=
  ∀ env tr, ∃ new, (p env tr).2 = tr ++ new ∧ FollowsPlan plan new (p env tr).1

theorem Meets.append {P Q : List (Entry → Prop)} {n1 n2 : List Entry} (h1 : Meets P n1)
    (h2 : Meets Q n2) : Meets (P ++ Q) (n1 ++ n2) :=
  List.rel_append h1 h2

/-- Calls that meet a plan are as many as its steps. -/
theorem Meets.length_eq {P : List (Entry → Prop)} {new : List Entry} (h : Meets P new) :
    P.length = new.length :=
  List.Forall₂.length_eq h

/-- Calls that meet a plan meet any plan whose steps are weaker, one by one. -/
theorem Meets.weaken {P P' : List (Entry → Prop)} {n : List Entry}
    (h : Meets P n) (hP : List.Forall₂ (fun (s s' : Entry → Prop) => ∀ e, s e → s' e) P P') :
    Meets P' n := by
  induction hP generalizing n with
  | nil => exact h
  | cons hs _ ih =>
    obtain ⟨_, _, h1, h2, rfl⟩ := List.forall₂_cons_left_iff.1 h
    exact List.forall₂_cons.2 ⟨hs _ h1, ih h2⟩

/-- What every step of a plan requires of a call holds of every call that meets it. -/
theorem Meets.forall_mem {P : List (Entry → Prop)} {n : List Entry} {Q : Entry → Prop}
    (h : Meets P n) (hQ : ∀ s ∈ P, ∀ e, s e → Q e) : ∀ e ∈ n, Q e := by
  induction h with
  | nil => simp
  | cons hs _ ih =>
    simp only [List.mem_cons, forall_eq_or_imp] at hQ ⊢
    exact ⟨hQ.1 _ hs, ih hQ.2⟩

namespace FollowsPlan
variable {α β : Type} {P : List (Entry → Prop)} {n : List Entry}

/-- What every step of the plan requires of a call holds of every call the run made. -/
theorem forall_mem {r : Except PyExc α} {Q : Entry → Prop} (h : FollowsPlan P n r)
    (hQ : ∀ s ∈ P, ∀ e, s e → Q e) : ∀ e ∈ n, Q e :=
  let ⟨_, hpre, hm⟩ := h.meetsFirst
  hm.forall_mem fun s hs => hQ s (hpre.subset hs)

/-- The plan a run follows depends only on whether it returned. -/
theorem of_ok {r : Except PyExc α} {r' : Except PyExc β} (h : FollowsPlan P n r)
    (hr : ∀ b, r' = .ok b → ∃ a, r = .ok a) : FollowsPlan P n r' :=
  ⟨h.meetsFirst, fun b hb => let ⟨a, ha⟩ := hr b hb; h.meetsAll a ha⟩

end FollowsPlan

namespace Planned
variable {α β γ : Type} {P Q : List (Entry → Prop)}

/-- Steps may be weakened one by one. -/
theorem mono {p : Run α} (h : Planned P p) {P' : List (Entry → Prop)}
    (hP : List.Forall₂ (fun (s s' : Entry → Prop) => ∀ e, s e → s' e) P P') : Planned P' p := by
  intro env tr
  obtain ⟨new, h1, hf⟩ := h env tr
  obtain ⟨pre, hpre, hm⟩ := hf.meetsFirst
  rw [List.prefix_iff_eq_take.1 hpre] at hm
  exact ⟨new, h1, ⟨_, List.take_prefix _ _, hm.weaken (List.forall₂_take _ hP)⟩,
    fun a ha => (hf.meetsAll a ha).weaken hP⟩

/-- A computation that makes no call. -/
theorem of_run {p : Run α} (h : ∀ env tr, (p env tr).2 = tr) : Planned [] p := fun env tr =>
  ⟨[], by simp [h], ⟨[], List.nil_prefix, List.Forall₂.nil⟩, fun _ _ => List.Forall₂.nil⟩

theorem pure (a : α) : Planned [] (Pure.pure a : Run α) := of_run fun _ _ => rfl

theorem lift (x : Except PyExc α) : Planned [] (Run.lift x) := of_run fun _ _ => rfl

theorem read : Planned [] Run.read := of_run fun _ _ => rfl

theorem raiseOnBlock (msg : String) (d : Decision) : Planned [] (Run.raiseOnBlock msg d) :=
  of_run fun _ _ => by unfold Run.raiseOnBlock; split <;> rfl

/-- A security-manager call is one step. -/
theorem ask (c : SecurityCall) : Planned [fun e => ∃ o, e = .security c o] (Run.ask c) :=
  fun _ _ => ⟨_, rfl, ⟨_, List.prefix_refl _, List.forall₂_cons.2 ⟨⟨_, rfl⟩, .nil⟩⟩,
    fun _ _ => List.forall₂_cons.2 ⟨⟨_, rfl⟩, .nil⟩⟩

/-- The plan of `p >>= f`: that of `p`, then that of `f`. -/
theorem bind {p : Run α} {f : α → Run β} (hp : Planned P p) (hf : ∀ a, Planned Q (f a)) :
    Planned (P ++ Q) (p >>= f) := by
  intro env tr
  obtain ⟨n1, h1, hf1⟩ := hp env tr
  rw [Run.bind_run]
  rcases hr : p env tr with ⟨x | a, tr1⟩
  · rw [hr] at h1 hf1
    obtain ⟨pre, hpre, hm⟩ := hf1.meetsFirst
    exact ⟨n1, h1, ⟨pre, hpre.trans (List.prefix_append _ _), hm⟩, fun _ h => by cases h⟩
  · rw [hr] at h1 hf1
    obtain ⟨n2, h2, hf2⟩ := hf a env tr1
    obtain ⟨pre, hpre, hm⟩ := hf2.meetsFirst
    have hP := hf1.meetsAll a rfl
    exact ⟨n1 ++ n2, by rw [h2, show tr1 = tr ++ n1 from h1, List.append_assoc],
      ⟨P ++ pre, (List.prefix_append_right_inj P).2 hpre, hP.append hm⟩,
      fun b hb => hP.append (hf2.meetsAll b hb)⟩

/-- A computation that makes no call and whose value decides the rest. -/
theorem lift_bind {x : Except PyExc α} {f : α → Run β} (hf : ∀ a, x = .ok a → Planned P (f a)) :
    Planned P (Run.lift x >>= f) := by
  intro env tr
  rcases hx : x with _ | a
  · exact ⟨[], by simp [Run.bind_run], ⟨[], List.nil_prefix, .nil⟩,
      fun _ h => by simp [Run.bind_run] at h⟩
  · simpa [Run.bind_run] using hf a hx env tr

/-- The plan of a loop: the plans of its passes, in order. -/
theorem forM {xs : List γ} {f : γ → Run PUnit} {P : γ → List (Entry → Prop)}
    (h : ∀ x ∈ xs, Planned (P x) (f x)) : Planned (xs.flatMap P) (xs.forM f) := by
  induction xs with
  | nil => exact pure _
  | cons x xs ih =>
    rw [List.flatMap_cons]
    exact bind (h x (List.mem_cons_self ..)) fun _ =>
      ih fun y hy => h y (List.mem_cons_of_mem _ hy)

/-- A security-manager call, then `raiseOnBlock` on its answer: one step. -/
theorem check (msg : String) (c : SecurityCall) :
    Planned [fun e => ∃ o, e = .security c o] (Run.ask c >>= Run.raiseOnBlock msg) := by
  simpa using bind (ask c) (raiseOnBlock msg)

end Planned
end Capsem
