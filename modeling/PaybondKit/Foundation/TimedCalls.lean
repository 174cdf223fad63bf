import Mathlib.Data.List.Induction
import Mathlib.Order.Defs.PartialOrder

/-!
# Calls under a clock

A component takes one call after another, each with one reading of a clock that never runs
backwards, and answers it from the state that the calls before left. Two components answer
alike when a relation between their states, which may speak of the last reading, is kept.
-/

namespace PaybondKit

variable {Time ι ο σ τ : Type}

/-- A call and its reading of the clock. -/
structure Timed (Time ι : Type) where
  now : Time
  call : ι

/-- The clock never runs backwards. -/
def Chronological [LE Time] (calls : List (Timed Time ι)) : Prop :=
  calls.Pairwise fun earlier later => earlier.now ≤ later.now

theorem Chronological.before [LE Time] {earlier later : List (Timed Time ι)} {call : Timed Time ι}
    (hcalls : Chronological (earlier ++ call :: later)) : Chronological (earlier ++ [call]) :=
  hcalls.sublist ((List.singleton_sublist.mpr List.mem_cons_self).append_left earlier)

section Runs

variable (perform : σ → Timed Time ι → σ × ο)

def stateAfter (state : σ) : List (Timed Time ι) → σ
  | [] => state
  | call :: calls => stateAfter (perform state call).1 calls

def answers (state : σ) : List (Timed Time ι) → List ο
  | [] => []
  | call :: calls => (perform state call).2 :: answers (perform state call).1 calls

theorem stateAfter_append (state : σ) (calls later : List (Timed Time ι)) :
    stateAfter perform state (calls ++ later) =
      stateAfter perform (stateAfter perform state calls) later := by
  induction calls generalizing state with
  | nil => rfl
  | cons call calls ih => exact ih _

theorem answers_append (state : σ) (calls later : List (Timed Time ι)) :
    answers perform state (calls ++ later) =
      answers perform state calls ++ answers perform (stateAfter perform state calls) later := by
  induction calls generalizing state with
  | nil => rfl
  | cons call calls ih => exact congrArg (_ :: ·) (ih _)

end Runs

/-! ## Simulation -/

/-- Related components answer every later call alike, and the call keeps them related. -/
structure Simulates [Preorder Time] (related : Time → σ → τ → Prop)
    (perform : σ → Timed Time ι → σ × ο) (perform' : τ → Timed Time ι → τ × ο) : Prop where
  answer : ∀ {last state state'} (call : Timed Time ι), related last state state' →
    last ≤ call.now → (perform state call).2 = (perform' state' call).2
  step : ∀ {last state state'} (call : Timed Time ι), related last state state' →
    last ≤ call.now → related call.now (perform state call).1 (perform' state' call).1

namespace Simulates

variable [Preorder Time] {related : Time → σ → τ → Prop} {perform : σ → Timed Time ι → σ × ο}
  {perform' : τ → Timed Time ι → τ × ο} {calls : List (Timed Time ι)} {call : Timed Time ι}
  {last : Time} {state : σ} {state' : τ}

theorem answers_eq_of_related (hsim : Simulates related perform perform')
    (hcalls : Chronological calls) (hlast : ∀ call ∈ calls, last ≤ call.now)
    (hrelated : related last state state') :
    answers perform state calls = answers perform' state' calls := by
  induction calls generalizing last state state' with
  | nil => rfl
  | cons call calls ih =>
      obtain ⟨hlater, hcalls⟩ := List.pairwise_cons.mp hcalls
      have hnow : last ≤ call.now := hlast call List.mem_cons_self
      have hanswer := hsim.answer call hrelated hnow
      have hrest := ih hcalls hlater (hsim.step call hrelated hnow)
      rw [answers, answers, hanswer, hrest]

theorem related_of_related (hsim : Simulates related perform perform')
    (hcalls : Chronological (calls ++ [call])) (hlast : ∀ call ∈ calls, last ≤ call.now)
    (hnow : last ≤ call.now) (hrelated : related last state state') :
    ∃ before ≤ call.now,
      related before (stateAfter perform state calls) (stateAfter perform' state' calls) := by
  induction calls generalizing last state state' with
  | nil => exact ⟨last, hnow, hrelated⟩
  | cons first calls ih =>
      obtain ⟨hlater, hcalls⟩ := List.pairwise_cons.mp hcalls
      have hfirst : last ≤ first.now := hlast first List.mem_cons_self
      exact ih hcalls (fun other hother => hlater other (List.mem_append_left _ hother))
        (hlater call (List.mem_append_right _ List.mem_cons_self)) (hsim.step first hrelated hfirst)

/-- Components that are related whatever the clock first reads answer every run alike. -/
theorem answers_eq (hsim : Simulates related perform perform') (hcalls : Chronological calls)
    (hstart : ∀ time, related time state state') :
    answers perform state calls = answers perform' state' calls := by
  cases calls with
  | nil => rfl
  | cons call calls =>
      refine hsim.answers_eq_of_related hcalls ?_ (hstart call.now)
      exact List.forall_mem_cons.mpr ⟨le_refl _, (List.pairwise_cons.mp hcalls).1⟩

/-- And they are related before every call. -/
theorem related_stateAfter (hsim : Simulates related perform perform')
    (hcalls : Chronological (calls ++ [call])) (hstart : ∀ time, related time state state') :
    ∃ before ≤ call.now,
      related before (stateAfter perform state calls) (stateAfter perform' state' calls) := by
  cases calls with
  | nil => exact ⟨call.now, le_refl _, hstart call.now⟩
  | cons first calls =>
      obtain ⟨hlater, -⟩ := List.pairwise_cons.mp hcalls
      have hnow : first.now ≤ call.now := hlater call (by simp)
      refine hsim.related_of_related hcalls ?_ hnow (hstart first.now)
      exact List.forall_mem_cons.mpr
        ⟨le_refl _, fun other hother => hlater other (List.mem_append_left _ hother)⟩

/-- And they are related after every run. -/
theorem exists_related [Nonempty Time] (hsim : Simulates related perform perform')
    (hcalls : Chronological calls) (hstart : ∀ time, related time state state') :
    ∃ time, related time (stateAfter perform state calls) (stateAfter perform' state' calls) := by
  induction calls using List.reverseRecOn with
  | nil => exact ⟨Classical.arbitrary Time, hstart _⟩
  | append_singleton calls call _ =>
      obtain ⟨before, hnow, hrelated⟩ := hsim.related_stateAfter hcalls hstart
      rw [stateAfter_append, stateAfter_append]
      exact ⟨call.now, hsim.step call hrelated hnow⟩

end Simulates

end PaybondKit
