import Mathlib.Data.List.Induction

/-!
# Runs of a step function

A system that takes one action after another, by a step function that refuses the
actions its state does not enable. A condition on states and actions narrows the runs
down to those whose every action meets it where it is taken.
-/

namespace PaybondKit

variable {σ α : Type} {step : σ → α → Option σ} {cond cond' : σ → α → Prop} {init state : σ}
variable {actions later : List α}

/-- The runs whose actions are enabled, and meet `cond`, where they are taken. -/
inductive RunWith (step : σ → α → Option σ) (cond : σ → α → Prop) (init : σ) :
    List α → σ → Prop where
  | start : RunWith step cond init [] init
  | act {actions : List α} {state next : σ} {action : α}
      (hrun : RunWith step cond init actions state) (hcond : cond state action)
      (hstep : step state action = some next) : RunWith step cond init (actions ++ [action]) next

/-- Every run. -/
abbrev Run (step : σ → α → Option σ) (init : σ) : List α → σ → Prop :=
  RunWith step (fun _ _ => True) init

namespace RunWith

/-- What holds first and is kept by every action holds after every run. -/
theorem invariant {Inv : σ → Prop} (hrun : RunWith step cond init actions state)
    (hinit : Inv init)
    (hstep : ∀ {state next action}, Inv state → cond state action →
      step state action = some next → Inv next) : Inv state := by
  induction hrun with
  | start => exact hinit
  | act _ hcond hnext ih => exact hstep ih hcond hnext

theorem mono (hrun : RunWith step cond init actions state)
    (himp : ∀ {state action}, cond state action → cond' state action) :
    RunWith step cond' init actions state := by
  induction hrun with
  | start => exact .start
  | act _ hcond hstep ih => exact ih.act (himp hcond) hstep

/-- A run goes through the state that its first actions reach. -/
theorem split (hrun : RunWith step cond init (actions ++ later) state) :
    ∃ middle, RunWith step cond init actions middle ∧ RunWith step cond middle later state := by
  induction later using List.reverseRecOn generalizing state with
  | nil =>
      rw [List.append_nil] at hrun
      exact ⟨state, hrun, .start⟩
  | append_singleton earlier action ih =>
      rw [← List.append_assoc] at hrun
      generalize hall : (actions ++ earlier) ++ [action] = all at hrun
      cases hrun with
      | start => exact absurd hall (by simp)
      | act hrun hcond hstep =>
          obtain ⟨rfl, hlast⟩ := List.append_inj' hall rfl
          obtain rfl : action = _ := List.head_eq_of_cons_eq hlast
          obtain ⟨middle, hfirst, hrest⟩ := ih hrun
          exact ⟨middle, hfirst, hrest.act hcond hstep⟩

end RunWith

/-! ## Playing a run -/

/-- Take the actions in order, as long as they are enabled and meet the condition. -/
def playWith (step : σ → α → Option σ) (cond : σ → α → Prop) [∀ s a, Decidable (cond s a)] :
    σ → List α → Option σ
  | state, [] => some state
  | state, action :: rest =>
      if cond state action then
        match step state action with
        | none => none
        | some next => playWith step cond next rest
      else none

theorem RunWith.of_play [∀ s a, Decidable (cond s a)] {final : σ}
    (hrun : RunWith step cond init actions state)
    (hplay : playWith step cond state later = some final) :
    RunWith step cond init (actions ++ later) final := by
  induction later generalizing actions state with
  | nil =>
      obtain rfl : state = final := Option.some.inj hplay
      rwa [List.append_nil]
  | cons action rest ih =>
      rw [playWith] at hplay
      split at hplay
      next hcond =>
        cases hstep : step state action with
        | none => rw [hstep] at hplay; cases hplay
        | some next =>
            rw [hstep] at hplay
            have hnext := ih (hrun.act hcond hstep) hplay
            rwa [List.append_assoc] at hnext
      next => cases hplay

theorem runWith_of_play [∀ s a, Decidable (cond s a)]
    (hplay : playWith step cond init actions = some state) :
    RunWith step cond init actions state :=
  RunWith.start.of_play hplay

/-- A run that can be played leads to the state that it is played to. -/
theorem exists_runWith_of_play [∀ s a, Decidable (cond s a)] {p : σ → Prop} [DecidablePred p]
    (hplay : (playWith step cond init actions).any (fun state => decide (p state)) = true) :
    ∃ state, RunWith step cond init actions state ∧ p state := by
  cases hstate : playWith step cond init actions with
  | none => rw [hstate] at hplay; cases hplay
  | some state =>
      rw [hstate] at hplay
      exact ⟨state, runWith_of_play hstate, of_decide_eq_true hplay⟩

end PaybondKit
