import PaybondKit.Foundation.Ending

/-!
# Adapting the answers of a coroutine

A caller that hands a closure to a coroutine decides what some answers look like to it.
The operations stay the same, so that rules about them carry over.
-/

namespace PaybondKit

variable {Op : Type} {Val : Op → Type} {ε : Type}

namespace Coroutine

variable {α γ σ ρ : Type}

/-- Every answer is adapted before the coroutine sees it. -/
def mapAnswers (adapt : (op : Op) → Except ε (Val op) → Except ε (Val op)) :
    Coroutine Val ε α → Coroutine Val ε α
  | .ret value => .ret value
  | .raise exception => .raise exception
  | .perform op next => .perform op fun answer => (next (adapt op answer)).mapAnswers adapt
  | .cut => .cut

section Rules

variable {M : Machine Val ε σ} {record : γ → Step Val ε ρ σ → γ}
variable {allowed : γ → Step Val ε ρ σ → Prop} {post : Except ε α → γ → σ → Prop}
variable {view : γ} {state : σ} {program : Coroutine Val ε α}

/-- What no step can break, and every step keeps. -/
theorem Follows.of_invariant (Inv : γ → Prop)
    (hrecord : ∀ view step, Inv view → Inv (record view step))
    (hallowed : ∀ view step, Inv view → allowed view step)
    (hpost : ∀ outcome view state, Inv view → post outcome view state) (hview : Inv view) :
    program.Follows M record allowed post view state := by
  induction program generalizing view state with
  | ret value => exact hpost _ _ _ hview
  | raise exception => exact hpost _ _ _ hview
  | cut => exact hallowed _ _ hview
  | perform op next ih =>
      cases hsuspends : M.suspends op with
      | true =>
          rw [follows_perform_await hsuspends]
          refine ⟨hallowed _ _ hview, fun resumed choice => ⟨?_, ?_⟩⟩
          · exact hallowed _ _ (hrecord _ _ hview)
          · exact ih _ (hrecord _ _ (hrecord _ _ hview))
      | false =>
          rw [follows_perform_sync hsuspends]
          exact fun choice => ⟨hallowed _ _ hview, ih _ (hrecord _ _ hview)⟩

/-- Nothing is asked of the steps. -/
theorem Follows.of_forall (hallowed : ∀ view step, allowed view step)
    (hpost : ∀ outcome view state, post outcome view state) :
    program.Follows M record allowed post view state :=
  .of_invariant (fun _ => True) (fun _ _ _ => trivial) (fun _ _ _ => hallowed _ _)
    (fun _ _ _ _ => hpost _ _ _) trivial

/-- Rules that do not look at adapted answers hold under the adaptation. -/
theorem Follows.mapAnswers {adapt : (op : Op) → Except ε (Val op) → Except ε (Val op)}
    (hrecord : ∀ view state op answer,
      record view ⟨state, .completed op (adapt op answer)⟩ =
        record view ⟨state, .completed op answer⟩)
    (hallowed : ∀ view state op answer, allowed view ⟨state, .completed op (adapt op answer)⟩ →
      allowed view ⟨state, .completed op answer⟩)
    (hanswer : ∀ op choice state, ∃ choice',
      M.apply op choice' state =
        (adapt op (M.apply op choice state).1, (M.apply op choice state).2))
    (hfollows : program.Follows M record allowed post view state) :
    (program.mapAnswers adapt).Follows M record allowed post view state := by
  induction program generalizing view state with
  | ret value => exact hfollows
  | raise exception => exact hfollows
  | cut => exact hfollows
  | perform op next ih =>
      cases hsuspends : M.suspends op with
      | true =>
          rw [follows_perform_await hsuspends] at hfollows
          refine (follows_perform_await hsuspends).mpr ⟨hfollows.1, fun resumed choice => ?_⟩
          obtain ⟨choice', happly⟩ := hanswer op choice resumed
          have hstep := hfollows.2 resumed choice'
          rw [happly, hrecord] at hstep
          exact ⟨hallowed _ _ _ _ hstep.1, ih _ hstep.2⟩
      | false =>
          rw [follows_perform_sync hsuspends] at hfollows
          refine (follows_perform_sync hsuspends).mpr fun choice => ?_
          obtain ⟨choice', happly⟩ := hanswer op choice state
          have hstep := hfollows choice'
          rw [happly, hrecord] at hstep
          exact ⟨hallowed _ _ _ _ hstep.1, ih _ hstep.2⟩

end Rules

/-! ## Dialogues -/

section Dialogues

variable {adapt : (op : Op) → Except ε (Val op) → Except ε (Val op)}

/-- The exchange as the coroutine sees it. -/
def adaptExchange (adapt : (op : Op) → Except ε (Val op) → Except ε (Val op))
    (exchange : Exchange Val ε) : Exchange Val ε :=
  ⟨exchange.op, adapt exchange.op exchange.answer⟩

/-- A dialogue of the adapted coroutine is one of the coroutine with the adapted answers. -/
theorem ends_mapAnswers {program : Coroutine Val ε α} {past : List (Exchange Val ε)}
    {outcome : Except ε α} : (program.mapAnswers adapt).Ends past outcome ↔
      program.Ends (past.map (adaptExchange adapt)) outcome := by
  induction program generalizing past with
  | ret value => simp only [mapAnswers, ends_ret, List.map_eq_nil_iff]
  | raise exception => simp only [mapAnswers, ends_raise, List.map_eq_nil_iff]
  | cut => exact ⟨nofun, nofun⟩
  | perform op next ih =>
      rw [mapAnswers, ends_perform, ends_perform]
      constructor
      · rintro ⟨answer, later, rfl, hnext⟩
        exact ⟨adapt op answer, later.map (adaptExchange adapt), rfl, (ih _).mp hnext⟩
      · rintro ⟨answer, later, hpast, hnext⟩
        obtain ⟨exchange, before, rfl, hexchange, rfl⟩ := List.map_eq_cons_iff.mp hpast
        cases hexchange
        exact ⟨exchange.answer, before, rfl, (ih _).mpr hnext⟩

end Dialogues

end Coroutine

end PaybondKit
