import PaybondKit.Foundation.Once

/-!
# Brackets

A bracketed call opens, runs a body, and closes in a `finally` clause. In every run of the event
loop such a call finishes only once it has closed what it opened, and does nothing between closing
and ending. Nor does anything else then: a task keeps control until it hands over an operation or
ends.
-/

namespace PaybondKit

variable {Op : Type} {Val : Op → Type} {ε Call ρ σ : Type}

/-- An operation of the kind has been performed. -/
def Event.Performs (kind : Op → Bool) : Event Val ε ρ → Prop
  | .completed op _ => kind op = true
  | _ => False

/-! ## One call -/

structure BracketView where
  opened : Bool := false
  closed : Bool := false

section Brackets

variable (opens closes : Op → Bool)

def BracketView.record (view : BracketView) (step : Step Val ε ρ σ) : BracketView :=
  match step.event with
  | .completed op _ =>
      { opened := view.opened || opens op, closed := view.closed || closes op }
  | _ => view

/-- Nothing is performed once the bracket is closed, and what is opened is closed in the end. -/
def BracketView.Allowed (view : BracketView) (step : Step Val ε ρ σ) : Prop :=
  match step.event with
  | .completed _ _ | .issued _ => view.closed = false
  | .finished _ => view.opened = true → view.closed = true
  | .cut => True

/-- The operation belongs to the bracket itself. -/
def IsBracket (op : Op) : Prop := opens op = true ∨ closes op = true

/-- The calls of a kind are bracketed; nothing is said of the others. -/
abbrev bracketSpec (Val : Op → Type) (ε ρ σ : Type) (calls : Call → Prop) :
    LocalSpec Call BracketView Val ε ρ σ where
  start := {}
  record := BracketView.record opens closes
  allowed call view step := calls call → view.Allowed step

variable {opens closes}

theorem BracketView.record_of_not {view : BracketView} {state : σ} {op : Op}
    {answer : Except ε (Val op)} (hop : ¬IsBracket opens closes op) :
    view.record opens closes (⟨state, .completed op answer⟩ : Step Val ε ρ σ) = view := by
  have hopens : opens op = false := Bool.eq_false_iff.mpr fun h => hop (.inl h)
  have hcloses : closes op = false := Bool.eq_false_iff.mpr fun h => hop (.inr h)
  simp [record, hopens, hcloses]

section Follows

variable {M : Machine Val ε σ} {α β : Type}

/-- A part that leaves the bracket alone runs before the bracket is closed. -/
theorem follows_inside {program : Coroutine Val ε α} {view : BracketView} {state : σ}
    {post : Except ε α → BracketView → σ → Prop}
    (havoids : program.Avoids (IsBracket opens closes)) (hview : view.closed = false)
    (hpost : ∀ outcome state, post outcome view state) :
    program.Follows M (BracketView.record opens closes)
      (fun view (step : Step Val ε ρ σ) => view.Allowed step) post view state := by
  refine havoids.follows (fun state op _ => ⟨rfl, hview⟩) (fun state op answer hop => ?_)
    (fun _ => trivial) hpost
  exact ⟨BracketView.record_of_not hop, hview⟩

/-- The bracket: the opening is answered at once, and the closing is all that the `finally` clause
does. -/
theorem follows_bracket {before : Coroutine Val ε α} {op : Op} {body : Val op → Coroutine Val ε β}
    {final : Coroutine Val ε Unit} (hbefore : before.Avoids (IsBracket opens closes))
    (hopens : opens op = true) (hnot : closes op = false) (hsync : M.suspends op = false)
    (hanswer : ∀ choice state, ∃ value, (M.apply op choice state).1 = .ok value)
    (hbody : ∀ value, (body value).Avoids (IsBracket opens closes))
    (hfinal : ∀ state, final.Follows M (BracketView.record opens closes)
      (fun view (step : Step Val ε ρ σ) => view.Allowed step) (fun _ view _ => view.closed = true)
      { opened := true } state) (state : σ) :
    (before.bind fun _ => (Coroutine.call op).bind fun value =>
        (body value).tryFinally final).Follows M (BracketView.record opens closes)
      (fun view (step : Step Val ε ρ σ) => view.Allowed step)
      (fun _ view _ => view.opened = true → view.closed = true) {} state := by
  refine (Coroutine.follows_bind _ _).mpr (follows_inside hbefore rfl fun outcome state => ?_)
  cases outcome with
  | error exception => exact fun h => (nomatch h)
  | ok value =>
      refine (Coroutine.follows_bind _ _).mpr ((Coroutine.follows_call_sync hsync).mpr
        fun choice => ⟨rfl, ?_⟩)
      obtain ⟨answer, hanswer⟩ := hanswer choice state
      have hopened : BracketView.record opens closes {}
          (⟨state, .completed op (M.apply op choice state).1⟩ : Step Val ε ρ σ) =
            { opened := true } := by
        simp [BracketView.record, hopens, hnot]
      rw [hopened, hanswer]
      refine (Coroutine.follows_tryFinally _ _).mpr
        (follows_inside (hbody answer) rfl fun outcome state => ?_)
      refine (hfinal state).weaken_post fun ending view state hclosed => ?_
      cases ending <;> exact fun _ => hclosed

end Follows

/-! ## Runs -/

section Runs

variable {M : Machine Val ε σ} {calls : Call → Prop} {init state : σ}
variable {trace first second : List (Entry Call Val ε ρ σ)} {entry : Entry Call Val ε ρ σ}
  {task : ℕ}

theorem view_opened_iff : ((bracketSpec opens closes Val ε ρ σ calls).view trace task).opened =
    true ↔ Occurs trace task (Event.Performs opens) := by
  induction trace using List.reverseRecOn with
  | nil => simp
  | append_singleton trace last ih =>
      rw [occurs_snoc, Recorder.view_snoc, ← ih]
      split
      next htask =>
        obtain ⟨⟨before, event⟩, owner, call⟩ := last
        obtain rfl : owner = task := htask
        cases event <;> simp [BracketView.record, Event.Performs]
      next htask => simp [htask]

theorem view_closed_iff : ((bracketSpec opens closes Val ε ρ σ calls).view trace task).closed =
    true ↔ Occurs trace task (Event.Performs closes) := by
  induction trace using List.reverseRecOn with
  | nil => simp
  | append_singleton trace last ih =>
      rw [occurs_snoc, Recorder.view_snoc, ← ih]
      split
      next htask =>
        obtain ⟨⟨before, event⟩, owner, call⟩ := last
        obtain rfl : owner = task := htask
        cases event <;> simp [BracketView.record, Event.Performs]
      next htask => simp [htask]

/-- What a bracketed call has opened it has closed when it finishes. -/
theorem closed_of_finished
    (hbehaves : M.Behaves (bracketSpec opens closes Val ε ρ σ calls) init trace state)
    (htrace : trace = first ++ entry :: second) (hcall : calls entry.call)
    {outcome : Except ε ρ} (hfinished : entry.event = .finished outcome)
    (hopened : Occurs first entry.task (Event.Performs opens)) :
    Occurs first entry.task (Event.Performs closes) := by
  have hallowed := (hbehaves.split htrace).2.2.2 hcall
  unfold BracketView.Allowed at hallowed
  rw [hfinished] at hallowed
  exact view_closed_iff.mp (hallowed (view_opened_iff.mpr hopened))

/-- All that a bracketed call does after closing is to end. -/
theorem ends_of_closed
    (hbehaves : M.Behaves (bracketSpec opens closes Val ε ρ σ calls) init trace state)
    (htrace : trace = first ++ entry :: second) (hcall : calls entry.call)
    (hclosed : Occurs first entry.task (Event.Performs closes)) : entry.event.Ends := by
  have hallowed := (hbehaves.split htrace).2.2.2 hcall
  have hview : ((bracketSpec opens closes Val ε ρ σ calls).view first entry.task).closed = true :=
    view_closed_iff.mpr hclosed
  unfold BracketView.Allowed at hallowed
  split at hallowed
  next hevent => cases hallowed.symm.trans hview
  next hevent => cases hallowed.symm.trans hview
  next hevent =>
    rw [hevent]
    trivial
  next hevent =>
    rw [hevent]
    trivial

end Runs

end Brackets

/-! ## Keeping control -/

/-- Between two entries of different tasks the first has given up control. -/
def Uninterrupted : List (Entry Call Val ε ρ σ) → Prop
  | [] => True
  | [entry] => entry.event.Yields
  | entry :: next :: later =>
      (entry.event.Yields ∨ next.task = entry.task) ∧ Uninterrupted (next :: later)

section Control

variable {trace later : List (Entry Call Val ε ρ σ)}

theorem Uninterrupted.append (htrace : Uninterrupted trace) (hlater : Uninterrupted later) :
    Uninterrupted (trace ++ later) := by
  induction trace with
  | nil => exact hlater
  | cons entry rest ih =>
      cases rest with
      | nil =>
          cases later with
          | nil => exact htrace
          | cons next later => exact ⟨.inl htrace, hlater⟩
      | cons next rest => exact ⟨htrace.1, ih htrace.2⟩

/-- A task that has not given up control takes the next step. -/
theorem Uninterrupted.next (htrace : Uninterrupted trace) {first second : List (Entry Call Val ε ρ σ)}
    {entry : Entry Call Val ε ρ σ} (hsplit : trace = first ++ entry :: second)
    (hkeeps : ¬entry.event.Yields) :
    ∃ next later, second = next :: later ∧ next.task = entry.task := by
  induction first generalizing trace with
  | nil =>
      cases second with
      | nil =>
          rw [hsplit] at htrace
          exact absurd htrace hkeeps
      | cons next later =>
          rw [hsplit] at htrace
          exact ⟨next, later, rfl, htrace.1.resolve_left hkeeps⟩
  | cons head first ih =>
      rw [hsplit] at htrace
      refine ih ?_ rfl
      cases first with
      | nil => exact htrace.2
      | cons _ _ => exact htrace.2

variable {M : Machine Val ε σ} {program : Call → Coroutine Val ε ρ} {task : ℕ} {call : Call}

theorem advance_steps_ne_nil {choices : ℕ → (op : Op) → M.Choice op}
    (rest : Coroutine Val ε ρ) (index : ℕ) (state : σ) :
    (rest.advance M choices index state).steps ≠ [] := by
  cases rest with
  | perform op next =>
      rw [Coroutine.advance]
      split <;> exact List.cons_ne_nil _ _
  | _ => exact List.cons_ne_nil _ _

/-- A step, and then what the same task does next. -/
theorem Uninterrupted.cons_map {step : Step Val ε ρ σ} {steps : List (Step Val ε ρ σ)}
    (hne : steps ≠ [])
    (hsteps : Uninterrupted (steps.map fun step =>
      ({ step with task, call } : Entry Call Val ε ρ σ))) :
    Uninterrupted ((step :: steps).map fun step =>
      ({ step with task, call } : Entry Call Val ε ρ σ)) := by
  cases steps with
  | nil => exact absurd rfl hne
  | cons next later => exact ⟨.inr rfl, hsteps⟩

/-- A segment ends by giving up control. -/
theorem uninterrupted_advance {choices : ℕ → (op : Op) → M.Choice op}
    (rest : Coroutine Val ε ρ) (index : ℕ) (state : σ) :
    Uninterrupted ((rest.advance M choices index state).steps.map fun step =>
      ({ step with task, call } : Entry Call Val ε ρ σ)) := by
  induction rest generalizing index state with
  | ret value => trivial
  | raise exception => trivial
  | cut => trivial
  | perform op next ih =>
      rw [Coroutine.advance]
      split
      · trivial
      · exact .cons_map (advance_steps_ne_nil _ _ _) (ih _ _ _)

theorem uninterrupted_resume {choices : ℕ → (op : Op) → M.Choice op}
    (rest : Coroutine Val ε ρ) (state : σ) :
    Uninterrupted ((rest.resume M choices state).steps.map fun step =>
      ({ step with task, call } : Entry Call Val ε ρ σ)) := by
  cases rest with
  | perform op next =>
      exact .cons_map (advance_steps_ne_nil _ _ _) (uninterrupted_advance _ _ _)
  | _ => trivial

/-- In the trace of the loop no task is interrupted. -/
theorem Loop.uninterrupted_run (init : σ) (actions : List (Action Call M)) :
    Uninterrupted (Loop.run M program init actions).trace := by
  induction actions using List.reverseRecOn with
  | nil => trivial
  | append_singleton actions action ih =>
      rw [Loop.run, List.foldl_append, List.foldl_cons, List.foldl_nil, ← Loop.run]
      cases action with
      | start call choices => exact ih.append (uninterrupted_advance _ _ _)
      | resume index choices =>
          rw [Loop.act]
          split
          · exact ih
          · exact ih.append (uninterrupted_resume _ _)

end Control

end PaybondKit
