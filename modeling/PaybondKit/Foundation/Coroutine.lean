import Mathlib.Data.List.Basic

/-!
# Coroutines with exceptions and interruptible blocks

A coroutine is a finite tree of operations. Some operations suspend it: control
returns to the event loop and other coroutines run before the answer arrives.
Every answer is a value or an exception, and an exception is raised at the
operation that received it. The proof rules at the end describe the steps a
coroutine takes, whatever the other coroutines do while it is suspended.
-/

namespace PaybondKit

variable {Op : Type} {Val : Op → Type} {ε : Type}

/-- A computation that performs operations, returns or raises. `cut` stands for
the part of an unbounded loop beyond the bound the loop was unrolled to. -/
inductive Coroutine {Op : Type} (Val : Op → Type) (ε : Type) (α : Type) where
  | ret (value : α)
  | raise (exception : ε)
  | perform (op : Op) (next : Except ε (Val op) → Coroutine Val ε α)
  | cut

namespace Coroutine

variable {α β : Type}

def bind : Coroutine Val ε α → (α → Coroutine Val ε β) → Coroutine Val ε β
  | .ret value, rest => rest value
  | .raise exception, _ => .raise exception
  | .perform op next, rest => .perform op fun answer => (next answer).bind rest
  | .cut, _ => .cut

instance : Monad (Coroutine Val ε) where
  pure := .ret
  bind := Coroutine.bind

/-- Perform one operation; an exceptional answer is raised here. -/
def call (op : Op) : Coroutine Val ε (Val op) :=
  .perform op fun
    | .ok value => .ret value
    | .error exception => .raise exception

/-- A pure computation that may raise. -/
def ofExcept : Except ε α → Coroutine Val ε α
  | .ok value => .ret value
  | .error exception => .raise exception

/-- `try body except e: handler e`. A handler that does not want an exception
raises it again. -/
def tryExcept : Coroutine Val ε α → (ε → Coroutine Val ε α) → Coroutine Val ε α
  | .ret value, _ => .ret value
  | .raise exception, handler => handler exception
  | .perform op next, handler => .perform op fun answer => (next answer).tryExcept handler
  | .cut, _ => .cut

/-- `try body finally: final`. An exception of `final` replaces the outcome of
`body`. -/
def tryFinally : Coroutine Val ε α → Coroutine Val ε Unit → Coroutine Val ε α
  | .ret value, final => final.bind fun _ => .ret value
  | .raise exception, final => final.bind fun _ => .raise exception
  | .perform op next, final => .perform op fun answer => (next answer).tryFinally final
  | .cut, _ => .cut

@[simp] theorem pure_eq_ret (value : α) :
    (pure value : Coroutine Val ε α) = .ret value := rfl

@[simp] theorem bind_eq (program : Coroutine Val ε α) (rest : α → Coroutine Val ε β) :
    program >>= rest = program.bind rest := rfl

@[simp] theorem map_eq (f : α → β) (program : Coroutine Val ε α) :
    f <$> program = program.bind fun value => .ret (f value) := rfl

end Coroutine

/-- How operations act on the shared state. `Choice op` is what the surroundings
decide when `op` is performed: an answer from the network, a clock reading,
whether a callback raises. -/
structure Machine {Op : Type} (Val : Op → Type) (ε σ : Type) where
  suspends : Op → Bool
  Choice : Op → Type
  apply : (op : Op) → Choice op → σ → Except ε (Val op) × σ

/-- What a task does, seen from outside: it hands a suspending operation to the
event loop, obtains the answer of an operation, or ends. -/
inductive Event {Op : Type} (Val : Op → Type) (ε ρ : Type) where
  | issued (op : Op)
  | completed (op : Op) (answer : Except ε (Val op))
  | finished (outcome : Except ε ρ)
  | cut

/-- One event with the shared state it happened in. -/
structure Step {Op : Type} (Val : Op → Type) (ε ρ σ : Type) where
  before : σ
  event : Event Val ε ρ

namespace Machine

variable {σ ρ : Type}

/-- The shared state after a step. Only a completed operation changes it. -/
def Moves (M : Machine Val ε σ) (step : Step Val ε ρ σ) (after : σ) : Prop :=
  match step.event with
  | .completed op answer => ∃ choice, M.apply op choice step.before = (answer, after)
  | _ => after = step.before

end Machine

namespace Coroutine

variable {α β γ σ ρ : Type} (M : Machine Val ε σ)
variable (record : γ → Step Val ε ρ σ → γ) (allowed : γ → Step Val ε ρ σ → Prop)

/-- `program.Follows M record allowed post view state`: started in `state` with
`view` as what is known of its past, every step the program can take is allowed,
and `post` holds when it ends. Each step is recorded in the view. The shared state
is arbitrary whenever a suspended program is resumed. -/
def Follows : Coroutine Val ε α → (Except ε α → γ → σ → Prop) → γ → σ → Prop
  | .ret value, post, view, state => post (.ok value) view state
  | .raise exception, post, view, state => post (.error exception) view state
  | .perform op next, post, view, state =>
      if M.suspends op then
        allowed view ⟨state, .issued op⟩ ∧
          ∀ resumed choice,
            allowed (record view ⟨state, .issued op⟩)
                ⟨resumed, .completed op (M.apply op choice resumed).1⟩ ∧
              (next (M.apply op choice resumed).1).Follows post
                (record (record view ⟨state, .issued op⟩)
                  ⟨resumed, .completed op (M.apply op choice resumed).1⟩)
                (M.apply op choice resumed).2
      else
        ∀ choice,
          allowed view ⟨state, .completed op (M.apply op choice state).1⟩ ∧
            (next (M.apply op choice state).1).Follows post
              (record view ⟨state, .completed op (M.apply op choice state).1⟩)
              (M.apply op choice state).2
  | .cut, _, view, state => allowed view ⟨state, .cut⟩

variable {M record allowed}
variable {post : Except ε α → γ → σ → Prop} {view : γ} {state : σ}

@[simp] theorem follows_ret (value : α) :
    (ret value : Coroutine Val ε α).Follows M record allowed post view state ↔
      post (.ok value) view state := Iff.rfl

@[simp] theorem follows_raise (exception : ε) :
    (raise exception : Coroutine Val ε α).Follows M record allowed post view state ↔
      post (.error exception) view state := Iff.rfl

@[simp] theorem follows_cut :
    (cut : Coroutine Val ε α).Follows M record allowed post view state ↔
      allowed view ⟨state, .cut⟩ := Iff.rfl

@[simp] theorem follows_ofExcept (result : Except ε α) :
    (ofExcept result : Coroutine Val ε α).Follows M record allowed post view state ↔
      post result view state := by
  cases result <;> rfl

/-- An operation that does not suspend acts on the state it is performed in. -/
theorem follows_perform_sync {op : Op} {next : Except ε (Val op) → Coroutine Val ε α}
    (hsync : M.suspends op = false) :
    (perform op next).Follows M record allowed post view state ↔
      ∀ choice,
        allowed view ⟨state, .completed op (M.apply op choice state).1⟩ ∧
          (next (M.apply op choice state).1).Follows M record allowed post
            (record view ⟨state, .completed op (M.apply op choice state).1⟩)
            (M.apply op choice state).2 := by
  simp [Follows, hsync]

/-- A suspending operation is first handed over; its answer arrives in an
arbitrary later state. -/
theorem follows_perform_await {op : Op} {next : Except ε (Val op) → Coroutine Val ε α}
    (hawait : M.suspends op = true) :
    (perform op next).Follows M record allowed post view state ↔
      allowed view ⟨state, .issued op⟩ ∧
        ∀ resumed choice,
          allowed (record view ⟨state, .issued op⟩)
              ⟨resumed, .completed op (M.apply op choice resumed).1⟩ ∧
            (next (M.apply op choice resumed).1).Follows M record allowed post
              (record (record view ⟨state, .issued op⟩)
                ⟨resumed, .completed op (M.apply op choice resumed).1⟩)
              (M.apply op choice resumed).2 := by
  simp [Follows, hawait]

/-- The rule of consequence. -/
theorem Follows.mono {post' : Except ε α → γ → σ → Prop}
    {allowed' : γ → Step Val ε ρ σ → Prop} {program : Coroutine Val ε α}
    (hfollows : program.Follows M record allowed post view state)
    (hallowed : ∀ view step, allowed view step → allowed' view step)
    (hpost : ∀ outcome view state, post outcome view state → post' outcome view state) :
    program.Follows M record allowed' post' view state := by
  induction program generalizing view state with
  | ret value => exact hpost _ _ _ hfollows
  | raise exception => exact hpost _ _ _ hfollows
  | cut => exact hallowed _ _ hfollows
  | perform op next ih =>
      cases hsuspends : M.suspends op with
      | true =>
          rw [follows_perform_await hsuspends] at hfollows ⊢
          refine ⟨hallowed _ _ hfollows.1, fun resumed choice => ?_⟩
          obtain ⟨hcompleted, hrest⟩ := hfollows.2 resumed choice
          exact ⟨hallowed _ _ hcompleted, ih _ hrest⟩
      | false =>
          rw [follows_perform_sync hsuspends] at hfollows ⊢
          intro choice
          obtain ⟨hcompleted, hrest⟩ := hfollows choice
          exact ⟨hallowed _ _ hcompleted, ih _ hrest⟩

/-- What does not depend on the view is seen under every view. -/
theorem Follows.change_view {γ' : Type} {record' : γ' → Step Val ε ρ σ → γ'}
    {allowed' : γ' → Step Val ε ρ σ → Prop} {post' : Except ε α → γ' → σ → Prop} {view' : γ'}
    {program : Coroutine Val ε α} (hfollows : program.Follows M record allowed post view state)
    (hallowed : ∀ view view' step, allowed view step → allowed' view' step)
    (hpost : ∀ outcome view view' state, post outcome view state → post' outcome view' state) :
    program.Follows M record' allowed' post' view' state := by
  induction program generalizing view view' state with
  | ret value => exact hpost _ _ _ _ hfollows
  | raise exception => exact hpost _ _ _ _ hfollows
  | cut => exact hallowed _ _ _ hfollows
  | perform op next ih =>
      cases hsuspends : M.suspends op with
      | true =>
          rw [follows_perform_await hsuspends] at hfollows ⊢
          refine ⟨hallowed _ _ _ hfollows.1, fun resumed choice => ?_⟩
          obtain ⟨hcompleted, hrest⟩ := hfollows.2 resumed choice
          exact ⟨hallowed _ _ _ hcompleted, ih _ hrest⟩
      | false =>
          rw [follows_perform_sync hsuspends] at hfollows ⊢
          intro choice
          obtain ⟨hcompleted, hrest⟩ := hfollows choice
          exact ⟨hallowed _ _ _ hcompleted, ih _ hrest⟩

theorem Follows.weaken_post {post' : Except ε α → γ → σ → Prop} {program : Coroutine Val ε α}
    (hfollows : program.Follows M record allowed post view state)
    (hpost : ∀ outcome view state, post outcome view state → post' outcome view state) :
    program.Follows M record allowed post' view state :=
  hfollows.mono (fun _ _ h => h) hpost

theorem follows_congr {post' : Except ε α → γ → σ → Prop} {program : Coroutine Val ε α}
    (hpost : ∀ outcome view state, post outcome view state ↔ post' outcome view state) :
    program.Follows M record allowed post view state ↔
      program.Follows M record allowed post' view state :=
  ⟨fun h => h.weaken_post fun _ _ _ => (hpost _ _ _).mp,
    fun h => h.weaken_post fun _ _ _ => (hpost _ _ _).mpr⟩

/-- Sequencing: the rest runs from wherever the first part returned, and an
exception of the first part is the exception of the whole. -/
theorem follows_bind {post : Except ε β → γ → σ → Prop}
    (program : Coroutine Val ε α) (rest : α → Coroutine Val ε β) :
    (program.bind rest).Follows M record allowed post view state ↔
      program.Follows M record allowed
        (fun outcome view state => match outcome with
          | .ok value => (rest value).Follows M record allowed post view state
          | .error exception => post (.error exception) view state)
        view state := by
  induction program generalizing view state with
  | ret value => rfl
  | raise exception => rfl
  | cut => rfl
  | perform op next ih =>
      cases hsuspends : M.suspends op with
      | true => simp only [Coroutine.bind, follows_perform_await hsuspends, ih]
      | false => simp only [Coroutine.bind, follows_perform_sync hsuspends, ih]

theorem follows_tryExcept (program : Coroutine Val ε α) (handler : ε → Coroutine Val ε α) :
    (program.tryExcept handler).Follows M record allowed post view state ↔
      program.Follows M record allowed
        (fun outcome view state => match outcome with
          | .ok value => post (.ok value) view state
          | .error exception => (handler exception).Follows M record allowed post view state)
        view state := by
  induction program generalizing view state with
  | ret value => rfl
  | raise exception => rfl
  | cut => rfl
  | perform op next ih =>
      cases hsuspends : M.suspends op with
      | true => simp only [tryExcept, follows_perform_await hsuspends, ih]
      | false => simp only [tryExcept, follows_perform_sync hsuspends, ih]

theorem follows_tryFinally (program : Coroutine Val ε α) (final : Coroutine Val ε Unit) :
    (program.tryFinally final).Follows M record allowed post view state ↔
      program.Follows M record allowed
        (fun outcome view state =>
          final.Follows M record allowed
            (fun ending view state => match ending with
              | .ok _ => post outcome view state
              | .error exception => post (.error exception) view state)
            view state)
        view state := by
  induction program generalizing view state with
  | ret value =>
      rw [tryFinally, follows_bind]
      exact follows_congr fun ending _ _ => by cases ending <;> rfl
  | raise exception =>
      rw [tryFinally, follows_bind]
      exact follows_congr fun ending _ _ => by cases ending <;> rfl
  | cut => rfl
  | perform op next ih =>
      cases hsuspends : M.suspends op with
      | true => simp only [tryFinally, follows_perform_await hsuspends, ih]
      | false => simp only [tryFinally, follows_perform_sync hsuspends, ih]

theorem follows_call_sync {op : Op} {post : Except ε (Val op) → γ → σ → Prop}
    (hsync : M.suspends op = false) :
    (call op : Coroutine Val ε (Val op)).Follows M record allowed post view state ↔
      ∀ choice,
        allowed view ⟨state, .completed op (M.apply op choice state).1⟩ ∧
          post (M.apply op choice state).1
            (record view ⟨state, .completed op (M.apply op choice state).1⟩)
            (M.apply op choice state).2 := by
  rw [call, follows_perform_sync hsync]
  refine forall_congr' fun choice => and_congr_right fun _ => ?_
  cases (M.apply op choice state).1 <;> rfl

theorem follows_call_await {op : Op} {post : Except ε (Val op) → γ → σ → Prop}
    (hawait : M.suspends op = true) :
    (call op : Coroutine Val ε (Val op)).Follows M record allowed post view state ↔
      allowed view ⟨state, .issued op⟩ ∧
        ∀ resumed choice,
          allowed (record view ⟨state, .issued op⟩)
              ⟨resumed, .completed op (M.apply op choice resumed).1⟩ ∧
            post (M.apply op choice resumed).1
              (record (record view ⟨state, .issued op⟩)
                ⟨resumed, .completed op (M.apply op choice resumed).1⟩)
              (M.apply op choice resumed).2 := by
  rw [call, follows_perform_await hawait]
  refine and_congr_right fun _ => forall_congr' fun resumed => forall_congr' fun choice =>
    and_congr_right fun _ => ?_
  cases (M.apply op choice resumed).1 <;> rfl

end Coroutine

/-! ## Outcomes of another kind -/

section MapOutcome

variable {α γ σ ρ ρ' : Type}

def Event.mapOutcome (f : ρ' → ρ) : Event Val ε ρ' → Event Val ε ρ
  | .issued op => .issued op
  | .completed op answer => .completed op answer
  | .finished outcome => .finished (outcome.map f)
  | .cut => .cut

def Step.mapOutcome (f : ρ' → ρ) (step : Step Val ε ρ' σ) : Step Val ε ρ σ where
  before := step.before
  event := step.event.mapOutcome f

/-- The steps before the last do not depend on what kind of outcome is awaited. -/
theorem Coroutine.follows_mapOutcome {M : Machine Val ε σ} (f : ρ' → ρ)
    {record : γ → Step Val ε ρ σ → γ} {allowed : γ → Step Val ε ρ σ → Prop}
    {post : Except ε α → γ → σ → Prop} {program : Coroutine Val ε α} {view : γ} {state : σ} :
    program.Follows M (fun view (step : Step Val ε ρ' σ) => record view (step.mapOutcome f))
        (fun view step => allowed view (step.mapOutcome f)) post view state ↔
      program.Follows M record allowed post view state := by
  induction program generalizing view state with
  | ret value => rfl
  | raise exception => rfl
  | cut => rfl
  | perform op next ih =>
      cases hsuspends : M.suspends op with
      | true =>
          simp only [follows_perform_await hsuspends, ih]
          rfl
      | false =>
          simp only [follows_perform_sync hsuspends, ih]
          rfl

end MapOutcome

end PaybondKit
