import Mathlib.Data.List.Induction
import PaybondKit.Foundation.Coroutine

/-!
# A single-threaded event loop

Tasks are started and resumed one at a time. A task that is given control runs
until it hands a suspending operation to the loop or ends; nothing else runs in
between. The loop records every step of every task in one trace. The results
here reduce a statement about all schedules to a statement about one step:
a trace of the loop is built entry by entry, and every entry is one that a local
specification allows, given a view of what its task did before.
-/

namespace PaybondKit

variable {Op : Type} {Val : Op → Type} {ε Call γ ρ σ : Type}

/-- The last event of a task. -/
def Event.Ends : Event Val ε ρ → Prop
  | .finished _ | .cut => True
  | .issued _ | .completed _ _ => False

instance : DecidablePred fun event : Event Val ε ρ => event.Ends
  | .finished _ | .cut => isTrue trivial
  | .issued _ | .completed _ _ => isFalse id

/-- A task gives up control when it hands over an operation and when it ends. -/
def Event.Yields : Event Val ε ρ → Prop
  | .completed _ _ => False
  | .issued _ | .finished _ | .cut => True

/-- A step in the trace of the loop, with the task that took it. -/
structure Entry (Call : Type) (Val : Op → Type) (ε ρ σ : Type) extends Step Val ε ρ σ where
  task : ℕ
  call : Call

/-- What one task has done so far. -/
def history (trace : List (Entry Call Val ε ρ σ)) (task : ℕ) : List (Step Val ε ρ σ) :=
  (trace.filter fun entry => entry.task = task).map Entry.toStep

section History

variable {trace : List (Entry Call Val ε ρ σ)} {entry : Entry Call Val ε ρ σ} {task : ℕ}

@[simp] theorem history_nil : history ([] : List (Entry Call Val ε ρ σ)) task = [] := rfl

theorem history_append (first second : List (Entry Call Val ε ρ σ)) :
    history (first ++ second) task = history first task ++ history second task := by
  simp [history]

theorem history_snoc_self (htask : entry.task = task) :
    history (trace ++ [entry]) task = history trace task ++ [entry.toStep] := by
  simp [history, htask]

theorem history_snoc_other (htask : entry.task ≠ task) :
    history (trace ++ [entry]) task = history trace task := by
  simp [history, htask]

theorem mem_history {step : Step Val ε ρ σ} :
    step ∈ history trace task ↔ ∃ entry ∈ trace, entry.task = task ∧ entry.toStep = step := by
  simp [history, and_assoc]

theorem Entry.toStep_mem_history (hentry : entry ∈ trace) :
    entry.toStep ∈ history trace entry.task :=
  mem_history.mpr ⟨entry, hentry, rfl, rfl⟩

/-- The task has met an event of the given kind. -/
def Occurs (trace : List (Entry Call Val ε ρ σ)) (task : ℕ) (kind : Event Val ε ρ → Prop) :
    Prop :=
  ∃ entry ∈ trace, entry.task = task ∧ kind entry.event

instance (trace : List (Entry Call Val ε ρ σ)) (task : ℕ) (kind : Event Val ε ρ → Prop)
    [DecidablePred kind] : Decidable (Occurs trace task kind) :=
  inferInstanceAs (Decidable (∃ entry ∈ trace, entry.task = task ∧ kind entry.event))

/-- The task was started with a call of the given kind. -/
def IsCall (trace : List (Entry Call Val ε ρ σ)) (task : ℕ) (kind : Call → Prop) : Prop :=
  ∃ entry ∈ trace, entry.task = task ∧ kind entry.call

instance (trace : List (Entry Call Val ε ρ σ)) (task : ℕ) (kind : Call → Prop)
    [DecidablePred kind] : Decidable (IsCall trace task kind) :=
  inferInstanceAs (Decidable (∃ entry ∈ trace, entry.task = task ∧ kind entry.call))

@[simp] theorem not_occurs_nil {kind : Event Val ε ρ → Prop} :
    ¬Occurs ([] : List (Entry Call Val ε ρ σ)) task kind := by
  simp [Occurs]

theorem occurs_snoc {kind : Event Val ε ρ → Prop} :
    Occurs (trace ++ [entry]) task kind ↔
      Occurs trace task kind ∨ entry.task = task ∧ kind entry.event := by
  simp only [Occurs, List.mem_append, List.mem_singleton]
  constructor
  · rintro ⟨earlier, hearlier | rfl, htask, hkind⟩
    · exact .inl ⟨earlier, hearlier, htask, hkind⟩
    · exact .inr ⟨htask, hkind⟩
  · rintro (⟨earlier, hearlier, htask, hkind⟩ | ⟨htask, hkind⟩)
    · exact ⟨earlier, .inl hearlier, htask, hkind⟩
    · exact ⟨entry, .inr rfl, htask, hkind⟩

theorem IsCall.snoc {kind : Call → Prop} (hcall : IsCall trace task kind) :
    IsCall (trace ++ [entry]) task kind := by
  obtain ⟨earlier, hearlier, htask, hkind⟩ := hcall
  exact ⟨earlier, List.mem_append_left _ hearlier, htask, hkind⟩

theorem Occurs.append {kind : Event Val ε ρ → Prop} (hoccurs : Occurs trace task kind)
    (later : List (Entry Call Val ε ρ σ)) : Occurs (trace ++ later) task kind := by
  obtain ⟨earlier, hearlier, htask, hkind⟩ := hoccurs
  exact ⟨earlier, List.mem_append_left _ hearlier, htask, hkind⟩

theorem Occurs.snoc {kind : Event Val ε ρ → Prop} (hoccurs : Occurs trace task kind) :
    Occurs (trace ++ [entry]) task kind :=
  occurs_snoc.mpr (.inl hoccurs)

end History

/-- A view of a task's past, kept up to date step by step. -/
structure Recorder (γ : Type) (Val : Op → Type) (ε ρ σ : Type) where
  start : γ
  record : γ → Step Val ε ρ σ → γ

namespace Recorder

variable (recorder : Recorder γ Val ε ρ σ)
variable {trace : List (Entry Call Val ε ρ σ)} {entry : Entry Call Val ε ρ σ} {task : ℕ}

/-- The view of a task's past. -/
def view (trace : List (Entry Call Val ε ρ σ)) (task : ℕ) : γ :=
  (history trace task).foldl recorder.record recorder.start

@[simp] theorem view_nil : recorder.view ([] : List (Entry Call Val ε ρ σ)) task = recorder.start :=
  rfl

theorem view_snoc_self (htask : entry.task = task) :
    recorder.view (trace ++ [entry]) task = recorder.record (recorder.view trace task) entry.toStep := by
  simp [view, history_snoc_self htask]

theorem view_snoc_other (htask : entry.task ≠ task) :
    recorder.view (trace ++ [entry]) task = recorder.view trace task := by
  rw [view, history_snoc_other htask, view]

theorem view_snoc (trace : List (Entry Call Val ε ρ σ)) (entry : Entry Call Val ε ρ σ)
    (task : ℕ) :
    recorder.view (trace ++ [entry]) task =
      if entry.task = task then recorder.record (recorder.view trace task) entry.toStep
      else recorder.view trace task := by
  split
  next htask => exact recorder.view_snoc_self htask
  next htask => exact recorder.view_snoc_other htask

theorem view_snoc_update (trace : List (Entry Call Val ε ρ σ)) (entry : Entry Call Val ε ρ σ) :
    recorder.view (trace ++ [entry]) =
      Function.update (recorder.view trace) entry.task
        (recorder.record (recorder.view trace entry.task) entry.toStep) := by
  funext task
  by_cases htask : task = entry.task
  · rw [htask, Function.update_self, recorder.view_snoc_self rfl]
  · rw [Function.update_of_ne htask, recorder.view_snoc_other (Ne.symm htask)]

theorem view_append_other {later : List (Entry Call Val ε ρ σ)}
    (hother : ∀ entry ∈ later, entry.task ≠ task) :
    recorder.view (trace ++ later) task = recorder.view trace task := by
  have hnil : history later task = [] := by simpa [history] using hother
  rw [view, history_append, hnil, List.append_nil, view]

theorem view_of_not_mem (hnew : ∀ earlier ∈ trace, earlier.task ≠ task) :
    recorder.view trace task = recorder.start := by
  have hnil : history trace task = [] := by simpa [history] using hnew
  rw [view, hnil, List.foldl_nil]

/-- What came to hold of a view was established by one of the steps since. -/
theorem exists_step_since {p : γ → Prop} {later : List (Entry Call Val ε ρ σ)}
    (hbefore : ¬p (recorder.view trace task)) (hview : p (recorder.view (trace ++ later) task)) :
    ∃ first entry second, later = first ++ entry :: second ∧ entry.task = task ∧
      ¬p (recorder.view (trace ++ first) task) ∧
      p (recorder.record (recorder.view (trace ++ first) task) entry.toStep) := by
  induction later using List.reverseRecOn with
  | nil => exact absurd (by rwa [List.append_nil] at hview) hbefore
  | append_singleton later last ih =>
      rw [← List.append_assoc] at hview
      by_cases hearlier : p (recorder.view (trace ++ later) task)
      · obtain ⟨first, entry, second, rfl, hentry⟩ := ih hearlier
        exact ⟨first, entry, second ++ [last], by simp, hentry⟩
      · by_cases htask : last.task = task
        · rw [recorder.view_snoc_self htask] at hview
          exact ⟨later, last, [], rfl, htask, hearlier, hview⟩
        · rw [recorder.view_snoc_other htask] at hview
          exact absurd hview hearlier

/-- What holds of a view, but not at the start, was established by one of the steps. -/
theorem exists_step_of_view {p : γ → Prop} (hstart : ¬p recorder.start)
    (hview : p (recorder.view trace task)) :
    ∃ first entry second, trace = first ++ entry :: second ∧ entry.task = task ∧
      ¬p (recorder.view first task) ∧ p (recorder.record (recorder.view first task) entry.toStep) := by
  have hempty : ¬p (recorder.view ([] : List (Entry Call Val ε ρ σ)) task) := hstart
  exact recorder.exists_step_since hempty hview

/-- What every step keeps stays. -/
theorem view_keeps {p : γ → Prop} {later : List (Entry Call Val ε ρ σ)}
    (hkeep : ∀ view step, p view → p (recorder.record view step))
    (hview : p (recorder.view trace task)) : p (recorder.view (trace ++ later) task) := by
  by_contra hnot
  obtain ⟨first, entry, second, rfl, htask, hbefore, hafter⟩ :=
    recorder.exists_step_since (p := fun view => ¬p view) (not_not_intro hview) hnot
  exact hafter (hkeep _ _ (not_not.mp hbefore))

/-- Steps that leave a field of the view alone. -/
theorem view_append_of {β : Type} (field : γ → β) {later : List (Entry Call Val ε ρ σ)}
    (hkeep : ∀ entry ∈ later, entry.task = task →
      ∀ view, field (recorder.record view entry.toStep) = field view) :
    field (recorder.view (trace ++ later) task) = field (recorder.view trace task) := by
  induction later using List.reverseRecOn with
  | nil => rw [List.append_nil]
  | append_singleton later last ih =>
      rw [← List.append_assoc]
      rw [← ih fun entry hentry => hkeep entry (List.mem_append_left _ hentry)]
      by_cases htask : last.task = task
      · rw [recorder.view_snoc_self htask]
        exact hkeep last (List.mem_append_right _ (List.mem_singleton_self _)) htask _
      · rw [recorder.view_snoc_other htask]

/-- A field that only one kind of step sets was set by the last step of that kind. -/
theorem exists_last_step {β : Type} (field : γ → Option β) (kind : Step Val ε ρ σ → Prop)
    (hkeep : ∀ view step, ¬kind step → field (recorder.record view step) = field view)
    (hstart : field recorder.start = none) {value : β}
    (hvalue : field (recorder.view trace task) = some value) :
    ∃ before entry during, trace = before ++ entry :: during ∧ entry.task = task ∧
      kind entry.toStep ∧ (∀ later ∈ during, later.task = task → ¬kind later.toStep) ∧
      field (recorder.record (recorder.view before task) entry.toStep) = some value := by
  induction trace using List.reverseRecOn with
  | nil => cases hstart.symm.trans hvalue
  | append_singleton trace last ih =>
      by_cases hlast : last.task = task ∧ kind last.toStep
      · obtain ⟨htask, hkind⟩ := hlast
        rw [recorder.view_snoc_self htask] at hvalue
        exact ⟨trace, last, [], rfl, htask, hkind, by simp, hvalue⟩
      · have hbefore : field (recorder.view trace task) = some value := by
          rw [← hvalue]
          refine (recorder.view_append_of field fun entry hentry htask view => ?_).symm
          rw [List.mem_singleton.mp hentry] at htask ⊢
          exact hkeep view _ fun hkind => hlast ⟨htask, hkind⟩
        obtain ⟨before, entry, during, rfl, htask, hkind, hlater, hset⟩ := ih hbefore
        refine ⟨before, entry, during ++ [last], by simp, htask, hkind, ?_, hset⟩
        intro later hmem htask' hkind'
        rcases List.mem_append.mp hmem with hmem | hmem
        · exact hlater later hmem htask' hkind'
        · rw [List.mem_singleton.mp hmem] at htask' hkind'
          exact hlast ⟨htask', hkind'⟩

end Recorder

/-- What the calls may do, each seen alone: the steps allowed next, given the view of
what the task did before. -/
structure LocalSpec (Call γ : Type) (Val : Op → Type) (ε ρ σ : Type) extends
    Recorder γ Val ε ρ σ where
  allowed : Call → γ → Step Val ε ρ σ → Prop

namespace Machine

variable (M : Machine Val ε σ) (spec : LocalSpec Call γ Val ε ρ σ)

/-- `M.Behaves spec init trace state`: from `init` the tasks together took the
steps of `trace` and left the shared state at `state`. -/
inductive Behaves (init : σ) : List (Entry Call Val ε ρ σ) → σ → Prop where
  | start : Behaves init [] init
  | step {trace : List (Entry Call Val ε ρ σ)} {entry : Entry Call Val ε ρ σ} {after : σ}
      (hbehaves : Behaves init trace entry.before)
      (hcall : ∀ earlier ∈ trace, earlier.task = entry.task → earlier.call = entry.call)
      (hopen : ∀ earlier ∈ trace, earlier.task = entry.task → ¬earlier.event.Ends)
      (hallowed : spec.allowed entry.call (spec.view trace entry.task) entry.toStep)
      (hmoves : M.Moves entry.toStep after) :
      Behaves init (trace ++ [entry]) after

namespace Behaves

variable {M spec}
variable {init state : σ} {trace first second : List (Entry Call Val ε ρ σ)}
variable {entry : Entry Call Val ε ρ σ}

/-- The part of a trace before one of its entries is a trace of its own. -/
theorem split (hbehaves : M.Behaves spec init trace state)
    (htrace : trace = first ++ entry :: second) :
    M.Behaves spec init first entry.before ∧
      (∀ earlier ∈ first, earlier.task = entry.task → earlier.call = entry.call) ∧
      (∀ earlier ∈ first, earlier.task = entry.task → ¬earlier.event.Ends) ∧
      spec.allowed entry.call (spec.view first entry.task) entry.toStep := by
  induction hbehaves generalizing second with
  | start => simp at htrace
  | @step trace last after hbehaves hcall hopen hallowed hmoves ih =>
      rcases List.eq_nil_or_concat second with rfl | ⟨middle, end_, rfl⟩
      · obtain ⟨rfl, hlast⟩ := List.append_inj' htrace rfl
        cases hlast
        exact ⟨hbehaves, hcall, hopen, hallowed⟩
      · rw [List.concat_eq_append, ← List.cons_append, ← List.append_assoc] at htrace
        exact ih (List.append_inj' htrace rfl).1

theorem of_append (hbehaves : M.Behaves spec init (first ++ second) state) :
    ∃ middle, M.Behaves spec init first middle := by
  cases second with
  | nil => exact ⟨state, by simpa using hbehaves⟩
  | cons entry second => exact ⟨_, (hbehaves.split rfl).1⟩

/-- Every step of a trace was allowed after what its task had done before. -/
theorem allowed_of_mem (hbehaves : M.Behaves spec init trace state) (hentry : entry ∈ trace) :
    ∃ first second, trace = first ++ entry :: second ∧
      spec.allowed entry.call (spec.view first entry.task) entry.toStep := by
  obtain ⟨first, second, htrace⟩ := List.append_of_mem hentry
  exact ⟨first, second, htrace, (hbehaves.split htrace).2.2.2⟩

/-- All steps of a task belong to the call it was started with. -/
theorem call_eq (hbehaves : M.Behaves spec init trace state)
    {other : Entry Call Val ε ρ σ} (hentry : entry ∈ trace) (hother : other ∈ trace)
    (htask : entry.task = other.task) : entry.call = other.call := by
  induction hbehaves with
  | start => simp at hentry
  | step hbehaves hcall hopen hallowed hmoves ih =>
      rcases List.mem_append.mp hentry with hentry | hentry <;>
        rcases List.mem_append.mp hother with hother | hother
      · exact ih hentry hother
      · rw [List.mem_singleton.mp hother] at htask ⊢
        exact hcall _ hentry htask
      · rw [List.mem_singleton.mp hentry] at htask ⊢
        exact (hcall _ hother htask.symm).symm
      · rw [List.mem_singleton.mp hentry, List.mem_singleton.mp hother]

/-- A task does nothing after its last event. -/
theorem not_task_of_ends (hbehaves : M.Behaves spec init trace state)
    (htrace : trace = first ++ entry :: second) (hends : entry.event.Ends) :
    ∀ later ∈ second, later.task ≠ entry.task := by
  intro later hlater htask
  obtain ⟨middle, last, rfl⟩ := List.append_of_mem hlater
  rw [← List.cons_append, ← List.append_assoc] at htrace
  obtain ⟨-, -, hopen, -⟩ := hbehaves.split htrace
  exact hopen entry (List.mem_append_right _ List.mem_cons_self) htask.symm hends

/-- A property of the state and the trace that every allowed step keeps holds
after every trace. -/
theorem invariant (Inv : List (Entry Call Val ε ρ σ) → σ → Prop)
    (hbehaves : M.Behaves spec init trace state) (hinit : Inv [] init)
    (hstep : ∀ trace entry after, M.Behaves spec init trace entry.before →
      Inv trace entry.before →
      spec.allowed entry.call (spec.view trace entry.task) entry.toStep →
      M.Moves entry.toStep after → Inv (trace ++ [entry]) after) :
    Inv trace state := by
  induction hbehaves with
  | start => exact hinit
  | step hbehaves _ _ hallowed hmoves ih => exact hstep _ _ _ hbehaves ih hallowed hmoves

/-- What a kind of step establishes, and every allowed step keeps, holds once such a
step was taken. -/
theorem view_of_mem {p : γ → Prop} (hbehaves : M.Behaves spec init trace state)
    (kind : Step Val ε ρ σ → Prop)
    (hset : ∀ call view step, spec.allowed call view step → kind step → p (spec.record view step))
    (hkeep : ∀ call view step, spec.allowed call view step → p view → p (spec.record view step))
    (hentry : entry ∈ trace) (hkind : kind entry.toStep) : p (spec.view trace entry.task) := by
  induction hbehaves with
  | start => cases hentry
  | @step trace last after _ _ _ hallowed _ ih =>
      rcases List.mem_append.mp hentry with hentry | hlast
      · by_cases htask : last.task = entry.task
        · rw [← htask, spec.view_snoc_self rfl]
          refine hkeep _ _ _ hallowed ?_
          rw [htask]
          exact ih hentry
        · rw [spec.view_snoc_other htask]
          exact ih hentry
      · rw [List.mem_singleton.mp hlast] at hkind ⊢
        rw [spec.view_snoc_self rfl]
        exact hset _ _ _ hallowed hkind

/-- A property of each task's own view that every allowed step keeps. -/
theorem view_invariant (Inv : Call → γ → Prop) (hbehaves : M.Behaves spec init trace state)
    (hinit : ∀ call, Inv call spec.start)
    (hstep : ∀ call view step, Inv call view → spec.allowed call view step →
      Inv call (spec.record view step))
    (hentry : entry ∈ trace) : Inv entry.call (spec.view trace entry.task) := by
  induction hbehaves generalizing entry with
  | start => simp at hentry
  | @step trace last after hbehaves hcall hopen hallowed hmoves ih =>
      by_cases htask : last.task = entry.task
      · rw [spec.view_snoc_self htask]
        have hsame : entry.call = last.call := by
          rcases List.mem_append.mp hentry with hentry | hentry
          · exact hcall _ hentry htask.symm
          · rw [List.mem_singleton.mp hentry]
        rw [hsame, ← htask]
        refine hstep _ _ _ ?_ hallowed
        by_cases hearlier : ∃ earlier ∈ trace, earlier.task = last.task
        · obtain ⟨earlier, hearlier, hlast⟩ := hearlier
          rw [← hcall _ hearlier hlast, ← hlast]
          exact ih hearlier
        · rw [spec.view_of_not_mem fun earlier hmem hlast => hearlier ⟨earlier, hmem, hlast⟩]
          exact hinit _
      · rw [spec.view_snoc_other htask]
        rcases List.mem_append.mp hentry with hentry | hentry
        · exact ih hentry
        · exact absurd (congrArg Entry.task (List.mem_singleton.mp hentry)).symm htask

end Behaves

end Machine

namespace Coroutine

/-- What happens between two moments at which other tasks may run. -/
structure Segment (Val : Op → Type) (ε ρ σ : Type) where
  steps : List (Step Val ε ρ σ)
  after : σ
  rest : Coroutine Val ε ρ

/-- Run until the next suspending operation or to the end. The choices of the
surroundings are numbered from `index`. -/
def advance (M : Machine Val ε σ) (choices : ℕ → (op : Op) → M.Choice op) :
    Coroutine Val ε ρ → ℕ → σ → Segment Val ε ρ σ
  | .ret value, _, state => ⟨[⟨state, .finished (.ok value)⟩], state, .ret value⟩
  | .raise exception, _, state =>
      ⟨[⟨state, .finished (.error exception)⟩], state, .raise exception⟩
  | .cut, _, state => ⟨[⟨state, .cut⟩], state, .cut⟩
  | .perform op next, index, state =>
      if M.suspends op then
        ⟨[⟨state, .issued op⟩], state, .perform op next⟩
      else
        let result := M.apply op (choices index op) state
        let segment := (next result.1).advance M choices (index + 1) result.2
        { segment with steps := ⟨state, .completed op result.1⟩ :: segment.steps }

/-- A suspended task receives its answer and runs on. An ended task does nothing. -/
def resume (M : Machine Val ε σ) (choices : ℕ → (op : Op) → M.Choice op) :
    Coroutine Val ε ρ → σ → Segment Val ε ρ σ
  | .perform op next, state =>
      let result := M.apply op (choices 0 op) state
      let segment := (next result.1).advance M choices 1 result.2
      { segment with steps := ⟨state, .completed op result.1⟩ :: segment.steps }
  | ended, state => ⟨[], state, ended⟩

end Coroutine

structure Task (Call : Type) (Val : Op → Type) (ε ρ : Type) where
  call : Call
  rest : Coroutine Val ε ρ

structure Loop (Call : Type) (Val : Op → Type) (ε ρ σ : Type) where
  shared : σ
  tasks : List (Task Call Val ε ρ)
  trace : List (Entry Call Val ε ρ σ)

/-- One decision of the scheduler, with the choices of the surroundings until
control comes back. -/
inductive Action (Call : Type) (M : Machine Val ε σ) where
  | start (call : Call) (choices : ℕ → (op : Op) → M.Choice op)
  | resume (task : ℕ) (choices : ℕ → (op : Op) → M.Choice op)

namespace Loop

/-- The loop before anything was started. -/
def init (shared : σ) : Loop Call Val ε ρ σ := ⟨shared, [], []⟩

variable (M : Machine Val ε σ) (program : Call → Coroutine Val ε ρ)

/-- Write down a segment that a task has run. -/
def record (loop : Loop Call Val ε ρ σ) (task : ℕ) (call : Call)
    (segment : Coroutine.Segment Val ε ρ σ) : List (Entry Call Val ε ρ σ) :=
  loop.trace ++ segment.steps.map fun step => { step with task, call }

def act (loop : Loop Call Val ε ρ σ) : Action Call M → Loop Call Val ε ρ σ
  | .start call choices =>
      let segment := (program call).advance M choices 0 loop.shared
      { shared := segment.after
        tasks := loop.tasks ++ [⟨call, segment.rest⟩]
        trace := loop.record loop.tasks.length call segment }
  | .resume index choices =>
      match loop.tasks[index]? with
      | none => loop
      | some task =>
          let segment := task.rest.resume M choices loop.shared
          { shared := segment.after
            tasks := loop.tasks.set index ⟨task.call, segment.rest⟩
            trace := loop.record index task.call segment }

/-- The loop after the scheduler has made the given decisions. -/
def run (shared : σ) (actions : List (Action Call M)) : Loop Call Val ε ρ σ :=
  actions.foldl (act M program) (init shared)

end Loop

section Soundness

variable {M : Machine Val ε σ} {program : Call → Coroutine Val ε ρ}
variable {spec : LocalSpec Call γ Val ε ρ σ}

/-- Every step of a call, its end included, is allowed whatever the state it is
started in. -/
def Coroutine.Obeys (M : Machine Val ε σ) (program : Coroutine Val ε ρ)
    (spec : LocalSpec Call γ Val ε ρ σ) (call : Call) : Prop :=
  ∀ state, program.Follows M spec.record (spec.allowed call)
    (fun outcome view state => spec.allowed call view ⟨state, .finished outcome⟩) spec.start state

/-- A task between two of its segments: it waits for the operation it issued
last, or it has ended. -/
def Coroutine.Parked (M : Machine Val ε σ) (spec : LocalSpec Call γ Val ε ρ σ) (call : Call)
    (past : List (Step Val ε ρ σ)) : Coroutine Val ε ρ → Prop
  | .perform op next =>
      (∀ step ∈ past, ¬step.event.Ends) ∧
        ∀ resumed choice,
          spec.allowed call (past.foldl spec.record spec.start)
              ⟨resumed, .completed op (M.apply op choice resumed).1⟩ ∧
            (next (M.apply op choice resumed).1).Follows M spec.record (spec.allowed call)
              (fun outcome view state => spec.allowed call view ⟨state, .finished outcome⟩)
              (spec.record (past.foldl spec.record spec.start)
                ⟨resumed, .completed op (M.apply op choice resumed).1⟩)
              (M.apply op choice resumed).2
  | _ => True

/-- Control is with the loop: the last thing the task did gave it up. -/
def Settled (spec : LocalSpec Call γ Val ε ρ σ) (call : Call) (past : List (Step Val ε ρ σ)) :
    Prop :=
  ∃ before last, past = before ++ [last] ∧ last.event.Yields ∧
    spec.allowed call (before.foldl spec.record spec.start) last

/-- The last step of a segment. -/
theorem Machine.Behaves.record_yield {init state : σ} {trace : List (Entry Call Val ε ρ σ)}
    {task : ℕ} {call : Call} {event : Event Val ε ρ}
    (hbehaves : M.Behaves spec init trace state)
    (hcall : ∀ earlier ∈ trace, earlier.task = task → earlier.call = call)
    (hopen : ∀ earlier ∈ trace, earlier.task = task → ¬earlier.event.Ends)
    (hallowed : spec.allowed call (spec.view trace task) ⟨state, event⟩)
    (hyields : event.Yields) :
    M.Behaves spec init (trace ++ [{ before := state, event, task, call }]) state ∧
      Settled spec call (history (trace ++ [{ before := state, event, task, call }]) task) := by
  have hmoves : M.Moves (⟨state, event⟩ : Step Val ε ρ σ) state := by
    cases event with
    | completed op answer => exact hyields.elim
    | _ => rfl
  refine ⟨.step hbehaves hcall hopen hallowed hmoves, ?_⟩
  rw [history_snoc_self rfl]
  exact ⟨_, _, rfl, hyields, hallowed⟩

/-- Recording a step keeps what holds of all steps of its task. -/
theorem Entry.forall_snoc {p : Entry Call Val ε ρ σ → Prop} {entry : Entry Call Val ε ρ σ}
    {trace : List (Entry Call Val ε ρ σ)} {task : ℕ}
    (htrace : ∀ earlier ∈ trace, earlier.task = task → p earlier) (hentry : p entry) :
    ∀ earlier ∈ trace ++ [entry], earlier.task = task → p earlier := by
  intro earlier hearlier htask
  rcases List.mem_append.mp hearlier with hearlier | hearlier
  · exact htrace earlier hearlier htask
  · rwa [List.mem_singleton.mp hearlier]

/-- Running a segment extends the trace by steps the specification allows and
parks the task again. -/
theorem Coroutine.Follows.advance {init : σ} {call : Call} {task : ℕ}
    {choices : ℕ → (op : Op) → M.Choice op} {rest : Coroutine Val ε ρ} {index : ℕ} {state : σ}
    {trace : List (Entry Call Val ε ρ σ)}
    (hfollows : rest.Follows M spec.record (spec.allowed call)
      (fun outcome view state => spec.allowed call view ⟨state, .finished outcome⟩)
      (spec.view trace task) state)
    (hbehaves : M.Behaves spec init trace state)
    (hcall : ∀ earlier ∈ trace, earlier.task = task → earlier.call = call)
    (hopen : ∀ earlier ∈ trace, earlier.task = task → ¬earlier.event.Ends) :
    let segment := rest.advance M choices index state
    let trace' := trace ++ segment.steps.map fun step => { step with task, call }
    M.Behaves spec init trace' segment.after ∧
      segment.rest.Parked M spec call (history trace' task) ∧
      Settled spec call (history trace' task) := by
  induction rest generalizing index state trace with
  | ret value =>
      obtain ⟨hlast, hsettled⟩ := hbehaves.record_yield hcall hopen hfollows trivial
      exact ⟨hlast, trivial, hsettled⟩
  | raise exception =>
      obtain ⟨hlast, hsettled⟩ := hbehaves.record_yield hcall hopen hfollows trivial
      exact ⟨hlast, trivial, hsettled⟩
  | cut =>
      obtain ⟨hlast, hsettled⟩ := hbehaves.record_yield hcall hopen hfollows trivial
      exact ⟨hlast, trivial, hsettled⟩
  | perform op next ih =>
      cases hsuspends : M.suspends op with
      | true =>
          rw [Coroutine.follows_perform_await hsuspends] at hfollows
          obtain ⟨hlast, hsettled⟩ := hbehaves.record_yield hcall hopen hfollows.1 trivial
          simp only [Coroutine.advance, hsuspends, if_true, List.map_cons, List.map_nil]
          refine ⟨hlast, ⟨?_, ?_⟩, hsettled⟩
          · intro step hstep
            obtain ⟨earlier, hearlier, htask, rfl⟩ := mem_history.mp hstep
            exact Entry.forall_snoc hopen id earlier hearlier htask
          · rw [history_snoc_self rfl, List.foldl_append, List.foldl_cons, List.foldl_nil]
            exact hfollows.2
      | false =>
          rw [Coroutine.follows_perform_sync hsuspends] at hfollows
          obtain ⟨hallowed, hrest⟩ := hfollows (choices index op)
          simp only [Coroutine.advance, hsuspends, Bool.false_eq_true, if_false, List.map_cons]
          rw [List.append_cons]
          refine ih _ ?_ (.step hbehaves hcall hopen hallowed ⟨_, rfl⟩)
            (Entry.forall_snoc hcall rfl) (Entry.forall_snoc hopen id)
          rw [spec.view_snoc_self rfl]
          exact hrest

/-- A resumed task takes allowed steps and is parked again. -/
theorem Coroutine.Parked.resume {init : σ} {call : Call} {task : ℕ}
    {choices : ℕ → (op : Op) → M.Choice op} {rest : Coroutine Val ε ρ} {state : σ}
    {trace : List (Entry Call Val ε ρ σ)}
    (hparked : rest.Parked M spec call (history trace task))
    (hsettled : Settled spec call (history trace task))
    (hbehaves : M.Behaves spec init trace state)
    (hcall : ∀ earlier ∈ trace, earlier.task = task → earlier.call = call) :
    let segment := rest.resume M choices state
    let trace' := trace ++ segment.steps.map fun step => { step with task, call }
    M.Behaves spec init trace' segment.after ∧
      segment.rest.Parked M spec call (history trace' task) ∧
      Settled spec call (history trace' task) := by
  cases rest with
  | perform op next =>
      obtain ⟨hopen, hnext⟩ := hparked
      obtain ⟨hallowed, hrest⟩ := hnext state (choices 0 op)
      have hopen : ∀ earlier ∈ trace, earlier.task = task → ¬earlier.event.Ends := by
        rintro earlier hearlier rfl
        exact hopen _ (Entry.toStep_mem_history hearlier)
      simp only [Coroutine.resume, List.map_cons]
      rw [List.append_cons]
      refine Coroutine.Follows.advance ?_ (.step hbehaves hcall hopen hallowed ⟨_, rfl⟩)
        (Entry.forall_snoc hcall rfl) (Entry.forall_snoc hopen id)
      rw [spec.view_snoc_self rfl]
      exact hrest
  | _ =>
      simp only [Coroutine.resume, List.map_nil, List.append_nil]
      exact ⟨hbehaves, trivial, hsettled⟩

namespace Loop

/-- What holds between two decisions of the scheduler. -/
structure Sound (M : Machine Val ε σ) (spec : LocalSpec Call γ Val ε ρ σ) (init : σ)
    (loop : Loop Call Val ε ρ σ) : Prop where
  behaves : M.Behaves spec init loop.trace loop.shared
  bounded : ∀ entry ∈ loop.trace, entry.task < loop.tasks.length
  calls : ∀ (index : ℕ) (task : Task Call Val ε ρ), loop.tasks[index]? = some task →
    ∀ entry ∈ loop.trace, entry.task = index → entry.call = task.call
  parked : ∀ (index : ℕ) (task : Task Call Val ε ρ), loop.tasks[index]? = some task →
    task.rest.Parked M spec task.call (history loop.trace index)
  settled : ∀ (index : ℕ) (task : Task Call Val ε ρ), loop.tasks[index]? = some task →
    Settled spec task.call (history loop.trace index)

/-- Another task's history is as it was. -/
theorem history_record_other {loop : Loop Call Val ε ρ σ} {task other : ℕ} {call : Call}
    {segment : Coroutine.Segment Val ε ρ σ} (hother : task ≠ other) :
    history (loop.record task call segment) other = history loop.trace other := by
  rw [record, history_append, List.append_right_eq_self]
  simp [history, hother]

theorem mem_record {loop : Loop Call Val ε ρ σ} {task : ℕ} {call : Call}
    {segment : Coroutine.Segment Val ε ρ σ} {entry : Entry Call Val ε ρ σ}
    (hentry : entry ∈ loop.record task call segment) :
    entry ∈ loop.trace ∨ entry.task = task ∧ entry.call = call := by
  rcases List.mem_append.mp hentry with hentry | hentry
  · exact .inl hentry
  · obtain ⟨step, _, rfl⟩ := List.mem_map.mp hentry
    exact .inr ⟨rfl, rfl⟩

/-- One task has run a segment; the others are where they were. -/
theorem Sound.update {init : σ} {loop : Loop Call Val ε ρ σ} (hloop : loop.Sound M spec init)
    {index : ℕ} {call : Call} {segment : Coroutine.Segment Val ε ρ σ}
    {tasks : List (Task Call Val ε ρ)}
    (hself : ∀ task, tasks[index]? = some task → task = ⟨call, segment.rest⟩)
    (hother : ∀ (other : ℕ) task, other ≠ index → tasks[other]? = some task →
      loop.tasks[other]? = some task)
    (hindex : index < tasks.length) (hlength : loop.tasks.length ≤ tasks.length)
    (hcall : ∀ entry ∈ loop.trace, entry.task = index → entry.call = call)
    (hsegment : M.Behaves spec init (loop.record index call segment) segment.after ∧
      segment.rest.Parked M spec call (history (loop.record index call segment) index) ∧
      Settled spec call (history (loop.record index call segment) index)) :
    (⟨segment.after, tasks, loop.record index call segment⟩ :
      Loop Call Val ε ρ σ).Sound M spec init := by
  obtain ⟨hbehaves, hparked, hsettled⟩ := hsegment
  refine ⟨hbehaves, fun entry hentry => ?_, fun other task htask => ?_,
    fun other task htask => ?_, fun other task htask => ?_⟩
  · rcases mem_record hentry with hentry | ⟨rfl, _⟩
    · exact Nat.lt_of_lt_of_le (hloop.bounded entry hentry) hlength
    · exact hindex
  · intro entry hentry hentryTask
    rcases eq_or_ne other index with rfl | hne
    · rw [hself task htask]
      rcases mem_record hentry with hentry | ⟨_, hentryCall⟩
      · exact hcall entry hentry hentryTask
      · exact hentryCall
    · rcases mem_record hentry with hentry | ⟨hentry, _⟩
      · exact hloop.calls other task (hother other task hne htask) entry hentry hentryTask
      · exact absurd (hentryTask.symm.trans hentry) hne
  · rcases eq_or_ne other index with rfl | hne
    · rw [hself task htask]
      exact hparked
    · rw [history_record_other hne.symm]
      exact hloop.parked other task (hother other task hne htask)
  · rcases eq_or_ne other index with rfl | hne
    · rw [hself task htask]
      exact hsettled
    · rw [history_record_other hne.symm]
      exact hloop.settled other task (hother other task hne htask)

theorem Sound.start {init : σ} {loop : Loop Call Val ε ρ σ} (hloop : loop.Sound M spec init)
    (call : Call) (choices : ℕ → (op : Op) → M.Choice op)
    (hobeys : (program call).Obeys M spec call) :
    (loop.act M program (.start call choices)).Sound M spec init := by
  have hnew : ∀ earlier ∈ loop.trace, earlier.task ≠ loop.tasks.length :=
    fun earlier hearlier => Nat.ne_of_lt (hloop.bounded earlier hearlier)
  refine hloop.update (fun task htask => ?_) (fun other task hne htask => ?_) (by simp) (by simp)
    (fun entry hentry htask => absurd htask (hnew entry hentry))
    (Coroutine.Follows.advance
      (by rw [spec.view_of_not_mem hnew]; exact hobeys loop.shared) hloop.behaves
      (fun earlier hearlier htask => absurd htask (hnew earlier hearlier))
      (fun earlier hearlier htask => absurd htask (hnew earlier hearlier)))
  · simpa using htask.symm
  · have hlt : other < loop.tasks.length := by
      have := (List.getElem?_eq_some_iff.mp htask).1
      simp only [List.length_append, List.length_singleton] at this
      omega
    rwa [List.getElem?_append_left hlt] at htask

theorem Sound.resume {init : σ} {loop : Loop Call Val ε ρ σ} (hloop : loop.Sound M spec init)
    (index : ℕ) (choices : ℕ → (op : Op) → M.Choice op) :
    (loop.act M program (.resume index choices)).Sound M spec init := by
  cases hindex : loop.tasks[index]? with
  | none => simpa only [act, hindex] using hloop
  | some task =>
      have hlt : index < loop.tasks.length := (List.getElem?_eq_some_iff.mp hindex).1
      simp only [act, hindex]
      refine hloop.update (fun replaced hreplaced => ?_) (fun other replaced hne hreplaced => ?_)
        (by simpa using hlt) (by simp) (hloop.calls index task hindex)
        ((hloop.parked index task hindex).resume (hloop.settled index task hindex)
          hloop.behaves (hloop.calls index task hindex))
      · rw [List.getElem?_set_self hlt] at hreplaced
        exact (Option.some.inj hreplaced).symm
      · rwa [List.getElem?_set_ne hne.symm] at hreplaced

/-- Whatever the scheduler and the surroundings decide, the loop takes steps the
specification allows, and between two decisions every task has given up control. -/
theorem run_sound (hobeys : ∀ call, (program call).Obeys M spec call) (shared : σ)
    (actions : List (Action Call M)) :
    (run M program shared actions).Sound M spec shared := by
  have hinit : (init shared : Loop Call Val ε ρ σ).Sound M spec shared :=
    ⟨.start, by simp [init], by simp [init], by simp [init], by simp [init]⟩
  rw [run]
  generalize init shared = loop at hinit
  induction actions generalizing loop with
  | nil => exact hinit
  | cons action actions ih =>
      rw [List.foldl_cons]
      refine ih _ ?_
      cases action with
      | start call choices => exact hinit.start call choices (hobeys call)
      | resume index choices => exact hinit.resume index choices

/-- Every task that was started has yielded last, after a step its view allowed. -/
theorem Sound.exists_last {init : σ} {loop : Loop Call Val ε ρ σ} (hloop : loop.Sound M spec init)
    {entry : Entry Call Val ε ρ σ} (hentry : entry ∈ loop.trace) :
    Settled spec entry.call (history loop.trace entry.task) := by
  have hlt := hloop.bounded entry hentry
  have hindex : loop.tasks[entry.task]? = some loop.tasks[entry.task] :=
    List.getElem?_eq_getElem hlt
  rw [hloop.calls entry.task _ hindex entry hentry rfl]
  exact hloop.settled entry.task _ hindex

end Loop

end Soundness

end PaybondKit
