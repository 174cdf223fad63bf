import PaybondKit.Foundation.EventLoop

/-!
# Operations that a coroutine performs at most once

`Avoids` and `PerformsOnce` look at a coroutine alone, whatever answers it receives;
a task of the event loop then hands over at most one operation of the kind.
-/

namespace PaybondKit

variable {Op : Type} {Val : Op → Type} {ε : Type}

namespace Coroutine

variable {α β : Type} {kind : Op → Prop}

/-- No operation of the kind is performed. -/
def Avoids (kind : Op → Prop) : Coroutine Val ε α → Prop
  | .perform op next => ¬kind op ∧ ∀ answer, (next answer).Avoids kind
  | _ => True

/-- At most one operation of the kind is performed. -/
def PerformsOnce (kind : Op → Prop) : Coroutine Val ε α → Prop
  | .perform op next =>
      ∀ answer, (next answer).PerformsOnce kind ∧ (kind op → (next answer).Avoids kind)
  | _ => True

theorem avoids_ret (value : α) : (ret value : Coroutine Val ε α).Avoids kind := trivial

theorem avoids_raise (exception : ε) : (raise exception : Coroutine Val ε α).Avoids kind := trivial

theorem avoids_ofExcept (result : Except ε α) :
    (ofExcept result : Coroutine Val ε α).Avoids kind := by
  cases result <;> trivial

theorem avoids_call {op : Op} (hop : ¬kind op) : (call op : Coroutine Val ε (Val op)).Avoids kind := by
  refine ⟨hop, fun answer => ?_⟩
  cases answer <;> trivial

theorem avoids_bind {program : Coroutine Val ε α} {rest : α → Coroutine Val ε β}
    (hprogram : program.Avoids kind) (hrest : ∀ value, (rest value).Avoids kind) :
    (program.bind rest).Avoids kind := by
  induction program with
  | ret value => exact hrest value
  | raise exception => trivial
  | cut => trivial
  | perform op next ih => exact ⟨hprogram.1, fun answer => ih answer (hprogram.2 answer)⟩

theorem avoids_tryExcept {program : Coroutine Val ε α} {handler : ε → Coroutine Val ε α}
    (hprogram : program.Avoids kind) (hhandler : ∀ exception, (handler exception).Avoids kind) :
    (program.tryExcept handler).Avoids kind := by
  induction program with
  | ret value => trivial
  | raise exception => exact hhandler exception
  | cut => trivial
  | perform op next ih => exact ⟨hprogram.1, fun answer => ih answer (hprogram.2 answer)⟩

theorem avoids_tryFinally {program : Coroutine Val ε α} {final : Coroutine Val ε Unit}
    (hprogram : program.Avoids kind) (hfinal : final.Avoids kind) :
    (program.tryFinally final).Avoids kind := by
  induction program with
  | ret value => exact avoids_bind hfinal fun _ => trivial
  | raise exception => exact avoids_bind hfinal fun _ => trivial
  | cut => trivial
  | perform op next ih => exact ⟨hprogram.1, fun answer => ih answer (hprogram.2 answer)⟩

/-- Less is avoided. -/
theorem Avoids.mono {kind' : Op → Prop} {program : Coroutine Val ε α} (havoids : program.Avoids kind)
    (hkind : ∀ op, kind' op → kind op) : program.Avoids kind' := by
  induction program with
  | ret value => trivial
  | raise exception => trivial
  | cut => trivial
  | perform op next ih =>
      exact ⟨fun hop => havoids.1 (hkind op hop), fun answer => ih answer (havoids.2 answer)⟩

/-- Steps that are not of the kind are not noticed. -/
theorem Avoids.follows {γ σ ρ : Type} {M : Machine Val ε σ} {record : γ → Step Val ε ρ σ → γ}
    {allowed : γ → Step Val ε ρ σ → Prop} {post : Except ε α → γ → σ → Prop} {view : γ} {state : σ}
    {program : Coroutine Val ε α} (havoids : program.Avoids kind)
    (hissued : ∀ state op, ¬kind op → record view ⟨state, .issued op⟩ = view ∧
      allowed view ⟨state, .issued op⟩)
    (hcompleted : ∀ state op answer, ¬kind op → record view ⟨state, .completed op answer⟩ = view ∧
      allowed view ⟨state, .completed op answer⟩)
    (hcut : ∀ state, allowed view ⟨state, .cut⟩)
    (hpost : ∀ outcome state, post outcome view state) :
    program.Follows M record allowed post view state := by
  induction program generalizing state with
  | ret value => exact hpost _ _
  | raise exception => exact hpost _ _
  | cut => exact hcut _
  | perform op next ih =>
      obtain ⟨hop, hnext⟩ := havoids
      cases hsuspends : M.suspends op with
      | true =>
          obtain ⟨hsame, hallowed⟩ := hissued state op hop
          refine (follows_perform_await hsuspends).mpr ⟨hallowed, fun resumed choice => ?_⟩
          rw [hsame]
          obtain ⟨hkept, hdone⟩ := hcompleted resumed op (M.apply op choice resumed).1 hop
          rw [hkept]
          exact ⟨hdone, ih _ (hnext _)⟩
      | false =>
          refine (follows_perform_sync hsuspends).mpr fun choice => ?_
          obtain ⟨hkept, hdone⟩ := hcompleted state op (M.apply op choice state).1 hop
          rw [hkept]
          exact ⟨hdone, ih _ (hnext _)⟩

theorem Avoids.performsOnce {program : Coroutine Val ε α} (havoids : program.Avoids kind) :
    program.PerformsOnce kind := by
  induction program with
  | ret value => trivial
  | raise exception => trivial
  | cut => trivial
  | perform op next ih =>
      exact fun answer => ⟨ih answer (havoids.2 answer), fun hop => absurd hop havoids.1⟩

theorem performsOnce_call (op : Op) :
    (call op : Coroutine Val ε (Val op)).PerformsOnce kind := by
  rintro (exception | value) <;> exact ⟨trivial, fun _ => trivial⟩

/-- The operation is performed by the first part. -/
theorem performsOnce_bind {program : Coroutine Val ε α} {rest : α → Coroutine Val ε β}
    (hprogram : program.PerformsOnce kind) (hrest : ∀ value, (rest value).Avoids kind) :
    (program.bind rest).PerformsOnce kind := by
  induction program with
  | ret value => exact (hrest value).performsOnce
  | raise exception => trivial
  | cut => trivial
  | perform op next ih =>
      intro answer
      exact ⟨ih answer (hprogram answer).1, fun hop => avoids_bind ((hprogram answer).2 hop) hrest⟩

/-- The operation is performed by the second part. -/
theorem performsOnce_bind_right {program : Coroutine Val ε α} {rest : α → Coroutine Val ε β}
    (hprogram : program.Avoids kind) (hrest : ∀ value, (rest value).PerformsOnce kind) :
    (program.bind rest).PerformsOnce kind := by
  induction program with
  | ret value => exact hrest value
  | raise exception => trivial
  | cut => trivial
  | perform op next ih =>
      exact fun answer => ⟨ih answer (hprogram.2 answer), fun hop => absurd hop hprogram.1⟩

theorem performsOnce_tryExcept {program : Coroutine Val ε α} {handler : ε → Coroutine Val ε α}
    (hprogram : program.PerformsOnce kind)
    (hhandler : ∀ exception, (handler exception).Avoids kind) :
    (program.tryExcept handler).PerformsOnce kind := by
  induction program with
  | ret value => trivial
  | raise exception => exact (hhandler exception).performsOnce
  | cut => trivial
  | perform op next ih =>
      intro answer
      exact ⟨ih answer (hprogram answer).1,
        fun hop => avoids_tryExcept ((hprogram answer).2 hop) hhandler⟩

theorem performsOnce_tryFinally {program : Coroutine Val ε α} {final : Coroutine Val ε Unit}
    (hprogram : program.PerformsOnce kind) (hfinal : final.Avoids kind) :
    (program.tryFinally final).PerformsOnce kind := by
  induction program with
  | ret value => exact (avoids_bind hfinal fun _ => avoids_ret value).performsOnce
  | raise exception => exact (avoids_bind hfinal fun _ => avoids_raise exception).performsOnce
  | cut => trivial
  | perform op next ih =>
      intro answer
      exact ⟨ih answer (hprogram answer).1,
        fun hop => avoids_tryFinally ((hprogram answer).2 hop) hfinal⟩

end Coroutine

/-! ## On the event loop -/

section Issued

variable {Call ρ σ β : Type} (select : Op → Option β) (calls : Call → Prop)

/-- What a step hands over of the selected kind. -/
def issued? (event : Event Val ε ρ) : Option β :=
  match event with
  | .issued op => select op
  | _ => none

/-- What a task has handed over of the selected kind. -/
def issued (past : List (Step Val ε ρ σ)) : List β :=
  past.filterMap fun step => issued? select step.event

/-- Calls of the kind hand over at most one selected operation. -/
abbrev onceSpec : LocalSpec Call Bool Val ε ρ σ where
  start := false
  record seen step := seen || (issued? select step.event).isSome
  allowed call seen step := calls call → (issued? select step.event).isSome = true → seen = false

variable {select calls} {M : Machine Val ε σ}

theorem follows_of_avoids {α : Type} {program : Coroutine Val ε α} {call : Call} {seen : Bool}
    {state : σ} {post : Except ε α → Bool → σ → Prop}
    (havoids : program.Avoids fun op => (select op).isSome = true)
    (hpost : ∀ outcome seen state, post outcome seen state) :
    program.Follows M (onceSpec select calls (ρ := ρ)).record
      ((onceSpec select calls).allowed call) post seen state := by
  induction program generalizing seen state with
  | ret value => exact hpost _ _ _
  | raise exception => exact hpost _ _ _
  | cut => exact fun _ h => nomatch h
  | perform op next ih =>
      obtain ⟨hop, hnext⟩ := havoids
      cases hsuspends : M.suspends op with
      | true =>
          refine (Coroutine.follows_perform_await hsuspends).mpr
            ⟨fun _ h => absurd h hop, fun resumed choice => ⟨(fun _ h => nomatch h), ?_⟩⟩
          exact ih _ (hnext _)
      | false =>
          refine (Coroutine.follows_perform_sync hsuspends).mpr
            fun choice => ⟨(fun _ h => nomatch h), ?_⟩
          exact ih _ (hnext _)

theorem follows_of_performsOnce {α : Type} {program : Coroutine Val ε α} {call : Call} {seen : Bool}
    {state : σ} {post : Except ε α → Bool → σ → Prop}
    (honce : program.PerformsOnce fun op => (select op).isSome = true) (hseen : seen = false)
    (hpost : ∀ outcome seen state, post outcome seen state) :
    program.Follows M (onceSpec select calls (ρ := ρ)).record
      ((onceSpec select calls).allowed call) post seen state := by
  induction program generalizing seen state with
  | ret value => exact hpost _ _ _
  | raise exception => exact hpost _ _ _
  | cut => exact fun _ h => nomatch h
  | perform op next ih =>
      cases hsuspends : M.suspends op with
      | true =>
          refine (Coroutine.follows_perform_await hsuspends).mpr
            ⟨fun _ _ => hseen, fun resumed choice => ⟨(fun _ h => nomatch h), ?_⟩⟩
          obtain ⟨hnext, havoids⟩ := honce (M.apply op choice resumed).1
          by_cases hop : (select op).isSome = true
          · exact follows_of_avoids (havoids hop) hpost
          · exact ih _ hnext (by simp [issued?, hop, hseen])
      | false =>
          refine (Coroutine.follows_perform_sync hsuspends).mpr
            fun choice => ⟨(fun _ h => nomatch h), ?_⟩
          exact ih _ (honce _).1 (by simp [issued?, hseen])

/-- A call that is not of the kind may do anything. -/
theorem follows_of_not_calls {α : Type} {program : Coroutine Val ε α} {call : Call} {seen : Bool}
    {state : σ} {post : Except ε α → Bool → σ → Prop} (hcall : ¬calls call)
    (hpost : ∀ outcome seen state, post outcome seen state) :
    program.Follows M (onceSpec select calls (ρ := ρ)).record
      ((onceSpec select calls).allowed call) post seen state := by
  induction program generalizing seen state with
  | ret value => exact hpost _ _ _
  | raise exception => exact hpost _ _ _
  | cut => exact fun h => absurd h hcall
  | perform op next ih =>
      cases hsuspends : M.suspends op with
      | true =>
          exact (Coroutine.follows_perform_await hsuspends).mpr
            ⟨fun h => absurd h hcall, fun resumed choice => ⟨fun h => absurd h hcall, ih _⟩⟩
      | false =>
          exact (Coroutine.follows_perform_sync hsuspends).mpr
            fun choice => ⟨fun h => absurd h hcall, ih _⟩

/-- A task that was started with a call of the kind has handed over at most one selected
operation. -/
theorem issued_length_le_one {init state : σ} {trace : List (Entry Call Val ε ρ σ)} {task : ℕ}
    (hbehaves : M.Behaves (onceSpec select calls) init trace state)
    (hcall : ∀ entry ∈ trace, entry.task = task → calls entry.call) :
    (issued select (history trace task)).length ≤ 1 := by
  let spec : LocalSpec Call Bool Val ε ρ σ := onceSpec select calls
  suffices hinv : (∀ entry ∈ trace, entry.task = task → calls entry.call) →
      (issued select (history trace task)).length = if spec.view trace task then 1 else 0 by
    have hlength := hinv hcall
    split at hlength <;> omega
  clear hcall
  refine hbehaves.invariant (fun trace _ =>
    (∀ entry ∈ trace, entry.task = task → calls entry.call) →
      (issued select (history trace task)).length = if spec.view trace task then 1 else 0)
    (fun _ => rfl) fun trace entry after _ hlength hallowed _ hcalls => ?_
  have hlength := hlength fun earlier hearlier => hcalls earlier (List.mem_append_left _ hearlier)
  by_cases htask : entry.task = task
  · rw [history_snoc_self htask, spec.view_snoc_self htask, issued, List.filterMap_append,
      List.length_append]
    have hself := hcalls entry (List.mem_append_right _ (List.mem_singleton_self _)) htask
    have hbefore : (issued? select entry.event).isSome = true → spec.view trace task = false := by
      rw [← htask]
      exact hallowed hself
    rw [issued] at hlength
    rw [hlength]
    cases hissued : issued? select entry.event with
    | none => simp [hissued, spec]
    | some value =>
        rw [hissued] at hbefore
        simp [hissued, hbefore rfl, spec]
  · rw [history_snoc_other htask, spec.view_snoc_other htask]
    exact hlength

end Issued

end PaybondKit
