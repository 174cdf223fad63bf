import PaybondKit.Foundation.Dialogue
import PaybondKit.Foundation.Once

/-!
# Dialogues that end

`Ends` relates a coroutine to the exchanges after which it returns or raises. A dialogue of a
composed coroutine splits into those of its parts.
-/

namespace PaybondKit.Coroutine

variable {Op : Type} {Val : Op → Type} {ε α β : Type}

/-- The coroutine ends after the exchanges. -/
inductive Ends : Coroutine Val ε α → List (Exchange Val ε) → Except ε α → Prop where
  | ret (value : α) : (ret value).Ends [] (.ok value)
  | raise (exception : ε) : (raise exception).Ends [] (.error exception)
  | answered {op : Op} {next : Except ε (Val op) → Coroutine Val ε α}
      {answer : Except ε (Val op)} {later : List (Exchange Val ε)} {outcome : Except ε α}
      (hnext : (next answer).Ends later outcome) :
      (perform op next).Ends (⟨op, answer⟩ :: later) outcome

section Rules

variable {past : List (Exchange Val ε)} {outcome : Except ε α} {program : Coroutine Val ε α}

/-- What has returned is all that is left. -/
theorem ends_ok_iff_reaches {value : α} :
    program.Ends past (.ok value) ↔ program.Reaches past (ret value) := by
  constructor
  · intro hends
    generalize hok : (.ok value : Except ε α) = outcome at hends
    induction hends with
    | ret value =>
        cases hok
        exact .start _
    | raise exception => cases hok
    | answered hnext ih => exact .answered (ih hok)
  · intro hreaches
    generalize hret : (ret value : Coroutine Val ε α) = rest at hreaches
    induction hreaches with
    | start program =>
        rw [← hret]
        exact .ret value
    | answered hnext ih => exact .answered (ih hret)

theorem ends_ret {value : α} :
    (ret value : Coroutine Val ε α).Ends past outcome ↔ past = [] ∧ outcome = .ok value := by
  constructor
  · rintro ⟨⟩
    exact ⟨rfl, rfl⟩
  · rintro ⟨rfl, rfl⟩
    exact .ret value

theorem ends_raise {exception : ε} :
    (raise exception : Coroutine Val ε α).Ends past outcome ↔
      past = [] ∧ outcome = .error exception := by
  constructor
  · rintro ⟨⟩
    exact ⟨rfl, rfl⟩
  · rintro ⟨rfl, rfl⟩
    exact .raise exception

theorem not_ends_cut : ¬(cut : Coroutine Val ε α).Ends past outcome := nofun

theorem ends_perform {op : Op} {next : Except ε (Val op) → Coroutine Val ε α} :
    (perform op next).Ends past outcome ↔
      ∃ answer later, past = ⟨op, answer⟩ :: later ∧ (next answer).Ends later outcome := by
  constructor
  · rintro ⟨⟩
    next hnext => exact ⟨_, _, rfl, hnext⟩
  · rintro ⟨answer, later, rfl, hnext⟩
    exact .answered hnext

/-- The exchanges decide how a dialogue ends. -/
theorem Ends.unique {outcome' : Except ε α} (hends : program.Ends past outcome)
    (hends' : program.Ends past outcome') : outcome = outcome' := by
  induction hends with
  | ret value => exact (ends_ret.mp hends').2.symm
  | raise exception => exact (ends_raise.mp hends').2.symm
  | answered hnext ih =>
      obtain ⟨answer, later, hpast, hnext'⟩ := ends_perform.mp hends'
      cases hpast
      exact ih hnext'

theorem ends_ofExcept {result : Except ε α} :
    (ofExcept result : Coroutine Val ε α).Ends past outcome ↔ past = [] ∧ outcome = result := by
  cases result with
  | ok value => exact ends_ret
  | error exception => exact ends_raise

theorem ends_call {op : Op} {answer : Except ε (Val op)} :
    (call op : Coroutine Val ε (Val op)).Ends past answer ↔ past = [⟨op, answer⟩] := by
  rw [call, ends_perform]
  constructor
  · rintro ⟨given, later, rfl, hnext⟩
    cases given with
    | ok value =>
        obtain ⟨rfl, rfl⟩ := ends_ret.mp hnext
        rfl
    | error exception =>
        obtain ⟨rfl, rfl⟩ := ends_raise.mp hnext
        rfl
  · rintro rfl
    refine ⟨answer, [], rfl, ?_⟩
    cases answer with
    | ok value => exact .ret value
    | error exception => exact .raise exception

/-- A sequence returns when the first part has returned and then the rest has. -/
theorem returns_bind {rest : α → Coroutine Val ε β} {result : β} :
    (program.bind rest).Ends past (.ok result) ↔ ∃ value before after, past = before ++ after ∧
      program.Ends before (.ok value) ∧ (rest value).Ends after (.ok result) := by
  induction program generalizing past with
  | ret value =>
      constructor
      · intro hrest
        exact ⟨value, [], past, rfl, .ret value, hrest⟩
      · rintro ⟨_, _, after, rfl, ⟨⟩, hrest⟩
        exact hrest
  | raise exception =>
      constructor
      · rintro ⟨⟩
      · rintro ⟨_, _, _, -, ⟨⟩, -⟩
  | cut =>
      constructor
      · rintro ⟨⟩
      · rintro ⟨_, _, _, -, ⟨⟩, -⟩
  | perform op next ih =>
      rw [Coroutine.bind, ends_perform]
      constructor
      · rintro ⟨answer, later, rfl, hnext⟩
        obtain ⟨value, before, after, rfl, hprogram, hrest⟩ := (ih answer).mp hnext
        exact ⟨value, ⟨op, answer⟩ :: before, after, rfl, .answered hprogram, hrest⟩
      · rintro ⟨value, _, after, rfl, hprogram, hrest⟩
        obtain ⟨answer, later, rfl, hnext⟩ := ends_perform.mp hprogram
        exact ⟨answer, later ++ after, rfl,
          (ih answer).mpr ⟨value, later, after, rfl, hnext, hrest⟩⟩

/-- A handled program returns by itself, or its handler does. -/
theorem returns_tryExcept {handler : ε → Coroutine Val ε α} {result : α} :
    (program.tryExcept handler).Ends past (.ok result) ↔ program.Ends past (.ok result) ∨
      ∃ exception before after, past = before ++ after ∧ program.Ends before (.error exception) ∧
        (handler exception).Ends after (.ok result) := by
  induction program generalizing past with
  | ret value =>
      constructor
      · exact .inl
      · rintro (hreturns | ⟨_, _, _, -, ⟨⟩, -⟩)
        exact hreturns
  | raise exception =>
      constructor
      · intro hhandler
        exact .inr ⟨exception, [], past, rfl, .raise exception, hhandler⟩
      · rintro (hreturns | ⟨_, _, after, rfl, ⟨⟩, hhandler⟩)
        · cases hreturns
        · exact hhandler
  | cut =>
      constructor
      · rintro ⟨⟩
      · rintro (hreturns | ⟨_, _, _, -, ⟨⟩, -⟩)
        cases hreturns
  | perform op next ih =>
      rw [tryExcept, ends_perform]
      constructor
      · rintro ⟨answer, later, rfl, hnext⟩
        rcases (ih answer).mp hnext with
          hreturns | ⟨exception, before, after, rfl, hraises, hhandler⟩
        · exact .inl (.answered hreturns)
        · exact .inr ⟨exception, ⟨op, answer⟩ :: before, after, rfl, .answered hraises, hhandler⟩
      · rintro (hreturns | ⟨exception, _, after, rfl, hraises, hhandler⟩)
        · obtain ⟨answer, later, rfl, hnext⟩ := ends_perform.mp hreturns
          exact ⟨answer, later, rfl, (ih answer).mpr (.inl hnext)⟩
        · obtain ⟨answer, later, rfl, hnext⟩ := ends_perform.mp hraises
          exact ⟨answer, later ++ after, rfl,
            (ih answer).mpr (.inr ⟨exception, later, after, rfl, hnext, hhandler⟩)⟩

/-- A protected program returns when it and then its final part return. -/
theorem returns_tryFinally {final : Coroutine Val ε Unit} {result : α} :
    (program.tryFinally final).Ends past (.ok result) ↔ ∃ before after, past = before ++ after ∧
      program.Ends before (.ok result) ∧ final.Ends after (.ok ()) := by
  induction program generalizing past with
  | ret value =>
      rw [tryFinally, returns_bind]
      constructor
      · rintro ⟨_, before, _, rfl, hfinal, ⟨⟩⟩
        exact ⟨[], before, List.append_nil _, .ret _, hfinal⟩
      · rintro ⟨_, after, rfl, ⟨⟩, hfinal⟩
        exact ⟨(), after, [], (List.append_nil _).symm, hfinal, .ret _⟩
  | raise exception =>
      rw [tryFinally, returns_bind]
      constructor
      · rintro ⟨_, _, _, -, -, ⟨⟩⟩
      · rintro ⟨_, _, -, ⟨⟩, -⟩
  | cut =>
      constructor
      · rintro ⟨⟩
      · rintro ⟨_, _, -, ⟨⟩, -⟩
  | perform op next ih =>
      rw [tryFinally, ends_perform]
      constructor
      · rintro ⟨answer, later, rfl, hnext⟩
        obtain ⟨before, after, rfl, hprogram, hfinal⟩ := (ih answer).mp hnext
        exact ⟨⟨op, answer⟩ :: before, after, rfl, .answered hprogram, hfinal⟩
      · rintro ⟨_, after, rfl, hprogram, hfinal⟩
        obtain ⟨answer, later, rfl, hnext⟩ := ends_perform.mp hprogram
        exact ⟨answer, later ++ after, rfl, (ih answer).mpr ⟨later, after, rfl, hnext, hfinal⟩⟩

/-- What is avoided does not occur. -/
theorem Ends.filterMap_eq_nil {γ : Type} {kind : Op → Prop}
    {select : Exchange Val ε → Option γ} (hends : program.Ends past outcome)
    (havoids : program.Avoids kind)
    (hselect : ∀ exchange, ¬kind exchange.op → select exchange = none) :
    past.filterMap select = [] := by
  induction hends with
  | ret value => rfl
  | raise exception => rfl
  | answered hnext ih =>
      rw [List.filterMap_cons, hselect _ havoids.1]
      exact ih (havoids.2 _)

end Rules

/-! ## One dialogue -/

/-- The dialogue with surroundings that always answer the same. -/
def dialogue (answers : (op : Op) → Except ε (Val op)) :
    Coroutine Val ε α → Option (List (Exchange Val ε) × Except ε α)
  | .ret value => some ([], .ok value)
  | .raise exception => some ([], .error exception)
  | .perform op next => do
      let (later, outcome) ← (next (answers op)).dialogue answers
      return (⟨op, answers op⟩ :: later, outcome)
  | .cut => none

theorem ends_of_dialogue {answers : (op : Op) → Except ε (Val op)} {program : Coroutine Val ε α}
    {past : List (Exchange Val ε)} {outcome : Except ε α}
    (hdialogue : program.dialogue answers = some (past, outcome)) : program.Ends past outcome := by
  induction program generalizing past with
  | ret value =>
      cases hdialogue
      exact .ret value
  | raise exception =>
      cases hdialogue
      exact .raise exception
  | cut => cases hdialogue
  | perform op next ih =>
      obtain ⟨⟨later, ended⟩, hlater, hsome⟩ := Option.bind_eq_some_iff.mp hdialogue
      obtain ⟨rfl, rfl⟩ := Prod.mk.inj (Option.some.inj hsome)
      exact .answered (ih _ hlater)

/-- The exchanges of the dialogue carry the answers of the surroundings. -/
theorem answer_of_dialogue {answers : (op : Op) → Except ε (Val op)} {program : Coroutine Val ε α}
    {past : List (Exchange Val ε)} {outcome : Except ε α}
    (hdialogue : program.dialogue answers = some (past, outcome)) :
    ∀ exchange ∈ past, exchange.answer = answers exchange.op := by
  induction program generalizing past with
  | ret value =>
      cases hdialogue
      exact nofun
  | raise exception =>
      cases hdialogue
      exact nofun
  | cut => cases hdialogue
  | perform op next ih =>
      obtain ⟨⟨later, ended⟩, hlater, hsome⟩ := Option.bind_eq_some_iff.mp hdialogue
      obtain ⟨rfl, rfl⟩ := Prod.mk.inj (Option.some.inj hsome)
      exact List.forall_mem_cons.mpr ⟨rfl, ih _ hlater⟩

end PaybondKit.Coroutine
