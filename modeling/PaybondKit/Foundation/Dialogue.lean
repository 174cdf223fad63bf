import Mathlib.Data.List.Induction
import PaybondKit.Foundation.Coroutine

/-!
# The dialogue of one coroutine with its surroundings

A coroutine that runs alone exchanges operations for answers. Every answer is possible, so
what holds of all dialogues is shown once for the tree: `Converses` asks for each operation
that it was allowed after the exchanges before it, and for the end that it is as described.
-/

namespace PaybondKit

variable {Op : Type} {Val : Op → Type} {ε : Type}

/-- An operation with its answer. -/
structure Exchange {Op : Type} (Val : Op → Type) (ε : Type) where
  op : Op
  answer : Except ε (Val op)

/-- An exchange, as a step without a state. -/
def Exchange.toStep {ρ : Type} (exchange : Exchange Val ε) : Step Val ε ρ Unit :=
  ⟨(), .completed exchange.op exchange.answer⟩

namespace Coroutine

variable {α β : Type}

/-- What is left of a coroutine after some exchanges. -/
inductive Reaches : Coroutine Val ε α → List (Exchange Val ε) → Coroutine Val ε α → Prop where
  | start (program : Coroutine Val ε α) : program.Reaches [] program
  | answered {op : Op} {next : Except ε (Val op) → Coroutine Val ε α}
      {answer : Except ε (Val op)} {later : List (Exchange Val ε)} {rest : Coroutine Val ε α}
      (hnext : (next answer).Reaches later rest) :
      (perform op next).Reaches (⟨op, answer⟩ :: later) rest

/-- A coroutine that has returned stays as it is. -/
theorem Reaches.ret_inj {value result : α} {past : List (Exchange Val ε)}
    (hreaches : (ret value : Coroutine Val ε α).Reaches past (ret result)) : value = result := by
  cases hreaches
  rfl

/-! ## All dialogues by the rules of the machine -/

section Free

/-- Every answer is possible, and nothing is kept. -/
def freeMachine (Val : Op → Type) (ε : Type) : Machine Val ε Unit where
  suspends _ := false
  Choice op := Except ε (Val op)
  apply _ answer _ := (answer, ())

variable {γ ρ : Type} {record : γ → Step Val ε ρ Unit → γ}
variable {allowed : γ → Step Val ε ρ Unit → Prop} {post : Except ε α → γ → Unit → Prop}
variable {view : γ} {program rest : Coroutine Val ε α} {past : List (Exchange Val ε)}

/-- What is left after some exchanges goes on as described. -/
theorem Follows.reaches
    (hfollows : program.Follows (freeMachine Val ε) record allowed post view ())
    (hreaches : program.Reaches past rest) :
    rest.Follows (freeMachine Val ε) record allowed post
      (past.foldl (fun view exchange => record view exchange.toStep) view) () := by
  induction hreaches generalizing view with
  | start program => exact hfollows
  | @answered op next answer later rest hnext ih =>
      exact ih (((follows_perform_sync rfl).mp hfollows answer).2)

end Free

variable (allowed : List (Exchange Val ε) → Op → Prop)

/-- Every operation is allowed after the exchanges before it, and `post` holds at the end, which
is reached. -/
def Converses : Coroutine Val ε α → (Except ε α → List (Exchange Val ε) → Prop) →
    List (Exchange Val ε) → Prop
  | .ret value, post, past => post (.ok value) past
  | .raise exception, post, past => post (.error exception) past
  | .cut, _, _ => False
  | .perform op next, post, past =>
      allowed past op ∧ ∀ answer, (next answer).Converses post (past ++ [⟨op, answer⟩])

section Rules

variable {allowed} {post : Except ε α → List (Exchange Val ε) → Prop}
variable {past later : List (Exchange Val ε)} {program rest : Coroutine Val ε α}

theorem bind_bind {γ : Type} (program : Coroutine Val ε α) (next : α → Coroutine Val ε β)
    (rest : β → Coroutine Val ε γ) :
    (program.bind next).bind rest = program.bind fun value => (next value).bind rest := by
  induction program with
  | ret value => rfl
  | raise exception => rfl
  | cut => rfl
  | perform op next ih => simp only [Coroutine.bind, ih]

theorem converses_bind {post : Except ε β → List (Exchange Val ε) → Prop}
    (program : Coroutine Val ε α) (rest : α → Coroutine Val ε β) :
    (program.bind rest).Converses allowed post past ↔
      program.Converses allowed
        (fun outcome past => match outcome with
          | .ok value => (rest value).Converses allowed post past
          | .error exception => post (.error exception) past) past := by
  induction program generalizing past with
  | ret value => rfl
  | raise exception => rfl
  | cut => rfl
  | perform op next ih => simp only [Coroutine.bind, Converses, ih]

theorem converses_call {op : Op} {post : Except ε (Val op) → List (Exchange Val ε) → Prop} :
    (call op : Coroutine Val ε (Val op)).Converses allowed post past ↔
      allowed past op ∧ ∀ answer, post answer (past ++ [⟨op, answer⟩]) := by
  refine and_congr_right fun _ => forall_congr' fun answer => ?_
  cases answer <;> rfl

theorem converses_ofExcept (result : Except ε α) :
    (ofExcept result : Coroutine Val ε α).Converses allowed post past ↔ post result past := by
  cases result <;> rfl

theorem Converses.weaken_post {post' : Except ε α → List (Exchange Val ε) → Prop}
    (hconverses : program.Converses allowed post past)
    (hpost : ∀ outcome past, post outcome past → post' outcome past) :
    program.Converses allowed post' past := by
  induction program generalizing past with
  | ret value => exact hpost _ _ hconverses
  | raise exception => exact hpost _ _ hconverses
  | cut => exact hconverses
  | perform op next ih => exact ⟨hconverses.1, fun answer => ih answer (hconverses.2 answer)⟩

/-- What is left goes on as described. -/
theorem Converses.reaches (hconverses : program.Converses allowed post past)
    (hreaches : program.Reaches later rest) : rest.Converses allowed post (past ++ later) := by
  induction hreaches generalizing past with
  | start program => rwa [List.append_nil]
  | @answered op next answer later rest hnext ih =>
      have hrest := ih (hconverses.2 answer)
      rwa [List.append_assoc, List.singleton_append] at hrest

theorem Converses.allowed_of_reaches (hconverses : program.Converses allowed post [])
    {op : Op} {next : Except ε (Val op) → Coroutine Val ε α}
    (hreaches : program.Reaches past (perform op next)) : allowed past op :=
  (hconverses.reaches hreaches).1

theorem Converses.post_of_ret (hconverses : program.Converses allowed post [])
    {value : α} (hreaches : program.Reaches past (ret value)) : post (.ok value) past :=
  hconverses.reaches hreaches

theorem Converses.post_of_raise (hconverses : program.Converses allowed post [])
    {exception : ε} (hreaches : program.Reaches past (raise exception)) :
    post (.error exception) past :=
  hconverses.reaches hreaches

theorem Converses.not_cut (hconverses : program.Converses allowed post []) :
    ¬program.Reaches past cut :=
  fun hreaches => hconverses.reaches hreaches

/-- Each exchange was allowed when its operation was performed. -/
theorem Converses.allowed_of_append (hconverses : program.Converses allowed post past)
    {before after : List (Exchange Val ε)} {exchange : Exchange Val ε}
    (hreaches : program.Reaches (before ++ exchange :: after) rest) :
    allowed (past ++ before) exchange.op := by
  induction before generalizing past program with
  | nil =>
      cases hreaches
      rw [List.append_nil]
      exact hconverses.1
  | cons first before ih =>
      cases hreaches with
      | answered hnext =>
          have hlater := ih (hconverses.2 _) hnext
          rwa [List.append_assoc, List.singleton_append] at hlater

/-- A kind of operation that is allowed only below a bound stays within the bound. -/
theorem Converses.countP_le (hconverses : program.Converses allowed post [])
    {kind : Op → Bool} {bound : ℕ}
    (hbound : ∀ past op, allowed past op → kind op → past.countP (kind ·.op) < bound)
    (hreaches : program.Reaches past rest) : past.countP (kind ·.op) ≤ bound := by
  have hprefix : ∀ before after, past = before ++ after → before.countP (kind ·.op) ≤ bound := by
    intro before
    induction before using List.reverseRecOn with
    | nil => exact fun _ _ => Nat.zero_le _
    | append_singleton before last ih =>
        intro after hpast
        have hallowed : allowed before last.op := by
          rw [hpast, List.append_assoc, List.singleton_append] at hreaches
          have := hconverses.allowed_of_append hreaches
          rwa [List.nil_append] at this
        rw [List.countP_append, List.countP_singleton]
        split
        next hkind => exact hbound before last.op hallowed hkind
        next =>
          rw [Nat.add_zero]
          exact ih (last :: after) (by simpa using hpast)
  exact hprefix past [] (by simp)

end Rules

end Coroutine

end PaybondKit
