import Mathlib.Algebra.Group.Nat.Defs
import Mathlib.Data.Nat.Notation
import Mathlib.Logic.Basic

/-!
# Readers of bytes

A reader takes a value from a list at an offset and says where it stopped. It reads a chunk
when it finds the value wherever the chunk stands and whatever comes after it. Readers that
follow each other read the chunks one after the other.
-/

namespace PaybondKit

variable {β ε α γ σ ι : Type}

/-! ## Exceptions -/

/-- Only what is allowed is raised. -/
def Raises (allowed : ε → Prop) (result : Except ε α) : Prop :=
  ∀ failure, result = .error failure → allowed failure

section Raises

variable {allowed other : ε → Prop} {result : Except ε α} {rest : α → Except ε γ}

theorem raises_ok (value : α) : Raises allowed (.ok value) := nofun

theorem raises_error {failure : ε} (hfailure : allowed failure) :
    Raises allowed (.error failure : Except ε α) := by
  intro failure' herror
  cases herror
  exact hfailure

theorem Raises.mono (hraises : Raises allowed result)
    (hother : ∀ failure, allowed failure → other failure) : Raises other result :=
  fun failure herror => hother failure (hraises failure herror)

theorem Raises.bind (hraises : Raises allowed result)
    (hrest : ∀ value, result = .ok value → Raises allowed (rest value)) :
    Raises allowed (result >>= rest) := by
  cases result with
  | error failure =>
      intro failure' herror
      cases herror
      exact hraises failure rfl
  | ok value => exact hrest value rfl

end Raises

abbrev Reader (β ε α : Type) := List β → ℕ → Except ε (α × ℕ)

namespace Reader

def andThen (reader : Reader β ε α) (next : α → Reader β ε γ) : Reader β ε γ :=
  fun data offset => do
    let (value, cursor) ← reader data offset
    next value data cursor

def pure (value : α) : Reader β ε α := fun _ offset => .ok (value, offset)

def fail (failure : ε) : Reader β ε α := fun _ _ => .error failure

/-- `for _ in range(n)`, with what the rounds have made so far. -/
def iterate (step : σ → Reader β ε σ) : ℕ → σ → Reader β ε σ
  | 0, state => pure state
  | n + 1, state => (step state).andThen (iterate step n)

/-- The reader finds the value in the chunk, wherever it stands. -/
def Reads (reader : Reader β ε α) (chunk : List β) (value : α) : Prop :=
  ∀ front rest, reader (front ++ (chunk ++ rest)) front.length =
    .ok (value, front.length + chunk.length)

/-- The reader raises at the chunk, wherever it stands. -/
def Fails (reader : Reader β ε α) (chunk : List β) : Prop :=
  ∀ front rest, ∃ failure, reader (front ++ (chunk ++ rest)) front.length = .error failure

section Rules

variable {reader : Reader β ε α} {next : α → Reader β ε γ} {chunk chunk' : List β}
variable {value : α} {result : γ}

theorem Reads.not_fails (hreads : reader.Reads chunk value) : ¬reader.Fails chunk := by
  intro hfails
  obtain ⟨failure, hfailure⟩ := hfails [] []
  rw [hreads [] []] at hfailure
  cases hfailure

theorem reads_pure (value : α) : (pure value : Reader β ε α).Reads [] value :=
  fun _ _ => rfl

theorem fails_fail (failure : ε) : (fail failure : Reader β ε α).Fails chunk :=
  fun _ _ => ⟨failure, rfl⟩

theorem Reads.andThen (hreads : reader.Reads chunk value)
    (hnext : (next value).Reads chunk' result) :
    (reader.andThen next).Reads (chunk ++ chunk') result := by
  intro front rest
  have hread := hreads front (chunk' ++ rest)
  have hrest := hnext (front ++ chunk) rest
  rw [List.append_assoc, List.length_append] at hrest
  rw [Reader.andThen, List.append_assoc, hread]
  rw [List.length_append, ← Nat.add_assoc]
  exact hrest

theorem Fails.andThen (hfails : reader.Fails chunk) :
    (reader.andThen next).Fails (chunk ++ chunk') := by
  intro front rest
  obtain ⟨failure, hfailure⟩ := hfails front (chunk' ++ rest)
  refine ⟨failure, ?_⟩
  rw [Reader.andThen, List.append_assoc, hfailure]
  rfl

theorem Reads.andThen_fails (hreads : reader.Reads chunk value)
    (hnext : (next value).Fails chunk') : (reader.andThen next).Fails (chunk ++ chunk') := by
  intro front rest
  have hread := hreads front (chunk' ++ rest)
  obtain ⟨failure, hfailure⟩ := hnext (front ++ chunk) rest
  refine ⟨failure, ?_⟩
  rw [List.append_assoc, List.length_append] at hfailure
  rw [Reader.andThen, List.append_assoc, hread]
  exact hfailure

/-- A value that is only changed afterwards. -/
theorem Reads.map (hreads : reader.Reads chunk value) (f : α → γ) :
    (reader.andThen fun value => .pure (f value)).Reads chunk (f value) := by
  rw [← List.append_nil chunk]
  exact hreads.andThen (reads_pure _)

theorem Fails.first (hfails : reader.Fails chunk) : (reader.andThen next).Fails chunk := by
  rw [← List.append_nil chunk]
  exact hfails.andThen

end Rules

section Iterate

variable {step : σ → Reader β ε σ} {chunk : ι → List β} {effect : σ → ι → σ} {items : List ι}

theorem Reads.iterate (hstep : ∀ item ∈ items, ∀ state,
      (step state).Reads (chunk item) (effect state item)) (state : σ) :
    (Reader.iterate step items.length state).Reads (items.flatMap chunk)
      (items.foldl effect state) := by
  induction items generalizing state with
  | nil => exact reads_pure state
  | cons item items ih =>
      obtain ⟨hitem, hitems⟩ := List.forall_mem_cons.mp hstep
      exact (hitem state).andThen (ih hitems (effect state item))

/-- The loop raises in the first round that raises. -/
theorem Fails.iterate (hstep : ∀ item ∈ items,
      (∀ state, (step state).Reads (chunk item) (effect state item)) ∨
        ∀ state, (step state).Fails (chunk item))
    (hfails : ∃ item ∈ items, ∀ state, (step state).Fails (chunk item)) (state : σ) :
    (Reader.iterate step items.length state).Fails (items.flatMap chunk) := by
  induction items generalizing state with
  | nil =>
      obtain ⟨item, hitem, -⟩ := hfails
      cases hitem
  | cons item items ih =>
      obtain ⟨hitem, hitems⟩ := List.forall_mem_cons.mp hstep
      rcases hitem with hreads | hraises
      · refine (hreads state).andThen_fails (ih hitems ?_ _)
        obtain ⟨failing, hfailing, hraises⟩ := hfails
        rcases List.mem_cons.mp hfailing with rfl | hmem
        · exact absurd (hraises state) (hreads state).not_fails
        · exact ⟨failing, hmem, hraises⟩
      · exact (hraises state).andThen

end Iterate

/-! ## What a reader raises -/

/-- Where fewer than `depth` items are left, the reader does not go back, and what it raises is
allowed. -/
def Within (allowed : ε → Prop) (depth : ℕ) (reader : Reader β ε α) : Prop :=
  ∀ data offset, data.length < offset + depth →
    (∀ value cursor, reader data offset = .ok (value, cursor) → offset ≤ cursor) ∧
      Raises allowed (reader data offset)

section Within

variable {allowed : ε → Prop} {depth : ℕ} {reader : Reader β ε α} {next : α → Reader β ε γ}

theorem within_pure (value : α) : (pure value : Reader β ε α).Within allowed depth := by
  intro data offset _
  refine ⟨fun value' cursor hread => ?_, raises_ok _⟩
  cases hread
  exact Nat.le_refl _

theorem within_fail {failure : ε} (hfailure : allowed failure) :
    (fail failure : Reader β ε α).Within allowed depth := by
  intro data offset _
  refine ⟨fun value cursor hread => ?_, raises_error hfailure⟩
  cases hread

theorem Within.andThen (hreader : reader.Within allowed depth)
    (hnext : ∀ value, (next value).Within allowed depth) :
    (reader.andThen next).Within allowed depth := by
  intro data offset hdepth
  obtain ⟨hforward, hraises⟩ := hreader data offset hdepth
  have hrest : ∀ value cursor, reader data offset = .ok (value, cursor) →
      data.length < cursor + depth := by
    intro value cursor hread
    have hcursor := hforward value cursor hread
    omega
  refine ⟨fun value' cursor' hresult => ?_, hraises.bind fun result hread => ?_⟩
  · unfold Reader.andThen at hresult
    cases hread : reader data offset with
    | error failure =>
        rw [hread] at hresult
        cases hresult
    | ok result =>
        obtain ⟨value, cursor⟩ := result
        rw [hread] at hresult
        have hcursor := hforward value cursor hread
        exact Nat.le_trans hcursor
          ((hnext value data cursor (hrest value cursor hread)).1 value' cursor' hresult)
  · obtain ⟨value, cursor⟩ := result
    exact (hnext value data cursor (hrest value cursor hread)).2

theorem Within.iterate {step : σ → Reader β ε σ} (hstep : ∀ state, (step state).Within allowed depth)
    (n : ℕ) (state : σ) : (Reader.iterate step n state).Within allowed depth := by
  induction n generalizing state with
  | zero => exact within_pure state
  | succ n ih => exact (hstep state).andThen ih

end Within

end Reader

end PaybondKit
