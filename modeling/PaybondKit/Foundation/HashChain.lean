import Mathlib.Algebra.Order.Ring.Int
import Mathlib.Data.List.Sort
import Mathlib.Data.Nat.Cast.Basic

/-!
# Hash chains

Records of several runs, each with its place in the run, its digest and the digest of the
record before it. A run is complete when its records are numbered from one without a gap or a
repetition and each names its predecessor, in whatever order they are given. Sorted by their
numbers, the records of a complete run are a chain, and the other way round.
-/

namespace PaybondKit

structure ChainRecord (κ δ : Type) where
  run : κ
  seq : ℤ
  prev : Option δ
  digest : δ

namespace ChainRecord

variable {κ δ : Type} {prior : Option (ChainRecord κ δ)} {record : ChainRecord κ δ}
variable {records : List (ChainRecord κ δ)}

/-- The record comes right after the prior one, or it is the first. -/
def Follows (prior : Option (ChainRecord κ δ)) (record : ChainRecord κ δ) : Prop :=
  match prior with
  | none => record.seq = 1 ∧ record.prev = none
  | some prior => record.seq = prior.seq + 1 ∧ record.prev = some prior.digest

/-- Each record follows the one before it. -/
def Chained : Option (ChainRecord κ δ) → List (ChainRecord κ δ) → Prop
  | _, [] => True
  | prior, record :: records => Follows prior record ∧ Chained (some record) records

/-- One record for each number from one, each with the digest of its predecessor. -/
structure Complete (records : List (ChainRecord κ δ)) : Prop where
  seqs : (records.map seq).Perm ((List.range records.length).map fun i : ℕ => (i : ℤ) + 1)
  first : ∀ record ∈ records, record.seq = 1 → record.prev = none
  linked : ∀ prior ∈ records, ∀ record ∈ records, record.seq = prior.seq + 1 →
    record.prev = some prior.digest

theorem complete_nil : Complete ([] : List (ChainRecord κ δ)) :=
  ⟨.nil, nofun, nofun⟩

namespace Complete

/-- The order of the records does not matter. -/
theorem perm {others : List (ChainRecord κ δ)} (hcomplete : Complete records)
    (hperm : records.Perm others) : Complete others where
  seqs := by
    rw [← hperm.length_eq]
    exact (hperm.map _).symm.trans hcomplete.seqs
  first record hrecord := hcomplete.first record (hperm.mem_iff.mpr hrecord)
  linked prior hprior record hrecord :=
    hcomplete.linked prior (hperm.mem_iff.mpr hprior) record (hperm.mem_iff.mpr hrecord)

theorem mem_seqs (hcomplete : Complete records) {n : ℤ} :
    (∃ record ∈ records, record.seq = n) ↔ 1 ≤ n ∧ n ≤ records.length := by
  rw [← List.mem_map, hcomplete.seqs.mem_iff, List.mem_map]
  constructor
  · rintro ⟨i, hi, rfl⟩
    rw [List.mem_range] at hi
    omega
  · rintro ⟨hpositive, hle⟩
    refine ⟨(n - 1).toNat, ?_, ?_⟩
    · rw [List.mem_range]
      omega
    · omega

/-- The numbers are distinct. -/
theorem nodup (hcomplete : Complete records) : (records.map seq).Nodup := by
  refine hcomplete.seqs.nodup_iff.mpr ?_
  exact List.nodup_range.map fun i j hij => by simpa using hij

/-- Without one of its records a run is incomplete, unless it was the last one. -/
theorem not_complete_tail {later : ChainRecord κ δ} (hcomplete : Complete (record :: records))
    (hlater : later ∈ record :: records) (hlt : record.seq < later.seq) : ¬Complete records := by
  intro hrest
  have hbound := (hcomplete.mem_seqs (n := later.seq)).mp ⟨later, hlater, rfl⟩
  -- the record with the last number is still there
  obtain ⟨last, hlast, hseq⟩ :=
    (hcomplete.mem_seqs (n := (record :: records).length)).mpr (by simp)
  have hmem : last ∈ records := by
    rcases List.mem_cons.mp hlast with rfl | hmem
    · omega
    · exact hmem
  have hle := (hrest.mem_seqs.mp ⟨last, hmem, rfl⟩).2
  rw [hseq, List.length_cons] at hle
  omega

theorem not_complete_cons (hrecord : record ∈ records) : ¬Complete (record :: records) := by
  intro hcomplete
  have hnodup := hcomplete.nodup
  rw [List.map_cons, List.nodup_cons] at hnodup
  exact hnodup.1 (List.mem_map_of_mem hrecord)

end Complete

namespace Chained

theorem lt_of_mem {prior : ChainRecord κ δ} (hchained : Chained (some prior) records) :
    ∀ record ∈ records, prior.seq < record.seq := by
  induction records generalizing prior with
  | nil => nofun
  | cons next records ih =>
      obtain ⟨⟨hseq, -⟩, hrest⟩ := hchained
      intro record hrecord
      rcases List.mem_cons.mp hrecord with rfl | hrecord
      · omega
      · have hlt := ih hrest record hrecord
        omega

theorem linked {prior : ChainRecord κ δ} (hchained : Chained (some prior) records) :
    ∀ before ∈ prior :: records, ∀ record ∈ prior :: records, record.seq = before.seq + 1 →
      record.prev = some before.digest := by
  induction records generalizing prior with
  | nil =>
      intro before hbefore record hrecord hseq
      rw [List.mem_singleton.mp hbefore, List.mem_singleton.mp hrecord] at hseq
      omega
  | cons next records ih =>
      have hlt := hchained.lt_of_mem
      obtain ⟨⟨hnext, hprev⟩, hrest⟩ := hchained
      intro before hbefore record hrecord hseq
      rcases List.mem_cons.mp hbefore with hhead | hbefore <;>
        rcases List.mem_cons.mp hrecord with hhead' | hrecord
      · rw [hhead, hhead'] at hseq
        omega
      · rw [hhead] at hseq ⊢
        rcases List.mem_cons.mp hrecord with rfl | hrecord
        · exact hprev
        · have hafter := hrest.lt_of_mem record hrecord
          omega
      · have hafter := hlt before hbefore
        rw [hhead'] at hseq
        omega
      · exact ih hrest before hbefore record hrecord hseq

/-- The number that comes before those of the chain. -/
def start (prior : Option (ChainRecord κ δ)) : ℤ := (prior.map seq).getD 0

theorem seqs (hchained : Chained prior records) :
    records.map seq = (List.range records.length).map fun i : ℕ => start prior + (i : ℤ) + 1 := by
  induction records generalizing prior with
  | nil => rfl
  | cons record records ih =>
      obtain ⟨hfollows, hrest⟩ := hchained
      have hseq : record.seq = start prior + 1 := by
        cases prior with
        | none => exact hfollows.1
        | some prior => exact hfollows.1
      rw [List.map_cons, ih hrest, List.length_cons, List.range_succ_eq_map, List.map_cons,
        List.map_map, hseq]
      have hstart : start (some record) = start prior + 1 := hseq
      rw [hstart]
      refine List.cons_eq_cons.mpr ⟨?_, List.map_congr_left fun i _ => ?_⟩
      · simp
      · simp only [Function.comp_apply, Nat.succ_eq_add_one, Nat.cast_add, Nat.cast_one]
        omega

theorem of_seqs
    (hseqs : records.map seq =
      (List.range records.length).map fun i : ℕ => start prior + (i : ℤ) + 1)
    (hfirst : ∀ record ∈ records.head?, Follows prior record)
    (hlinked : ∀ before ∈ records, ∀ record ∈ records, record.seq = before.seq + 1 →
      record.prev = some before.digest) : Chained prior records := by
  induction records generalizing prior with
  | nil => trivial
  | cons record records ih =>
      rw [List.map_cons, List.length_cons, List.range_succ_eq_map, List.map_cons, List.map_map,
        List.cons.injEq] at hseqs
      obtain ⟨hseq, hrest⟩ := hseqs
      have hstart : start (some record) = start prior + 1 := by
        change record.seq = _
        rw [hseq]
        simp
      have htail : records.map seq =
          (List.range records.length).map fun i : ℕ => start (some record) + (i : ℤ) + 1 := by
        rw [hrest, hstart]
        refine List.map_congr_left fun i _ => ?_
        simp only [Function.comp_apply, Nat.succ_eq_add_one, Nat.cast_add, Nat.cast_one]
        omega
      refine ⟨hfirst record rfl, ih htail (fun next hnext => ?_) fun before hbefore next hnext =>
        hlinked before (List.mem_cons_of_mem _ hbefore) next (List.mem_cons_of_mem _ hnext)⟩
      cases records with
      | nil => cases hnext
      | cons head records =>
          obtain rfl := Option.some.inj hnext
          have hnextSeq : head.seq = record.seq + 1 := by
            rw [List.map_cons, List.length_cons, List.range_succ_eq_map, List.map_cons,
              List.cons.injEq] at htail
            rw [htail.1]
            change record.seq + 0 + 1 = _
            omega
          exact ⟨hnextSeq, hlinked record List.mem_cons_self head (by simp) hnextSeq⟩

end Chained

/-- Sorted by their numbers, the records of a run are a chain if and only if it is complete. -/
theorem chained_iff_complete (hsorted : records.Pairwise fun a b => a.seq ≤ b.seq) :
    Chained none records ↔ Complete records := by
  constructor
  · intro hchained
    have hseqs := hchained.seqs
    refine ⟨?_, ?_, ?_⟩
    · rw [hseqs]
      simp [Chained.start]
    · cases records with
      | nil => nofun
      | cons head records =>
          obtain ⟨⟨hseq, hprev⟩, hrest⟩ := hchained
          intro record hrecord hone
          rcases List.mem_cons.mp hrecord with rfl | hrecord
          · exact hprev
          · have hlt := hrest.lt_of_mem record hrecord
            omega
    · cases records with
      | nil => nofun
      | cons head records => exact hchained.2.linked
  · intro hcomplete
    have hnumbers :
        ((List.range records.length).map fun i : ℕ => (i : ℤ) + 1).Pairwise (· ≤ ·) := by
      rw [List.pairwise_map]
      exact List.pairwise_lt_range.imp fun hlt => by omega
    have hseqs : records.map seq = (List.range records.length).map fun i : ℕ => (i : ℤ) + 1 :=
      hcomplete.seqs.eq_of_pairwise' (List.pairwise_map.mpr hsorted) hnumbers
    refine Chained.of_seqs (by simpa [Chained.start] using hseqs) (fun record hrecord => ?_)
      hcomplete.linked
    cases records with
    | nil => cases hrecord
    | cons head records =>
        obtain rfl := Option.some.inj hrecord
        rw [List.map_cons, List.length_cons, List.range_succ_eq_map, List.map_cons,
          List.cons.injEq] at hseqs
        have hone : head.seq = 1 := by
          rw [hseqs.1]
          rfl
        exact ⟨hone, hcomplete.first head List.mem_cons_self hone⟩

namespace Chained

theorem sorted (hchained : Chained prior records) :
    records.Pairwise fun a b => a.seq ≤ b.seq := by
  induction records generalizing prior with
  | nil => exact .nil
  | cons record records ih =>
      obtain ⟨-, hrest⟩ := hchained
      refine List.pairwise_cons.mpr ⟨fun later hlater => ?_, ih hrest⟩
      exact (hrest.lt_of_mem later hlater).le

theorem complete (hchained : Chained none records) : Complete records :=
  (chained_iff_complete hchained.sorted).mp hchained

/-- A chain that goes on from a record is not complete without it. -/
theorem not_complete {before : ChainRecord κ δ} (hchained : Chained (some before) records)
    (hbefore : 1 ≤ before.seq) (hne : records ≠ []) : ¬Complete records := by
  intro hcomplete
  have hlength : (1 : ℤ) ≤ records.length := by
    have hpos := List.length_pos_iff.mpr hne
    omega
  obtain ⟨record, hrecord, hone⟩ := hcomplete.mem_seqs.mpr ⟨le_refl 1, hlength⟩
  have hlt := hchained.lt_of_mem record hrecord
  omega

end Chained

end ChainRecord

end PaybondKit
