import Mathlib.Logic.Function.Basic

/-!
# Single-use tickets

Parties leave tickets under keys, and other parties take them away. A key holds one
ticket at a time; a ticket can be overwritten or dropped, but it cannot be taken
twice. Each party leaves one ticket and takes one at most. The ledger says which
party left the ticket under a key, and whose ticket a party has taken.
-/

namespace PaybondKit

open Function

variable {Party κ τ : Type}

/-- `owner` names the party whose ticket lies under a key, `source` the party whose
ticket was taken. A party that took none is its own source. -/
structure Ledger (cache : κ → Option τ) (left taken : Party → Option (κ × τ))
    (owner : κ → Party) (source : Party → Party) : Prop where
  left_owner : ∀ key ticket, cache key = some ticket → left (owner key) = some (key, ticket)
  left_source : ∀ party item, taken party = some item → left (source party) = some item
  apart : ∀ key ticket party item, cache key = some ticket → taken party = some item →
    owner key ≠ source party
  once : ∀ party other item item', taken party = some item → taken other = some item' →
    source party = source other → party = other
  own : ∀ party, taken party = none → source party = party

namespace Ledger

variable {cache cache' : κ → Option τ} {left taken : Party → Option (κ × τ)}
variable {owner : κ → Party} {source : Party → Party} {key : κ} {ticket : τ} {party : Party}

theorem start : Ledger (fun _ : κ => (none : Option τ)) (fun _ => none) (fun _ => none) owner id :=
  ⟨nofun, nofun, nofun, nofun, fun _ _ => rfl⟩

/-- Tickets may be dropped from the cache at any time. -/
theorem drop (hledger : Ledger cache left taken owner source)
    (hcache : ∀ key ticket, cache' key = some ticket → cache key = some ticket) :
    Ledger cache' left taken owner source where
  left_owner key ticket hticket := hledger.left_owner key ticket (hcache key ticket hticket)
  left_source := hledger.left_source
  apart key ticket party item hticket := hledger.apart key ticket party item (hcache key ticket hticket)
  once := hledger.once
  own := hledger.own

/-- Distinct keys hold tickets of distinct parties. -/
theorem owner_ne (hledger : Ledger cache left taken owner source) {other : κ} {ticket' : τ}
    (hticket : cache key = some ticket) (hother : cache other = some ticket') (hne : key ≠ other) :
    owner key ≠ owner other := by
  intro howner
  have hleft := hledger.left_owner key ticket hticket
  rw [howner, hledger.left_owner other ticket' hother] at hleft
  exact hne (congrArg Prod.fst (Option.some.inj hleft)).symm

variable [DecidableEq κ] [DecidableEq Party]

/-- A party that has left no ticket leaves one, and what lay under the key is lost. -/
theorem put (hledger : Ledger cache left taken owner source) (hleft : left party = none) :
    Ledger (update cache key (some ticket)) (update left party (some (key, ticket))) taken
      (update owner key party) source := by
  have hold : ∀ other item, left other = some item → other ≠ party := by
    rintro other item hother rfl
    cases hleft.symm.trans hother
  refine ⟨fun other stored hstored => ?_, fun other item hitem => ?_,
    fun other stored taker item hstored hitem => ?_, hledger.once, hledger.own⟩
  · by_cases hkey : other = key
    · subst hkey
      rw [update_self] at hstored ⊢
      rw [update_self, Option.some.inj hstored]
    · rw [update_of_ne hkey] at hstored ⊢
      have howner := hledger.left_owner other stored hstored
      rwa [update_of_ne (hold _ _ howner)]
  · have hsource := hledger.left_source other item hitem
    rwa [update_of_ne (hold _ _ hsource)]
  · by_cases hkey : other = key
    · subst hkey
      rw [update_self]
      exact (hold _ _ (hledger.left_source taker item hitem)).symm
    · rw [update_of_ne hkey] at hstored ⊢
      exact hledger.apart other stored taker item hstored hitem

/-- A party that has taken no ticket takes the one under the key. -/
theorem take (hledger : Ledger cache left taken owner source) (hticket : cache key = some ticket)
    (htaken : taken party = none) :
    Ledger (update cache key none) left (update taken party (some (key, ticket))) owner
      (update source party (owner key)) := by
  have hcache : ∀ other stored, update cache key none other = some stored →
      other ≠ key ∧ cache other = some stored := by
    intro other stored hstored
    by_cases hkey : other = key
    · rw [hkey, update_self] at hstored
      cases hstored
    · exact ⟨hkey, by rwa [update_of_ne hkey] at hstored⟩
  refine ⟨fun other stored hstored => ?_, fun taker item hitem => ?_,
    fun other stored taker item hstored hitem => ?_, fun taker other item item' hitem hitem' => ?_,
    fun taker hnone => ?_⟩
  · exact hledger.left_owner other stored (hcache other stored hstored).2
  · by_cases hparty : taker = party
    · subst hparty
      rw [update_self] at hitem ⊢
      rw [← Option.some.inj hitem]
      exact hledger.left_owner key ticket hticket
    · rw [update_of_ne hparty] at hitem ⊢
      exact hledger.left_source taker item hitem
  · obtain ⟨hkey, hstored⟩ := hcache other stored hstored
    by_cases hparty : taker = party
    · subst hparty
      rw [update_self]
      exact hledger.owner_ne hstored hticket hkey
    · rw [update_of_ne hparty] at hitem ⊢
      exact hledger.apart other stored taker item hstored hitem
  · -- the ticket under the key was nobody's source before
    have hfresh : ∀ other item, other ≠ party → update taken party (some (key, ticket)) other = some item →
        owner key ≠ source other := by
      intro other item hother hitem
      rw [update_of_ne hother] at hitem
      exact hledger.apart key ticket other item hticket hitem
    by_cases hparty : taker = party <;> by_cases hother : other = party
    · intro _
      rw [hparty, hother]
    · subst hparty
      rw [update_self, update_of_ne hother]
      exact fun hsource => absurd hsource (hfresh other item' hother hitem')
    · subst hother
      rw [update_self, update_of_ne hparty]
      exact fun hsource => absurd hsource.symm (hfresh taker item hparty hitem)
    · rw [update_of_ne hparty] at hitem ⊢
      rw [update_of_ne hother] at hitem' ⊢
      exact hledger.once taker other item item' hitem hitem'
  · by_cases hparty : taker = party
    · rw [hparty, update_self] at hnone
      cases hnone
    · rw [update_of_ne hparty] at hnone ⊢
      exact hledger.own taker hnone

end Ledger

end PaybondKit
