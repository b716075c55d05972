import Mathlib.Data.List.Forall2
import Mathlib.Data.List.Nodup

/-!
# Lists and steps that may fail

What succeeds as a whole has succeeded in its parts, and these have results of their own. What has
a key of its own in a list is found by it, and of members that exclude each other one fits at
most.
-/

namespace Sqlwright

variable {ε α β κ : Type}

/-- Two steps that may fail succeed together when both do. -/
theorem except_bind_ok {source : Except ε α} {next : α → Except ε β} {result : β}
    (succeeded : source >>= next = .ok result) :
    ∃ value, source = .ok value ∧ next value = .ok result := by
  cases source with
  | error error => cases succeeded
  | ok value => exact ⟨value, rfl, succeeded⟩

/-- What is made of a result has been made of one. -/
theorem except_map_ok {source : Except ε α} {make : α → β} {result : β}
    (succeeded : source.map make = .ok result) :
    ∃ value, source = .ok value ∧ make value = result := by
  cases source with
  | error error => cases succeeded
  | ok value => exact ⟨value, rfl, Except.ok.inj succeeded⟩

/-- Steps over a list succeed together when each of them does. -/
theorem except_mapM_ok {step : α → Except ε β} {items : List α} {results : List β}
    (succeeded : items.mapM step = .ok results) :
    List.Forall₂ (fun item result => step item = .ok result) items results := by
  induction items generalizing results with
  | nil =>
    cases succeeded
    exact .nil
  | cons item rest inductionHypothesis =>
    rw [List.mapM_cons] at succeeded
    obtain ⟨first, found, followed⟩ := except_bind_ok succeeded
    obtain ⟨others, remaining, ended⟩ := except_bind_ok followed
    cases ended
    exact .cons found (inductionHypothesis remaining)

/-- Each member on one side of related lists is related to a member on the other. -/
theorem exists_related {related : α → β → Prop} {first : List α} {second : List β}
    (all : List.Forall₂ related first second) {a : α} (member : a ∈ first) :
    ∃ b ∈ second, related a b := by
  induction all with
  | nil => cases member
  | cons head _ inductionHypothesis =>
    rcases List.mem_cons.mp member with rfl | member
    · exact ⟨_, .head _, head⟩
    · obtain ⟨b, listed, found⟩ := inductionHypothesis member
      exact ⟨b, .tail _ listed, found⟩

/-- Where no two items have one key, an item is found by its own. -/
theorem find?_key [BEq κ] [LawfulBEq κ] {key : α → κ} {items : List α}
    (distinct : (items.map key).Nodup) {item : α} (member : item ∈ items) :
    items.find? (key · == key item) = some item := by
  have present : (items.find? (key · == key item)).isSome :=
    List.find?_isSome.mpr ⟨item, member, beq_self_eq_true _⟩
  obtain ⟨other, found⟩ := Option.isSome_iff_exists.mp present
  have same : key other = key item := by
    simpa using List.find?_some found
  obtain rfl : other = item :=
    List.inj_on_of_nodup_map distinct (List.mem_of_find?_eq_some found) member same
  exact found

end Sqlwright
