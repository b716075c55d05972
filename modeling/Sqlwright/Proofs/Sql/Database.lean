import Sqlwright.Proofs.Predicate.Translation

/-!
# Databases and rows

What a database makes of values is a parameter, as it is for conditions. Raw text may depend
on the row that it is evaluated in, and on the instant: it may count, draw lots, or ask for
the time.

A test for a captured value is null-safe. It holds of the values that are the same as that
one: NULL is the same as NULL, and other values are the same if they are equal.
-/

namespace Sqlwright.Sql

/-- What is decided holds if it is true. -/
theorem Truth.ofBool_eq_yes_iff (b : Bool) : Truth.ofBool b = .yes ↔ b = true := by
  cases b <;> decide

/-- Equality holds of values that are equal and not NULL. -/
theorem Engine.compare_eq_yes_iff (engine : Engine) (a b : Value) :
    engine.compare .eq a b = .yes ↔
      a.isNull = false ∧ b.isNull = false ∧ engine.order a b = some .eq := by
  unfold Engine.compare
  by_cases unknown : (a.isNull || b.isNull) = true
  · rw [if_pos unknown]
    constructor
    · intro impossible
      cases impossible
    · rintro ⟨left, right, _⟩
      rw [left, right] at unknown
      cases unknown
  · rw [if_neg unknown]
    obtain ⟨left, right⟩ : a.isNull = false ∧ b.isNull = false := by simpa using unknown
    cases ordered : engine.order a b with
    | none => simp
    | some order => cases order <;> simp [Comparison.holds, Truth.ofBool, left, right]

/-- The values of the columns of a row by name. -/
abbrev Row := String → Value

/-- What a database makes of values. -/
structure Database where
  /-- The order of two values that are not NULL; none if they have none. -/
  order : Value → Value → Option Ordering
  /-- Whether a value matches a pattern, neither being NULL. -/
  fits : Value → Value → Bool
  /-- Whether a value holds where a condition is expected. -/
  holds : Value → Truth
  /-- The value of raw text with arguments, at an instant and in a row. -/
  raw : Nat → Row → List (Piece Value) → Value
  order_swap : ∀ a b, order b a = (order a b).map Ordering.swap

namespace Database

variable (database : Database)

/-- The database at an instant and in a row. -/
def engine (now : Nat) (row : Row) : Engine where
  order := database.order
  fits := database.fits
  holds := database.holds
  raw := database.raw now row
  order_swap := database.order_swap

/-- A row at an instant, read with the values of a parameter set. -/
def reading (now : Nat) (params : ParamSet) (row : Row) : Interpretation :=
  .over (database.engine now row) row params

/-- A reading with the values of a set knows what the set binds. -/
theorem knows_reading (now : Nat) (params : ParamSet) (row : Row) :
    (database.reading now params row).Knows params :=
  Interpretation.knows_over (database.engine now row) row params

/-- Two values are the same if both are NULL, or if neither is and they are equal. -/
def Same (a b : Value) : Prop :=
  (a.isNull = true ∧ b.isNull = true) ∨
    (a.isNull = false ∧ b.isNull = false ∧ database.order a b = some .eq)

instance (a b : Value) : Decidable (database.Same a b) :=
  inferInstanceAs (Decidable (_ ∨ _))

/-- Of the values that occur, those taken for a captured one are the same as each other. Not all
that a database takes for one value need be so: one that converts between kinds may take many
texts for the number 0, and yet tell them apart. -/
def Identifies (occurs : Value → Prop) (captured : Value) : Prop :=
  ∀ a b, occurs a → occurs b → database.Same a captured → database.Same b captured →
    database.Same a b

variable {database}

/-- The same from the other side. -/
theorem Same.symm {a b : Value} (same : database.Same a b) : database.Same b a := by
  rcases same with ⟨left, right⟩ | ⟨left, right, equal⟩
  · exact .inl ⟨right, left⟩
  · refine .inr ⟨right, left, ?_⟩
    rw [database.order_swap a b, equal]
    rfl

/-- A comparison with a captured value holds exactly of the values that are the same. -/
theorem comparison_eq_yes_iff (now : Nat) (row : Row) (a captured : Value) :
    comparison (database.engine now row) .eq none (some captured) a captured = .yes ↔
      database.Same a captured := by
  by_cases null : captured = .null
  · subst null
    show Truth.ofBool a.isNull = .yes ↔ _
    rw [Truth.ofBool_eq_yes_iff]
    simp [Same, Value.isNull]
  · have known : captured.isNull = false := by
      cases captured with
      | null => exact absurd rfl null
      | _ => rfl
    have compared : comparison (database.engine now row) .eq none (some captured) a captured =
        (database.engine now row).compare .eq a captured := by
      cases captured with
      | null => exact absurd rfl null
      | _ => rfl
    rw [compared, Engine.compare_eq_yes_iff]
    simp [Same, known, engine]

end Database
end Sqlwright.Sql
