import Mathlib

/-! An index of objects by their keys.
The table of the index lists every object that has a key under that key, and nothing else.
-/

namespace KeyIndex

variable {κ ο : Type} {table : κ → Option ο} {key : ο → Option κ}

/-- The table finds just the objects that have the key. -/
def Indexes (table : κ → Option ο) (key : ο → Option κ) : Prop :=
  ∀ k object, table k = some object ↔ key object = some k

/-- Two objects never share a key, since the table has one place for it. -/
theorem Indexes.unique (indexes : Indexes table key) {k : κ} {object object' : ο}
    (holds : key object = some k) (holds' : key object' = some k)
    : object = object' := by
  have found := (indexes k object).mpr holds
  rw [(indexes k object').mpr holds'] at found
  exact (Option.some.inj found).symm

section Update

variable [DecidableEq κ] [DecidableEq ο]

/-- An object without a key gets one that is free; it may also get the key it has. -/
theorem Indexes.enter (indexes : Indexes table key) {k : κ} {object : ο}
    (free : table k = none ∨ table k = some object)
    (keyless : key object = none ∨ key object = some k)
    : Indexes (Function.update table k (some object))
        (Function.update key object (some k)) := by
  intro k' object'
  by_cases sameKey : k' = k
  · subst sameKey
    rw [Function.update_self]
    by_cases sameObject : object' = object
    · subst sameObject
      simp
    · rw [Function.update_of_ne sameObject, ← indexes k' object']
      rcases free with free | free
      · simp [free, Ne.symm sameObject]
      · simp [free]
  · rw [Function.update_of_ne sameKey]
    by_cases sameObject : object' = object
    · subst sameObject
      rw [Function.update_self, indexes k' object']
      rcases keyless with keyless | keyless
      · simp [keyless, Ne.symm sameKey]
      · simp [keyless]
    · rw [Function.update_of_ne sameObject]
      exact indexes k' object'

/-- An object gives its key up. -/
theorem Indexes.release (indexes : Indexes table key) {k : κ} {object : ο}
    (holds : key object = some k)
    : Indexes (Function.update table k none) (Function.update key object none) := by
  intro k' object'
  by_cases sameKey : k' = k
  · subst sameKey
    rw [Function.update_self]
    by_cases sameObject : object' = object
    · subst sameObject
      simp
    · rw [Function.update_of_ne sameObject]
      refine ⟨nofun, fun holds' => ?_⟩
      exact (sameObject (indexes.unique holds' holds)).elim
  · rw [Function.update_of_ne sameKey]
    by_cases sameObject : object' = object
    · subst sameObject
      rw [Function.update_self, indexes k' object', holds]
      simp [Ne.symm sameKey]
    · rw [Function.update_of_ne sameObject]
      exact indexes k' object'

end Update

end KeyIndex
