import Mathlib.Data.List.AList

/-!
# Maps by keys

The parties of a system by their numbers, as an `AList`: where an entry comes
from when one is put in or taken out (`lookup_insert_cases`, `lookup_erase_cases`),
and a change of every value that leaves the keys alone (`mapValues`).
-/

namespace Lib.KeyedMap

universe u v

variable {κ : Type u} {ν : Type v} [DecidableEq κ] {map : AList fun _ : κ => ν} {a b : κ} {x y : ν}

/-- An entry of a map after an insertion. -/
theorem lookup_insert_cases (found : (map.insert a x).lookup b = some y) :
    b = a ∧ y = x ∨ b ≠ a ∧ map.lookup b = some y := by
  by_cases same : b = a
  · subst same
    rw [AList.lookup_insert, Option.some.injEq] at found
    exact Or.inl ⟨rfl, found.symm⟩
  · rw [AList.lookup_insert_ne same] at found
    exact Or.inr ⟨same, found⟩

/-- An entry of a map after a removal. -/
theorem lookup_erase_cases (found : (map.erase a).lookup b = some y) :
    b ≠ a ∧ map.lookup b = some y := by
  by_cases same : b = a
  · subst same
    rw [AList.lookup_erase] at found
    cases found
  · rw [AList.lookup_erase_ne same] at found
    exact ⟨same, found⟩

/-- The map with a function applied to each of its values. -/
def mapValues (f : ν → ν) (map : AList fun _ : κ => ν) : AList fun _ : κ => ν where
  entries := map.entries.map (Sigma.map id fun _ => f)
  nodupKeys := map.nodupKeys.map₂ fun _ => f

theorem lookup_mapValues (f : ν → ν) (map : AList fun _ : κ => ν) (a : κ) :
    (mapValues f map).lookup a = (map.lookup a).map f :=
  List.dlookup_map₂ a

/-- An entry of a map whose values have been changed. -/
theorem lookup_mapValues_cases {f : ν → ν} (found : (mapValues f map).lookup a = some y) :
    ∃ x, map.lookup a = some x ∧ y = f x := by
  rw [lookup_mapValues] at found
  obtain ⟨x, was, rfl⟩ := Option.map_eq_some_iff.mp found
  exact ⟨x, was, rfl⟩

end Lib.KeyedMap
