import Mathlib.Data.List.AList
import Mathlib.Logic.Function.Basic

/-!
# Batches of writes

A table is the partial function from its keys to their rows. A batch has one
value for each of its keys, from which the row to write is made, or that the
row is to be deleted. The order of its entries does not matter: `applyBatch_apply`
reads a key back.
-/

namespace Lib.Batch

universe u v w

variable {κ : Type u} {ν : Type v} {ρ : Type w} [DecidableEq κ]

/-- The table after the writes of a batch, one after the other. -/
def applyBatch (row : ν → Option ρ) (batch : AList fun _ : κ => ν) (table : κ → Option ρ) :
    κ → Option ρ :=
  batch.entries.foldl (fun table entry => Function.update table entry.1 (row entry.2)) table

theorem foldl_update_apply (row : ν → Option ρ) {entries : List (Sigma fun _ : κ => ν)}
    (distinct : entries.NodupKeys) (table : κ → Option ρ) (key : κ) :
    entries.foldl (fun table entry => Function.update table entry.1 (row entry.2)) table key =
      ((entries.dlookup key).map row).getD (table key) := by
  induction entries generalizing table with
  | nil => rfl
  | cons entry entries ih =>
    obtain ⟨written, value⟩ := entry
    obtain ⟨fresh, distinct⟩ := List.nodupKeys_cons.mp distinct
    rw [List.foldl_cons, ih distinct]
    by_cases same : key = written
    · subst same
      rw [List.dlookup_eq_none.mpr fresh, List.dlookup_cons_eq, Function.update_self]
      rfl
    · rw [List.dlookup_cons_ne entries ⟨written, value⟩ same, Function.update_of_ne same]

/-- A key that the batch writes has what it wrote, any other has what it had. -/
theorem applyBatch_apply (row : ν → Option ρ) (batch : AList fun _ : κ => ν)
    (table : κ → Option ρ) (key : κ) :
    applyBatch row batch table key = ((batch.lookup key).map row).getD (table key) :=
  foldl_update_apply row batch.nodupKeys table key

end Lib.Batch
