import Mathlib.Data.Finset.Card
import Mathlib.Data.Finset.Union
import WhatsappBot.Lib.Relational

/-!
# Sets under keys

A family of finite sets, one under each key in use, and the table of pairs that
keeps the members of such a family. Rows are inserted and deleted one by one
and counted; the counts are those of the members that came or went.
-/

namespace Lib.KeyedSets

open Lib.Relational

variable {κ α : Type*} [DecidableEq κ]

/-! ## Families -/

/-- A finite set under each key in use. -/
abbrev Sets (κ α : Type*) := κ → Option (Finset α)

namespace Sets

variable (m : Sets κ α) (k : κ)

/-- An empty set under a key that is not in use. -/
def create : Sets κ α := Function.update m k (some ((m k).getD ∅))

/-- The set under a key, if it is in use, rewritten. -/
def adjust (f : Finset α → Finset α) : Sets κ α := Function.update m k ((m k).map f)

def union [DecidableEq α] (added : Finset α) : Sets κ α := m.adjust k fun set => set ∪ added

def difference [DecidableEq α] (removed : Finset α) : Sets κ α :=
  m.adjust k fun set => set \ removed

def erase : Sets κ α := Function.update m k none

variable {m k} {k' : κ}

theorem create_self : m.create k k = some ((m k).getD ∅) := Function.update_self _ _ _

theorem create_other (h : k' ≠ k) : m.create k k' = m k' := Function.update_of_ne h _ _

theorem adjust_self (f : Finset α → Finset α) : m.adjust k f k = (m k).map f :=
  Function.update_self _ _ _

theorem adjust_other (f : Finset α → Finset α) (h : k' ≠ k) : m.adjust k f k' = m k' :=
  Function.update_of_ne h _ _

theorem erase_self : m.erase k k = none := Function.update_self _ _ _

theorem erase_other (h : k' ≠ k) : m.erase k k' = m k' := Function.update_of_ne h _ _

theorem create_used (h : m k ≠ none) : m.create k = m := by
  obtain ⟨set, used⟩ := Option.ne_none_iff_exists'.mp h
  rw [create, used, Option.getD_some, ← used, Function.update_eq_self]

theorem adjust_unused (f : Finset α → Finset α) (h : m k = none) : m.adjust k f = m := by
  rw [adjust, h, Option.map_none, ← h, Function.update_eq_self]

theorem erase_unused (h : m k = none) : m.erase k = m := by
  rw [erase, ← h, Function.update_eq_self]

/-- A set that is made anew is empty. -/
theorem create_erase : (m.erase k).create k k = some ∅ := by
  rw [create_self, erase_self, Option.getD_none]

end Sets

/-! ## Tables of pairs -/

section Pairs

variable [DecidableEq α] {ρ : Type*} (pair : ρ → κ × α)

/-- Rows with distinct pairs. -/
abbrev Pairs := Table ρ fun a b => pair a ≠ pair b

/-- The rows under a key. -/
def rowsOf (t : Pairs pair) (k : κ) : List ρ := t.rows.filter fun r => (pair r).1 = k

def members (t : Pairs pair) (k : κ) : Finset α :=
  ((rowsOf pair t k).map fun r => (pair r).2).toFinset

/-- `INSERT OR IGNORE` of some rows, with how many were added. -/
def insertAll (t : Pairs pair) : List ρ → Nat × Pairs pair
  | [] => (0, t)
  | row :: rows =>
    let (added, t') := t.insertOrIgnore row
    let (count, t'') := insertAll t' rows
    (added.toNat + count, t'')

/-- `DELETE` of the rows with some pairs under a key, with how many were deleted. -/
def deleteAll (t : Pairs pair) (k : κ) : List α → Nat × Pairs pair
  | [] => (0, t)
  | a :: as =>
    let (count, t') := deleteAll (t.delete fun r => pair r = (k, a)) k as
    (t.rows.countP (fun r => pair r = (k, a)) + count, t')

variable {pair} {t : Pairs pair} {k k' : κ} {a : α}

theorem mem_members : a ∈ members pair t k ↔ ∃ r ∈ t.rows, pair r = (k, a) := by
  simp only [members, rowsOf, List.mem_toFinset, List.mem_map, List.mem_filter, decide_eq_true_eq]
  constructor
  · rintro ⟨r, ⟨mem, key⟩, value⟩
    exact ⟨r, mem, Prod.ext key value⟩
  · rintro ⟨r, mem, same⟩
    exact ⟨r, ⟨mem, by rw [same]⟩, by rw [same]⟩

omit [DecidableEq α] in
theorem nodup_rowsOf (t : Pairs pair) (k : κ) :
    ((rowsOf pair t k).map fun r => (pair r).2).Nodup := by
  rw [List.Nodup, List.pairwise_map]
  refine List.Pairwise.imp_of_mem ?_ (t.constraint.filter _)
  intro a b ha hb apart same
  simp only [rowsOf, List.mem_filter, decide_eq_true_eq] at ha hb
  exact apart (Prod.ext (ha.2.trans hb.2.symm) same)

/-- There is one row for each member. -/
theorem length_rowsOf (t : Pairs pair) (k : κ) :
    (rowsOf pair t k).length = (members pair t k).card := by
  rw [members, List.toFinset_card_of_nodup (nodup_rowsOf t k), List.length_map]

theorem members_congr {t' : Pairs pair}
    (h : ∀ a, (∃ r ∈ t'.rows, pair r = (k, a)) ↔ ∃ r ∈ t.rows, pair r = (k, a)) :
    members pair t' k = members pair t k := by
  ext a
  rw [mem_members, mem_members]
  exact h a

/-! ### One row -/

theorem members_insert (t : Pairs pair) {row : ρ} (same : pair row = (k, a)) :
    members pair (t.insertOrIgnore row).2 k = insert a (members pair t k) ∧
      (t.insertOrIgnore row).1 = !decide (a ∈ members pair t k) := by
  rcases t.insertOrIgnore_cases row with ⟨added, rows, apart⟩ | ⟨ignored, r, mem, clash⟩
  · constructor
    · ext b
      simp only [mem_members, rows, Finset.mem_insert, List.mem_append, List.mem_singleton]
      constructor
      · rintro ⟨r, old | rfl, found⟩
        · exact Or.inr ⟨r, old, found⟩
        · exact Or.inl (Prod.mk.inj (found.symm.trans same)).2
      · rintro (rfl | ⟨r, old, found⟩)
        · exact ⟨row, Or.inr rfl, same⟩
        · exact ⟨r, Or.inl old, found⟩
    · have absent : a ∉ members pair t k := by
        rw [mem_members]
        rintro ⟨r, mem, found⟩
        exact apart r mem (found.trans same.symm)
      rw [added, decide_eq_false absent, Bool.not_false]
  · have present : a ∈ members pair t k :=
      mem_members.mpr ⟨r, mem, (not_not.mp clash).trans same⟩
    rw [ignored, Finset.insert_eq_of_mem present, decide_eq_true present]
    exact ⟨rfl, rfl⟩

theorem members_insert_other (t : Pairs pair) {row : ρ} (same : (pair row).1 = k) (h : k' ≠ k) :
    members pair (t.insertOrIgnore row).2 k' = members pair t k' := by
  refine members_congr fun b => ?_
  constructor
  · rintro ⟨r, mem, found⟩
    rcases Table.mem_of_insertOrIgnore mem with old | rfl
    · exact ⟨r, old, found⟩
    · exact absurd ((congrArg Prod.fst found).symm.trans same) h
  · rintro ⟨r, mem, found⟩
    exact ⟨r, Table.mem_insertOrIgnore mem, found⟩

theorem members_delete (t : Pairs pair) (k : κ) (a : α) :
    members pair (t.delete fun r => pair r = (k, a)) k = (members pair t k).erase a ∧
      t.rows.countP (fun r => pair r = (k, a)) = if a ∈ members pair t k then 1 else 0 := by
  constructor
  · ext b
    simp only [mem_members, Table.delete, List.mem_filter, Finset.mem_erase, Bool.not_eq_true',
      decide_eq_false_iff_not]
    constructor
    · rintro ⟨r, ⟨mem, other⟩, found⟩
      exact ⟨fun same => other (same ▸ found), r, mem, found⟩
    · rintro ⟨other, r, mem, found⟩
      exact ⟨r, ⟨mem, fun same => other (Prod.mk.inj (found.symm.trans same)).2⟩, found⟩
  · split
    · next present =>
      obtain ⟨r, mem, found⟩ := mem_members.mp present
      have all : ∀ rows : List ρ, rows.Pairwise (fun a b => pair a ≠ pair b) → r ∈ rows →
          rows.countP (fun r => pair r = (k, a)) = 1 := by
        intro rows constraint mem
        induction constraint with
        | nil => cases mem
        | @cons first rest apart _ ih =>
          rw [List.countP_cons]
          rcases List.mem_cons.mp mem with rfl | later
          · have none : rest.countP (fun r => pair r = (k, a)) = 0 := by
              rw [List.countP_eq_zero]
              intro r' mem' found'
              exact apart r' mem' (found.trans (of_decide_eq_true found').symm)
            rw [none, found, decide_eq_true rfl, if_pos rfl]
          · have other : pair first ≠ (k, a) := fun found' => apart r later (found'.trans found.symm)
            rw [ih later, decide_eq_false other]
            rfl
      exact all t.rows t.constraint mem
    · next absent =>
      rw [List.countP_eq_zero]
      intro r mem found
      exact absent (mem_members.mpr ⟨r, mem, of_decide_eq_true found⟩)

theorem members_delete_other (t : Pairs pair) (a : α) (h : k' ≠ k) :
    members pair (t.delete fun r => pair r = (k, a)) k' = members pair t k' := by
  refine members_congr fun b => ?_
  simp only [Table.delete, List.mem_filter, Bool.not_eq_true', decide_eq_false_iff_not]
  constructor
  · rintro ⟨r, ⟨mem, -⟩, found⟩
    exact ⟨r, mem, found⟩
  · rintro ⟨r, mem, found⟩
    exact ⟨r, ⟨mem, fun same => h (congrArg Prod.fst (found.symm.trans same))⟩, found⟩

/-! ### Many rows -/

variable {row : α → ρ}

/-- **Inserting is union, and what is counted is what came.** -/
theorem members_insertAll (row_pair : ∀ a, pair (row a) = (k, a)) (t : Pairs pair) (as : List α) :
    members pair (insertAll pair t (as.map row)).2 k = members pair t k ∪ as.toFinset ∧
      (insertAll pair t (as.map row)).1 = (as.toFinset \ members pair t k).card := by
  induction as generalizing t with
  | nil =>
    rw [List.toFinset_nil, Finset.union_empty, Finset.empty_sdiff, Finset.card_empty]
    exact ⟨rfl, rfl⟩
  | cons a as ih =>
    obtain ⟨here, added⟩ := members_insert t (row_pair a)
    obtain ⟨later, count⟩ := ih (t.insertOrIgnore (row a)).2
    rw [here] at later count
    change members pair (insertAll pair (t.insertOrIgnore (row a)).2 (as.map row)).2 k = _ ∧
      (t.insertOrIgnore (row a)).1.toNat +
        (insertAll pair (t.insertOrIgnore (row a)).2 (as.map row)).1 = _
    rw [later, count, added, List.toFinset_cons]
    refine ⟨by rw [Finset.insert_union, Finset.union_insert], ?_⟩
    by_cases present : a ∈ members pair t k
    · rw [decide_eq_true present, Finset.insert_eq_of_mem present,
        Finset.insert_sdiff_of_mem _ present]
      exact Nat.zero_add _
    · have new : insert a as.toFinset \ members pair t k =
          insert a (as.toFinset \ insert a (members pair t k)) := by
        ext b
        simp only [Finset.mem_sdiff, Finset.mem_insert, not_or]
        by_cases same : b = a
        · simp only [same, true_or, true_and, present, not_false_eq_true]
        · simp only [same, false_or, not_false_eq_true, true_and]
      rw [new, Finset.card_insert_of_notMem, decide_eq_false present, Nat.add_comm]
      · rfl
      · exact fun mem => (Finset.mem_sdiff.mp mem).2 (Finset.mem_insert_self a _)

theorem members_insertAll_other (row_key : ∀ a, (pair (row a)).1 = k) (t : Pairs pair)
    (as : List α) (h : k' ≠ k) :
    members pair (insertAll pair t (as.map row)).2 k' = members pair t k' := by
  induction as generalizing t with
  | nil => rfl
  | cons a as ih =>
    exact (ih (t.insertOrIgnore (row a)).2).trans (members_insert_other t (row_key a) h)

theorem mem_insertAll {rows : List ρ} {r : ρ} (h : r ∈ (insertAll pair t rows).2.rows) :
    r ∈ t.rows ∨ r ∈ rows := by
  induction rows generalizing t with
  | nil => exact Or.inl h
  | cons row rows ih =>
    have split : r ∈ (t.insertOrIgnore row).2.rows ∨ r ∈ rows := ih h
    rcases split with old | new
    · refine (Table.mem_of_insertOrIgnore old).imp_right ?_
      rintro rfl
      exact List.mem_cons_self
    · exact Or.inr (List.mem_cons_of_mem _ new)

/-- **Deleting is difference, and what is counted is what went.** -/
theorem members_deleteAll (t : Pairs pair) (k : κ) (as : List α) :
    members pair (deleteAll pair t k as).2 k = members pair t k \ as.toFinset ∧
      (deleteAll pair t k as).1 = (members pair t k ∩ as.toFinset).card := by
  induction as generalizing t with
  | nil =>
    rw [List.toFinset_nil, Finset.sdiff_empty, Finset.inter_empty, Finset.card_empty]
    exact ⟨rfl, rfl⟩
  | cons a as ih =>
    obtain ⟨here, removed⟩ := members_delete t k a
    obtain ⟨later, count⟩ := ih (t.delete fun r => pair r = (k, a))
    rw [here] at later count
    change members pair (deleteAll pair (t.delete fun r => pair r = (k, a)) k as).2 k = _ ∧
      t.rows.countP (fun r => pair r = (k, a)) +
        (deleteAll pair (t.delete fun r => pair r = (k, a)) k as).1 = _
    rw [later, count, removed, List.toFinset_cons]
    constructor
    · ext b
      simp only [Finset.mem_sdiff, Finset.mem_erase, Finset.mem_insert, not_or]
      exact ⟨fun ⟨⟨other, mem⟩, kept⟩ => ⟨mem, other, kept⟩,
        fun ⟨mem, other, kept⟩ => ⟨⟨other, mem⟩, kept⟩⟩
    · split
      · next present =>
        have gone : members pair t k ∩ insert a as.toFinset =
            insert a ((members pair t k).erase a ∩ as.toFinset) := by
          ext b
          simp only [Finset.mem_inter, Finset.mem_insert, Finset.mem_erase]
          by_cases same : b = a
          · simp only [same, present, true_or, and_self]
          · simp only [same, false_or, ne_eq, not_false_eq_true, true_and]
        rw [gone, Finset.card_insert_of_notMem, Nat.add_comm]
        exact fun mem => Finset.notMem_erase a _ (Finset.mem_inter.mp mem).1
      · next absent =>
        rw [Finset.erase_eq_of_notMem absent, Finset.inter_insert_of_notMem absent, Nat.zero_add]

theorem members_deleteAll_other (t : Pairs pair) (as : List α) (h : k' ≠ k) :
    members pair (deleteAll pair t k as).2 k' = members pair t k' := by
  induction as generalizing t with
  | nil => rfl
  | cons a as ih => exact (ih _).trans (members_delete_other t a h)

theorem mem_deleteAll {as : List α} {r : ρ} (h : r ∈ (deleteAll pair t k as).2.rows) :
    r ∈ t.rows := by
  induction as generalizing t with
  | nil => exact h
  | cons a as ih => exact (List.mem_filter.mp (ih h)).1

/-- The rows under other keys outlive those under one. -/
theorem members_deleteKey (t : Pairs pair) (h : k' ≠ k) :
    members pair (t.delete fun r => (pair r).1 = k) k' = members pair t k' := by
  refine members_congr fun b => ?_
  simp only [Table.delete, List.mem_filter, Bool.not_eq_true', decide_eq_false_iff_not]
  constructor
  · rintro ⟨r, ⟨mem, -⟩, found⟩
    exact ⟨r, mem, found⟩
  · rintro ⟨r, mem, found⟩
    exact ⟨r, ⟨mem, fun same => h ((congrArg Prod.fst found).symm.trans same)⟩, found⟩

/-- A key without rows has no members. -/
theorem members_unused (unused : ∀ r ∈ t.rows, (pair r).1 ≠ k) : members pair t k = ∅ := by
  ext a
  rw [mem_members]
  constructor
  · rintro ⟨r, mem, found⟩
    exact absurd (congrArg Prod.fst found) (unused r mem)
  · exact fun mem => absurd mem (Finset.notMem_empty a)

end Pairs

end Lib.KeyedSets
