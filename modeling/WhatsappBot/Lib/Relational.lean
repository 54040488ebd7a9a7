import Mathlib.Data.List.Basic

/-!
# Relational tables with pairwise constraints

A table is a list of rows, in the order of their insertion, that satisfies a
constraint between any two rows: distinct primary keys, a unique index, a
partial unique index. The constraint is a field of the table, so a table that
violates it cannot be built; a statement whose outcome would violate it fails
(`Table.replace`), as a statement of the database does.
-/

namespace Lib.Relational

universe u

/-- `UPDATE … SET f WHERE p` on the list of rows. -/
def updateWhere {ρ : Type u} (p : ρ → Bool) (f : ρ → ρ) (rows : List ρ) : List ρ :=
  rows.map fun r => if p r then f r else r

/-- Rows any two of which satisfy `R`, the earlier one first. -/
structure Table (ρ : Type u) (R : ρ → ρ → Prop) where
  rows : List ρ
  constraint : rows.Pairwise R

namespace Table

variable {ρ : Type u} {R : ρ → ρ → Prop}

instance : Inhabited (Table ρ R) := ⟨⟨[], List.Pairwise.nil⟩⟩

variable [DecidableRel R]

/-- The table with these rows, unless they violate the constraint. -/
def replace (rows : List ρ) : Option (Table ρ R) :=
  if constraint : rows.Pairwise R then some ⟨rows, constraint⟩ else none

theorem replace_eq_some {rows : List ρ} {t : Table ρ R} :
    replace rows = some t ↔ t.rows = rows := by
  unfold replace
  split
  · next holds =>
    simp only [Option.some.injEq]
    constructor
    · rintro rfl
      rfl
    · intro h
      rcases t with ⟨_, _⟩
      cases h
      rfl
  · next fails =>
    simp only [reduceCtorEq, false_iff]
    intro h
    exact fails (h ▸ t.constraint)

theorem replace_isSome {rows : List ρ} (h : rows.Pairwise R) :
    ∃ t : Table ρ R, replace rows = some t ∧ t.rows = rows :=
  ⟨⟨rows, h⟩, replace_eq_some.mpr rfl, rfl⟩

def update (t : Table ρ R) (p : ρ → Bool) (f : ρ → ρ) : Option (Table ρ R) :=
  replace (updateWhere p f t.rows)

def insert (t : Table ρ R) (row : ρ) : Option (Table ρ R) :=
  replace (t.rows ++ [row])

def delete (t : Table ρ R) (p : ρ → Bool) : Table ρ R :=
  ⟨t.rows.filter fun r => !p r, t.constraint.filter _⟩

theorem update_succeeds (t : Table ρ R) {p : ρ → Bool} {f : ρ → ρ}
    (keeps : ∀ {a b}, a ∈ t.rows → b ∈ t.rows → R a b →
      R (if p a then f a else a) (if p b then f b else b)) :
    ∃ t', t.update p f = some t' ∧ t'.rows = updateWhere p f t.rows := by
  apply replace_isSome
  unfold updateWhere
  rw [List.pairwise_map]
  exact t.constraint.imp_of_mem fun ha hb hab => keeps ha hb hab

theorem insert_succeeds (t : Table ρ R) {row : ρ} (allowed : ∀ r ∈ t.rows, R r row) :
    ∃ t', t.insert row = some t' ∧ t'.rows = t.rows ++ [row] := by
  apply replace_isSome
  rw [List.pairwise_append]
  refine ⟨t.constraint, List.pairwise_singleton _ _, ?_⟩
  intro a ha b hb
  rw [List.mem_singleton.mp hb]
  exact allowed a ha

theorem insert_constraint {t t' : Table ρ R} {row : ρ} (h : t.insert row = some t') :
    ∀ r ∈ t.rows, R r row := by
  have rows := replace_eq_some.mp h
  have constraint := t'.constraint
  rw [rows, List.pairwise_append] at constraint
  exact fun r hr => constraint.2.2 r hr row (List.mem_singleton_self row)

omit [DecidableRel R] in
/-- Two rows satisfy the constraint one way round. -/
theorem apart (t : Table ρ R) {a b : ρ} (ha : a ∈ t.rows) (hb : b ∈ t.rows) (ne : a ≠ b) :
    R a b ∨ R b a := by
  have pairs : ∀ rows : List ρ, rows.Pairwise R → a ∈ rows → b ∈ rows → R a b ∨ R b a := by
    intro rows constraint
    induction constraint with
    | nil => exact fun mem => absurd mem List.not_mem_nil
    | cons head _ ih =>
      intro first second
      rcases List.mem_cons.mp first with rfl | inFirst
      · rcases List.mem_cons.mp second with rfl | inSecond
        · exact absurd rfl ne
        · exact Or.inl (head b inSecond)
      · rcases List.mem_cons.mp second with rfl | inSecond
        · exact Or.inr (head a inFirst)
        · exact ih inFirst inSecond
  exact pairs t.rows t.constraint ha hb

/-- `INSERT OR IGNORE`, with whether a row was added. -/
def insertOrIgnore (t : Table ρ R) (row : ρ) : Bool × Table ρ R :=
  match t.insert row with
  | some t' => (true, t')
  | none => (false, t)

theorem insertOrIgnore_cases (t : Table ρ R) (row : ρ) :
    ((t.insertOrIgnore row).1 = true ∧ (t.insertOrIgnore row).2.rows = t.rows ++ [row] ∧
        ∀ r ∈ t.rows, R r row) ∨
      (t.insertOrIgnore row = (false, t) ∧ ∃ r ∈ t.rows, ¬R r row) := by
  unfold insertOrIgnore
  cases inserted : t.insert row with
  | some t' =>
    exact Or.inl ⟨rfl, replace_eq_some.mp inserted, insert_constraint inserted⟩
  | none =>
    refine Or.inr ⟨rfl, ?_⟩
    by_contra allowed
    push Not at allowed
    obtain ⟨t', inserted', -⟩ := t.insert_succeeds allowed
    rw [inserted] at inserted'
    cases inserted'

/-- The rows that were there are still there. -/
theorem mem_insertOrIgnore {t : Table ρ R} {row r : ρ} (h : r ∈ t.rows) :
    r ∈ (t.insertOrIgnore row).2.rows := by
  rcases t.insertOrIgnore_cases row with ⟨-, rows, -⟩ | ⟨same, -⟩
  · rw [rows]
    exact List.mem_append_left _ h
  · rw [same]
    exact h

theorem mem_of_insertOrIgnore {t : Table ρ R} {row r : ρ}
    (h : r ∈ (t.insertOrIgnore row).2.rows) : r ∈ t.rows ∨ r = row := by
  rcases t.insertOrIgnore_cases row with ⟨-, rows, -⟩ | ⟨same, -⟩
  · rw [rows] at h
    exact (List.mem_append.mp h).imp_right List.mem_singleton.mp
  · rw [same] at h
    exact Or.inl h

end Table

/-! ## Rows found by a key -/

section Find

variable {ρ : Type u} {κ : Type*} [DecidableEq κ] (key : ρ → κ)

/-- The row with a given key. -/
def findBy (rows : List ρ) (k : κ) : Option ρ := rows.find? fun r => key r = k

variable {key} {rows : List ρ} {k : κ} {r : ρ}

theorem mem_of_findBy (h : findBy key rows k = some r) : r ∈ rows ∧ key r = k :=
  ⟨List.mem_of_find?_eq_some h, by simpa using List.find?_some h⟩

theorem findBy_of_mem (distinct : rows.Pairwise fun a b => key a ≠ key b) (h : r ∈ rows) :
    findBy key rows (key r) = some r := by
  induction rows with
  | nil => cases h
  | cons a rows ih =>
    obtain ⟨hhead, htail⟩ := List.pairwise_cons.mp distinct
    rcases List.mem_cons.mp h with rfl | hr
    · exact List.find?_cons_of_pos (by simp)
    · unfold findBy
      rw [List.find?_cons_of_neg (by simpa using hhead r hr)]
      exact ih htail hr

/-- With distinct keys, the rows with a given key are the one that is found, if any. -/
theorem filter_key (distinct : rows.Pairwise fun a b => key a ≠ key b) (k : κ) :
    (rows.filter fun r => key r = k) = (findBy key rows k).toList := by
  induction rows with
  | nil => rfl
  | cons a rows ih =>
    obtain ⟨head, tail⟩ := List.pairwise_cons.mp distinct
    unfold findBy at ih ⊢
    by_cases same : key a = k
    · rw [List.filter_cons_of_pos (by simpa using same), List.find?_cons_of_pos (by simpa using same),
        Option.toList_some, List.cons.injEq]
      refine ⟨rfl, List.filter_eq_nil_iff.mpr fun r mem => ?_⟩
      simpa only [decide_eq_true_eq, ← same] using fun eq => head r mem eq.symm
    · rw [List.filter_cons_of_neg (by simpa using same),
        List.find?_cons_of_neg (by simpa using same), ih tail]

end Find

end Lib.Relational
