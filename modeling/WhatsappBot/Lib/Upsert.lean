import WhatsappBot.Lib.Relational

/-!
# Upserts

`INSERT … ON CONFLICT(key) DO UPDATE` for a list of items, one after another.
Where a later item overwrites what an earlier one with its key wrote, the row
under a key depends on the row before the first item and on the last item only.
-/

namespace Lib.Relational

universe u v

/-- The two halves of an upsert, and when the second undoes the first. -/
structure Upsert (ρ : Type u) (ι : Type v) (κ : Type*) where
  key : ρ → κ
  keyOf : ι → κ
  create : ι → ρ
  refresh : ι → ρ → ρ
  key_create : ∀ i, key (create i) = keyOf i
  key_refresh : ∀ i r, key (refresh i r) = key r
  refresh_create : ∀ {i j}, keyOf i = keyOf j → refresh j (create i) = create j
  refresh_refresh : ∀ {i j}, keyOf i = keyOf j → ∀ r, refresh j (refresh i r) = refresh j r

section Rows

variable {ρ : Type u} {κ : Type*} [DecidableEq κ] {key : ρ → κ} {rows : List ρ} {k : κ}

theorem findBy_updateWhere {f : ρ → ρ} (keeps : ∀ r, key (f r) = key r) (k' : κ) :
    findBy key (updateWhere (fun r => key r = k') f rows) k =
      if k = k' then (findBy key rows k).map f else findBy key rows k := by
  have keys : ∀ r, key (if decide (key r = k') then f r else r) = key r := by
    intro r
    split
    · exact keeps r
    · rfl
  have moved : ((fun r => decide (key r = k)) ∘ fun r => if decide (key r = k') then f r else r) =
      fun r => decide (key r = k) := by
    funext r
    simp only [Function.comp_apply, keys]
  unfold findBy updateWhere
  rw [List.find?_map, moved]
  cases found : rows.find? fun r => key r = k with
  | none =>
    simp only [Option.map_none, ite_self]
  | some r =>
    have same : key r = k := by simpa using List.find?_some found
    simp only [Option.map_some, same, decide_eq_true_eq]
    split <;> rfl

theorem findBy_append_new {row : ρ} (new : findBy key rows (key row) = none) :
    findBy key (rows ++ [row]) k = if k = key row then some row else findBy key rows k := by
  unfold findBy at new ⊢
  rw [List.find?_append]
  split
  · next same =>
    subst same
    rw [new, Option.none_or, List.find?_cons_of_pos (by simp)]
  · next other =>
    rw [List.find?_cons_of_neg (by simpa using Ne.symm other), List.find?_nil, Option.or_none]

end Rows

section LastBy

variable {ι : Type v} {κ : Type*} [DecidableEq κ] (keyOf : ι → κ)

/-- The last item with a given key. -/
def lastBy (items : List ι) (k : κ) : Option ι := items.reverse.find? fun i => keyOf i = k

variable {keyOf} {items : List ι} {k : κ} {i : ι}

theorem lastBy_cons : lastBy keyOf (i :: items) k =
    (lastBy keyOf items k).or (if keyOf i = k then some i else none) := by
  unfold lastBy
  rw [List.reverse_cons, List.find?_append]
  congr 1
  split
  · next same => rw [List.find?_cons_of_pos (by simpa using same)]
  · next other => rw [List.find?_cons_of_neg (by simpa using other), List.find?_nil]

theorem mem_of_lastBy (h : lastBy keyOf items k = some i) : i ∈ items ∧ keyOf i = k :=
  ⟨List.mem_reverse.mp (List.mem_of_find?_eq_some h), by simpa using List.find?_some h⟩

theorem lastBy_eq_none : lastBy keyOf items k = none ↔ ∀ i ∈ items, keyOf i ≠ k := by
  unfold lastBy
  simp only [List.find?_eq_none, List.mem_reverse, decide_eq_true_eq, ne_eq]

theorem lastBy_of_split {before after : List ι} (same : keyOf i = k)
    (last : ∀ j ∈ after, keyOf j ≠ k) : lastBy keyOf (before ++ i :: after) k = some i := by
  induction before with
  | nil =>
    rw [List.nil_append, lastBy_cons, lastBy_eq_none.mpr last, Option.none_or, if_pos same]
  | cons j before ih => rw [List.cons_append, lastBy_cons, ih, Option.some_or]

end LastBy

namespace Upsert

variable {ρ : Type u} {ι : Type v} {κ : Type*} [DecidableEq κ] (u : Upsert ρ ι κ)

/-- What the last item, if any, makes of a row that may not be there yet. -/
def settle (row : Option ρ) (last : Option ι) : Option ρ :=
  match last with
  | none => row
  | some i => some (row.elim (u.create i) (u.refresh i))

/-- One upsert turns the rows into others. -/
def Step (rows : List ρ) (i : ι) (rows' : List ρ) : Prop :=
  ∀ k, findBy u.key rows' k =
    u.settle (findBy u.key rows k) (if u.keyOf i = k then some i else none)

variable {u} {rows rows' : List ρ} {i : ι}

theorem Step.of_update (found : findBy u.key rows (u.keyOf i) ≠ none)
    (h : rows' = updateWhere (fun r => u.key r = u.keyOf i) (u.refresh i) rows) :
    u.Step rows i rows' := by
  intro k
  rw [h, findBy_updateWhere (u.key_refresh i)]
  by_cases same : u.keyOf i = k
  · subst same
    obtain ⟨row, found⟩ := Option.ne_none_iff_exists'.mp found
    simp only [if_true, found, settle, Option.map_some, Option.elim_some]
  · rw [if_neg same, if_neg (Ne.symm same)]
    rfl

theorem Step.of_insert (new : findBy u.key rows (u.keyOf i) = none)
    (h : rows' = rows ++ [u.create i]) : u.Step rows i rows' := by
  intro k
  rw [h, findBy_append_new (by rw [u.key_create, new]), u.key_create]
  by_cases same : u.keyOf i = k
  · subst same
    simp only [if_true, new, settle, Option.elim_none]
  · rw [if_neg same, if_neg (Ne.symm same)]
    rfl

omit [DecidableEq κ] in
/-- A later item with the key of an earlier one leaves nothing of it. -/
theorem settle_settle {i j : ι} (same : u.keyOf i = u.keyOf j) (row : Option ρ) :
    u.settle (u.settle row (some i)) (some j) = u.settle row (some j) := by
  cases row with
  | none => exact congrArg some (u.refresh_create same)
  | some r => exact congrArg some (u.refresh_refresh same r)

theorem settle_or {k : κ} {last : Option ι} (keyed : ∀ j, last = some j → u.keyOf j = k)
    (row : Option ρ) :
    u.settle (u.settle row (if u.keyOf i = k then some i else none)) last =
      u.settle row (last.or (if u.keyOf i = k then some i else none)) := by
  cases last with
  | none => rfl
  | some j =>
    rw [Option.some_or]
    split
    · next same => exact settle_settle (same.trans (keyed j rfl).symm) row
    · rfl

section Fold

variable {σ ε : Type*} {step : σ → ι → Except ε σ}

/-- **What a fold of upserts leaves under a key**: the row of before, as the last item with the
key makes it. -/
theorem findBy_foldlM (rowsOf : σ → List ρ)
    (steps : ∀ {s i s'}, step s i = .ok s' → u.Step (rowsOf s) i (rowsOf s'))
    {items : List ι} {s s' : σ} (h : items.foldlM step s = .ok s') (k : κ) :
    findBy u.key (rowsOf s') k =
      u.settle (findBy u.key (rowsOf s) k) (lastBy u.keyOf items k) := by
  induction items generalizing s with
  | nil =>
    cases h
    rfl
  | cons i items ih =>
    rw [List.foldlM_cons] at h
    cases first : step s i with
    | error e =>
      rw [first] at h
      cases h
    | ok next =>
      rw [first] at h
      rw [ih h, steps first k, lastBy_cons]
      exact settle_or (fun j last => (mem_of_lastBy last).2) _

omit [DecidableEq κ] in
theorem foldlM_total (total : ∀ s i, ∃ s', step s i = .ok s') (items : List ι) (s : σ) :
    ∃ s', items.foldlM step s = .ok s' := by
  induction items generalizing s with
  | nil => exact ⟨s, rfl⟩
  | cons i items ih =>
    obtain ⟨next, first⟩ := total s i
    rw [List.foldlM_cons, first]
    exact ih next

end Fold

end Upsert

end Lib.Relational
