import Mathlib.Logic.Function.Basic

/-!
# Labelled transition systems

A system is a partial step function on states whose labels carry every choice
that is not the state's own: which party moves, what a clock reads, which call
fails. Runs are finite lists of labels. A run can be *guarded* by a condition
on each state and label, so that a property of "every run whose steps all meet
a condition" is a property of guarded runs.

A *monitor* is a history variable: it watches the steps of a run and disables
none (`Monitor.observe_step`). Conditions and claims that speak about the
past of a run are stated over a system together with a monitor.
-/

namespace Lib.Transition

universe u v w

/-- A labelled transition system. The step is a function of state and label;
`none` says that the label is not enabled. -/
structure System (σ : Type u) (α : Type v) where
  step : σ → α → Option σ

variable {σ : Type u} {α : Type v}

namespace System

variable (S : System σ α)

/-- The state after a list of labels, when each of them was enabled. -/
def exec : σ → List α → Option σ
  | s, [] => some s
  | s, a :: as => (S.step s a).bind fun t => exec t as

/-- A run each of whose steps meets `G` in the state before the step. -/
inductive RunWhere (G : σ → α → Prop) : σ → List α → σ → Prop where
  | nil (s : σ) : RunWhere G s [] s
  | cons {s t u : σ} {a : α} {as : List α} (guard : G s a)
      (step : S.step s a = some t) (rest : RunWhere G t as u) : RunWhere G s (a :: as) u

/-- A run without a condition on its steps. -/
abbrev Run : σ → List α → σ → Prop := S.RunWhere fun _ _ => True

/-- `I` is kept by every step that meets `G`. -/
def Preserves (G : σ → α → Prop) (I : σ → Prop) : Prop :=
  ∀ {s : σ} {a : α} {t : σ}, I s → G s a → S.step s a = some t → I t

variable {S}

namespace RunWhere

variable {G H : σ → α → Prop} {s t u : σ} {a : α} {as bs : List α}

theorem mono (hGH : ∀ s a, G s a → H s a) (h : S.RunWhere G s as t) :
    S.RunWhere H s as t := by
  induction h with
  | nil s => exact .nil s
  | cons guard step _ ih => exact .cons (hGH _ _ guard) step ih

theorem run (h : S.RunWhere G s as t) : S.Run s as t := h.mono fun _ _ _ => trivial

/-- A condition that each label of the run meets in every state. -/
theorem of_forall (h : S.RunWhere G s as t) (all : ∀ a ∈ as, ∀ s, G s a → H s a) :
    S.RunWhere H s as t := by
  induction h with
  | nil s => exact .nil s
  | cons guard step _ ih =>
    exact .cons (all _ List.mem_cons_self _ guard) step
      (ih fun a ha => all a (List.mem_cons_of_mem _ ha))

theorem single (guard : G s a) (step : S.step s a = some t) : S.RunWhere G s [a] t :=
  .cons guard step (.nil t)

theorem append (h₁ : S.RunWhere G s as t) (h₂ : S.RunWhere G t bs u) :
    S.RunWhere G s (as ++ bs) u := by
  induction h₁ with
  | nil _ => exact h₂
  | cons guard step _ ih => exact .cons guard step (ih h₂)

/-- **The invariant rule**: what holds at the start and is kept by every
guarded step holds in every state a guarded run reaches. -/
theorem invariant {I : σ → Prop} (hI : S.Preserves G I) (h : S.RunWhere G s as t)
    (hs : I s) : I t := by
  induction h with
  | nil _ => exact hs
  | cons guard step _ ih => exact ih (hI hs guard step)

/-- The invariant rule under an invariant already known. -/
theorem invariant_under {I J : σ → Prop} (hI : S.Preserves G I)
    (hJ : ∀ {s a t}, I s → J s → G s a → S.step s a = some t → J t)
    (h : S.RunWhere G s as t) (hs : I s) (js : J s) : J t :=
  (h.invariant (I := fun s => I s ∧ J s)
    (fun hij guard step => ⟨hI hij.1 guard step, hJ hij.1 hij.2 guard step⟩) ⟨hs, js⟩).2

end RunWhere

theorem run_of_exec {s t : σ} {as : List α} (h : S.exec s as = some t) : S.Run s as t := by
  induction as generalizing s with
  | nil =>
    cases h
    exact .nil _
  | cons a as ih =>
    obtain ⟨u, hu, hrest⟩ := Option.bind_eq_some_iff.mp h
    exact .cons trivial hu (ih hrest)

/-- The state after a list of labels, when each of them was enabled and met a
decidable condition. -/
def execWhere (S : System σ α) (G : σ → α → Prop) [∀ s a, Decidable (G s a)] :
    σ → List α → Option σ
  | s, [] => some s
  | s, a :: as =>
    if G s a then (S.step s a).bind fun t => execWhere S G t as else none

/-- An executed list of labels that met the condition is a guarded run. -/
theorem runWhere_of_execWhere {G : σ → α → Prop} [∀ s a, Decidable (G s a)] {s t : σ}
    {as : List α} (h : S.execWhere G s as = some t) : S.RunWhere G s as t := by
  induction as generalizing s with
  | nil =>
    cases h
    exact .nil _
  | cons a as ih =>
    unfold execWhere at h
    split at h
    · next guard =>
      obtain ⟨u, hu, hrest⟩ := Option.bind_eq_some_iff.mp h
      exact .cons guard hu (ih hrest)
    · cases h

/-- Runs without a condition are exactly the executed lists of labels. -/
theorem run_iff_exec {s t : σ} {as : List α} : S.Run s as t ↔ S.exec s as = some t := by
  constructor
  · intro h
    induction h with
    | nil _ => rfl
    | cons _ step _ ih => simp only [exec, step, Option.bind_some, ih]
  · exact run_of_exec

end System

/-! ## Monitors -/

/-- A history variable over the steps of a system. -/
structure Monitor (σ : Type u) (α : Type v) (η : Type w) where
  next : η → σ → α → η

namespace Monitor

variable {η : Type w} (M : Monitor σ α η) (S : System σ α)

/-- The system that carries the monitor's value along. -/
def observe : System (σ × η) α where
  step s a := (S.step s.1 a).map fun t => (t, M.next s.2 s.1 a)

variable {M S}

theorem observe_step {s t : σ × η} {a : α} :
    (M.observe S).step s a = some t ↔ S.step s.1 a = some t.1 ∧ t.2 = M.next s.2 s.1 a := by
  rcases t with ⟨t, k⟩
  simp only [observe, Option.map_eq_some_iff, Prod.mk.injEq]
  constructor
  · rintro ⟨_, hstep, rfl, rfl⟩
    exact ⟨hstep, rfl⟩
  · rintro ⟨hstep, rfl⟩
    exact ⟨t, hstep, rfl, rfl⟩

end Monitor

end Lib.Transition
