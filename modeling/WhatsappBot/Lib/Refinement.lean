import WhatsappBot.Lib.Transition

/-!
# Refinement between transition systems

A system refines another when each of its steps is matched by a run of the
other, possibly empty, that keeps the two states related and shows the same
observations. What is observed of a label is a list, so that internal steps on
either side are invisible.
-/

namespace Lib.Transition

universe u v w x y

variable {σ : Type u} {α : Type v} {τ : Type w} {β : Type x} {ω : Type y}

/-- Every step of `S` that meets `G` in related states is matched by a run of `T`. -/
structure Simulates (S : System σ α) (G : σ → α → Prop) (T : System τ β) (R : σ → τ → Prop)
    (seen : α → List ω) (shown : β → List ω) : Prop where
  step : ∀ {s s' : σ} {a : α} {t : τ}, R s t → G s a → S.step s a = some s' →
    ∃ bs t', T.Run t bs t' ∧ R s' t' ∧ bs.flatMap shown = seen a

namespace Simulates

variable {S : System σ α} {G : σ → α → Prop} {T : System τ β} {R : σ → τ → Prop}
  {seen : α → List ω} {shown : β → List ω}

/-- **The refinement rule**: from related states every guarded run is matched
by a run that shows the same observations in the same order. -/
theorem run (h : Simulates S G T R seen shown) {s s' : σ} {as : List α}
    (run : S.RunWhere G s as s') {t : τ} (related : R s t) :
    ∃ bs t', T.Run t bs t' ∧ R s' t' ∧ bs.flatMap shown = as.flatMap seen := by
  induction run generalizing t with
  | nil s => exact ⟨[], t, .nil t, related, rfl⟩
  | @cons s _ _ a as guard step _ ih =>
    obtain ⟨bs, t₁, run₁, related₁, shown₁⟩ := h.step related guard step
    obtain ⟨cs, t₂, run₂, related₂, shown₂⟩ := ih related₁
    refine ⟨bs ++ cs, t₂, run₁.append run₂, related₂, ?_⟩
    rw [List.flatMap_append, List.flatMap_cons, shown₁, shown₂]

/-- A simulation under an invariant of the concrete system. -/
theorem under {I : σ → Prop} (keeps : S.Preserves G I)
    (step : ∀ {s s' : σ} {a : α} {t : τ}, I s → R s t → G s a → S.step s a = some s' → I s' →
      ∃ bs t', T.Run t bs t' ∧ R s' t' ∧ bs.flatMap shown = seen a) :
    Simulates S G T (fun s t => I s ∧ R s t) seen shown where
  step := by
    rintro s s' a t ⟨holds, related⟩ guard stepped
    have holds' := keeps holds guard stepped
    obtain ⟨bs, t', run, related', same⟩ := step holds related guard stepped holds'
    exact ⟨bs, t', run, ⟨holds', related'⟩, same⟩

end Simulates

end Lib.Transition
