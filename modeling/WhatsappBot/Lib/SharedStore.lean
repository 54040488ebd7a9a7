/-!
# Clients of a transactional store

A store answers an operation by committing it with a reply, or by throwing and
staying as it was. A client is a program cut at its calls: in each of its
states it either moves on its own or issues one operation and resumes with
what came back. Whatever runs between two of a client's turns is left to the
system that interleaves several of them. A call can also fail before it
reaches the store, with an error that the turn's input supplies.
-/

namespace Lib.SharedStore

universe u

/-- A store with operations `ω`, replies `ρ` and errors `ε`. An operation that
throws is rolled back, so the error case carries no new state. -/
structure Store (σ ω ρ ε : Type u) where
  run : σ → ω → Except ε (ρ × σ)

/-- What a client does next: call the store, or move to another of its states. -/
inductive Turn (ω π : Type u) where
  | call (operation : ω)
  | move (next : π)

/-- A client with program states `π` and inputs `ι`. `interruption` is the
error with which the input makes the call fail, if it does. -/
structure Client (π ι ω ρ ε : Type u) where
  turn : π → ι → Turn ω π
  resume : π → ι → Except ε ρ → π
  interruption : ι → Option ε

variable {σ π ι ω ρ ε : Type u}

/-- The outcome of one operation: an interrupted or throwing call changes nothing. -/
def Store.attempt (S : Store σ ω ρ ε) (interruption : Option ε) (s : σ) (operation : ω) :
    Except ε ρ × σ :=
  match interruption with
  | some e => (.error e, s)
  | none =>
    match S.run s operation with
    | .ok (reply, s') => (.ok reply, s')
    | .error e => (.error e, s)

/-- One turn of a client. -/
def Client.step (C : Client π ι ω ρ ε) (S : Store σ ω ρ ε) (p : π) (i : ι) (s : σ) : π × σ :=
  match C.turn p i with
  | .move next => (next, s)
  | .call operation =>
    let (outcome, s') := S.attempt (C.interruption i) s operation
    (C.resume p i outcome, s')

/-- Everything one turn can be: a move that leaves the store alone, a call that
throws and leaves it alone too, or a call that commits. -/
theorem Client.step_cases {C : Client π ι ω ρ ε} {S : Store σ ω ρ ε} {p p' : π} {i : ι}
    {s s' : σ} (h : C.step S p i s = (p', s')) :
    (C.turn p i = .move p' ∧ s' = s) ∨
      (∃ operation e, C.turn p i = .call operation ∧
        (C.interruption i = some e ∨
          C.interruption i = none ∧ S.run s operation = .error e) ∧
        p' = C.resume p i (.error e) ∧ s' = s) ∨
      (∃ operation reply, C.turn p i = .call operation ∧ C.interruption i = none ∧
        S.run s operation = .ok (reply, s') ∧ p' = C.resume p i (.ok reply)) := by
  unfold Client.step at h
  cases turn : C.turn p i with
  | move next =>
    simp only [turn, Prod.mk.injEq] at h
    exact Or.inl ⟨by rw [h.1], h.2.symm⟩
  | call operation =>
    simp only [turn, Store.attempt] at h
    cases interruption : C.interruption i with
    | some e =>
      simp only [interruption, Prod.mk.injEq] at h
      exact Or.inr (Or.inl ⟨operation, e, rfl, Or.inl rfl, h.1.symm, h.2.symm⟩)
    | none =>
      simp only [interruption] at h
      cases ran : S.run s operation with
      | error e =>
        simp only [ran, Prod.mk.injEq] at h
        exact Or.inr (Or.inl ⟨operation, e, rfl, Or.inr ⟨rfl, ran⟩, h.1.symm, h.2.symm⟩)
      | ok answer =>
        rcases answer with ⟨reply, after⟩
        simp only [ran, Prod.mk.injEq] at h
        refine Or.inr (Or.inr ⟨operation, reply, rfl, rfl, ?_, h.1.symm⟩)
        rw [ran, h.2]

end Lib.SharedStore
