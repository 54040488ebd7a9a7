import WhatsappBot.Lock.ProcessLock
import Mathlib.Data.Fintype.EquivFin

/-!
# Mutual exclusion of the process lock

`acquire` removes a lock file on the strength of what it read earlier. As long
as no such removal takes the file from under a live process, one process at
most is engaged with the lock and the file is its own (`Guarded`). A removal
that does take it can be continued to two holders; `lock_removed_alive` is the
run in which two processes have read the same dead PID.
-/

namespace WhatsappBot

open Lib.Transition

namespace ProcessLock

/-! ## The statements -/

/-- The process has written its PID into a file, and has not released it since. -/
def Proc.entered (proc : Proc) : Bool := proc.held || decide (proc.phase = .closing none)

/-- The process has entered or is about to write its PID. -/
def Proc.engaged (proc : Proc) : Bool :=
  proc.entered || match proc.phase with
    | .writing _ => true
    | _ => false

/-- The file is the one by which the process has entered, or the one it is about to write. -/
def Proc.owns (pid : ℕ+) (proc : Proc) (file : LockFile) : Prop :=
  proc.entered = true ∧ file.contents = .data pid ∨ proc.phase = .writing file.inode

instance (pid : ℕ+) (proc : Proc) (file : LockFile) : Decidable (proc.owns pid file) :=
  inferInstanceAs (Decidable (_ ∧ _ ∨ _))

/-- Whether an action is an `rmSync` of `acquire` that removes what is there. -/
def removes (s : LockState) : Action → Bool
  | .turn pid input =>
    match s.procs.lookup pid with
    | some ⟨_, .removing _⟩ => !input.fails
    | _ => false
  | _ => false

/-- No `acquire` removes a file that a live process owns. -/
def SparesOwned (s : LockState) (a : Action) : Prop :=
  removes s a = true → ∀ file ∈ s.file, ∀ entry ∈ s.procs.entries, ¬entry.2.owns entry.1 file

instance (s : LockState) (a : Action) : Decidable (SparesOwned s a) :=
  inferInstanceAs (Decidable (_ → ∀ file ∈ s.file, ∀ entry ∈ s.procs.entries, _))

def Doubled (s : LockState) : Prop :=
  ∃ p q proc proc', p ≠ q ∧ s.procs.lookup p = some proc ∧ s.procs.lookup q = some proc' ∧
    proc.held = true ∧ proc'.held = true

/-- In every run whose steps meet `G`, no two live processes hold the lock. -/
def MutualExclusion (G : LockState → Action → Prop) : Prop :=
  ∀ {s₀ s : LockState} {as : List Action}, Start s₀ → system.RunWhere G s₀ as s → ¬Doubled s

/-! ## One process at most is engaged -/

/-- What the file says about a process. -/
structure Fits (file : Option LockFile) (pid : ℕ+) (proc : Proc) : Prop where
  entered : proc.entered = true → ∃ f, file = some f ∧ f.contents = .data pid
  writing : ∀ descriptor, proc.phase = .writing descriptor →
    ∃ f, file = some f ∧ f.inode = descriptor
  releasing : proc.phase = .checkingOwn ∨ proc.phase = .removingOwn → proc.held = true

/-- What is true while nobody removes a file that is owned: one process at most
is engaged, and the file is its own. -/
structure Guarded (s : LockState) : Prop where
  fits : ∀ {p proc}, s.procs.lookup p = some proc → Fits s.file p proc
  alone : ∀ {p q proc proc'}, s.procs.lookup p = some proc → s.procs.lookup q = some proc' →
    proc.engaged = true → proc'.engaged = true → p = q

theorem Proc.engaged_of_entered {proc : Proc} (h : proc.entered = true) : proc.engaged = true := by
  simp only [Proc.engaged, h, Bool.true_or]

theorem Proc.engaged_of_held {proc : Proc} (h : proc.held = true) : proc.engaged = true :=
  engaged_of_entered (by simp only [Proc.entered, h, Bool.true_or])

theorem Fits.owns {file : Option LockFile} {pid : ℕ+} {proc : Proc} (h : Fits file pid proc)
    (engaged : proc.engaged = true) : ∃ f, file = some f ∧ proc.owns pid f := by
  cases entered : proc.entered with
  | true =>
    obtain ⟨f, hfile, contents⟩ := h.entered entered
    exact ⟨f, hfile, Or.inl ⟨entered, contents⟩⟩
  | false =>
    simp only [Proc.engaged, entered, Bool.false_or] at engaged
    split at engaged
    · next descriptor writing =>
      obtain ⟨f, hfile, inode⟩ := h.writing descriptor writing
      exact ⟨f, hfile, Or.inr (inode ▸ writing)⟩
    · cases engaged

theorem Fits.unengaged {file file' : Option LockFile} {pid : ℕ+} {proc : Proc}
    (h : Fits file pid proc) (idle : proc.engaged = false) : Fits file' pid proc where
  entered entered := by
    rw [Proc.engaged_of_entered entered] at idle
    cases idle
  writing descriptor writing := by
    simp only [Proc.engaged, writing, Bool.or_true, reduceCtorEq] at idle
  releasing := h.releasing

theorem Fits.rest (file : Option LockFile) (pid : ℕ+) (error : Option LockError) :
    Fits file pid ⟨false, .rest error⟩ where
  entered entered := by cases entered
  writing _ writing := by cases writing
  releasing releasing := by rcases releasing with h | h <;> cases h

theorem Proc.quiet (held : Bool) {phase : Phase} (quiet : phase.quiet = true) :
    (⟨held, phase⟩ : Proc).entered = held ∧ (⟨held, phase⟩ : Proc).engaged = held ∧
      (∀ descriptor, phase ≠ .writing descriptor) ∧
      phase ≠ .checkingOwn ∧ phase ≠ .removingOwn := by
  cases phase with
  | writing | checkingOwn | removingOwn => cases quiet
  | closing error =>
    cases error with
    | none => cases quiet
    | some error => simp [Proc.entered, Proc.engaged]
  | rest | creating | reading | probing | statting | removing => simp [Proc.entered, Proc.engaged]

theorem nextRound_quiet (attempt : Nat) : (nextRound attempt).quiet = true := by
  unfold nextRound
  split <;> rfl

namespace Guarded

variable {s t : LockState} {pid : ℕ+} {proc proc' : Proc} {file' : Option LockFile}
  {inodes' : Nat}

theorem not_doubled (h : Guarded s) : ¬Doubled s := by
  rintro ⟨p, q, proc, proc', distinct, found, found', held, held'⟩
  exact distinct
    (h.alone found found' (Proc.engaged_of_held held) (Proc.engaged_of_held held'))

/-- A process goes on, under the same file or with nobody else engaged. -/
theorem move (h : Guarded s) (fits : Fits file' pid proc')
    (others : file' = s.file ∧ (proc'.engaged = true →
        ∃ proc, s.procs.lookup pid = some proc ∧ proc.engaged = true) ∨
      ∀ q proc, q ≠ pid → s.procs.lookup q = some proc → proc.engaged = false) :
    Guarded { s.set pid proc' with file := file', inodes := inodes' } := by
  have lookup : ∀ {q proc₁}, (s.procs.insert pid proc').lookup q = some proc₁ →
      q = pid ∧ proc₁ = proc' ∨ q ≠ pid ∧ s.procs.lookup q = some proc₁ := by
    intro q proc₁ found₁
    by_cases same : q = pid
    · subst same
      rw [AList.lookup_insert, Option.some.injEq] at found₁
      exact Or.inl ⟨rfl, found₁.symm⟩
    · rw [AList.lookup_insert_ne same] at found₁
      exact Or.inr ⟨same, found₁⟩
  constructor
  · intro q proc₁ found₁
    rcases lookup found₁ with ⟨rfl, rfl⟩ | ⟨distinct, found₁⟩
    · exact fits
    · rcases others with ⟨same, -⟩ | idle
      · rw [same]
        exact h.fits found₁
      · exact (h.fits found₁).unengaged (idle q proc₁ distinct found₁)
  · intro p q proc₁ proc₂ found₁ found₂ engaged₁ engaged₂
    rcases lookup found₁ with ⟨rfl, rfl⟩ | ⟨distinct₁, before₁⟩ <;>
      rcases lookup found₂ with ⟨rfl, rfl⟩ | ⟨distinct₂, before₂⟩
    · rfl
    · rcases others with ⟨-, engaged⟩ | idle
      · obtain ⟨proc, found, engaged⟩ := engaged engaged₁
        exact h.alone found before₂ engaged engaged₂
      · rw [idle q proc₂ distinct₂ before₂] at engaged₂
        cases engaged₂
    · rcases others with ⟨-, engaged⟩ | idle
      · obtain ⟨proc, found, engaged⟩ := engaged engaged₂
        exact h.alone before₁ found engaged₁ engaged
      · rw [idle p proc₁ distinct₁ before₁] at engaged₁
        cases engaged₁
    · exact h.alone before₁ before₂ engaged₁ engaged₂

theorem others (h : Guarded s) (found : s.procs.lookup pid = some proc)
    (engaged : proc.engaged = true) :
    ∀ q proc, q ≠ pid → s.procs.lookup q = some proc → proc.engaged = false := by
  intro q proc' distinct found'
  rw [Bool.eq_false_iff]
  intro engaged'
  exact distinct (h.alone found' found engaged' engaged)

theorem idle_of_absent (h : Guarded s) (absent : s.file = none) {q : ℕ+} {proc : Proc}
    (found : s.procs.lookup q = some proc) : proc.engaged = false := by
  rw [Bool.eq_false_iff]
  intro engaged
  obtain ⟨f, hfile, -⟩ := (h.fits found).owns engaged
  cases absent.symm.trans hfile

theorem idle_of_spared (h : Guarded s)
    (spared : ∀ file ∈ s.file, ∀ entry ∈ s.procs.entries, ¬entry.2.owns entry.1 file) {q : ℕ+}
    {proc : Proc} (found : s.procs.lookup q = some proc) : proc.engaged = false := by
  rw [Bool.eq_false_iff]
  intro engaged
  obtain ⟨f, hfile, owns⟩ := (h.fits found).owns engaged
  exact spared f hfile ⟨q, proc⟩ (AList.mem_lookup_iff.mp found) owns

theorem go (h : Guarded s) (found : s.procs.lookup pid = some proc) {phase : Phase}
    (quiet : phase.quiet = true) : Guarded (s.set pid { proc with phase := phase }) := by
  obtain ⟨entered, engaged, writing, releasing⟩ := Proc.quiet proc.held quiet
  refine h.move ⟨?_, ?_, ?_⟩ (Or.inl ⟨rfl, ?_⟩)
  · intro held
    rw [entered] at held
    exact (h.fits found).entered (by simp only [Proc.entered, held, Bool.true_or])
  · intro descriptor same
    exact absurd same (writing descriptor)
  · rintro (same | same)
    · exact absurd same releasing.1
    · exact absurd same releasing.2
  · intro held
    rw [engaged] at held
    exact ⟨proc, found, Proc.engaged_of_held held⟩

/-- The file is removed, by a process that then does not hold the lock, where
nobody else is engaged. -/
theorem remove (h : Guarded s) {phase : Phase} (quiet : phase.quiet = true)
    (idle : ∀ q proc, q ≠ pid → s.procs.lookup q = some proc → proc.engaged = false) :
    Guarded (s.set pid ⟨false, phase⟩).removed := by
  obtain ⟨entered, -, writing, releasing⟩ := Proc.quiet false quiet
  refine h.move ⟨?_, ?_, ?_⟩ (Or.inr idle)
  · intro held
    rw [entered] at held
    cases held
  · intro descriptor same
    exact absurd same (writing descriptor)
  · rintro (same | same)
    · exact absurd same releasing.1
    · exact absurd same releasing.2

/-- The exclusive create: there was no file, so nobody was engaged. -/
theorem create (h : Guarded s) (found : s.procs.lookup pid = some proc) (absent : s.file = none)
    (now : Int) :
    Guarded { s.set pid { proc with phase := .writing s.inodes } with
      file := some ⟨s.inodes, .unreadable, now⟩
      inodes := s.inodes + 1 } := by
  have idle := h.idle_of_absent absent found
  refine h.move ⟨?_, ?_, ?_⟩ (Or.inr fun q _ _ => h.idle_of_absent absent)
  · intro entered
    have held : proc.held = true := by simpa [Proc.entered] using entered
    rw [Proc.engaged_of_held held] at idle
    cases idle
  · intro descriptor same
    cases same
    exact ⟨_, rfl, rfl⟩
  · rintro (same | same) <;> cases same

/-- The file that is written is the one that was created. -/
theorem write (h : Guarded s) (found : s.procs.lookup pid = some proc) {descriptor : Nat}
    (phase : proc.phase = .writing descriptor) (now : Int) :
    Guarded { s.set pid { proc with phase := .closing none } with
      file := s.file.map (written pid descriptor now) } := by
  have engaged : proc.engaged = true := by simp only [Proc.engaged, phase, Bool.or_true]
  obtain ⟨file, hfile, inode⟩ := (h.fits found).writing descriptor phase
  refine h.move ⟨?_, ?_, ?_⟩ (Or.inr (h.others found engaged))
  · intro _
    simp only [hfile, Option.map_some, Option.some.injEq, exists_eq_left', written, inode,
      if_true]
  · intro descriptor same
    cases same
  · rintro (same | same) <;> cases same

theorem close (h : Guarded s) (found : s.procs.lookup pid = some proc)
    (phase : proc.phase = .closing none) : Guarded (s.set pid ⟨true, .rest none⟩) := by
  have entered : proc.entered = true := by
    simp only [Proc.entered, phase, decide_true, Bool.or_true]
  refine h.move ⟨fun _ => (h.fits found).entered entered, ?_, ?_⟩
    (Or.inl ⟨rfl, fun _ => ⟨proc, found, Proc.engaged_of_entered entered⟩⟩)
  · intro descriptor same
    cases same
  · rintro (same | same) <;> cases same

/-- A stale file is removed, which is the lock of nobody. -/
theorem removeStale {i : FsInput} (h : Guarded s) (spares : SparesOwned s (.turn pid i))
    (found : s.procs.lookup pid = some proc) {attempt : Nat}
    (phase : proc.phase = .removing attempt) (granted : i.fails = false) :
    Guarded (s.set pid { proc with phase := nextRound attempt }).removed := by
  have removes : removes s (.turn pid i) = true := by
    rcases proc with ⟨held, _⟩
    cases phase
    simp only [ProcessLock.removes, found, granted, Bool.not_false]
  have spared := spares removes
  have idle := h.idle_of_spared spared found
  have held : proc.held = false := by
    rw [Bool.eq_false_iff]
    intro held
    rw [Proc.engaged_of_held held] at idle
    cases idle
  rw [held]
  exact h.remove (nextRound_quiet attempt) fun q _ _ => h.idle_of_spared spared

theorem turn {i : FsInput} (h : Guarded s) (spares : SparesOwned s (.turn pid i))
    (found : s.procs.lookup pid = some proc) (step : ProcessLock.turn s pid proc i = some t) :
    Guarded t := by
  unfold ProcessLock.turn at step
  cases phase : proc.phase with
  | rest =>
    simp only [phase, reduceCtorEq] at step
  | creating attempt =>
    simp only [phase] at step
    split at step
    · cases step
      exact h.go found rfl
    · split at step
      · cases step
        exact h.go found rfl
      · next absent =>
        cases step
        exact h.create found absent i.now
  | writing descriptor =>
    simp only [phase] at step
    split at step
    · cases step
      exact h.go found rfl
    · cases step
      exact h.write found phase i.now
  | closing error =>
    simp only [phase] at step
    split at step
    · cases step
      exact h.go found rfl
    · cases error with
      | some error =>
        cases step
        exact h.go found rfl
      | none =>
        cases step
        exact h.close found phase
  | reading attempt =>
    simp only [phase] at step
    split at step <;> cases step <;> exact h.go found rfl
  | probing attempt existing =>
    simp only [phase] at step
    split at step <;> cases step <;> exact h.go found rfl
  | statting attempt =>
    simp only [phase] at step
    split at step
    · cases step
      exact h.go found rfl
    · split at step
      · cases step
        exact h.go found (nextRound_quiet attempt)
      · split at step <;> cases step <;> exact h.go found rfl
  | removing attempt =>
    simp only [phase] at step
    split at step
    · cases step
      exact h.go found rfl
    · next granted =>
      cases step
      exact h.removeStale spares found phase (Bool.eq_false_of_not_eq_true granted)
  | checkingOwn =>
    simp only [phase] at step
    have held := (h.fits found).releasing (Or.inl phase)
    split at step
    · cases step
      refine h.move ⟨fun _ => ?_, ?_, fun _ => held⟩
        (Or.inl ⟨rfl, fun _ => ⟨proc, found, Proc.engaged_of_held held⟩⟩)
      · exact (h.fits found).entered (by simp only [Proc.entered, held, Bool.true_or])
      · intro descriptor same
        cases same
    · cases step
      refine h.move ⟨?_, ?_, ?_⟩ (Or.inl ⟨rfl, ?_⟩)
      · intro entered
        cases entered
      · intro descriptor same
        cases same
      · rintro (same | same) <;> cases same
      · intro engaged
        cases engaged
  | removingOwn =>
    simp only [phase] at step
    have held := (h.fits found).releasing (Or.inr phase)
    split at step
    · cases step
      exact h.go found rfl
    · cases step
      exact h.remove rfl (h.others found (Proc.engaged_of_held held))

theorem step {a : Action} (h : Guarded s) (spares : SparesOwned s a)
    (step : system.step s a = some t) : Guarded t := by
  cases a with
  | spawn pid =>
    simp only [system, ProcessLock.step] at step
    split at step
    · cases step
      refine h.move (.rest s.file pid none) (Or.inl ⟨rfl, ?_⟩)
      intro engaged
      cases engaged
    · cases step
  | exit pid =>
    simp only [system, ProcessLock.step] at step
    split at step
    · cases step
    · cases step
      have lookup : ∀ {q proc}, (s.procs.erase pid).lookup q = some proc →
          s.procs.lookup q = some proc := by
        intro q proc found
        by_cases same : q = pid
        · subst same
          rw [AList.lookup_erase] at found
          cases found
        · rwa [AList.lookup_erase_ne same] at found
      exact ⟨fun found => h.fits (lookup found), fun found found' =>
        h.alone (lookup found) (lookup found')⟩
  | acquire pid =>
    simp only [system, ProcessLock.step] at step
    split at step
    · next held error found =>
      cases step
      exact h.go found rfl
    · cases step
  | release pid =>
    simp only [system, ProcessLock.step] at step
    split at step
    · next error found =>
      cases step
      refine h.move ⟨fun _ => (h.fits found).entered rfl, ?_, fun _ => rfl⟩
        (Or.inl ⟨rfl, fun _ => ⟨_, found, rfl⟩⟩)
      intro descriptor same
      cases same
    · cases step
      refine h.move (.rest s.file pid none) (Or.inl ⟨rfl, ?_⟩)
      intro engaged
      cases engaged
    · cases step
  | turn pid input =>
    obtain ⟨proc, found, turned⟩ := Option.bind_eq_some_iff.mp step
    exact h.turn spares found turned

end Guarded

theorem Start.guarded {s : LockState} (h : Start s) : Guarded s := by
  constructor
  · intro p proc found
    obtain ⟨free, error, rest⟩ := h p proc found
    rcases proc with ⟨held, phase⟩
    cases free
    cases rest
    exact Fits.rest s.file p error
  · intro p q proc proc' found found' engaged
    obtain ⟨free, error, rest⟩ := h p proc found
    rcases proc with ⟨held, phase⟩
    cases free
    cases rest
    cases engaged

/-! ## A removed lock lets a second process in -/

section

variable {s t u : LockState} {p r : ℕ+} {proc : Proc}

def calm : FsInput := ⟨0, false⟩

theorem Proc.owns.engaged {file : LockFile} (h : proc.owns p file) : proc.engaged = true := by
  rcases h with ⟨entered, -⟩ | writing
  · exact Proc.engaged_of_entered entered
  · simp only [Proc.engaged, writing, Bool.or_true]

/-- A removal leaves no file, and an engaged process engaged. -/
theorem removed_owner {a : Action} (step : system.step s a = some t) (removes : removes s a = true)
    (found : s.procs.lookup p = some proc) (engaged : proc.engaged = true) :
    t.file = none ∧ ∃ proc', t.procs.lookup p = some proc' ∧ proc'.engaged = true := by
  unfold ProcessLock.removes at removes
  split at removes
  · next q i =>
    split at removes
    · next held attempt found' =>
      rw [Bool.not_eq_true'] at removes
      simp only [system, ProcessLock.step, found', Option.bind_some, ProcessLock.turn, removes,
        Bool.false_eq_true, if_false, Option.some.injEq] at step
      subst step
      refine ⟨rfl, ?_⟩
      by_cases same : p = q
      · subst same
        cases found.symm.trans found'
        have held : held = true := by simpa [Proc.engaged, Proc.entered] using engaged
        exact ⟨_, AList.lookup_insert _, Proc.engaged_of_held held⟩
      · exact ⟨proc, (AList.lookup_insert_ne same).trans found, engaged⟩
    · cases removes
  · cases removes

/-- A process that has entered or is writing comes to hold the lock. -/
theorem finish (found : s.procs.lookup p = some proc) (engaged : proc.engaged = true)
    (absent : s.file = none) (free : s.procs.lookup r = none) :
    ∃ as t proc', system.Run s as t ∧ t.procs.lookup p = some proc' ∧ proc'.held = true ∧
      t.file = none ∧ t.procs.lookup r = none := by
  have distinct : r ≠ p := by
    rintro rfl
    cases free.symm.trans found
  rcases proc with ⟨held, phase⟩
  cases held with
  | true => exact ⟨[], s, _, .nil s, found, rfl, absent, free⟩
  | false =>
    cases phase with
    | writing descriptor =>
      have run : system.exec s [.turn p calm, .turn p calm] = some
          ((s.set p ⟨false, .closing none⟩).set p ⟨true, .rest none⟩) := by
        simp [System.exec, system, step, found, turn, calm, LockState.set, absent]
      refine ⟨_, _, _, System.run_of_exec run, AList.lookup_insert _, rfl, absent, ?_⟩
      simp only [LockState.set, AList.lookup_insert_ne distinct, free]
    | closing error =>
      cases error with
      | none =>
        have run : system.exec s [.turn p calm] = some (s.set p ⟨true, .rest none⟩) := by
          simp [System.exec, system, step, found, turn, calm]
        refine ⟨_, _, _, System.run_of_exec run, AList.lookup_insert _, rfl, absent, ?_⟩
        simp only [LockState.set, AList.lookup_insert_ne distinct, free]
      | some => cases engaged
    | rest | creating | reading | probing | statting | removing | checkingOwn | removingOwn =>
      cases engaged

theorem intrude (absent : s.file = none) (free : s.procs.lookup r = none) :
    ∃ as t proc', system.Run s as t ∧ t.procs.lookup r = some proc' ∧ proc'.held = true ∧
      ∀ q, q ≠ r → t.procs.lookup q = s.procs.lookup q := by
  have run : system.exec s
      [.spawn r, .acquire r, .turn r calm, .turn r calm, .turn r calm] = some
        { file := some ⟨s.inodes, .data r, 0⟩
          inodes := s.inodes + 1
          procs := ((((s.procs.insert r .started).insert r ⟨false, .creating 0⟩).insert r
            ⟨false, .writing s.inodes⟩).insert r ⟨false, .closing none⟩).insert r
              ⟨true, .rest none⟩ } := by
    simp [System.exec, system, step, turn, calm, LockState.set, absent, free, Proc.started, written]
  refine ⟨_, _, _, System.run_of_exec run, AList.lookup_insert _, rfl, ?_⟩
  intro q distinct
  simp only [AList.lookup_insert_ne distinct]

end

/-- **Mutual exclusion of the process lock**, where no `acquire` removes a file
that a live process owns; and only there: a step that removes one can be
continued to a state in which two processes hold the lock. -/
theorem mutual_exclusion {s₀ s : LockState} {as : List Action} (start : Start s₀)
    (run : system.RunWhere SparesOwned s₀ as s) :
    ¬Doubled s ∧ ∀ {t : LockState} {a : Action}, ¬SparesOwned s a → system.step s a = some t →
      ∃ bs u, system.Run t bs u ∧ Doubled u := by
  constructor
  · exact (run.invariant (I := Guarded) (fun h spares step => h.step spares step)
      start.guarded).not_doubled
  · intro t a lost step
    simp only [SparesOwned, Classical.not_imp, not_forall, not_not] at lost
    obtain ⟨removes, file, hfile, ⟨q, proc⟩, hentry, owns⟩ := lost
    have found := AList.mem_lookup_iff.mpr hentry
    have engaged : proc.engaged = true := owns.engaged
    obtain ⟨absent, proc', found', engaged'⟩ := removed_owner step removes found engaged
    obtain ⟨r, free⟩ : ∃ r, t.procs.lookup r = none := by
      have := Infinite.of_injective Nat.succPNat Nat.succPNat_injective
      obtain ⟨r, unused⟩ := Infinite.exists_notMem_finset t.procs.keys.toFinset
      refine ⟨r, AList.lookup_eq_none.mpr ?_⟩
      rwa [List.mem_toFinset] at unused
    obtain ⟨bs, u, proc₁, run₁, found₁, held₁, absent₁, free₁⟩ :=
      finish found' engaged' absent free
    obtain ⟨cs, v, proc₂, run₂, found₂, held₂, kept⟩ := intrude absent₁ free₁
    have distinct : q ≠ r := by
      rintro rfl
      cases free.symm.trans found'
    exact ⟨bs ++ cs, v, run₁.append run₂, q, r, proc₁, proc₂, distinct,
      (kept q distinct).trans found₁, found₂, held₁, held₂⟩

/-- Two processes start where a third one has died with the lock. -/
def abandoned : LockState where
  file := some ⟨0, .data 99, 0⟩
  inodes := 1
  procs := (AList.insert 1 .started ∅).insert 2 .started

theorem abandoned_start : Start abandoned := by
  intro p proc found
  unfold abandoned at found
  by_cases second : p = 2
  · subst second
    rw [AList.lookup_insert] at found
    cases found
    exact ⟨rfl, none, rfl⟩
  · rw [AList.lookup_insert_ne second] at found
    by_cases first : p = 1
    · subst first
      rw [AList.lookup_insert] at found
      cases found
      exact ⟨rfl, none, rfl⟩
    · rw [AList.lookup_insert_ne first, AList.lookup_empty] at found
      cases found

/-- The turns of an `acquire` up to its `rmSync`, where the file names a dead process. -/
def takeover (p : ℕ+) : List Action :=
  [.acquire p, .turn p calm, .turn p calm, .turn p calm]

/-- The turns of an `acquire` from its `rmSync` on. -/
def finishing (p : ℕ+) : List Action := List.replicate 4 (.turn p calm)

/-- One process takes the lock over before the other looks. -/
theorem mutual_exclusion_in_turn :
    ∃ s, system.RunWhere SparesOwned abandoned (takeover 1 ++ finishing 1 ++ takeover 2) s ∧
      (s.procs.lookup 1).any Proc.held = true ∧ ¬Doubled s := by
  have trace : ((system.execWhere SparesOwned abandoned
      (takeover 1 ++ finishing 1 ++ takeover 2)).any fun s =>
        (s.procs.lookup 1).any Proc.held) = true := by
    decide +kernel
  obtain ⟨s, run, held⟩ := (Option.any_eq_true _ _).mp trace
  have run := System.runWhere_of_execWhere run
  exact ⟨s, run, held, (mutual_exclusion abandoned_start run).1⟩

/-- **Both processes hold the lock**: both have read the dead PID, and the
second removes the lock file of the first. -/
theorem lock_removed_alive : ¬MutualExclusion fun _ _ => True := by
  have trace : ((system.exec abandoned (takeover 1 ++ takeover 2 ++ finishing 1 ++ finishing 2)).any
      fun s => (s.procs.lookup 1).any Proc.held && (s.procs.lookup 2).any Proc.held) = true := by
    decide +kernel
  intro claim
  obtain ⟨s, run, held⟩ := (Option.any_eq_true _ _).mp trace
  rw [Bool.and_eq_true] at held
  obtain ⟨proc, found, first⟩ := (Option.any_eq_true _ _).mp held.1
  obtain ⟨proc', found', second⟩ := (Option.any_eq_true _ _).mp held.2
  exact claim abandoned_start (System.run_of_exec run)
    ⟨1, 2, proc, proc', by decide, found, found', first, second⟩

end ProcessLock

end WhatsappBot
