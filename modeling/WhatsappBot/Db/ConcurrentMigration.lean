import WhatsappBot.Db.Migrations
import WhatsappBot.Lib.Transition
import Mathlib.Data.List.AList

/-!
# Concurrent migration

`Database.migrate` of any number of processes on one file. The rows of
`schema_migrations` are read once, and each migration runs in a transaction of
its own, so a process can find in its transaction what was not there when it
read. It never harms the file, whose versions stay a prefix; it can throw. A
locked file is waited for, so statements and transactions are the steps.
-/

namespace WhatsappBot

open Lib.Transition

/-- A row of `schema_migrations`. -/
structure AppliedMigrationRow where
  version : Nat
  name : String
  checksum : String
  appliedAt : Timestamp
deriving DecidableEq, Repr

/-- The file: its schema, the rows of `schema_migrations` if the table is there,
and the idempotency keys of the active jobs. -/
structure DatabaseFile where
  schema : Schema
  applied : Option (List AppliedMigrationRow)
  activeKeys : List String
deriving DecidableEq, Repr

/-- What `migrate` throws: a `MigrationError` or an error of the database. -/
inductive MigrateError where
  | migration (message : String)
  | sqlite (message : String)
deriving DecidableEq, Repr

/-- Where a call of `migrate` stands. -/
inductive MigratePhase where
  /-- Before `CREATE TABLE IF NOT EXISTS schema_migrations`. -/
  | creating
  /-- Before the `SELECT`. -/
  | reading
  /-- In the loop, with the rows it has read and the migrations to come. -/
  | migrating (applied : List AppliedMigrationRow) (rest : List Migration)
  | returned
  | thrown (error : MigrateError)
deriving DecidableEq, Repr

namespace DatabaseFile

/-- The versions that are recorded. -/
def versions (file : DatabaseFile) : List Nat :=
  (file.applied.getD []).map AppliedMigrationRow.version

/-- `INSERT INTO schema_migrations`, whose version is the primary key and whose
name is unique. -/
def insertApplied (file : DatabaseFile) (row : AppliedMigrationRow) : Except String DatabaseFile :=
  match file.applied with
  | none => .error "no such table: schema_migrations"
  | some rows =>
    if rows.any fun old => old.version = row.version then
      .error "UNIQUE constraint failed: schema_migrations.version"
    else if rows.any fun old => old.name = row.name then
      .error "UNIQUE constraint failed: schema_migrations.name"
    else .ok { file with applied := some (rows ++ [row]) }

end DatabaseFile

section Migrate

variable (checksum : Migration → String)

/-- The transaction of one migration; a statement that fails rolls it back. -/
def runMigration (m : Migration) (now : Timestamp) (file : DatabaseFile) :
    Except String DatabaseFile :=
  match Statement.exec (!decide file.activeKeys.Nodup) file.schema m.sql with
  | .error message => .error message
  | .ok schema =>
    { file with schema := schema }.insertApplied ⟨m.version, m.name, checksum m, now⟩

/-- One step of `migrate`, if it is not over. -/
def migrateStep (now : Timestamp) (file : DatabaseFile) :
    MigratePhase → Option (MigratePhase × DatabaseFile)
  | .creating => some (.reading, { file with applied := some (file.applied.getD []) })
  | .reading =>
    match file.applied with
    | none => some (.thrown (.sqlite "no such table: schema_migrations"), file)
    | some rows => some (.migrating rows migrations, file)
  | .migrating _ [] => some (.returned, file)
  | .migrating applied (m :: rest) =>
    match applied.find? fun row => row.version = m.version with
    | some existing =>
      if existing.name ≠ m.name ∨ existing.checksum ≠ checksum m then
        some (.thrown (.migration
          ("Migration " ++ toString m.version ++ " was changed after it was applied")), file)
      else some (.migrating applied rest, file)
    | none =>
      match runMigration checksum m now file with
      | .error message => some (.thrown (.sqlite message), file)
      | .ok file' => some (.migrating applied rest, file')
  | .returned | .thrown _ => none

/-- How many steps of its own a call has left at most. -/
def MigratePhase.remaining : MigratePhase → Nat
  | creating => migrations.length + 3
  | reading => migrations.length + 2
  | migrating _ rest => rest.length + 1
  | returned | thrown _ => 0

/-! ## Processes -/

inductive MigrateAction where
  | start (n : Nat)
  | step (n : Nat) (now : Timestamp)
  | kill (n : Nat)
deriving DecidableEq, Repr

/-- The file and the calls of `migrate` that have not been killed. -/
structure Migrating where
  file : DatabaseFile
  calls : AList fun _ : Nat => MigratePhase

namespace Migrating

def step (s : Migrating) : MigrateAction → Option Migrating
  | .start n =>
    match s.calls.lookup n with
    | none => some { s with calls := s.calls.insert n .creating }
    | some _ => none
  | .step n now =>
    match s.calls.lookup n with
    | none => none
    | some phase =>
      (migrateStep checksum now s.file phase).map fun (phase', file) =>
        ⟨file, s.calls.insert n phase'⟩
  | .kill n =>
    match s.calls.lookup n with
    | none => none
    | some _ => some { s with calls := s.calls.erase n }

def system : System Migrating MigrateAction where
  step := step checksum

end Migrating

end Migrate

/-! ## The file -/

/-- The first `k` migrations are recorded, and have run once each and in order. -/
structure DatabaseFile.At (file : DatabaseFile) (k : Nat) : Prop where
  le : k ≤ migrations.length
  versions : file.versions = (migrations.take k).map Migration.version
  schema : file.schema = schemaAfter k

/-- Every recorded row is the one that its migration records. -/
def DatabaseFile.Genuine (checksum : Migration → String) (rows : List AppliedMigrationRow) : Prop :=
  ∀ row ∈ rows, ∃ m ∈ migrations, row.version = m.version ∧ row.name = m.name ∧
    row.checksum = checksum m

/-- What a call of `migrate` knows of a file that stands at `k`. -/
inductive CallAt (file : DatabaseFile) (k : Nat) : MigratePhase → Prop where
  | creating : CallAt file k .creating
  | reading (created : file.applied ≠ none) : CallAt file k .reading
  | migrating {applied : List AppliedMigrationRow} {i j : Nat} (created : file.applied ≠ none)
    (done : i ≤ k) (read : applied.map AppliedMigrationRow.version =
      (migrations.take j).map Migration.version) (old : j ≤ k)
    (rows : ∀ row ∈ applied, row ∈ file.applied.getD []) :
    CallAt file k (.migrating applied (migrations.drop i))
  | returned (all : k = migrations.length) : CallAt file k .returned
  | thrown (error : MigrateError) : CallAt file k (.thrown error)

/-- What the transactions of others can do to a file. -/
structure DatabaseFile.Grows (file file' : DatabaseFile) : Prop where
  rows : ∀ row ∈ file.applied.getD [], row ∈ file'.applied.getD []
  created : file.applied ≠ none → file'.applied ≠ none
  activeKeys : file'.activeKeys = file.activeKeys

theorem DatabaseFile.Grows.refl (file : DatabaseFile) : file.Grows file := ⟨fun _ h => h, id, rfl⟩

namespace CallAt

variable {file file' : DatabaseFile} {k k' : Nat} {phase : MigratePhase}

theorem mono (h : CallAt file k phase) (grows : file.Grows file') (le : k ≤ k')
    (bound : k' ≤ migrations.length) : CallAt file' k' phase := by
  cases h with
  | creating => exact .creating
  | reading created => exact .reading (grows.created created)
  | migrating created done read old rows =>
    exact .migrating (grows.created created) (done.trans le) read (old.trans le)
      fun row hrow => grows.rows row (rows row hrow)
  | returned all => exact .returned (Nat.le_antisymm bound (all ▸ le))
  | thrown error => exact .thrown error

end CallAt

/-- The migration is not recorded yet, and can be. -/
def DatabaseFile.Ready (file : DatabaseFile) (m : Migration) : Prop :=
  m.version ∉ file.versions ∧ (m.indexesUniquely = true → file.activeKeys.Nodup)

/-- The transaction that comes next, if one does, finds its migration ready. -/
def MigratePhase.Undisturbed (file : DatabaseFile) : MigratePhase → Prop
  | migrating applied (m :: _) => (∃ row ∈ applied, row.version = m.version) ∨ file.Ready m
  | _ => True

section Step

variable {checksum : Migration → String} {file file' : DatabaseFile} {k : Nat} {m : Migration}
  {now : Timestamp} {phase phase' : MigratePhase}

/-- The first `k` migrations are recorded, and every recorded row is the one
that its migration records. -/
structure DatabaseFile.Sound (checksum : Migration → String) (file : DatabaseFile) (k : Nat) :
    Prop where
  stands : file.At k
  genuine : DatabaseFile.Genuine checksum (file.applied.getD [])

/-- The transaction of a ready migration commits. -/
theorem runMigration_ready (sound : file.Sound checksum k) (position : migrations[k]? = some m)
    (created : file.applied ≠ none)
    (unique : m.indexesUniquely = true → file.activeKeys.Nodup) :
    ∃ file', runMigration checksum m now file = .ok file' ∧ file'.Sound checksum (k + 1) ∧
      file.Grows file' := by
  have builds : (!decide file.activeKeys.Nodup && m.indexesUniquely) = false := by
    cases index : m.indexesUniquely with
    | false => rw [Bool.and_false]
    | true => rw [decide_eq_true (unique index)]; rfl
  have ran := exec_next position builds
  have known : m ∈ migrations := List.mem_of_getElem? position
  have lt : k < migrations.length := (List.getElem?_eq_some_iff.mp position).1
  cases applied : file.applied with
  | none => exact absurd applied created
  | some rows =>
    have genuine := sound.genuine
    have versions := sound.stands.versions
    rw [DatabaseFile.versions, applied, Option.getD_some] at versions
    rw [applied, Option.getD_some] at genuine
    have newVersion : (rows.any fun old => old.version = m.version) = false := by
      rw [List.any_eq_false]
      intro old hold
      rw [decide_eq_true_eq]
      intro same
      have recorded : m.version ∈ rows.map AppliedMigrationRow.version :=
        List.mem_map.mpr ⟨old, hold, same⟩
      rw [versions, version_mem_take position] at recorded
      omega
    have newName : (rows.any fun old => old.name = m.name) = false := by
      rw [List.any_eq_false]
      intro old hold
      rw [decide_eq_true_eq]
      intro same
      obtain ⟨m', hm', version, name, -⟩ := genuine old hold
      rw [List.any_eq_false] at newVersion
      refine newVersion old hold (decide_eq_true ?_)
      rw [version, eq_of_name_eq m' hm' m known (name.symm.trans same)]
    refine ⟨{ file with
      schema := schemaAfter (k + 1)
      applied := some (rows ++ [⟨m.version, m.name, checksum m, now⟩]) }, ?_, ⟨⟨lt, ?_, rfl⟩, ?_⟩,
      ?_, fun _ => Option.some_ne_none _, rfl⟩
    · simp only [runMigration, sound.stands.schema, ran, DatabaseFile.insertApplied, applied,
        newVersion, newName, Bool.false_eq_true, if_false]
    · rw [DatabaseFile.versions, Option.getD_some, List.map_append, versions, List.take_add_one,
        position, List.map_append]
      rfl
    · intro row hrow
      rw [Option.getD_some] at hrow
      rcases List.mem_append.mp hrow with old | new
      · exact genuine row old
      · rw [List.mem_singleton.mp new]
        exact ⟨m, known, rfl, rfl, rfl⟩
    · intro row hrow
      rw [applied, Option.getD_some] at hrow
      exact List.mem_append_left _ hrow

/-- The transaction of any other migration of the loop fails. -/
theorem runMigration_disturbed {i : Nat} (sound : file.Sound checksum k)
    (position : migrations[i]? = some m) (done : i ≤ k) (disturbed : ¬file.Ready m) :
    ∃ message, runMigration checksum m now file = .error message := by
  have fails : ∃ message,
      Statement.exec (!decide file.activeKeys.Nodup) file.schema m.sql = .error message := by
    rw [sound.stands.schema]
    by_cases again : i < k
    · exact exec_again position again sound.stands.le
    · obtain rfl := Nat.le_antisymm done (Nat.le_of_not_lt again)
      have new : m.version ∉ file.versions := by
        rw [sound.stands.versions, version_mem_take position]
        exact again
      have index := not_and.mp disturbed new
      rw [Classical.not_imp] at index
      rw [decide_eq_false index.2]
      exact exec_duplicates position index.1
  obtain ⟨message, failed⟩ := fails
  exact ⟨message, by simp only [runMigration, failed]⟩

/-- What a step of a call does to the file and to the call. -/
structure Stepped (checksum : Migration → String) (file : DatabaseFile) (k : Nat)
    (phase : MigratePhase) (file' : DatabaseFile) (phase' : MigratePhase) : Prop where
  sound : ∃ k', k ≤ k' ∧ file'.Sound checksum k' ∧ CallAt file' k' phase'
  grows : file.Grows file'
  remaining : phase'.remaining < phase.remaining
  throws : (∃ error, phase' = .thrown error) ↔ ¬phase.Undisturbed file

theorem migrating_step {applied : List AppliedMigrationRow} {i j : Nat}
    (sound : file.Sound checksum k) (created : file.applied ≠ none) (done : i ≤ k)
    (read : applied.map AppliedMigrationRow.version = (migrations.take j).map Migration.version)
    (old : j ≤ k) (rows : ∀ row ∈ applied, row ∈ file.applied.getD [])
    (step : migrateStep checksum now file (.migrating applied (migrations.drop i)) =
      some (phase', file')) :
    Stepped checksum file k (.migrating applied (migrations.drop i)) file' phase' := by
  cases left : migrations.drop i with
  | nil =>
    rw [left] at step
    cases step
    have all : k = migrations.length :=
      Nat.le_antisymm sound.stands.le ((List.drop_eq_nil_iff.mp left).trans done)
    exact ⟨⟨k, Nat.le_refl k, sound, .returned all⟩, .refl file, Nat.lt_succ_self _,
      by simp [MigratePhase.Undisturbed]⟩
  | cons m rest =>
    have position : migrations[i]? = some m := by
      have head : (migrations.drop i)[0]? = migrations[i + 0]? := List.getElem?_drop
      rw [left, Nat.add_zero] at head
      exact head.symm
    have known : m ∈ migrations := List.mem_of_getElem? position
    have tail : rest = migrations.drop (i + 1) := by
      rw [← List.tail_drop, left, List.tail_cons]
    have shorter : rest.length + 1 < (m :: rest).length + 1 := Nat.lt_succ_self _
    have next : ∀ {file' : DatabaseFile} {k' : Nat}, file.Grows file' → i + 1 ≤ k' → k ≤ k' →
        CallAt file' k' (.migrating applied rest) := by
      intro file' k' grows done' le
      rw [tail]
      exact .migrating (grows.created created) done' read (old.trans le)
        fun row hrow => grows.rows row (rows row hrow)
    rw [left] at step
    cases found : applied.find? fun row => row.version = m.version with
    | some existing =>
      have hexisting := List.mem_of_find?_eq_some found
      have version : existing.version = m.version := by simpa using List.find?_some found
      obtain ⟨m', hm', version', name, sum⟩ := sound.genuine existing (rows existing hexisting)
      obtain rfl := eq_of_version_eq m' hm' m known (version'.symm.trans version)
      simp only [migrateStep, found, name, sum, ne_eq, not_true_eq_false, or_self, if_false] at step
      cases step
      have recorded : m'.version ∈ applied.map AppliedMigrationRow.version :=
        List.mem_map.mpr ⟨existing, hexisting, version⟩
      rw [read, version_mem_take position] at recorded
      refine ⟨⟨k, Nat.le_refl k, sound, next (.refl file) (by omega) (Nat.le_refl k)⟩,
        .refl file, shorter, ?_⟩
      have undisturbed : (MigratePhase.migrating applied (m' :: rest)).Undisturbed file :=
        Or.inl ⟨existing, hexisting, version⟩
      simp only [reduceCtorEq, exists_false, undisturbed, not_true_eq_false]
    | none =>
      have unread : ¬∃ row ∈ applied, row.version = m.version := by
        rintro ⟨row, hrow, version⟩
        exact absurd (decide_eq_true version) (List.find?_eq_none.mp found row hrow)
      by_cases ready : file.Ready m
      · have current : i = k := by
          have new := ready.1
          rw [sound.stands.versions, version_mem_take position] at new
          exact Nat.le_antisymm done (Nat.le_of_not_lt new)
        subst current
        have runs : ∃ after, runMigration checksum m now file = .ok after ∧
            after.Sound checksum (i + 1) ∧ file.Grows after :=
          runMigration_ready sound position created ready.2
        obtain ⟨after, ran, sound', grows⟩ := runs
        simp only [migrateStep, found, ran] at step
        cases step
        refine ⟨⟨i + 1, Nat.le_succ i, sound', next grows (Nat.le_refl _) (Nat.le_succ i)⟩, grows,
          shorter, ?_⟩
        have undisturbed : (MigratePhase.migrating applied (m :: rest)).Undisturbed file :=
          Or.inr ready
        simp only [reduceCtorEq, exists_false, undisturbed, not_true_eq_false]
      · have fails : ∃ message, runMigration checksum m now file = .error message :=
          runMigration_disturbed sound position done ready
        obtain ⟨message, failed⟩ := fails
        simp only [migrateStep, found, failed] at step
        cases step
        refine ⟨⟨k, Nat.le_refl k, sound, .thrown _⟩, .refl file, Nat.succ_pos _, ?_⟩
        have disturbed : ¬(MigratePhase.migrating applied (m :: rest)).Undisturbed file :=
          not_or.mpr ⟨unread, ready⟩
        simp only [MigratePhase.thrown.injEq, exists_eq', disturbed, not_false_eq_true]

theorem call_step (sound : file.Sound checksum k) (call : CallAt file k phase)
    (step : migrateStep checksum now file phase = some (phase', file')) :
    Stepped checksum file k phase file' phase' := by
  cases call with
  | creating =>
    cases step
    refine ⟨⟨k, Nat.le_refl k, ⟨⟨sound.stands.le, ?_, sound.stands.schema⟩, sound.genuine⟩,
      .reading (Option.some_ne_none _)⟩, ⟨fun _ hrow => hrow, fun _ => Option.some_ne_none _, rfl⟩,
      Nat.lt_succ_self _, ?_⟩
    · exact sound.stands.versions
    · simp [MigratePhase.Undisturbed]
  | reading created =>
    cases applied : file.applied with
    | none => exact absurd applied created
    | some rows =>
      simp only [migrateStep, applied] at step
      cases step
      have versions := sound.stands.versions
      rw [DatabaseFile.versions, applied, Option.getD_some] at versions
      have read : CallAt file k (.migrating rows (migrations.drop 0)) :=
        .migrating created (Nat.zero_le k) versions (Nat.le_refl k)
          fun row hrow => by rw [applied]; exact hrow
      exact ⟨⟨k, Nat.le_refl k, sound, read⟩, .refl file, Nat.lt_succ_self _,
        by simp [MigratePhase.Undisturbed]⟩
  | migrating created done read old rows => exact migrating_step sound created done read old rows step
  | returned | thrown => cases step

end Step

/-! ## Runs -/

instance (file : DatabaseFile) (m : Migration) : Decidable (file.Ready m) :=
  inferInstanceAs (Decidable (_ ∧ _))

instance (file : DatabaseFile) : (phase : MigratePhase) → Decidable (phase.Undisturbed file)
  | .migrating applied (m :: _) =>
    inferInstanceAs (Decidable ((∃ row ∈ applied, row.version = m.version) ∨ file.Ready m))
  | .migrating _ [] | .creating | .reading | .returned | .thrown _ => .isTrue trivial

namespace Migrating

variable (checksum : Migration → String)

/-- Nobody is migrating, the file stands at a prefix of the migrations, and no
recorded name or checksum differs. -/
def Start (s : Migrating) : Prop :=
  s.calls = ∅ ∧ ∃ k, s.file.Sound checksum k

/-- The step is no transaction of a migration that is recorded by then, nor the
building of the unique index over duplicates. -/
def Undisturbed (s : Migrating) : MigrateAction → Prop
  | .step n _ => ∀ phase ∈ s.calls.lookup n, phase.Undisturbed s.file
  | .start _ | .kill _ => True

/-- The file is at a prefix of the migrations, and every call of `migrate` that
is alive has returned with all of them applied or is on its way there. -/
structure Safe (s : Migrating) : Prop where
  stands : ∃ k, s.file.At k
  unthrown : ∀ {n phase}, s.calls.lookup n = some phase → ∀ error, phase ≠ .thrown error
  complete : ∀ {n}, s.calls.lookup n = some .returned → s.file.At migrations.length
  proceeds : ∀ {n phase}, s.calls.lookup n = some phase → phase ≠ .returned → ∀ now,
    ∃ t phase', step checksum s (.step n now) = some t ∧ t.calls.lookup n = some phase' ∧
      phase'.remaining < phase.remaining

/-- Every run whose steps meet the condition migrates safely. -/
def MigratesSafely (G : Migrating → MigrateAction → Prop) : Prop :=
  ∀ {s₀ s : Migrating} {as : List MigrateAction}, s₀.Start checksum →
    (system checksum).RunWhere G s₀ as s → s.Safe checksum

/-- What holds in every run, whatever disturbs it. -/
def Sound (s : Migrating) : Prop :=
  ∃ k, s.file.Sound checksum k ∧ ∀ {n phase}, s.calls.lookup n = some phase →
    CallAt s.file k phase

variable {checksum} {s t : Migrating} {a : MigrateAction}

theorem Start.sound (h : s.Start checksum) : s.Sound checksum := by
  obtain ⟨calls, k, sound⟩ := h
  refine ⟨k, sound, fun found => ?_⟩
  rw [calls, AList.lookup_empty] at found
  cases found

theorem step_call {n : Nat} {now : Timestamp}
    (h : step checksum s (.step n now) = some t) :
    ∃ phase phase', s.calls.lookup n = some phase ∧
      migrateStep checksum now s.file phase = some (phase', t.file) ∧
      t.calls = s.calls.insert n phase' := by
  simp only [step] at h
  cases found : s.calls.lookup n with
  | none =>
    rw [found] at h
    cases h
  | some phase =>
    rw [found, Option.map_eq_some_iff] at h
    obtain ⟨⟨phase', file⟩, stepped, rfl⟩ := h
    exact ⟨phase, phase', rfl, stepped, rfl⟩

/-- Where a call of the new state comes from. -/
theorem call_after {n : Nat} {phase : MigratePhase} (h : step checksum s a = some t)
    (found : t.calls.lookup n = some phase) :
    (s.calls.lookup n = some phase ∧ (∀ now, a ≠ .step n now)) ∨
      phase = .creating ∨ ∃ now before, a = .step n now ∧ s.calls.lookup n = some before ∧
        migrateStep checksum now s.file before = some (phase, t.file) := by
  cases a with
  | start m =>
    simp only [step] at h
    split at h
    · cases h
      by_cases same : n = m
      · subst same
        rw [AList.lookup_insert] at found
        exact Or.inr (Or.inl (Option.some.inj found).symm)
      · rw [AList.lookup_insert_ne same] at found
        exact Or.inl ⟨found, nofun⟩
    · cases h
  | kill m =>
    simp only [step] at h
    split at h
    · cases h
    · cases h
      by_cases same : n = m
      · subst same
        rw [AList.lookup_erase] at found
        cases found
      · rw [AList.lookup_erase_ne same] at found
        exact Or.inl ⟨found, nofun⟩
  | step m now =>
    obtain ⟨before, after, found', stepped, calls⟩ := step_call h
    rw [calls] at found
    by_cases same : n = m
    · subst same
      rw [AList.lookup_insert] at found
      cases found
      exact Or.inr (Or.inr ⟨now, before, rfl, found', stepped⟩)
    · rw [AList.lookup_insert_ne same] at found
      refine Or.inl ⟨found, fun now' heq => ?_⟩
      cases heq
      exact same rfl

/-- The step lemma of the file and of every call. -/
theorem Sound.step (h : s.Sound checksum) (step : (system checksum).step s a = some t) :
    t.Sound checksum := by
  obtain ⟨k, sound, calls⟩ := h
  have grown : ∃ k', k ≤ k' ∧ t.file.Sound checksum k' ∧ s.file.Grows t.file ∧
      ∀ n now before after, a = .step n now → s.calls.lookup n = some before →
        migrateStep checksum now s.file before = some (after, t.file) → CallAt t.file k' after := by
    cases a with
    | step n now =>
      obtain ⟨phase, phase', found, stepped, -⟩ := step_call step
      have outcome := call_step sound (calls found) stepped
      obtain ⟨k', le, sound', call'⟩ := outcome.sound
      refine ⟨k', le, sound', outcome.grows, fun n' now' before after heq found' stepped' => ?_⟩
      cases heq
      cases found.symm.trans found'
      cases stepped.symm.trans stepped'
      exact call'
    | start n | kill n =>
      have same : t.file = s.file := by
        simp only [system, Migrating.step] at step
        split at step <;> cases step
        rfl
      rw [same]
      exact ⟨k, Nat.le_refl k, sound, .refl _, nofun⟩
  obtain ⟨k', le, sound', grows, own⟩ := grown
  refine ⟨k', sound', fun {n phase} found => ?_⟩
  rcases call_after step found with ⟨before, -⟩ | rfl | ⟨now, before, action, found', stepped⟩
  · exact (calls before).mono grows le sound'.stands.le
  · exact .creating
  · exact own n now before phase action found' stepped

/-- No call that is alive has thrown. -/
def Unthrown (s : Migrating) : Prop :=
  ∀ n phase, s.calls.lookup n = some phase → ∀ error, phase ≠ .thrown error

theorem Unthrown.step (sound : s.Sound checksum) (h : s.Unthrown) (guard : s.Undisturbed a)
    (step : (system checksum).step s a = some t) : t.Unthrown := by
  intro n phase found error thrown
  rcases call_after step found with ⟨before, -⟩ | created | ⟨now, before, rfl, found', stepped⟩
  · exact h n phase before error thrown
  · cases created.symm.trans thrown
  · obtain ⟨k, sound, calls⟩ := sound
    exact (call_step sound (calls found') stepped).throws.mp ⟨error, thrown⟩
      (guard before found')

/-- **Concurrent migration is safe as long as no process migrates what another
has migrated since its read.** -/
theorem migrates_safely (checksum : Migration → String) :
    MigratesSafely checksum Undisturbed := by
  intro s₀ s as start run
  have sound : s.Sound checksum :=
    run.invariant (fun h _ step => Sound.step h step) start.sound
  have unthrown : s.Unthrown := by
    refine run.invariant_under (I := fun s => s.Sound checksum) (fun h _ step => h.step step)
      (fun sound h guard step => Unthrown.step sound h guard step) start.sound ?_
    intro n phase found
    rw [start.1, AList.lookup_empty] at found
    cases found
  obtain ⟨k, sound, calls⟩ := sound
  refine ⟨⟨k, sound.stands⟩, unthrown _ _, fun found => ?_, fun {n phase} found unreturned now => ?_⟩
  · cases calls found with
    | returned all => exact all ▸ sound.stands
  · have enabled : ∃ phase' file', migrateStep checksum now s.file phase = some (phase', file') := by
      cases phase with
      | creating => exact ⟨_, _, rfl⟩
      | reading =>
        simp only [migrateStep]
        split <;> exact ⟨_, _, rfl⟩
      | migrating applied rest =>
        cases rest with
        | nil => exact ⟨_, _, rfl⟩
        | cons m rest =>
          simp only [migrateStep]
          repeat' split
          all_goals exact ⟨_, _, rfl⟩
      | returned => exact absurd rfl unreturned
      | thrown error => exact absurd rfl (unthrown _ _ found error)
    obtain ⟨phase', file', stepped⟩ := enabled
    refine ⟨⟨file', s.calls.insert n phase'⟩, phase', ?_, AList.lookup_insert _,
      (call_step sound (calls found) stepped).remaining⟩
    simp only [step, found, stepped, Option.map_some]

section Example

/-- A file that has just been created. -/
def fresh : Migrating where
  file := { schema := .empty, applied := none, activeKeys := [] }
  calls := ∅

theorem fresh_start (checksum : Migration → String) : fresh.Start checksum :=
  ⟨rfl, 0, ⟨Nat.zero_le _, rfl, rfl⟩, fun _ h => absurd h List.not_mem_nil⟩

instance (s : Migrating) (a : MigrateAction) : Decidable (s.Undisturbed a) :=
  match a with
  | .step n _ => inferInstanceAs (Decidable (∀ phase ∈ s.calls.lookup n, phase.Undisturbed s.file))
  | .start _ | .kill _ => .isTrue trivial

/-- The steps of one call. -/
def steps (n count : Nat) : List MigrateAction :=
  List.replicate count (.step n "2026-09-21T14:13:20.000Z")

/-- The second process reads after the first has migrated. -/
def orderly : List MigrateAction :=
  [.start 0, .start 1] ++ steps 1 1 ++ steps 0 8 ++ steps 1 7

theorem migrates_safely_orderly : ∃ s, (system Migration.name).RunWhere Undisturbed fresh orderly s ∧
    s.calls.lookup 1 = some .returned ∧ s.file.At migrations.length := by
  have trace : (((system Migration.name).execWhere Undisturbed fresh orderly).any fun s =>
      decide (s.calls.lookup 1 = some .returned)) = true := by
    decide +kernel
  obtain ⟨s, exec, returned⟩ := (Option.any_eq_true _ _).mp trace
  rw [decide_eq_true_eq] at returned
  have run := System.runWhere_of_execWhere exec
  exact ⟨s, run, returned,
    (migrates_safely Migration.name (fresh_start _) run).complete returned⟩

/-- Two processes that start together: both read that nothing is applied, and
the second finds `app_state` in its transaction. -/
theorem starters_collide : ¬MigratesSafely Migration.name fun _ _ => True := by
  have trace : (((system Migration.name).exec fresh
      ([.start 0, .start 1] ++ steps 0 2 ++ steps 1 2 ++ steps 0 1 ++ steps 1 1)).any fun s =>
      decide (s.calls.lookup 1 =
        some (.thrown (.sqlite "table app_state already exists")))) = true := by
    decide +kernel
  obtain ⟨s, exec, thrown⟩ := (Option.any_eq_true _ _).mp trace
  rw [decide_eq_true_eq] at thrown
  intro safe
  exact (safe (fresh_start _) (System.run_of_exec exec)).unthrown thrown _ rfl

end Example

end Migrating

end WhatsappBot
