import WhatsappBot.Domain.Time
import WhatsappBot.Lib.Relational
import Mathlib.Data.List.Nodup

/-!
# Migrations

`src/db/migrations/index.ts` and `Database.migrate` of `src/db/database.ts`.
A schema is what `sqlite_master` lists: tables with the text of their columns
and constraints, and indexes. Of the rows only the keys of active jobs matter,
which the unique index of the second migration is built over.
-/

namespace WhatsappBot

/-! ## Schemas -/

structure Column where
  name : String
  definition : String
deriving DecidableEq, Repr

structure TableSchema where
  name : String
  columns : List Column
  constraints : List String
deriving DecidableEq, Repr

structure IndexSchema where
  name : String
  table : String
  columns : List String
  unique : Bool
  condition : Option String
deriving DecidableEq, Repr

structure Schema where
  tables : List TableSchema
  indexes : List IndexSchema
deriving DecidableEq, Repr

namespace Schema

def empty : Schema := ⟨[], []⟩

def table? (schema : Schema) (name : String) : Option TableSchema :=
  schema.tables.find? fun table => table.name = name

def hasIndex (schema : Schema) (name : String) : Bool :=
  schema.indexes.any fun index => index.name = name

end Schema

/-! ## Statements -/

/-- A statement of a migration. -/
inductive Statement where
  | createTable (table : TableSchema)
  | createIndex (index : IndexSchema)
  | addColumn (table : String) (column : Column)
deriving DecidableEq, Repr

/-- `CREATE TABLE name (…)`. -/
def createTable (name : String) (columns : List (String × String))
    (constraints : List String) : Statement :=
  .createTable ⟨name, columns.map fun (column, definition) => ⟨column, definition⟩, constraints⟩

/-- `CREATE INDEX name ON table(…)`. -/
def createIndex (name table : String) (columns : List String) : Statement :=
  .createIndex ⟨name, table, columns, false, none⟩

namespace Statement

/-- With which message a statement fails, if it does; `duplicates` says that
two active jobs share their idempotency key. -/
def failure (duplicates : Bool) (schema : Schema) : Statement → Option String
  | .createTable table =>
    if (schema.table? table.name).isSome then some ("table " ++ table.name ++ " already exists")
    else if schema.hasIndex table.name then
      some ("there is already an index named " ++ table.name)
    else none
  | .createIndex index =>
    match schema.table? index.table with
    | none => some ("no such table: main." ++ index.table)
    | some table =>
      if (schema.table? index.name).isSome then
        some ("there is already a table named " ++ index.name)
      else if schema.hasIndex index.name then some ("index " ++ index.name ++ " already exists")
      else match index.columns.find? fun name => !table.columns.any (·.name = name) with
        | some name => some ("no such column: " ++ name)
        | none =>
          if index.unique && duplicates then
            some ("UNIQUE constraint failed: " ++
              ", ".intercalate (index.columns.map fun name => index.table ++ "." ++ name))
          else none
  | .addColumn name column =>
    match schema.table? name with
    | none => some ("no such table: " ++ name)
    | some table =>
      if table.columns.any fun old => old.name = column.name then
        some ("duplicate column name: " ++ column.name)
      else none

/-- What a statement makes of a schema when it does not fail. -/
def apply (schema : Schema) : Statement → Schema
  | .createTable table => { schema with tables := schema.tables ++ [table] }
  | .createIndex index => { schema with indexes := schema.indexes ++ [index] }
  | .addColumn name column =>
    { schema with
      tables := schema.tables.map fun table =>
        if table.name = name then { table with columns := table.columns ++ [column] } else table }

/-- `db.exec(sql)` on an open transaction. -/
def exec (duplicates : Bool) (schema : Schema) : List Statement → Except String Schema
  | [] => .ok schema
  | statement :: rest =>
    match statement.failure duplicates schema with
    | some message => .error message
    | none => exec duplicates (statement.apply schema) rest

end Statement

/-! ## The migrations -/

structure Migration where
  version : Nat
  name : String
  sql : List Statement
deriving DecidableEq, Repr

/-- The status list of the partial index, as the SQL spells it. -/
def activeCondition : String :=
  "status IN ('PENDING','SCHEDULED','PROCESSING','WAITING_RATE_LIMIT','RETRY','SENT','DRY_RUN')"

def initialSchema : Migration where
  version := 1
  name := "initial_schema"
  sql :=
    [createTable "app_state"
      [("key", "TEXT PRIMARY KEY"), ("value", "TEXT"), ("updated_at", "TEXT NOT NULL")] [],
    createTable "destinations"
      [("jid", "TEXT PRIMARY KEY"), ("subject", "TEXT NOT NULL"), ("description", "TEXT"),
        ("owner_jid", "TEXT"), ("participant_count", "INTEGER"), ("addressing_mode", "TEXT"),
        ("alias", "TEXT UNIQUE COLLATE NOCASE"),
        ("enabled", "INTEGER NOT NULL DEFAULT 0 CHECK (enabled IN (0, 1))"),
        ("can_send", "INTEGER NOT NULL DEFAULT 1 CHECK (can_send IN (0, 1))"),
        ("created_at", "TEXT NOT NULL"), ("updated_at", "TEXT NOT NULL"),
        ("last_refreshed_at", "TEXT NOT NULL")] [],
    createTable "media_assets"
      [("hash", "TEXT PRIMARY KEY"), ("path", "TEXT NOT NULL UNIQUE"),
        ("byte_size", "INTEGER NOT NULL CHECK (byte_size >= 0)"), ("mime_type", "TEXT"),
        ("created_at", "TEXT NOT NULL")] [],
    createTable "message_jobs"
      [("id", "INTEGER PRIMARY KEY AUTOINCREMENT"), ("uuid", "TEXT NOT NULL UNIQUE"),
        ("destination_jid", "TEXT NOT NULL REFERENCES destinations(jid)"),
        ("payload_type",
          "TEXT NOT NULL CHECK (payload_type IN ('text','image','video','document','audio'))"),
        ("text", "TEXT"), ("media_path", "TEXT"),
        ("media_hash", "TEXT REFERENCES media_assets(hash)"), ("media_mime", "TEXT"),
        ("filename", "TEXT"), ("scheduled_at", "TEXT NOT NULL"),
        ("status", "TEXT NOT NULL CHECK (status IN ('PENDING','SCHEDULED','PROCESSING'," ++
          "'WAITING_RATE_LIMIT','RETRY','SENT','FAILED','CANCELLED','REVIEW_REQUIRED','DRY_RUN'))"),
        ("attempt_count", "INTEGER NOT NULL DEFAULT 0 CHECK (attempt_count >= 0)"),
        ("max_attempts", "INTEGER NOT NULL CHECK (max_attempts > 0)"),
        ("next_attempt_at", "TEXT"), ("last_error_class", "TEXT"), ("last_error_message", "TEXT"),
        ("idempotency_key", "TEXT NOT NULL"),
        ("options_json", "TEXT NOT NULL DEFAULT '\x7b\x7d'"), ("requested_by", "TEXT NOT NULL"),
        ("created_at", "TEXT NOT NULL"), ("updated_at", "TEXT NOT NULL"), ("started_at", "TEXT"),
        ("sent_at", "TEXT"), ("remote_message_id", "TEXT")] [],
    createTable "audit_events"
      [("id", "INTEGER PRIMARY KEY AUTOINCREMENT"), ("event_type", "TEXT NOT NULL"),
        ("actor", "TEXT NOT NULL"), ("entity_type", "TEXT"), ("entity_id", "TEXT"),
        ("details_json", "TEXT"), ("created_at", "TEXT NOT NULL")] [],
    createTable "wa_auth_creds"
      [("singleton", "INTEGER PRIMARY KEY CHECK (singleton = 1)"), ("value_json", "TEXT NOT NULL"),
        ("updated_at", "TEXT NOT NULL")] [],
    createTable "wa_auth_keys"
      [("category", "TEXT NOT NULL"), ("key_id", "TEXT NOT NULL"), ("value_json", "TEXT NOT NULL"),
        ("updated_at", "TEXT NOT NULL")] ["PRIMARY KEY (category, key_id)"],
    createTable "controller_messages"
      [("message_id", "TEXT PRIMARY KEY"), ("received_at", "TEXT NOT NULL"),
        ("command_hash", "TEXT NOT NULL")] []]

def queueIndexes : Migration where
  version := 2
  name := "queue_indexes"
  sql :=
    [createIndex "ix_jobs_status_due" "message_jobs" ["status", "next_attempt_at", "scheduled_at"],
    createIndex "ix_jobs_destination" "message_jobs" ["destination_jid"],
    createIndex "ix_audit_created" "audit_events" ["created_at"],
    .createIndex
      { name := "uq_jobs_active_idempotency"
        table := "message_jobs"
        columns := ["idempotency_key"]
        unique := true
        condition := some activeCondition }]

def groupSetsAndMessageBatches : Migration where
  version := 3
  name := "group_sets_and_message_batches"
  sql :=
    [createTable "group_sets"
      [("id", "INTEGER PRIMARY KEY AUTOINCREMENT"), ("name", "TEXT NOT NULL COLLATE NOCASE UNIQUE"),
        ("created_at", "TEXT NOT NULL"), ("updated_at", "TEXT NOT NULL")] [],
    createTable "group_set_members"
      [("group_set_id", "INTEGER NOT NULL REFERENCES group_sets(id) ON DELETE CASCADE"),
        ("destination_jid", "TEXT NOT NULL"), ("created_at", "TEXT NOT NULL")]
      ["UNIQUE(group_set_id, destination_jid)"],
    createIndex "ix_group_set_members_destination" "group_set_members" ["destination_jid"],
    createTable "message_batches"
      [("id", "TEXT PRIMARY KEY"),
        ("type", "TEXT NOT NULL CHECK (type IN ('sendall','sendmulti','sendset'))"),
        ("target_count", "INTEGER NOT NULL CHECK (target_count >= 0)"),
        ("created_at", "TEXT NOT NULL")] [],
    .addColumn "message_jobs"
      ⟨"batch_id", "TEXT REFERENCES message_batches(id) ON DELETE SET NULL"⟩,
    createIndex "ix_jobs_batch" "message_jobs" ["batch_id"]]

def persistJobDryRunIntent : Migration where
  version := 4
  name := "persist_job_dry_run_intent"
  sql := [.addColumn "message_jobs"
    ⟨"dry_run", "INTEGER NOT NULL DEFAULT 0 CHECK (dry_run IN (0, 1))"⟩]

def forwardSources : Migration where
  version := 5
  name := "forward_sources"
  sql :=
    [createTable "forward_sources"
      [("source_key", "TEXT PRIMARY KEY"), ("payload", "BLOB NOT NULL"),
        ("content_type", "TEXT NOT NULL"), ("received_at", "TEXT NOT NULL"), ("expires_at", "TEXT")]
      [],
    .addColumn "message_jobs" ⟨"forward_source_key", "TEXT"⟩,
    createIndex "ix_jobs_forward_source" "message_jobs" ["forward_source_key"]]

def migrations : List Migration :=
  [initialSchema, queueIndexes, groupSetsAndMessageBatches, persistJobDryRunIntent, forwardSources]

/-- The schema after the first `k` migrations, each once and in order. -/
def schemaAfter (k : Nat) : Schema :=
  (migrations.take k).foldl (fun schema m => m.sql.foldl Statement.apply schema) Schema.empty

/-- Whether a migration builds a unique index over rows that are there. -/
def Migration.indexesUniquely (m : Migration) : Bool :=
  m.sql.any fun
    | .createIndex index => index.unique
    | _ => false

/-! ## What a migration does to the schemas on the way -/

theorem versions_nodup : (migrations.map Migration.version).Nodup := by decide

theorem eq_of_version_eq : ∀ a ∈ migrations, ∀ b ∈ migrations, a.version = b.version → a = b :=
  fun _ ha _ hb same => List.inj_on_of_nodup_map versions_nodup ha hb same

theorem eq_of_name_eq : ∀ a ∈ migrations, ∀ b ∈ migrations, a.name = b.name → a = b := by
  have distinct : (migrations.map Migration.name).Nodup := by decide
  exact fun _ ha _ hb same => List.inj_on_of_nodup_map distinct ha hb same

/-- The versions of the first `k` migrations are those before the `k`-th. -/
theorem version_mem_take {i k : Nat} {m : Migration} (position : migrations[i]? = some m) :
    m.version ∈ (migrations.take k).map Migration.version ↔ i < k := by
  constructor
  · intro h
    obtain ⟨m', hm', same⟩ := List.mem_map.mp h
    obtain ⟨j, hj, found⟩ := List.mem_take_iff_getElem.mp hm'
    have distinct : migrations.Nodup := versions_nodup.of_map _
    rw [eq_of_version_eq m' (List.mem_of_mem_take hm') m (List.mem_of_getElem? position) same]
      at found
    obtain ⟨hi, found'⟩ := List.getElem?_eq_some_iff.mp position
    have := (List.getElem_inj distinct).mp (found'.trans found.symm)
    omega
  · intro lt
    refine List.mem_map_of_mem (List.mem_take_iff_getElem.mpr ?_)
    obtain ⟨hi, found⟩ := List.getElem?_eq_some_iff.mp position
    exact ⟨i, by omega, found⟩

theorem exec_next_all : ∀ (duplicates : Bool) (k : Fin 5),
    (duplicates && migrations[k.val]?.any Migration.indexesUniquely) = false →
      (migrations[k.val]?.map fun m => (Statement.exec duplicates (schemaAfter k) m.sql).toOption) =
        some (some (schemaAfter (k + 1))) := by
  decide +kernel

theorem exec_again_all : ∀ (duplicates : Bool) (k : Fin 6) (i : Fin 5), i.val < k.val →
    (migrations[i.val]?.map fun m => (Statement.exec duplicates (schemaAfter k) m.sql).toOption) =
      some none := by
  decide +kernel

theorem exec_duplicates_all : ∀ k : Fin 5,
    migrations[k.val]?.any Migration.indexesUniquely = true →
      (migrations[k.val]?.map fun m => (Statement.exec true (schemaAfter k) m.sql).toOption) =
        some none := by
  decide +kernel

section

variable {i k : Nat} {m : Migration} {duplicates : Bool}

/-- A migration runs on the schema that the ones before it leave. -/
theorem exec_next (position : migrations[k]? = some m)
    (builds : (duplicates && m.indexesUniquely) = false) :
    Statement.exec duplicates (schemaAfter k) m.sql = .ok (schemaAfter (k + 1)) := by
  have lt : k < 5 := (List.getElem?_eq_some_iff.mp position).1
  have ran := exec_next_all duplicates ⟨k, lt⟩
    (by simpa only [position, Option.any_some] using builds)
  simp only [position, Option.map_some, Option.some.injEq] at ran
  cases result : Statement.exec duplicates (schemaAfter k) m.sql with
  | error message =>
    rw [result] at ran
    cases ran
  | ok schema =>
    rw [result] at ran
    cases ran
    rfl

/-- It fails on the schema of any later one, which has what it creates. -/
theorem exec_again (position : migrations[i]? = some m) (lt : i < k) (le : k ≤ migrations.length) :
    ∃ message, Statement.exec duplicates (schemaAfter k) m.sql = .error message := by
  have ran := exec_again_all duplicates ⟨k, Nat.lt_succ_of_le le⟩
    ⟨i, (List.getElem?_eq_some_iff.mp position).1⟩ lt
  simp only [position, Option.map_some, Option.some.injEq] at ran
  cases result : Statement.exec duplicates (schemaAfter k) m.sql with
  | error message => exact ⟨message, rfl⟩
  | ok schema =>
    rw [result] at ran
    cases ran

/-- The unique index cannot be built over duplicates. -/
theorem exec_duplicates (position : migrations[k]? = some m) (unique : m.indexesUniquely) :
    ∃ message, Statement.exec true (schemaAfter k) m.sql = .error message := by
  have ran := exec_duplicates_all ⟨k, (List.getElem?_eq_some_iff.mp position).1⟩
    (by simpa only [position, Option.any_some] using unique)
  simp only [position, Option.map_some, Option.some.injEq] at ran
  cases result : Statement.exec true (schemaAfter k) m.sql with
  | error message => exact ⟨message, rfl⟩
  | ok schema =>
    rw [result] at ran
    cases ran

end

end WhatsappBot
