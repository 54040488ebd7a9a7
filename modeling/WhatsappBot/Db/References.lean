import WhatsappBot.Db.Operations
import WhatsappBot.Lib.Transition
import WhatsappBot.Messaging.Idempotency

/-!
# References to destinations

What a reference names: a JID, which has an `@`, or an alias in any case, which
has none. The unique index on aliases ignores case as the lookup does, so a
reference names one row at most, and an alias goes from one row to another only
through its own removal.
-/

namespace WhatsappBot

open Lib.Relational Lib.Transition

/-- The two columns that `resolve` compares with a reference. -/
def Destination.Named (d : Destination) (reference : String) : Prop :=
  d.jid = reference ∨ d.aliasMatches reference = true

namespace DestinationRepository

variable {db db' : Database} {a b d : Destination} {reference : String}

theorem aliasMatches_iff :
    d.aliasMatches reference = true ↔
      ∃ name, d.aliasName = some name ∧ nocase name.text = nocase reference := by
  unfold Destination.aliasMatches
  cases d.aliasName with
  | none => simp only [Bool.false_eq_true, reduceCtorEq, false_and, exists_false]
  | some name => simp only [decide_eq_true_eq, Option.some.injEq, exists_eq_left']

/-- An alias matches no text with an `@`. -/
theorem not_aliasMatches_of_at (h : '@' ∈ reference.toList) : d.aliasMatches reference = false := by
  rw [← Bool.not_eq_true, aliasMatches_iff]
  rintro ⟨name, -, same⟩
  apply name.no_at
  rw [same, nocase]
  exact List.mem_map.mpr ⟨'@', h, by decide⟩

/-- Two rows with one alias are one row. -/
theorem eq_of_alias_eq (ha : a ∈ db.destinations.rows) (hb : b ∈ db.destinations.rows)
    (matchesA : a.aliasMatches reference = true) (matchesB : b.aliasMatches reference = true) :
    a = b := by
  by_contra distinct
  obtain ⟨nameA, aliasA, sameA⟩ := aliasMatches_iff.mp matchesA
  obtain ⟨nameB, aliasB, sameB⟩ := aliasMatches_iff.mp matchesB
  have clash {c d : Destination} (compatible : c.Compatible d) {nameC nameD : Alias}
      (aliasC : c.aliasName = some nameC) (aliasD : d.aliasName = some nameD)
      (same : nocase nameC.text = nocase nameD.text) : False := by
    have apart := compatible.2
    rw [Destination.sameAlias, aliasD] at apart
    rw [← Bool.not_eq_true, aliasMatches_iff] at apart
    exact apart ⟨nameC, aliasC, same⟩
  rcases db.destinations.apart ha hb distinct with compatible | compatible
  · exact clash compatible aliasA aliasB (sameA.trans sameB.symm)
  · exact clash compatible aliasB aliasA (sameB.trans sameA.symm)

/-- **A reference names one row at most.** -/
theorem eq_of_named (ha : a ∈ db.destinations.rows) (hb : b ∈ db.destinations.rows)
    (namedA : a.Named reference) (namedB : b.Named reference) : a = b := by
  rcases namedA with jidA | aliasA <;> rcases namedB with jidB | aliasB
  · have known := Database.destination?_of_mem ha
    rw [jidA, ← jidB, Database.destination?_of_mem hb] at known
    exact (Option.some.inj known).symm
  · rw [not_aliasMatches_of_at (jidA ▸ a.normalized)] at aliasB
    cases aliasB
  · rw [not_aliasMatches_of_at (jidB ▸ b.normalized)] at aliasA
    cases aliasA
  · exact eq_of_alias_eq ha hb aliasA aliasB

theorem resolve_eq_some_iff :
    resolve db reference = some d ↔ d ∈ db.destinations.rows ∧ d.Named reference := by
  constructor
  · intro found
    have named := List.find?_some found
    rw [Bool.or_eq_true, decide_eq_true_eq] at named
    exact ⟨List.mem_of_find?_eq_some found, named⟩
  · rintro ⟨mem, named⟩
    cases found : resolve db reference with
    | none =>
      have missed := List.find?_eq_none.mp found d mem
      rw [Bool.or_eq_true, decide_eq_true_eq] at missed
      exact absurd named missed
    | some other =>
      have named' := List.find?_some found
      rw [Bool.or_eq_true, decide_eq_true_eq] at named'
      rw [eq_of_named (List.mem_of_find?_eq_some found) mem named' named]

theorem resolve_eq_none_iff :
    resolve db reference = none ↔ ∀ d ∈ db.destinations.rows, ¬d.Named reference := by
  rw [Option.eq_none_iff_forall_ne_some]
  constructor
  · intro none_found d mem named
    exact none_found d (resolve_eq_some_iff.mpr ⟨mem, named⟩)
  · intro unnamed d found
    obtain ⟨mem, named⟩ := resolve_eq_some_iff.mp found
    exact unnamed d mem named

/-! ## `setAlias` -/

/-- `alias?.trim() || null`, and the check of the pattern. -/
def normalizedAlias (aliasName : Option String) : Except AppError (Option Alias) :=
  match (aliasName.map trim).filter fun text => text ≠ "" with
  | none => .ok none
  | some text =>
    if accepted : isAliasText text then .ok (some ⟨text, accepted⟩)
    else .error (.error "Alias must contain only letters, numbers, dot, underscore, or hyphen")

/-- `setAlias` before its transaction: the row and the alias it gets. -/
def aliasWrite (db : Database) (reference : String) (aliasName : Option String) :
    Except AppError (String × Option Alias) :=
  match resolve db reference with
  | none => .error (.notFound ("Unknown destination: " ++ reference))
  | some destination => (normalizedAlias aliasName).map fun name => (destination.jid, name)

/-- A call of `setAlias`: `before` is what its first read sees, `db` what its
transaction does. The database comes with the result, whichever that is. -/
def setAliasCall (before db : Database) (reference : String) (aliasName : Option String)
    (actor : String) (now : Timestamp) : Except AppError Destination × Database :=
  match aliasWrite before reference aliasName with
  | .error error => (.error error, db)
  | .ok (jid, name) =>
    match setAlias db jid name actor now with
    | .error error => (.error error, db)
    | .ok updated =>
      match resolve updated jid with
      | none => (.error (.error "Destination disappeared after alias update"), updated)
      | some destination => (.ok destination, updated)

theorem updateDestination_rows {jid : String} {f : Destination → Destination}
    (h : db.updateDestination jid f = .ok db') :
    db'.destinations.rows = updateWhere (fun d => d.jid = jid) f db.destinations.rows := by
  unfold Database.updateDestination at h
  split at h
  · next destinations updated =>
    cases h
    exact Table.replace_eq_some.mp updated
  · cases h

theorem setAlias_rows {jid : String} {name : Option Alias} {actor : String} {now : Timestamp}
    (h : setAlias db jid name actor now = .ok db') :
    db'.destinations.rows = updateWhere (fun d => d.jid = jid)
      (fun d => { d with aliasName := name, updatedAt := now }) db.destinations.rows := by
  unfold setAlias at h
  cases updated : db.updateDestination jid fun d => { d with aliasName := name, updatedAt := now }
    with
  | error e =>
    rw [updated] at h
    cases h
  | ok after =>
    rw [updated] at h
    cases h
    have rows := updateDestination_rows updated
    exact rows

/-- Whether a row holds an alias, in any case. -/
def HeldByOther (db : Database) (jid aliasName : String) : Prop :=
  ∃ d ∈ db.destinations.rows, d.jid ≠ jid ∧ d.aliasMatches aliasName = true

/-- What a call of `setAlias` promises that sees `before` and then `db`. -/
structure Renames (before db : Database) (reference : String) (aliasName : Option String)
    (result : Except AppError Destination) (after : Database) : Prop where
  /-- The destination is the one that the reference named. -/
  target : ∀ d, result = .ok d → ∃ old, resolve before reference = some old ∧ old.jid = d.jid
  /-- The JID and every case of the alias resolve to it. -/
  named : ∀ d, result = .ok d → resolve after d.jid = some d ∧ ∀ text, aliasName = some text →
    trim text ≠ "" → ∀ spelling, nocase spelling = nocase (trim text) →
      resolve after spelling = some d
  /-- Its former alias resolves to nothing, but for a case of the new one. -/
  former : ∀ d, result = .ok d → ∀ old ∈ db.destinations.rows, old.jid = d.jid →
    ∀ name, old.aliasName = some name →
      (∀ text, aliasName = some text → nocase name.text ≠ nocase (trim text)) →
      ∀ spelling, nocase spelling = nocase name.text → resolve after spelling = none
  /-- A malformed alias, or one of another row, fails and changes nothing. -/
  refused : ∀ text, aliasName = some text → trim text ≠ "" →
    (isAliasText (trim text) = false ∨
      ∀ old, resolve before reference = some old → HeldByOther db old.jid (trim text)) →
    (∃ error, result = .error error) ∧ after = db

/-- Nothing but `alias` and `enabled` may change, of the rows that are there. -/
def KeepsNames (db db' : Database) : Prop :=
  ∀ d ∈ db.destinations.rows, ∃ d' ∈ db'.destinations.rows,
    d'.jid = d.jid ∧ d'.aliasName = d.aliasName ∧ d'.enabled = d.enabled

theorem normalizedAlias_some {aliasName : Option String} {name : Alias}
    (h : normalizedAlias aliasName = .ok (some name)) :
    ∃ text, aliasName = some text ∧ name.text = trim text := by
  unfold normalizedAlias at h
  split at h
  · cases h
  · next text given =>
    split at h
    · cases h
      obtain ⟨given, -⟩ := Option.filter_eq_some_iff.mp given
      obtain ⟨text, rfl, rfl⟩ := Option.map_eq_some_iff.mp given
      exact ⟨text, rfl, rfl⟩
    · cases h

theorem normalizedAlias_text {text : String} (filled : trim text ≠ "") :
    (∃ name : Alias, normalizedAlias (some text) = .ok (some name) ∧ name.text = trim text) ∨
      isAliasText (trim text) = false ∧ ∃ error, normalizedAlias (some text) = .error error := by
  have given : ((some text).map trim).filter (fun text => decide (text ≠ "")) =
      some (trim text) := by
    rw [Option.map_some, Option.filter_some, if_pos (decide_eq_true filled)]
  unfold normalizedAlias
  rw [given]
  dsimp only
  split
  · exact Or.inl ⟨_, rfl, rfl⟩
  · next refused => exact Or.inr ⟨(Bool.not_eq_true _).mp refused, _, rfl⟩

/-- A call of `setAlias` that succeeds. -/
theorem setAliasCall_ok {before : Database} {aliasName : Option String} {actor : String}
    {now : Timestamp} {d : Destination}
    (h : (setAliasCall before db reference aliasName actor now).1 = .ok d) :
    ∃ old name updated, resolve before reference = some old ∧
      normalizedAlias aliasName = .ok name ∧ setAlias db old.jid name actor now = .ok updated ∧
      resolve updated old.jid = some d ∧
      (setAliasCall before db reference aliasName actor now).2 = updated := by
  unfold setAliasCall aliasWrite at h ⊢
  cases found : resolve before reference with
  | none =>
    rw [found] at h
    cases h
  | some old =>
    cases normal : normalizedAlias aliasName with
    | error error =>
      rw [found, normal] at h
      cases h
    | ok name =>
      rw [found, normal] at h
      simp only [Except.map] at h ⊢
      cases wrote : setAlias db old.jid name actor now with
      | error error =>
        rw [wrote] at h
        cases h
      | ok updated =>
        rw [wrote] at h
        dsimp only at h ⊢
        cases left : resolve updated old.jid with
        | none =>
          rw [left] at h
          cases h
        | some d' =>
          rw [left] at h
          cases h
          exact ⟨old, name, updated, rfl, rfl, wrote, left, rfl⟩

/-- The rows after the transaction of `setAlias`. -/
theorem setAlias_row {jid : String} {name : Option Alias} {actor : String} {now : Timestamp}
    (h : setAlias db jid name actor now = .ok db') (mem : d ∈ db'.destinations.rows) :
    (d.jid = jid ∧ d.aliasName = name) ∨ (d.jid ≠ jid ∧ d ∈ db.destinations.rows) := by
  rw [setAlias_rows h] at mem
  obtain ⟨old, inOld, rfl⟩ := List.mem_map.mp mem
  by_cases same : old.jid = jid
  · rw [if_pos (decide_eq_true same)]
    exact Or.inl ⟨same, rfl⟩
  · rw [if_neg (mt of_decide_eq_true same)]
    exact Or.inr ⟨same, inOld⟩

theorem mem_setAlias {jid : String} {name : Option Alias} {actor : String} {now : Timestamp}
    (h : setAlias db jid name actor now = .ok db') (mem : d ∈ db.destinations.rows) :
    (if d.jid = jid then { d with aliasName := name, updatedAt := now } else d) ∈
      db'.destinations.rows := by
  rw [setAlias_rows h]
  refine List.mem_map.mpr ⟨d, mem, ?_⟩
  simp only [decide_eq_true_eq]

theorem jid_eq_of_resolve {jid : String} (normalized : '@' ∈ jid.toList)
    (h : resolve db jid = some d) : d ∈ db.destinations.rows ∧ d.jid = jid := by
  obtain ⟨mem, same | matched⟩ := resolve_eq_some_iff.mp h
  · exact ⟨mem, same⟩
  · rw [not_aliasMatches_of_at normalized] at matched
    cases matched

theorem at_of_nocase {a b : String} (h : '@' ∈ a.toList) (same : nocase a = nocase b) :
    '@' ∈ nocase b := by
  rw [← same, nocase]
  exact List.mem_map.mpr ⟨'@', h, by decide⟩

/-- **What a call of `setAlias` does**, when no row has gone since its read. -/
theorem renames {before : Database} (reference : String) (aliasName : Option String)
    (actor : String) (now : Timestamp) (persists : ∀ d ∈ before.destinations.rows,
      ∃ d' ∈ db.destinations.rows, d'.jid = d.jid) :
    Renames before db reference aliasName (setAliasCall before db reference aliasName actor now).1
      (setAliasCall before db reference aliasName actor now).2 := by
  refine ⟨fun d ok => ?_, fun d ok => ?_, fun d ok old mem same name given other spelling cased => ?_,
    fun text given filled refused => ?_⟩
  · obtain ⟨old, name, updated, found, -, -, left, -⟩ := setAliasCall_ok ok
    exact ⟨old, found, (jid_eq_of_resolve old.normalized left).2.symm⟩
  · obtain ⟨old, name, updated, -, normal, wrote, left, after⟩ := setAliasCall_ok ok
    obtain ⟨mem, same⟩ := jid_eq_of_resolve old.normalized left
    rw [after, same]
    refine ⟨left, fun text given filled spelling cased => ?_⟩
    rw [given] at normal
    rcases normalizedAlias_text filled with ⟨name', normal', text'⟩ | ⟨-, error, failed⟩
    · cases normal.symm.trans normal'
      rcases setAlias_row wrote mem with ⟨-, named⟩ | ⟨apart, -⟩
      · refine resolve_eq_some_iff.mpr ⟨mem, Or.inr (aliasMatches_iff.mpr ⟨name', named, ?_⟩)⟩
        rw [text', cased]
      · exact absurd same apart
    · cases normal.symm.trans failed
  · obtain ⟨target, written, updated, -, normal, wrote, left, after⟩ := setAliasCall_ok ok
    have jid := (jid_eq_of_resolve target.normalized left).2
    rw [after, resolve_eq_none_iff]
    rintro row inRows (isJid | matched)
    · exact name.no_at (at_of_nocase (isJid ▸ row.normalized) cased)
    · obtain ⟨name', named, text'⟩ := aliasMatches_iff.mp matched
      rcases setAlias_row wrote inRows with ⟨-, new⟩ | ⟨apart, inOld⟩
      · rw [← new, named] at normal
        obtain ⟨text, given', trimmed⟩ := normalizedAlias_some normal
        apply other text given'
        rw [← trimmed, text', cased]
      · have held : old.aliasMatches spelling = true :=
          aliasMatches_iff.mpr ⟨name, given, cased.symm⟩
        rw [eq_of_alias_eq inOld mem matched held] at apart
        exact apart (same.trans jid)
  · subst given
    unfold setAliasCall aliasWrite
    cases found : resolve before reference with
    | none => exact ⟨⟨_, rfl⟩, rfl⟩
    | some old =>
      rcases normalizedAlias_text filled with ⟨name, normal, text'⟩ | ⟨-, error, failed⟩
      · rw [normal]
        simp only [Except.map]
        cases wrote : setAlias db old.jid (some name) actor now with
        | error error => exact ⟨⟨_, rfl⟩, rfl⟩
        | ok updated =>
          exfalso
          rcases refused with malformed | held
          · rw [← text', name.accepted] at malformed
            cases malformed
          · obtain ⟨row, inRows, apart, matched⟩ := held old found
            obtain ⟨target, inTarget, same⟩ :=
              persists old (resolve_eq_some_iff.mp found).1
            have kept := mem_setAlias wrote inRows
            have written := mem_setAlias wrote inTarget
            rw [if_neg apart] at kept
            rw [if_pos same] at written
            have claimed := eq_of_alias_eq written kept
              (aliasMatches_iff.mpr ⟨name, rfl, congrArg nocase text'⟩) matched
            rw [← claimed] at apart
            exact apart same
      · rw [failed]
        exact ⟨⟨_, rfl⟩, rfl⟩

/-! ## `synchronize` -/

theorem KeepsNames.trans {a b c : Database} (h : KeepsNames a b) (h' : KeepsNames b c) :
    KeepsNames a c := by
  intro d mem
  obtain ⟨d₁, mem₁, jid₁, alias₁, enabled₁⟩ := h d mem
  obtain ⟨d₂, mem₂, jid₂, alias₂, enabled₂⟩ := h' d₁ mem₁
  exact ⟨d₂, mem₂, jid₂.trans jid₁, alias₂.trans alias₁, enabled₂.trans enabled₁⟩

theorem upsert_keepsNames {now : Timestamp} {item : DiscoveredDestination}
    (h : upsert now db item = .ok db') : KeepsNames db db' := by
  intro d mem
  unfold upsert at h
  split at h
  · refine ⟨if d.jid = item.jid then refreshRow item now d else d, ?_, ?_⟩
    · rw [updateDestination_rows h]
      refine List.mem_map.mpr ⟨d, mem, ?_⟩
      simp only [decide_eq_true_eq]
    · split <;> exact ⟨rfl, rfl, rfl⟩
  · split at h
    · next destinations inserted =>
      cases h
      have rows := Table.replace_eq_some.mp inserted
      refine ⟨d, ?_, rfl, rfl, rfl⟩
      change d ∈ destinations.rows
      rw [rows]
      exact List.mem_append_left _ mem
    · cases h

theorem foldlM_keepsNames {now : Timestamp} {items : List DiscoveredDestination}
    (h : items.foldlM (upsert now) db = .ok db') : KeepsNames db db' := by
  induction items generalizing db with
  | nil =>
    cases h
    exact fun d mem => ⟨d, mem, rfl, rfl, rfl⟩
  | cons item items ih =>
    rw [List.foldlM_cons] at h
    cases first : upsert now db item with
    | error e =>
      rw [first] at h
      cases h
    | ok next =>
      rw [first] at h
      exact (upsert_keepsNames first).trans (ih h)

/-- **`synchronize` changes neither an alias nor an `enabled`.** -/
theorem synchronize_keepsNames {items : List DiscoveredDestination} {actor : String}
    {now : Timestamp} {n : Nat} (h : synchronize db items actor now = .ok (n, db')) :
    KeepsNames db db' := by
  unfold synchronize at h
  cases refresh : items.foldlM (upsert now) db with
  | error e =>
    rw [refresh] at h
    cases h
  | ok refreshed =>
    rw [refresh] at h
    cases updated : refreshed.updateJobs (unsentWhere (unsendable refreshed))
        (QueueJob.cancelUnsent "Destination no longer allows sending" now) with
    | error e =>
      simp only [bind, Except.bind, updated] at h
      cases h
    | ok after =>
      simp only [bind, Except.bind, updated, pure, Except.pure, Except.ok.injEq,
        Prod.mk.injEq] at h
      have same : db'.destinations = refreshed.destinations := by
        rw [← h.2, Database.insertAudit_destinations]
        exact (Database.updateJobs_ok updated).destinations
      rw [KeepsNames, same]
      exact foldlM_keepsNames refresh

/-! ## Runs -/

/-- The transactions of the methods that write destinations; the JIDs are those
that their first reads returned. -/
inductive Write where
  | synchronize (items : List DiscoveredDestination) (actor : String) (now : Timestamp)
  | setEnabled (jid : String) (enabled : Bool) (actor : String) (now : Timestamp)
  | setAlias (jid : String) (name : Option Alias) (actor : String) (now : Timestamp)
  | setCanSend (jid : String) (canSend : Bool) (now : Timestamp)

def Write.op : Write → Op
  | synchronize items actor now => .synchronize items actor now
  | setEnabled jid enabled actor now => .setEnabled jid enabled actor now
  | setAlias jid name actor now => .setAlias jid name actor now
  | setCanSend jid canSend now => .setCanSend jid canSend now

/-- A transaction that throws is rolled back. -/
def writes : System Database Write where
  step db w :=
    match w.op.run db with
    | .ok (_, db') => some db'
    | .error _ => some db

/-- No row of `destinations` ever goes away. -/
theorem persists_of_run {ws : List Write} (run : writes.Run db ws db') :
    ∀ d ∈ db.destinations.rows, ∃ d' ∈ db'.destinations.rows, d'.jid = d.jid := by
  induction run with
  | nil => exact fun d mem => ⟨d, mem, rfl⟩
  | cons _ step _ ih =>
    intro d mem
    unfold writes at step
    dsimp only at step
    split at step
    · next ran =>
      cases step
      obtain ⟨d₁, mem₁, same₁⟩ := (Op.run_effect ran).allowlist.persists d mem
      obtain ⟨d₂, mem₂, same₂⟩ := ih d₁ mem₁
      exact ⟨d₂, mem₂, same₂.trans same₁⟩
    · cases step
      exact ih d mem

/-- What references promise of a state, and of the calls that read it. -/
structure ReferencesSound (db : Database) : Prop where
  unique : ∀ reference, ∀ a ∈ db.destinations.rows, ∀ b ∈ db.destinations.rows,
    a.Named reference → b.Named reference → a = b
  renames : ∀ {ws : List Write} {later : Database}, writes.Run db ws later →
    ∀ reference aliasName actor now, Renames db later reference aliasName
      (setAliasCall db later reference aliasName actor now).1
      (setAliasCall db later reference aliasName actor now).2
  synchronizes : ∀ items actor now n after,
    synchronize db items actor now = .ok (n, after) → KeepsNames db after

/-- **References to destinations are unambiguous in every state.** -/
theorem references_unambiguous (db : Database) : ReferencesSound db where
  unique := fun _ _ ha _ hb namedA namedB => eq_of_named ha hb namedA namedB
  renames := fun run reference aliasName actor now =>
    renames reference aliasName actor now (persists_of_run run)
  synchronizes := fun _ _ _ _ _ => synchronize_keepsNames

section Example

def discovered : DiscoveredDestination where
  jid := "120363049876543210@g.us"
  normalized := by decide
  subject := "Team"

def discovery : Date := ⟨1795000000000, by omega⟩

/-- A blank alias removes the alias, and its trimmed form names nothing. -/
theorem blank_alias_names_nothing : ∃ db d,
    writes.Run Database.empty [.synchronize [discovered] "cli" discovery.toISOString] db ∧
      (setAliasCall db db discovered.jid (some " ") "cli" discovery.toISOString).1 = .ok d ∧
      ¬∀ spelling, nocase spelling = nocase (trim " ") → resolve
        (setAliasCall db db discovered.jid (some " ") "cli" discovery.toISOString).2 spelling =
          some d := by
  have trace : ((writes.exec Database.empty
      [.synchronize [discovered] "cli" discovery.toISOString]).any fun db =>
        (setAliasCall db db discovered.jid (some " ") "cli" discovery.toISOString).1.toOption.isSome &&
        decide (resolve
          (setAliasCall db db discovered.jid (some " ") "cli" discovery.toISOString).2 "" = none)) =
      true := by
    decide +kernel
  obtain ⟨db, exec, found⟩ := (Option.any_eq_true _ _).mp trace
  rw [Bool.and_eq_true, decide_eq_true_eq] at found
  cases result : (setAliasCall db db discovered.jid (some " ") "cli" discovery.toISOString).1 with
  | error error =>
    rw [result] at found
    cases found.1
  | ok d =>
    refine ⟨db, d, System.run_of_exec exec, result, fun named => ?_⟩
    cases found.2.symm.trans (named "" (by decide +kernel))

end Example

end DestinationRepository

end WhatsappBot
