import WhatsappBot.Db.AuditLog
import WhatsappBot.Db.References
import WhatsappBot.Lib.Upsert
import WhatsappBot.Whatsapp.CanonicalJid
import Mathlib.Data.List.Forall2

/-!
# The group service

`src/whatsapp/group-service.ts`. A refresh takes the metadata of every group of
the account and hands it to `synchronize`. All of it is read before anything is
written, so a group that cannot be read leaves the database as it was.
-/

namespace WhatsappBot

open Lib.Relational DestinationRepository

/-- A codec whose JIDs have their `@`. -/
structure JoiningCodec extends JidCodec where
  joins : ∀ user server, '@' ∈ (jidEncode user server).toList

/-- The functions of Baileys. -/
def JoiningCodec.baileys : JoiningCodec :=
  { JidCodec.baileys with
    joins := fun user server => by
      simp only [JidCodec.baileys, String.toList_append, List.mem_append]
      exact Or.inl (Or.inr (by decide)) }

/-- `GroupParticipant`, as far as it is read here. -/
structure GroupParticipant where
  id : String
  lid : Option String := none
  phoneNumber : Option String := none
  admin : Option String := none

/-- `GroupMetadata`, as far as it is read here. -/
structure GroupMetadata where
  id : String
  subject : String
  desc : Option String := none
  owner : Option String := none
  size : Option Nat := none
  participants : List GroupParticipant
  addressingMode : Option String := none
  announce : Option Bool := none

/-- The socket of a connection: the two JIDs of its user, and what
`groupFetchAllParticipating` answers. -/
structure GroupSocket where
  id : Option String
  lid : Option String
  groupFetchAllParticipating : Except AppError (List GroupMetadata)

namespace WhatsAppGroupService

/-- `filter((value): value is string => Boolean(value))`. -/
def truthy (values : List (Option String)) : List String := (values.filterMap id).filter (· ≠ "")

def ownJids (socket : GroupSocket) : List String := truthy [socket.id, socket.lid]

variable (codec : JoiningCodec) (socket : GroupSocket)

def isOwn (participant : GroupParticipant) : Bool :=
  (truthy [some participant.id, participant.lid, participant.phoneNumber]).any fun participantJid =>
    (ownJids socket).any fun ownJid => codec.sameJid participantJid ownJid

def ownParticipant (group : GroupMetadata) : Option GroupParticipant :=
  group.participants.find? (isOwn codec socket)

/-- `!group.announce || ownParticipant?.admin != null`. -/
def mayWrite (group : GroupMetadata) : Bool :=
  group.announce ≠ some true || ((ownParticipant codec socket group).bind (·.admin)).isSome

theorem joins_of_ok {value jid : String} (h : codec.normalizeJid value = .ok jid) :
    '@' ∈ jid.toList := by
  unfold JidCodec.normalizeJid at h
  split at h
  · cases h
  · split at h
    · cases h
    · dsimp only at h
      split at h
      · cases h
      · cases h
        exact codec.joins _ _

/-- The row of a group whose JIDs are in their normal form. -/
def discovered (group : GroupMetadata) (jid : String) (normalized : '@' ∈ jid.toList)
    (ownerJid : Option String) : DiscoveredDestination where
  jid := jid
  normalized := normalized
  subject := group.subject
  description := group.desc
  ownerJid := ownerJid
  participantCount := some (group.size.getD group.participants.length)
  addressingMode := group.addressingMode
  canSend := some (mayWrite codec socket group)

/-- `group.owner ? normalizeJid(group.owner) : null`. -/
def ownerOf (group : GroupMetadata) : Except AppError (Option String) :=
  match group.owner with
  | none => .ok none
  | some owner => if owner = "" then .ok none else (codec.normalizeJid owner).map some

def discover (group : GroupMetadata) : Except AppError DiscoveredDestination :=
  match h : codec.normalizeJid group.id with
  | .error e => .error e
  | .ok jid => (ownerOf codec group).map (discovered codec socket group jid (joins_of_ok codec h))

def refresh (socket : Option GroupSocket) (db : Database) (actor : String) (now : Timestamp) :
    Except AppError (Nat × Database) :=
  match socket with
  | none => .error (.error "WhatsApp is not connected")
  | some socket => do
    let metadata ← socket.groupFetchAllParticipating
    let discovered ← metadata.mapM (discover codec socket)
    synchronize db discovered actor now

/-! ## What `synchronize` writes -/

/-- The upsert of `synchronize`. -/
def refreshing (now : Timestamp) : Upsert Destination DiscoveredDestination String where
  key := Destination.jid
  keyOf := DiscoveredDestination.jid
  create item := newRow item now
  refresh item := refreshRow item now
  key_create _ := rfl
  key_refresh _ _ := rfl
  refresh_create {i j} same := by
    simp only [refreshRow, newRow, same]
  refresh_refresh _ _ := rfl

section

variable {db db' : Database} {now : Timestamp} {item : DiscoveredDestination}

theorem upsert_step (h : upsert now db item = .ok db') :
    (refreshing now).Step db.destinations.rows item db'.destinations.rows := by
  unfold upsert at h
  split at h
  · next listed =>
    refine .of_update ?_ (updateDestination_rows h)
    exact Option.isSome_iff_ne_none.mp listed
  · next unlisted =>
    split at h
    · next destinations inserted =>
      cases h
      exact .of_insert (Option.not_isSome_iff_eq_none.mp unlisted)
        (Table.replace_eq_some.mp inserted)
    · cases h

/-- A new row has no alias, and an old one keeps its own. -/
theorem upsert_total (now : Timestamp) (db : Database) (item : DiscoveredDestination) :
    ∃ db', upsert now db item = .ok db' := by
  unfold upsert
  split
  · exact updateDestination_total db item.jid (fun _ => rfl) fun _ => rfl
  · next unlisted =>
    have allowed : ∀ d ∈ db.destinations.rows, Destination.Compatible d (newRow item now) := by
      refine fun d mem => ⟨fun same => unlisted ?_, rfl⟩
      rw [show item.jid = d.jid from same.symm, Database.destination?_of_mem mem]
      rfl
    obtain ⟨destinations, inserted, -⟩ := db.destinations.insert_succeeds allowed
    simp only [inserted]
    exact ⟨_, rfl⟩

theorem synchronize_total (db : Database) (items : List DiscoveredDestination) (actor : String)
    (now : Timestamp) : ∃ db', synchronize db items actor now = .ok (items.length, db') := by
  obtain ⟨refreshed, folded⟩ := Upsert.foldlM_total (upsert_total now) items db
  obtain ⟨updated, cancelled⟩ := refreshed.updateJobs_total
    (p := unsentWhere (unsendable refreshed))
    (f := QueueJob.cancelUnsent "Destination no longer allows sending" now)
    (fun _ => by constructor <;> rfl) fun r _ active => by
      simp only [QueueJob.cancelUnsent] at active
      exact absurd active (by decide)
  unfold synchronize
  simp only [bind, Except.bind, folded, cancelled, pure, Except.pure]
  exact ⟨_, rfl⟩

/-- What `synchronize` makes of the tables. -/
structure Synchronized (items : List DiscoveredDestination) (actor : String) (now : Timestamp)
    (db db' : Database) : Prop where
  /-- The last item with a JID gives its row, over the row that was there. -/
  destination : ∀ jid, db'.destination? jid =
    (refreshing now).settle (db.destination? jid) (lastBy DiscoveredDestination.jid items jid)
  jobs : db'.jobs.rows = updateWhere (unsentWhere (unsendable db'))
    (QueueJob.cancelUnsent "Destination no longer allows sending" now) db.jobs.rows
  mediaAssets : db'.mediaAssets = db.mediaAssets
  batches : db'.batches = db.batches
  appState : db'.appState = db.appState
  auditEvents : db'.auditEvents = db.auditEvents ++ [Op.refreshEvent items.length actor now]

theorem unsendable_congr (same : db'.destinations = db.destinations) :
    unsendable db' = unsendable db := by
  funext job
  unfold unsendable Database.destinationSatisfies
  rw [same]

theorem synchronized {items : List DiscoveredDestination} {actor : String} {n : Nat}
    (h : synchronize db items actor now = .ok (n, db')) :
    n = items.length ∧ Synchronized items actor now db db' := by
  have log := synchronize_log h
  obtain ⟨refreshed, folded, changed⟩ := synchronize_ok h
  have same : db'.destinations = refreshed.destinations ∧ n = items.length := by
    unfold synchronize at h
    rw [folded] at h
    cases updated : refreshed.updateJobs (unsentWhere (unsendable refreshed))
        (QueueJob.cancelUnsent "Destination no longer allows sending" now) with
    | error e =>
      simp only [bind, Except.bind, updated] at h
      cases h
    | ok after =>
      simp only [bind, Except.bind, updated, pure, Except.pure, Except.ok.injEq,
        Prod.mk.injEq] at h
      rw [← h.2, ← h.1]
      exact ⟨(Database.updateJobs_ok updated).destinations, rfl⟩
  refine ⟨same.2, ?_, ?_, changed.mediaAssets, changed.batches, changed.appState, log⟩
  · intro jid
    unfold Database.destination?
    rw [same.1]
    exact (refreshing now).findBy_foldlM (fun db : Database => db.destinations.rows) upsert_step
      folded jid
  · rw [unsendable_congr same.1]
    exact changed.rows

theorem unsendable_iff {job : QueueJob} : unsendable db job = true ↔
    ∃ d, db.destination? job.destinationJid = some d ∧ d.canSend = false := by
  unfold unsendable Database.destinationSatisfies
  simp only [List.any_eq_true, Bool.and_eq_true, decide_eq_true_eq, Bool.not_eq_true']
  constructor
  · rintro ⟨d, mem, same, denied⟩
    exact ⟨d, same ▸ Database.destination?_of_mem mem, denied⟩
  · rintro ⟨d, found, denied⟩
    obtain ⟨mem, same⟩ := Database.mem_of_destination? found
    exact ⟨d, mem, same, denied⟩

/-- A job is claimed only for a destination that allows sending. -/
theorem claimable_sends {reference : Option String} {dryRunOnly : Bool} {job : QueueJob}
    (h : JobRepository.claimable db now reference dryRunOnly job = true) :
    ∃ d, db.destination? job.destinationJid = some d ∧ d.canSend = true := by
  simp only [JobRepository.claimable, Database.destinationSatisfies, Bool.and_eq_true,
    List.any_eq_true, decide_eq_true_eq] at h
  obtain ⟨⟨⟨⟨d, mem, same, -, sends⟩, -⟩, -⟩, -⟩ := h
  exact ⟨d, same ▸ Database.destination?_of_mem mem, sends⟩

end

/-! ## What a refresh comes to -/

/-- Both JIDs of a group have a normal form. -/
def Readable (group : GroupMetadata) : Prop :=
  codec.Accepts group.id ∧
    ∀ owner, group.owner = some owner → owner ≠ "" → codec.Accepts owner

/-- The last of the groups with a JID. -/
def LastWith (groups : List GroupMetadata) (jid : String) (group : GroupMetadata) : Prop :=
  ∃ before after, groups = before ++ group :: after ∧ codec.normalizeJid group.id = .ok jid ∧
    ∀ other ∈ after, codec.normalizeJid other.id ≠ .ok jid

/-- What a refresh makes of the tables. -/
structure Refreshed (groups : List GroupMetadata) (actor : String) (now : Timestamp)
    (db db' : Database) : Prop where
  /-- A listed destination has the metadata of the last group with its JID. Its
  alias, its permission and its creation stay; a new one is not allowed. -/
  listed : ∀ jid group, LastWith codec groups jid group →
    ∃ normalized owner, ownerOf codec group = .ok owner ∧
      db'.destination? jid = some ((db.destination? jid).elim
        (newRow (discovered codec socket group jid normalized owner) now)
        (refreshRow (discovered codec socket group jid normalized owner) now))
  unlisted : ∀ jid, (∀ group ∈ groups, codec.normalizeJid group.id ≠ .ok jid) →
    db'.destination? jid = db.destination? jid
  /-- The unsent jobs of the destinations that do not allow sending now. -/
  cancelled : db'.jobs.rows = db.jobs.rows.map fun job =>
    if job.status ∈ JobStatus.unsent ∧
        (db'.destination? job.destinationJid).any (fun d => !d.canSend) = true then
      job.cancelUnsent "Destination no longer allows sending" now
    else job
  mediaAssets : db'.mediaAssets = db.mediaAssets
  batches : db'.batches = db.batches
  appState : db'.appState = db.appState
  auditEvents : db'.auditEvents = db.auditEvents ++ [Op.refreshEvent groups.length actor now]

variable {codec socket} {group : GroupMetadata} {groups : List GroupMetadata}
  {item : DiscoveredDestination} {items : List DiscoveredDestination} {jid : String}

theorem discover_ok (h : discover codec socket group = .ok item) :
    ∃ normalized owner, codec.normalizeJid group.id = .ok item.jid ∧
      ownerOf codec group = .ok owner ∧
      item = discovered codec socket group item.jid normalized owner := by
  unfold discover at h
  split at h
  · cases h
  · next jid normal =>
    cases read : ownerOf codec group with
    | error e =>
      rw [read] at h
      cases h
    | ok owner =>
      rw [read] at h
      cases h
      exact ⟨joins_of_ok codec normal, owner, normal, rfl, rfl⟩

theorem ownerOf_ok_iff : (∃ owner, ownerOf codec group = .ok owner) ↔
    ∀ owner, group.owner = some owner → owner ≠ "" → codec.Accepts owner := by
  unfold ownerOf JidCodec.Accepts
  cases group.owner with
  | none => simp only [Except.ok.injEq, exists_eq', reduceCtorEq, false_implies, implies_true]
  | some owner =>
    simp only [Option.some.injEq, forall_eq']
    split
    · next empty => simp only [Except.ok.injEq, exists_eq', empty, ne_eq, not_true, false_implies]
    · next full =>
      simp only [ne_eq, full, not_false_eq_true, forall_const]
      cases codec.normalizeJid owner with
      | error e => simp only [Except.map, reduceCtorEq, exists_false]
      | ok jid => simp only [Except.map, Except.ok.injEq, exists_eq']

theorem discover_ok_iff : (∃ item, discover codec socket group = .ok item) ↔
    Readable codec group := by
  rw [Readable, ← ownerOf_ok_iff]
  constructor
  · rintro ⟨item, h⟩
    obtain ⟨-, owner, normal, read, -⟩ := discover_ok h
    exact ⟨⟨_, normal⟩, owner, read⟩
  · rintro ⟨⟨jid, normal⟩, owner, read⟩
    unfold discover
    split
    · next failed =>
      rw [normal] at failed
      cases failed
    · rw [read]
      exact ⟨_, rfl⟩

/-! ## The items of the groups -/

theorem mapM_discover :
    groups.mapM (discover codec socket) = .ok items ↔
      List.Forall₂ (fun group item => discover codec socket group = .ok item) groups items := by
  induction groups generalizing items with
  | nil =>
    rw [List.mapM_nil, List.forall₂_nil_left_iff]
    exact ⟨fun h => (Except.ok.inj h).symm, fun h => congrArg Except.ok h.symm⟩
  | cons group groups ih =>
    rw [List.mapM_cons, List.forall₂_cons_left_iff]
    cases first : discover codec socket group with
    | error e =>
      constructor
      · intro h
        cases h
      · rintro ⟨item, rest, found, -, -⟩
        cases found
    | ok item =>
      cases others : groups.mapM (discover codec socket) with
      | error e =>
        constructor
        · intro h
          cases h
        · rintro ⟨item', rest, -, found, -⟩
          rw [others] at ih
          cases ih.mpr found
      | ok rest =>
        have found := ih.mp others
        constructor
        · intro h
          cases h
          exact ⟨item, rest, rfl, found, rfl⟩
        · rintro ⟨item', rest', same, found', rfl⟩
          cases same
          rw [others] at ih
          cases ih.mpr found'
          rfl

theorem mapM_total (readable : ∀ group ∈ groups, Readable codec group) :
    ∃ items, groups.mapM (discover codec socket) = .ok items := by
  induction groups with
  | nil => exact ⟨[], rfl⟩
  | cons group groups ih =>
    obtain ⟨head, tail⟩ := List.forall_mem_cons.mp readable
    obtain ⟨item, first⟩ : ∃ item, discover codec socket group = .ok item :=
      discover_ok_iff.mpr head
    obtain ⟨items, others⟩ := ih tail
    rw [List.mapM_cons, first, others]
    exact ⟨_, rfl⟩

/-- The items of a list of groups. -/
def Discovers (codec : JoiningCodec) (socket : GroupSocket) (groups : List GroupMetadata)
    (items : List DiscoveredDestination) : Prop :=
  List.Forall₂ (fun group item => discover codec socket group = .ok item) groups items

theorem Discovers.source (discovers : Discovers codec socket groups items) (mem : item ∈ items) :
    ∃ group ∈ groups, discover codec socket group = .ok item := by
  induction discovers with
  | nil => cases mem
  | cons found _ ih =>
    rcases List.mem_cons.mp mem with rfl | mem
    · exact ⟨_, List.mem_cons_self, found⟩
    · obtain ⟨group, listed, found⟩ := ih mem
      exact ⟨group, List.mem_cons_of_mem _ listed, found⟩

theorem Discovers.split {before after : List GroupMetadata}
    (discovers : Discovers codec socket (before ++ group :: after) items) :
    ∃ items₁ item items₂, items = items₁ ++ item :: items₂ ∧
      discover codec socket group = .ok item ∧ Discovers codec socket after items₂ := by
  induction before generalizing items with
  | nil =>
    obtain ⟨item, items₂, found, tail, rfl⟩ := List.forall₂_cons_left_iff.mp discovers
    exact ⟨[], item, items₂, rfl, found, tail⟩
  | cons _ before ih =>
    obtain ⟨head, rest, -, tail, rfl⟩ := List.forall₂_cons_left_iff.mp discovers
    obtain ⟨items₁, item, items₂, rfl, found, tail⟩ := ih tail
    exact ⟨head :: items₁, item, items₂, rfl, found, tail⟩

variable (discovers : Discovers codec socket groups items)
include discovers

/-- The last group with a JID is the last item with it. -/
theorem lastBy_of_lastWith (last : LastWith codec groups jid group) :
    ∃ item, lastBy DiscoveredDestination.jid items jid = some item ∧
      discover codec socket group = .ok item ∧ item.jid = jid := by
  obtain ⟨before, after, rfl, normal, later⟩ := last
  obtain ⟨items₁, item, items₂, rfl, found, tail⟩ := discovers.split
  have same : item.jid = jid := by
    obtain ⟨-, -, normal', -⟩ := discover_ok found
    rw [normal] at normal'
    exact (Except.ok.inj normal').symm
  refine ⟨item, lastBy_of_split same fun other mem => ?_, found, same⟩
  obtain ⟨source, listed, found'⟩ := tail.source mem
  obtain ⟨-, -, normal', -⟩ := discover_ok found'
  rintro rfl
  exact later source listed normal'

theorem lastBy_of_unlisted (unlisted : ∀ group ∈ groups, codec.normalizeJid group.id ≠ .ok jid) :
    lastBy DiscoveredDestination.jid items jid = none := by
  refine lastBy_eq_none.mpr fun item mem same => ?_
  obtain ⟨group, listed, found⟩ := discovers.source mem
  obtain ⟨-, -, normal, -⟩ := discover_ok found
  exact unlisted group listed (same ▸ normal)

omit discovers

/-! ## The refresh -/

theorem refreshed {db db' : Database} {actor : String} {now : Timestamp}
    (discovers : Discovers codec socket groups items)
    (h : Synchronized items actor now db db') :
    Refreshed codec socket groups actor now db db' := by
  refine ⟨?_, ?_, ?_, h.mediaAssets, h.batches, h.appState, ?_⟩
  · intro jid group last
    obtain ⟨item, found, discovered, rfl⟩ := lastBy_of_lastWith discovers last
    obtain ⟨normalized, owner, -, read, same⟩ := discover_ok discovered
    refine ⟨normalized, owner, read, ?_⟩
    rw [h.destination, found, ← same]
    rfl
  · intro jid unlisted
    rw [h.destination, lastBy_of_unlisted discovers unlisted]
    rfl
  · rw [h.jobs]
    refine List.map_congr_left fun job _ => ?_
    have denied : unsendable db' job =
        (db'.destination? job.destinationJid).any fun d => !d.canSend := by
      rw [Bool.eq_iff_iff, unsendable_iff, Option.any_eq_true]
      simp only [Bool.not_eq_true']
    simp only [unsentWhere, denied, Bool.and_eq_true, decide_eq_true_eq, and_comm]
  · rw [h.auditEvents, List.Forall₂.length_eq discovers]

variable (codec : JoiningCodec) (socket : Option GroupSocket) (db : Database) (actor : String)
  (now : Timestamp)

variable {db' : Database} {n : Nat}

theorem refresh_synchronizes (h : refresh codec socket db actor now = .ok (n, db')) :
    ∃ s groups items, socket = some s ∧ s.groupFetchAllParticipating = .ok groups ∧
      groups.mapM (discover codec s) = .ok items ∧
      synchronize db items actor now = .ok (n, db') := by
  unfold refresh at h
  cases socket with
  | none => cases h
  | some s =>
    cases fetched : s.groupFetchAllParticipating with
    | error e =>
      simp only [bind, Except.bind, fetched] at h
      cases h
    | ok groups =>
      simp only [bind, Except.bind, fetched] at h
      cases read : groups.mapM (discover codec s) with
      | error e =>
        rw [read] at h
        cases h
      | ok items =>
        rw [read] at h
        exact ⟨s, groups, items, rfl, fetched, read, h⟩

theorem refresh_ok (h : refresh codec socket db actor now = .ok (n, db')) :
    ∃ s groups items, socket = some s ∧ s.groupFetchAllParticipating = .ok groups ∧
      Discovers codec s groups items ∧ n = groups.length ∧
      Synchronized items actor now db db' := by
  obtain ⟨s, groups, items, connected, fetched, read, h⟩ := refresh_synchronizes _ _ _ _ _ h
  obtain ⟨rfl, written⟩ := synchronized h
  have discovers := mapM_discover.mp read
  exact ⟨s, groups, items, connected, fetched, discovers, discovers.length_eq.symm, written⟩

/-- **A refresh takes all of the groups or none.** It commits exactly when the
socket is there, the fetch succeeds and every group can be read; then it writes
what `Refreshed` says, and no job is left to claim for a group in which only
admins write and the account is none. -/
theorem refresh_takes_all_or_none :
    ((∃ n db', refresh codec socket db actor now = .ok (n, db')) ↔
      ∃ s groups, socket = some s ∧ s.groupFetchAllParticipating = .ok groups ∧
        ∀ group ∈ groups, Readable codec group) ∧
    ∀ n db', refresh codec socket db actor now = .ok (n, db') →
      ∃ s groups, socket = some s ∧ s.groupFetchAllParticipating = .ok groups ∧
        n = groups.length ∧ Refreshed codec s groups actor now db db' ∧
        ∀ later reference dryRunOnly job,
          JobRepository.claimable db' later reference dryRunOnly job = true →
          ∀ group, LastWith codec groups job.destinationJid group →
            mayWrite codec s group = true := by
  refine ⟨⟨?_, ?_⟩, ?_⟩
  · rintro ⟨n, db', h⟩
    obtain ⟨s, groups, items, connected, fetched, discovers, -, -⟩ := refresh_ok _ _ _ _ _ h
    refine ⟨s, groups, connected, fetched, fun group mem => ?_⟩
    obtain ⟨before, after, rfl⟩ := List.append_of_mem mem
    obtain ⟨-, item, -, -, found, -⟩ := discovers.split
    exact discover_ok_iff.mp ⟨item, found⟩
  · rintro ⟨s, groups, rfl, fetched, readable⟩
    obtain ⟨items, read⟩ : ∃ items, groups.mapM (discover codec s) = .ok items :=
      mapM_total readable
    obtain ⟨db', written⟩ := synchronize_total db items actor now
    refine ⟨items.length, db', ?_⟩
    unfold refresh
    simp only [bind, Except.bind, fetched, read]
    exact written
  · intro n db' h
    obtain ⟨s, groups, items, connected, fetched, discovers, count, written⟩ :=
      refresh_ok _ _ _ _ _ h
    have outcome := refreshed discovers written
    refine ⟨s, groups, connected, fetched, count, outcome, ?_⟩
    intro later reference dryRunOnly job claimable group last
    obtain ⟨normalized, owner, -, found⟩ := outcome.listed _ _ last
    obtain ⟨d, found', sends⟩ := claimable_sends claimable
    rw [found] at found'
    cases found'
    cases old : db.destination? job.destinationJid with
    | none =>
      rw [old] at sends
      exact sends
    | some d =>
      rw [old] at sends
      exact sends

/-! ## A refresh over old rows -/

/-- A group in which only admins write. -/
def announcements : GroupMetadata where
  id := "10@g.us"
  subject := "Announcements"
  announce := some true
  participants := [{ id := "7@lid", phoneNumber := some "98912@s.whatsapp.net" }]

/-- A group in which everybody writes. -/
def team : GroupMetadata :=
  { announcements with
    id := "20@g.us"
    subject := "Team"
    announce := none }

/-- The account, which is no admin of either. -/
def member : GroupSocket where
  id := some "98912:7@s.whatsapp.net"
  lid := none
  groupFetchAllParticipating := .ok [announcements, team]

/-- The row of a group that the operator has named and allowed. -/
def allowed (jid : String) (normalized : '@' ∈ jid.toList) (aliasName : Alias) : Destination where
  jid := jid
  normalized := normalized
  subject := "Old subject"
  description := none
  ownerJid := none
  participantCount := some 12
  addressingMode := none
  aliasName := some aliasName
  enabled := true
  canSend := true
  createdAt := "2030-01-01T00:00:00.000Z"
  updatedAt := "2030-01-01T00:00:00.000Z"
  lastRefreshedAt := "2030-01-01T00:00:00.000Z"

/-- The row of the first group, and that of one that the account has left. -/
def news : Destination := allowed "10@g.us" (by decide) ⟨"news", by decide +kernel⟩

def left : Destination := allowed "30@g.us" (by decide) ⟨"left", by decide +kernel⟩

def earlier : Database :=
  { Database.empty with destinations := ⟨[news, left], by decide +kernel⟩ }

def fields (d : Destination) : String × Option Alias × Bool × Bool :=
  (d.subject, d.aliasName, d.enabled, d.canSend)

/-- The old row keeps its alias and its permission, the new one has none, and the
row of the group that is left stays. -/
theorem refresh_takes_all_or_none_announce :
    ∃ db, refresh JoiningCodec.baileys (some member) earlier "cli" "t" = .ok (2, db) ∧
      (db.destination? "10@g.us").map fields =
        some ("Announcements", news.aliasName, true, false) ∧
      (db.destination? "20@g.us").map fields = some ("Team", none, false, true) ∧
      db.destination? "30@g.us" = some left := by
  obtain ⟨commits, written⟩ :=
    refresh_takes_all_or_none JoiningCodec.baileys (some member) earlier "cli" "t"
  have readable : ∀ group ∈ [announcements, team], Readable JoiningCodec.baileys group := by
    refine List.forall_mem_cons.mpr ⟨⟨⟨"10@g.us", by decide +kernel⟩, nofun⟩, ?_⟩
    exact List.forall_mem_singleton.mpr ⟨⟨"20@g.us", by decide +kernel⟩, nofun⟩
  obtain ⟨n, db, ok⟩ := commits.mpr ⟨member, _, rfl, rfl, readable⟩
  obtain ⟨s, groups, connected, fetched, count, outcome, -⟩ := written n db ok
  cases connected
  cases fetched
  have first : LastWith JoiningCodec.baileys [announcements, team] "10@g.us" announcements :=
    ⟨[], [team], rfl, by decide +kernel,
      List.forall_mem_singleton.mpr (by decide +kernel)⟩
  have second : LastWith JoiningCodec.baileys [announcements, team] "20@g.us" team :=
    ⟨[announcements], [], rfl, by decide +kernel, List.forall_mem_nil _⟩
  have unlisted : ∀ group ∈ [announcements, team],
      JoiningCodec.baileys.normalizeJid group.id ≠ .ok "30@g.us" :=
    List.forall_mem_cons.mpr ⟨by decide +kernel, List.forall_mem_singleton.mpr (by decide +kernel)⟩
  have denied : mayWrite JoiningCodec.baileys member announcements = false := by decide +kernel
  subst count
  refine ⟨db, ok, ?_, ?_, outcome.unlisted "30@g.us" unlisted⟩
  · obtain ⟨normalized, owner, -, found⟩ := outcome.listed _ _ first
    rw [found]
    exact congrArg (fun sends => some ("Announcements", news.aliasName, true, sends)) denied
  · obtain ⟨normalized, owner, -, found⟩ := outcome.listed _ _ second
    rw [found]
    rfl

end WhatsAppGroupService

end WhatsappBot
