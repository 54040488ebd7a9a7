import WhatsappBot.Domain.GroupSets
import WhatsappBot.Lib.KeyedSets

/-!
# Group sets in the database

The tables `group_sets` and `group_set_members` and
`src/db/repositories/group-set-repository.ts`. The foreign key and the sequence
of `AUTOINCREMENT` are fields of the tables: a member has its set, and an id is
not used again.
-/

namespace WhatsappBot

open Lib.Relational Lib.KeyedSets

/-! ## Tables -/

/-- A name that `normalizeGroupSetName` has accepted. -/
structure GroupSetName where
  text : String
  accepted : isSetName text = true
deriving DecidableEq

namespace GroupSetName

/-- `normalizeGroupSetName`, with what it has checked. -/
def normalize (value : String) : Except AppError GroupSetName :=
  match normalized : normalizeGroupSetName value with
  | .error error => .error error
  | .ok name => .ok ⟨name, normalizeGroupSetName_ok normalized⟩

theorem toLower_setNameChar {c : Char} (h : isSetNameChar c = true) : c.toLower = c := by
  have isLower : c.isLower = (decide ('a'.val ≤ c.val) && decide (c.val ≤ 'z'.val)) := rfl
  simp only [isSetNameChar, isSetNameStart, isLower, Char.isDigit, Bool.or_eq_true,
    Bool.and_eq_true, decide_eq_true_eq] at h
  unfold Char.toLower
  rw [dif_neg]
  rintro ⟨low, high⟩
  rcases h with ((lower | digit) | rfl) | rfl
  · exact absurd (UInt32.le_trans lower.1 high) (by decide)
  · exact absurd (UInt32.le_trans low digit.2) (by decide)
  · exact absurd high (by decide)
  · exact absurd low (by decide)

theorem chars (name : GroupSetName) : ∀ c ∈ name.text.toList, isSetNameChar c = true := by
  have accepted := name.accepted
  unfold isSetName at accepted
  split at accepted
  · next first rest text =>
    simp only [Bool.and_eq_true, List.all_eq_true] at accepted
    intro c mem
    rw [text] at mem
    rcases List.mem_cons.mp mem with rfl | later
    · rw [isSetNameChar, accepted.1.1, Bool.true_or, Bool.true_or]
    · exact accepted.2 c later
  · cases accepted

/-- A name is in lower case. -/
theorem nocase_text (name : GroupSetName) : nocase name.text = name.text.toList := by
  unfold nocase
  conv_rhs => rw [← List.map_id name.text.toList]
  exact List.map_congr_left fun c mem => toLower_setNameChar (name.chars c mem)

/-- Names that `COLLATE NOCASE` does not tell apart are the same. -/
theorem nocase_inj {a b : GroupSetName} : nocase a.text = nocase b.text ↔ a = b := by
  constructor
  · intro same
    rw [nocase_text, nocase_text] at same
    cases a
    cases b
    cases String.toList_injective same
    rfl
  · rintro rfl
    rfl

end GroupSetName

/-- A row of `group_sets`. -/
structure GroupSetRow where
  id : Nat
  name : GroupSetName
  createdAt : Timestamp
  updatedAt : Timestamp
deriving DecidableEq

/-- `PRIMARY KEY AUTOINCREMENT` and `name COLLATE NOCASE UNIQUE`, between an earlier
and a later row. -/
def GroupSetRow.Compatible (earlier later : GroupSetRow) : Prop :=
  earlier.id < later.id ∧ nocase earlier.name.text ≠ nocase later.name.text

instance : DecidableRel GroupSetRow.Compatible := fun _ _ =>
  inferInstanceAs (Decidable (_ ∧ _))

/-- A row of `group_set_members`. -/
structure GroupSetMemberRow where
  groupSetId : Nat
  destinationJid : String
  createdAt : Timestamp
deriving DecidableEq

/-- `UNIQUE(group_set_id, destination_jid)`. -/
def GroupSetMemberRow.key (member : GroupSetMemberRow) : Nat × String :=
  (member.groupSetId, member.destinationJid)

abbrev GroupSetTable := Table GroupSetRow GroupSetRow.Compatible
abbrev GroupSetMemberTable := Pairs GroupSetMemberRow.key

structure GroupSetTables where
  sets : GroupSetTable
  members : GroupSetMemberTable
  /-- The `sqlite_sequence` of `group_sets`. -/
  sequence : Nat
  issued : ∀ set ∈ sets.rows, set.id ≤ sequence
  /-- `REFERENCES group_sets(id)`. -/
  references : ∀ member ∈ members.rows, ∃ set ∈ sets.rows, set.id = member.groupSetId

namespace GroupSetTables

def empty : GroupSetTables where
  sets := default
  members := default
  sequence := 0
  issued _ mem := absurd mem List.not_mem_nil
  references _ mem := absurd mem List.not_mem_nil

variable (t : GroupSetTables)

/-! ## Statements -/

/-- `WHERE gs.name = ? COLLATE NOCASE`. -/
def select (name : GroupSetName) : Option GroupSetRow :=
  t.sets.rows.find? fun set => nocase set.name.text = nocase name.text

/-- `COUNT(gsm.destination_jid)`. -/
def memberCount (id : Nat) : Nat := (rowsOf GroupSetMemberRow.key t.members id).length

/-- The row that a new set gets. -/
def newSet (name : GroupSetName) (now : Timestamp) : GroupSetRow where
  id := t.sequence + 1
  name := name
  createdAt := now
  updatedAt := now

/-- `INSERT OR IGNORE INTO group_sets`, with whether a row was added. -/
def insertSet (name : GroupSetName) (now : Timestamp) : Bool × GroupSetTables :=
  match inserted : t.sets.insert (t.newSet name now) with
  | none => (false, t)
  | some sets => (true,
    { sets := sets
      members := t.members
      sequence := t.sequence + 1
      issued := by
        intro set mem
        rw [Table.replace_eq_some.mp inserted] at mem
        rcases List.mem_append.mp mem with old | new
        · exact Nat.le_succ_of_le (t.issued set old)
        · rw [List.mem_singleton.mp new]
          exact Nat.le_refl _
      references := by
        intro member mem
        obtain ⟨set, old, same⟩ := t.references member mem
        exact ⟨set, Table.replace_eq_some.mp inserted ▸ List.mem_append_left _ old, same⟩ })

variable {t} in
theorem mem_of_select {name : GroupSetName} {set : GroupSetRow} (h : t.select name = some set) :
    set ∈ t.sets.rows := List.mem_of_find?_eq_some h

/-- `INSERT OR IGNORE INTO group_set_members`, with how many rows were added. -/
def insertMembers {set : GroupSetRow} (known : set ∈ t.sets.rows) (jids : List String)
    (now : Timestamp) : Nat × GroupSetTables :=
  let inserted := insertAll GroupSetMemberRow.key t.members
    (jids.map fun jid => ⟨set.id, jid, now⟩)
  (inserted.1,
    { t with
      members := inserted.2
      references := by
        intro member mem
        rcases mem_insertAll mem with old | new
        · exact t.references member old
        · obtain ⟨_, -, rfl⟩ := List.mem_map.mp new
          exact ⟨set, known, rfl⟩ })

/-- `DELETE FROM group_set_members`, with how many rows were deleted. -/
def deleteMembers (id : Nat) (jids : List String) : Nat × GroupSetTables :=
  let deleted := deleteAll GroupSetMemberRow.key t.members id jids
  (deleted.1,
    { t with
      members := deleted.2
      references := fun member mem => t.references member (mem_deleteAll mem) })

/-- `UPDATE group_sets SET updated_at = ? WHERE id = ?`. -/
def touch (id : Nat) (now : Timestamp) : GroupSetTables :=
  { t with
    sets := ⟨updateWhere (fun set => set.id = id) (fun set => { set with updatedAt := now })
      t.sets.rows, by
        rw [updateWhere, List.pairwise_map]
        refine t.sets.constraint.imp fun {a b} apart => ?_
        split <;> split <;> exact apart⟩
    issued := by
      intro set mem
      obtain ⟨old, known, rfl⟩ := List.mem_map.mp mem
      split <;> exact t.issued old known
    references := by
      intro member mem
      obtain ⟨set, known, same⟩ := t.references member mem
      refine ⟨_, List.mem_map_of_mem known, ?_⟩
      split <;> exact same }

/-- `DELETE FROM group_sets WHERE id = ?`, with its cascade. -/
def deleteSet (id : Nat) : GroupSetTables where
  sets := t.sets.delete fun set => set.id = id
  members := t.members.delete fun member => member.key.1 = id
  sequence := t.sequence
  issued := fun set mem => t.issued set (List.mem_filter.mp mem).1
  references := by
    intro member mem
    obtain ⟨mem, other⟩ := List.mem_filter.mp mem
    obtain ⟨set, known, same⟩ := t.references member mem
    refine ⟨set, List.mem_filter.mpr ⟨known, ?_⟩, same⟩
    simp only [GroupSetMemberRow.key, ← same] at other
    exact other

end GroupSetTables

/-! ## The repository -/

structure GroupSet where
  id : Nat
  name : GroupSetName
  memberCount : Nat
  createdAt : Timestamp
  updatedAt : Timestamp
deriving DecidableEq

/-- The database with the tables of group sets. -/
structure GroupSetStore where
  db : Database
  tables : GroupSetTables

namespace GroupSetRepository

def toGroupSet (tables : GroupSetTables) (set : GroupSetRow) : GroupSet where
  id := set.id
  name := set.name
  memberCount := tables.memberCount set.id
  createdAt := set.createdAt
  updatedAt := set.updatedAt

variable (s : GroupSetStore)

/-- `create`; the set that was inserted is selected again. -/
def create (name : GroupSetName) (actor : String) (now : Timestamp) :
    Option GroupSet × GroupSetStore :=
  match s.tables.insertSet name now with
  | (false, _) => (none, s)
  | (true, tables) =>
    ((tables.select name).map (toGroupSet tables),
      { db := s.db.insertAudit
          { eventType := "group_set_created"
            actor := actor
            entityType := some "group_set"
            entityId := some name.text
            details := none
            createdAt := now }
        tables := tables })

def get (name : GroupSetName) : Option GroupSet :=
  (s.tables.select name).map (toGroupSet s.tables)

/-- `list`, `ORDER BY gs.name COLLATE NOCASE`. -/
def list : List GroupSet :=
  (s.tables.sets.rows.map (toGroupSet s.tables)).mergeSort fun a b =>
    decide (nocase a.name.text ≤ nocase b.name.text)

/-- `LEFT JOIN destinations d ON d.jid = gsm.destination_jid`. -/
def toMember (member : GroupSetMemberRow) : GroupSetMember where
  jid := member.destinationJid
  createdAt := member.createdAt
  destination := findBy Destination.jid s.db.destinations.rows member.destinationJid

/-- `COALESCE(d.alias, d.subject, gsm.destination_jid)`. -/
def label (member : GroupSetMember) : String :=
  match member.destination with
  | none => member.jid
  | some destination =>
    match destination.aliasName with
    | none => destination.subject
    | some name => name.text

/-- `members`, `ORDER BY` the label `COLLATE NOCASE`. -/
def members (name : GroupSetName) : Option (List GroupSetMember) :=
  (get s name).map fun set =>
    ((rowsOf GroupSetMemberRow.key s.tables.members set.id).map (toMember s)).mergeSort fun a b =>
      decide (nocase (label a) ≤ nocase (label b))

/-- The audit event of a change of members. -/
def membershipEvent (eventType actor : String) (set : GroupSetRow) (jids : List String)
    (counted : String) (changed : Nat) (now : Timestamp) : AuditEvent where
  eventType := eventType
  actor := actor
  entityType := some "group_set"
  entityId := some set.name.text
  details := some [("requested", .number jids.length), (counted, .number changed)]
  createdAt := now

def addMembers (name : GroupSetName) (jids : List String) (actor : String) (now : Timestamp) :
    Option MembershipChange × GroupSetStore :=
  match selected : s.tables.select name with
  | none => (none, s)
  | some set =>
    let (changed, tables) := s.tables.insertMembers (GroupSetTables.mem_of_select selected) jids now
    (some { changed := changed, unchanged := jids.length - changed },
      { db := s.db.insertAudit
          (membershipEvent "group_set_members_added" actor set jids "added" changed now)
        tables := tables.touch set.id now })

def removeMembers (name : GroupSetName) (jids : List String) (actor : String) (now : Timestamp) :
    Option MembershipChange × GroupSetStore :=
  match s.tables.select name with
  | none => (none, s)
  | some set =>
    let (changed, tables) := s.tables.deleteMembers set.id jids
    (some { changed := changed, unchanged := jids.length - changed },
      { db := s.db.insertAudit
          (membershipEvent "group_set_members_removed" actor set jids "removed" changed now)
        tables := tables.touch set.id now })

def delete (name : GroupSetName) (actor : String) (now : Timestamp) : Bool × GroupSetStore :=
  match s.tables.select name with
  | none => (false, s)
  | some set =>
    (true,
      { db := s.db.insertAudit
          { eventType := "group_set_deleted"
            actor := actor
            entityType := some "group_set"
            entityId := some set.name.text
            details := some [("members", .number (s.tables.memberCount set.id))]
            createdAt := now }
        tables := s.tables.deleteSet set.id })

end GroupSetRepository

end WhatsappBot
