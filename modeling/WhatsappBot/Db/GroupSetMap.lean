import WhatsappBot.Db.GroupSetRepository

/-!
# Group sets as a map

What the tables say is a family of sets of JIDs under names. Each method of the
repository does to the family what its name says, and answers accordingly.
-/

namespace WhatsappBot

open Lib.Relational Lib.KeyedSets

/-- The sets of a family, under their names. -/
abbrev GroupSetMap := Sets GroupSetName String

namespace GroupSetTables

variable {t t' : GroupSetTables} {name : GroupSetName} {set : GroupSetRow} {now : Timestamp}

/-- The JIDs of a set. -/
def jidsOf (t : GroupSetTables) (id : Nat) : Finset String :=
  Lib.KeyedSets.members GroupSetMemberRow.key t.members id

def map (t : GroupSetTables) : GroupSetMap := fun name =>
  (t.select name).map fun set => t.jidsOf set.id

/-! ## One set to a name -/

theorem select_eq (t : GroupSetTables) (name : GroupSetName) :
    t.select name = findBy GroupSetRow.name t.sets.rows name := by
  unfold select findBy
  congr 1
  funext set
  exact decide_eq_decide.mpr GroupSetName.nocase_inj

theorem names_distinct (t : GroupSetTables) :
    t.sets.rows.Pairwise fun a b => a.name ≠ b.name :=
  t.sets.constraint.imp fun {_ _} apart same =>
    apart.2 (congrArg (fun name => nocase name.text) same)

theorem ids_distinct (t : GroupSetTables) : t.sets.rows.Pairwise fun a b => a.id ≠ b.id :=
  t.sets.constraint.imp fun {_ _} apart => Nat.ne_of_lt apart.1

theorem select_iff : t.select name = some set ↔ set ∈ t.sets.rows ∧ set.name = name := by
  rw [select_eq]
  constructor
  · exact mem_of_findBy
  · rintro ⟨mem, rfl⟩
    exact findBy_of_mem t.names_distinct mem

theorem select_none : t.select name = none ↔ ∀ set ∈ t.sets.rows, set.name ≠ name := by
  rw [select_eq, findBy, List.find?_eq_none]
  simp only [decide_eq_true_eq, ne_eq]

theorem eq_of_id {a b : GroupSetRow} (ha : a ∈ t.sets.rows) (hb : b ∈ t.sets.rows)
    (same : a.id = b.id) : a = b := by
  have first := findBy_of_mem t.ids_distinct ha
  rw [same, findBy_of_mem t.ids_distinct hb] at first
  exact (Option.some.inj first).symm

theorem map_selected (h : t.select name = some set) : t.map name = some (t.jidsOf set.id) := by
  rw [map, h, Option.map_some]

theorem map_none : t.map name = none ↔ t.select name = none := by
  rw [map, Option.map_eq_none_iff]

/-- The tables after a change of the members of one set. -/
theorem map_adjust (selected : t.select name = some set) {f : Finset String → Finset String}
    (sets : t'.sets = t.sets) (here : t'.jidsOf set.id = f (t.jidsOf set.id))
    (others : ∀ id, id ≠ set.id → t'.jidsOf id = t.jidsOf id) :
    t'.map = t.map.adjust name f := by
  have same : ∀ other, t'.select other = t.select other := fun other => by
    rw [select, select, sets]
  funext other
  by_cases own : other = name
  · subst own
    rw [Sets.adjust_self, map_selected selected, map_selected ((same other).trans selected), here,
      Option.map_some]
  · rw [Sets.adjust_other _ own]
    cases found : t.select other with
    | none => rw [map_none.mpr found, map_none.mpr ((same other).trans found)]
    | some set' =>
      have apart : set'.id ≠ set.id := by
        intro clash
        have mem := (select_iff.mp found)
        have mem' := (select_iff.mp selected)
        have row := eq_of_id mem.1 mem'.1 clash
        exact own (mem.2.symm.trans ((congrArg GroupSetRow.name row).trans mem'.2))
      rw [map_selected found, map_selected ((same other).trans found), others _ apart]

/-! ## Statements -/

theorem insertMembers_spec (selected : t.select name = some set) (jids : List String)
    (now : Timestamp) :
    (t.insertMembers (mem_of_select selected) jids now).2.map =
        t.map.union name jids.toFinset ∧
      (t.insertMembers (mem_of_select selected) jids now).1 =
        (jids.toFinset \ t.jidsOf set.id).card := by
  have row_pair : ∀ jid, GroupSetMemberRow.key ⟨set.id, jid, now⟩ = (set.id, jid) := fun _ => rfl
  obtain ⟨here, count⟩ := members_insertAll row_pair t.members jids
  have row_key : ∀ jid, (GroupSetMemberRow.key ⟨set.id, jid, now⟩).1 = set.id := fun _ => rfl
  refine ⟨map_adjust selected rfl here fun id other => ?_, count⟩
  exact members_insertAll_other row_key t.members jids other

theorem deleteMembers_spec (selected : t.select name = some set) (jids : List String) :
    (t.deleteMembers set.id jids).2.map = t.map.difference name jids.toFinset ∧
      (t.deleteMembers set.id jids).1 = (t.jidsOf set.id ∩ jids.toFinset).card := by
  obtain ⟨here, count⟩ := members_deleteAll t.members set.id jids
  refine ⟨map_adjust selected rfl here fun id other => ?_, count⟩
  exact members_deleteAll_other t.members jids other

theorem touch_map (t : GroupSetTables) (id : Nat) (now : Timestamp) :
    (t.touch id now).map = t.map := by
  have written : ∀ set : GroupSetRow,
      (if set.id = id then { set with updatedAt := now } else set).id = set.id ∧
        (if set.id = id then { set with updatedAt := now } else set).name = set.name := by
    intro set
    split <;> exact ⟨rfl, rfl⟩
  funext name
  cases found : t.select name with
  | none =>
    rw [map_none.mpr found, map_none]
    rw [select_none] at found ⊢
    intro set mem
    obtain ⟨old, known, rfl⟩ := List.mem_map.mp mem
    simp only [decide_eq_true_eq, (written old).2]
    exact found old known
  | some set =>
    obtain ⟨mem, named⟩ := select_iff.mp found
    have found' : (t.touch id now).select name =
        some (if set.id = id then { set with updatedAt := now } else set) := by
      refine select_iff.mpr ⟨List.mem_map.mpr ⟨set, mem, ?_⟩, (written set).2.trans named⟩
      simp only [decide_eq_true_eq]
    rw [map_selected found, map_selected found', (written set).1]
    rfl

theorem deleteSet_map (selected : t.select name = some set) :
    (t.deleteSet set.id).map = t.map.erase name := by
  obtain ⟨mem, named⟩ := select_iff.mp selected
  funext other
  by_cases own : other = name
  · subst own
    rw [Sets.erase_self, map_none, select_none]
    intro row kept same
    obtain ⟨old, apart⟩ := List.mem_filter.mp kept
    have found := select_iff.mpr ⟨old, same⟩
    cases found.symm.trans selected
    simp only [decide_true, Bool.not_true, reduceCtorEq] at apart
  · rw [Sets.erase_other own]
    have kept : ∀ row ∈ t.sets.rows, row.name = other → row ∈ (t.deleteSet set.id).sets.rows ∧
        row.id ≠ set.id := by
      intro row old same
      have apart : row.id ≠ set.id := by
        intro clash
        rw [eq_of_id old mem clash] at same
        exact own (same.symm.trans named)
      refine ⟨List.mem_filter.mpr ⟨old, ?_⟩, apart⟩
      simp only [apart, decide_false, Bool.not_false]
    cases found : t.select other with
    | none =>
      rw [map_none.mpr found, map_none, select_none]
      rw [select_none] at found
      exact fun row still => found row (List.mem_filter.mp still).1
    | some row =>
      obtain ⟨old, same⟩ := select_iff.mp found
      obtain ⟨still, apart⟩ := kept row old same
      rw [map_selected found, map_selected (select_iff.mpr ⟨still, same⟩)]
      exact congrArg some (members_deleteKey t.members apart)

theorem insertSet_taken (t : GroupSetTables) (now : Timestamp) (h : t.select name = some set) :
    t.insertSet name now = (false, t) := by
  obtain ⟨mem, named⟩ := select_iff.mp h
  unfold insertSet
  split
  · rfl
  · next sets inserted =>
    have apart := (Table.insert_constraint inserted set mem).2
    exact absurd (congrArg (fun name => nocase name.text) named) apart

theorem insertSet_free (t : GroupSetTables) (now : Timestamp) (h : t.select name = none) :
    (t.insertSet name now).1 = true ∧ (t.insertSet name now).2.members = t.members ∧
      (t.insertSet name now).2.sets.rows = t.sets.rows ++ [t.newSet name now] := by
  unfold insertSet
  split
  · next refused =>
    exfalso
    have allowed : ∀ set ∈ t.sets.rows, GroupSetRow.Compatible set (t.newSet name now) := by
      intro set mem
      refine ⟨Nat.lt_succ_of_le (t.issued set mem), fun clash => ?_⟩
      exact select_none.mp h set mem (GroupSetName.nocase_inj.mp clash)
    obtain ⟨sets, inserted, -⟩ := t.sets.insert_succeeds allowed
    cases refused.symm.trans inserted
  · next sets inserted => exact ⟨rfl, rfl, Table.replace_eq_some.mp inserted⟩

/-- The id of a new set has no members left from another. -/
theorem jidsOf_newSet (t : GroupSetTables) (name : GroupSetName) (now : Timestamp) :
    t.jidsOf (t.newSet name now).id = ∅ := by
  refine members_unused fun member mem => ?_
  obtain ⟨set, known, same⟩ := t.references member mem
  have issued := t.issued set known
  change member.groupSetId ≠ t.sequence + 1
  omega

theorem insertSet_map (t : GroupSetTables) (now : Timestamp) (h : t.select name = none) :
    (t.insertSet name now).2.map = t.map.create name ∧
      (t.insertSet name now).2.select name = some (t.newSet name now) := by
  obtain ⟨-, members, rows⟩ := insertSet_free t now h
  have jids : ∀ id, (t.insertSet name now).2.jidsOf id = t.jidsOf id := by
    intro id
    rw [jidsOf, jidsOf, members]
  have new : (t.insertSet name now).2.select name = some (t.newSet name now) := by
    refine select_iff.mpr ⟨?_, rfl⟩
    rw [rows]
    exact List.mem_append_right _ (List.mem_singleton_self _)
  refine ⟨?_, new⟩
  funext other
  by_cases own : other = name
  · subst own
    rw [Sets.create_self, map_selected new, jids, jidsOf_newSet, map_none.mpr h, Option.getD_none]
  · rw [Sets.create_other own]
    cases found : t.select other with
    | none =>
      rw [map_none.mpr found, map_none, select_none, rows]
      intro row mem
      rcases List.mem_append.mp mem with old | new
      · exact select_none.mp found row old
      · rw [List.mem_singleton.mp new]
        exact fun same => own same.symm
    | some row =>
      obtain ⟨mem, named⟩ := select_iff.mp found
      have found' : (t.insertSet name now).2.select other = some row := by
        refine select_iff.mpr ⟨?_, named⟩
        rw [rows]
        exact List.mem_append_left _ mem
      rw [map_selected found, map_selected found', jids]

end GroupSetTables

/-! ## Methods -/

/-- A call of a method of the repository that writes. -/
inductive GroupSetCall where
  | create (name : GroupSetName)
  | addMembers (name : GroupSetName) (jids : List String)
  | removeMembers (name : GroupSetName) (jids : List String)
  | delete (name : GroupSetName)

inductive GroupSetReply where
  | created (set : Option GroupSet)
  | changed (change : Option MembershipChange)
  | deleted (found : Bool)

namespace GroupSetCall

def name : GroupSetCall → GroupSetName
  | create name | addMembers name _ | removeMembers name _ | delete name => name

/-- The JIDs that the call is about. -/
def jids : GroupSetCall → List String
  | addMembers _ jids | removeMembers _ jids => jids
  | _ => []

def run (s : GroupSetStore) (actor : String) (now : Timestamp) :
    GroupSetCall → GroupSetReply × GroupSetStore
  | create name => (GroupSetRepository.create s name actor now).map .created id
  | addMembers name jids => (GroupSetRepository.addMembers s name jids actor now).map .changed id
  | removeMembers name jids =>
    (GroupSetRepository.removeMembers s name jids actor now).map .changed id
  | delete name => (GroupSetRepository.delete s name actor now).map .deleted id

/-- What the call does to a family of sets. -/
def apply (m : GroupSetMap) : GroupSetCall → GroupSetMap
  | create name => m.create name
  | addMembers name jids => m.union name jids.toFinset
  | removeMembers name jids => m.difference name jids.toFinset
  | delete name => m.erase name

/-- What the call answers about a family of sets: the counts are of members that
come or go, and with the rest they make up the JIDs given. -/
inductive Answers (m : GroupSetMap) : GroupSetCall → GroupSetReply → Prop where
  | created {name : GroupSetName} {set : GroupSet} (free : m name = none)
    (named : set.name = name) (empty : set.memberCount = 0) :
    Answers m (.create name) (.created (some set))
  | taken {name : GroupSetName} (used : m name ≠ none) : Answers m (.create name) (.created none)
  | added {name : GroupSetName} {jids : List String} {members : Finset String}
    {change : MembershipChange} (used : m name = some members)
    (changed : change.changed = (jids.toFinset \ members).card)
    (total : change.changed + change.unchanged = jids.length) :
    Answers m (.addMembers name jids) (.changed (some change))
  | removed {name : GroupSetName} {jids : List String} {members : Finset String}
    {change : MembershipChange} (used : m name = some members)
    (changed : change.changed = (members ∩ jids.toFinset).card)
    (total : change.changed + change.unchanged = jids.length) :
    Answers m (.removeMembers name jids) (.changed (some change))
  | nowhereToAdd {name : GroupSetName} {jids : List String} (free : m name = none) :
    Answers m (.addMembers name jids) (.changed none)
  | nowhereToRemove {name : GroupSetName} {jids : List String} (free : m name = none) :
    Answers m (.removeMembers name jids) (.changed none)
  | deleted {name : GroupSetName} (used : m name ≠ none) : Answers m (.delete name) (.deleted true)
  | absent {name : GroupSetName} (free : m name = none) : Answers m (.delete name) (.deleted false)

open GroupSetTables

/-- A call leaves the sets under other names as they are. -/
theorem apply_other (m : GroupSetMap) (call : GroupSetCall) {other : GroupSetName}
    (h : other ≠ call.name) : call.apply m other = m other := by
  cases call with
  | create => exact Sets.create_other h
  | addMembers | removeMembers => exact Sets.adjust_other _ h
  | delete => exact Sets.erase_other h

variable (s : GroupSetStore) (actor : String) (now : Timestamp)

theorem create_run (name : GroupSetName) :
    ((create name).run s actor now).2.tables.map = s.tables.map.create name ∧
      Answers s.tables.map (.create name) ((create name).run s actor now).1 := by
  cases found : s.tables.select name with
  | none =>
    obtain ⟨added, -⟩ := insertSet_free s.tables now found
    obtain ⟨mapped, new⟩ := insertSet_map s.tables now found
    have inserted : s.tables.insertSet name now = (true, (s.tables.insertSet name now).2) :=
      Prod.ext added rfl
    rw [run, GroupSetRepository.create, inserted]
    simp only [new, Option.map_some, Prod.map]
    refine ⟨mapped, .created (map_none.mpr found) rfl ?_⟩
    obtain ⟨-, members, -⟩ := insertSet_free s.tables now found
    change memberCount _ _ = 0
    rw [memberCount, members, length_rowsOf]
    exact Finset.card_eq_zero.mpr (jidsOf_newSet s.tables name now)
  | some set =>
    have used : s.tables.map name ≠ none := by
      rw [map_selected found]
      simp only [ne_eq, reduceCtorEq, not_false_eq_true]
    rw [run, GroupSetRepository.create, insertSet_taken s.tables now found]
    exact ⟨(Sets.create_used used).symm, .taken used⟩

theorem addMembers_run (name : GroupSetName) (jids : List String) :
    ((addMembers name jids).run s actor now).2.tables.map =
        s.tables.map.union name jids.toFinset ∧
      Answers s.tables.map (.addMembers name jids) ((addMembers name jids).run s actor now).1 := by
  rw [run, GroupSetRepository.addMembers]
  split
  · next found =>
    have free := map_none.mpr found
    exact ⟨(Sets.adjust_unused _ free).symm, .nowhereToAdd free⟩
  · next set found =>
    obtain ⟨mapped, count⟩ := insertMembers_spec found jids now
    refine ⟨(touch_map _ _ _).trans mapped, .added (map_selected found) count ?_⟩
    have few : (jids.toFinset \ s.tables.jidsOf set.id).card ≤ jids.length :=
      (Finset.card_le_card Finset.sdiff_subset).trans (List.toFinset_card_le jids)
    rw [← count] at few
    exact Nat.add_sub_of_le few

theorem removeMembers_run (name : GroupSetName) (jids : List String) :
    ((removeMembers name jids).run s actor now).2.tables.map =
        s.tables.map.difference name jids.toFinset ∧
      Answers s.tables.map (.removeMembers name jids)
        ((removeMembers name jids).run s actor now).1 := by
  rw [run, GroupSetRepository.removeMembers]
  split
  · next found =>
    have free := map_none.mpr found
    exact ⟨(Sets.adjust_unused _ free).symm, .nowhereToRemove free⟩
  · next set found =>
    obtain ⟨mapped, count⟩ := deleteMembers_spec found jids
    refine ⟨(touch_map _ _ _).trans mapped, .removed (map_selected found) count ?_⟩
    have few : (s.tables.jidsOf set.id ∩ jids.toFinset).card ≤ jids.length :=
      (Finset.card_le_card Finset.inter_subset_right).trans (List.toFinset_card_le jids)
    rw [← count] at few
    exact Nat.add_sub_of_le few

theorem delete_run (name : GroupSetName) :
    ((delete name).run s actor now).2.tables.map = s.tables.map.erase name ∧
      Answers s.tables.map (.delete name) ((delete name).run s actor now).1 := by
  rw [run, GroupSetRepository.delete]
  split
  · next found =>
    have free := map_none.mpr found
    exact ⟨(Sets.erase_unused free).symm, .absent free⟩
  · next set found =>
    refine ⟨deleteSet_map found, .deleted ?_⟩
    rw [map_selected found]
    simp only [ne_eq, reduceCtorEq, not_false_eq_true]

/-- **A call does to the tables what it does to the map, and answers so.** -/
theorem run_spec (call : GroupSetCall) :
    (call.run s actor now).2.tables.map = call.apply s.tables.map ∧
      call.Answers s.tables.map (call.run s actor now).1 := by
  cases call with
  | create name => exact create_run s actor now name
  | addMembers name jids => exact addMembers_run s actor now name jids
  | removeMembers name jids => exact removeMembers_run s actor now name jids
  | delete name => exact delete_run s actor now name

end GroupSetCall

/-! ## Reads -/

open GroupSetTables GroupSetRepository in
/-- What the reads of the repository say of a family of sets. -/
structure GroupSetStore.Shows (s : GroupSetStore) (m : GroupSetMap) : Prop where
  get : ∀ name, (get s name).map (fun set => (set.name, set.memberCount)) =
    (m name).map fun members => (name, members.card)
  listed : ∀ name, name ∈ (list s).map GroupSet.name ↔ m name ≠ none
  once : ((list s).map GroupSet.name).Nodup
  entries : ∀ set ∈ list s, GroupSetRepository.get s set.name = some set
  ordered : (list s).Pairwise fun a b => nocase a.name.text ≤ nocase b.name.text
  members : ∀ name,
    (members s name).map (fun rows => (rows.map GroupSetMember.jid).toFinset) = m name
  distinct : ∀ name rows, GroupSetRepository.members s name = some rows →
    (rows.map GroupSetMember.jid).Nodup
  joined : ∀ name rows, GroupSetRepository.members s name = some rows → ∀ row ∈ rows,
    row.destination = findBy Destination.jid s.db.destinations.rows row.jid

namespace GroupSetRepository

open GroupSetTables

variable (s : GroupSetStore)

theorem get_shows (name : GroupSetName) :
    (get s name).map (fun set => (set.name, set.memberCount)) =
      (s.tables.map name).map fun members => (name, members.card) := by
  rw [get, Option.map_map]
  cases found : s.tables.select name with
  | none => rw [map_none.mpr found, Option.map_none, Option.map_none]
  | some set =>
    rw [map_selected found, Option.map_some, Option.map_some, Function.comp, toGroupSet,
      (select_iff.mp found).2, memberCount, length_rowsOf]
    rfl

theorem mem_list (set : GroupSet) :
    set ∈ list s ↔ ∃ row ∈ s.tables.sets.rows, toGroupSet s.tables row = set := by
  rw [list, (List.mergeSort_perm _ _).mem_iff, List.mem_map]

theorem listed_shows (name : GroupSetName) :
    name ∈ (list s).map GroupSet.name ↔ s.tables.map name ≠ none := by
  rw [ne_eq, map_none, select_none, not_forall, List.mem_map]
  constructor
  · rintro ⟨set, mem, rfl⟩
    obtain ⟨row, known, rfl⟩ := (mem_list s set).mp mem
    exact ⟨row, fun absent => absent known rfl⟩
  · rintro ⟨row, present⟩
    rw [Classical.not_imp, not_not] at present
    exact ⟨_, (mem_list s _).mpr ⟨row, present.1, rfl⟩, present.2⟩

theorem list_once : ((list s).map GroupSet.name).Nodup := by
  have perm : ((list s).map GroupSet.name).Perm (s.tables.sets.rows.map GroupSetRow.name) := by
    have sorted := (List.mergeSort_perm (s.tables.sets.rows.map (toGroupSet s.tables))
      fun a b => decide (nocase a.name.text ≤ nocase b.name.text)).map GroupSet.name
    rw [List.map_map] at sorted
    exact sorted
  rw [perm.nodup_iff, List.Nodup, List.pairwise_map]
  exact s.tables.names_distinct

theorem list_entries {set : GroupSet} (mem : set ∈ list s) : get s set.name = some set := by
  obtain ⟨row, known, rfl⟩ := (mem_list s set).mp mem
  have found : s.tables.select row.name = some row := select_iff.mpr ⟨known, rfl⟩
  exact congrArg (Option.map (toGroupSet s.tables)) found

theorem list_ordered :
    (list s).Pairwise fun a b => nocase a.name.text ≤ nocase b.name.text := by
  have sorted : (list s).Pairwise fun a b =>
      decide (nocase a.name.text ≤ nocase b.name.text) = true := by
    refine List.pairwise_mergeSort (fun a b c first second => ?_) (fun a b => ?_) _
    · exact decide_eq_true (le_trans (of_decide_eq_true first) (of_decide_eq_true second))
    · rw [Bool.or_eq_true, decide_eq_true_eq, decide_eq_true_eq]
      exact le_total _ _
  exact sorted.imp of_decide_eq_true

/-- The members that are shown are the rows under the id, in some order. -/
theorem members_perm {name : GroupSetName} {rows : List GroupSetMember}
    (h : members s name = some rows) : ∃ set, s.tables.select name = some set ∧
      rows.Perm ((rowsOf GroupSetMemberRow.key s.tables.members set.id).map (toMember s)) := by
  rw [members, get, Option.map_map, Option.map_eq_some_iff] at h
  obtain ⟨set, found, rfl⟩ := h
  exact ⟨set, found, List.mergeSort_perm _ _⟩

theorem members_shows (name : GroupSetName) :
    (members s name).map (fun rows => (rows.map GroupSetMember.jid).toFinset) =
      s.tables.map name := by
  cases shown : members s name with
  | none =>
    rw [members, get, Option.map_map, Option.map_eq_none_iff] at shown
    rw [map_none.mpr shown, Option.map_none]
  | some rows =>
    obtain ⟨set, found, perm⟩ := members_perm s shown
    rw [Option.map_some, map_selected found,
      List.toFinset_eq_of_perm _ _ (perm.map GroupSetMember.jid), List.map_map]
    rfl

theorem members_distinct {name : GroupSetName} {rows : List GroupSetMember}
    (h : members s name = some rows) : (rows.map GroupSetMember.jid).Nodup := by
  obtain ⟨set, -, perm⟩ := members_perm s h
  rw [(perm.map GroupSetMember.jid).nodup_iff, List.map_map]
  exact nodup_rowsOf s.tables.members set.id

theorem members_joined {name : GroupSetName} {rows : List GroupSetMember}
    (h : members s name = some rows) {row : GroupSetMember} (mem : row ∈ rows) :
    row.destination = findBy Destination.jid s.db.destinations.rows row.jid := by
  obtain ⟨set, -, perm⟩ := members_perm s h
  obtain ⟨member, -, rfl⟩ := List.mem_map.mp (perm.mem_iff.mp mem)
  rfl

/-- **The reads show the map.** -/
theorem shows : s.Shows s.tables.map where
  get := get_shows s
  listed := listed_shows s
  once := list_once s
  entries _ := list_entries s
  ordered := list_ordered s
  members := members_shows s
  distinct _ _ := members_distinct s
  joined _ _ h _ := members_joined s h

end GroupSetRepository

end WhatsappBot
