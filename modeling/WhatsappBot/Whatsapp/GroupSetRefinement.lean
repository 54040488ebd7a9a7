import WhatsappBot.Lib.Transition
import WhatsappBot.Whatsapp.CanonicalJid
import WhatsappBot.Whatsapp.GroupSetCommands

/-!
# Group sets over whole runs

Commands from the chat and the terminal, calls of the repository between them,
and every operation on the other tables, in any order. Beside the run goes the
family of sets that the calls so far have made (`families`), and the tables
agree with it in every state.
-/

namespace WhatsappBot

open Lib.Transition Lib.KeyedSets

inductive GroupSetAction where
  | call (call : GroupSetCall) (actor : String) (now : Date)
  | chat (command : String) (now : Date)
  | cli (command : GroupSetCommand) (now : Date)
  /-- An operation on the other tables: `setAlias`, `setEnabled`, `setCanSend`,
  `synchronize` and the rest. -/
  | database (op : Op)

/-- A call between the commands is about groups, as theirs are. -/
def GroupSetAction.AboutGroups (codec : JidCodec) : GroupSetAction → Prop
  | .call made _ _ => ∀ jid ∈ made.jids, codec.isGroupJid jid = true
  | .chat .. | .cli .. | .database _ => True

namespace GroupSetStore

variable (codec : JidCodec)

/-- The state after an action; an operation that throws is no action. -/
def step (s : GroupSetStore) : GroupSetAction → Option GroupSetStore
  | .call call actor now => some (call.run s actor now.toISOString).2
  | .chat command now => some (GroupSetCommands.execute codec s command now.toISOString).2
  | .cli command now => some (Cli.groupset codec s now.toISOString command).2
  | .database op =>
    match op.run s.db with
    | .error _ => none
    | .ok (_, db) => some { s with db := db }

def system : System GroupSetStore GroupSetAction where
  step := step codec

/-- The call of the repository that an action makes. -/
def called (s : GroupSetStore) : GroupSetAction → Option GroupSetCall
  | .call call _ _ => some call
  | .chat command _ => GroupSetCommands.call codec s command
  | .cli command _ => Cli.call codec s command
  | .database _ => none

/-- The family of sets that the calls of a run make. -/
def families : Monitor GroupSetStore GroupSetAction GroupSetMap where
  next m s a :=
    match s.called codec a with
    | none => m
    | some call => call.apply m

/-- The sets are sets of groups. -/
def Groups (m : GroupSetMap) : Prop :=
  ∀ name members, m name = some members → ∀ jid ∈ members, codec.isGroupJid jid = true

variable {codec} {s t : GroupSetStore} {a : GroupSetAction} {m : GroupSetMap}

theorem after_map (s : GroupSetStore) (actor : String) (now : Timestamp)
    (call : Option GroupSetCall) : (s.after actor now call).tables.map =
      match call with
      | none => s.tables.map
      | some call => call.apply s.tables.map := by
  cases call with
  | none => rfl
  | some call => exact (GroupSetCall.run_spec s actor now call).1

/-- **An action does to the tables what its call does to the family.** -/
theorem step_map (h : (system codec).step s a = some t) :
    t.tables.map =
      match s.called codec a with
      | none => s.tables.map
      | some call => call.apply s.tables.map := by
  cases a with
  | call call actor now =>
    cases h
    exact (GroupSetCall.run_spec s actor now.toISOString call).1
  | chat command now =>
    cases h
    rw [GroupSetCommands.execute_store]
    exact after_map s _ _ _
  | cli command now =>
    cases h
    rw [Cli.groupset_store]
    exact after_map s _ _ _
  | database op =>
    simp only [system, step] at h
    split at h
    · cases h
    · cases h
      rfl

theorem Groups.apply (h : Groups codec m) {call : GroupSetCall}
    (driven : ∀ jid ∈ call.jids, codec.isGroupJid jid = true) : Groups codec (call.apply m) := by
  intro name members found jid mem
  by_cases own : name = call.name
  · subst own
    cases call with
    | create name =>
      rw [GroupSetCall.apply, GroupSetCall.name, Sets.create_self] at found
      cases found
      cases used : m name with
      | none =>
        rw [used] at mem
        exact absurd mem (Finset.notMem_empty jid)
      | some set =>
        rw [used] at mem
        exact h name set used jid mem
    | addMembers name jids =>
      rw [GroupSetCall.apply, GroupSetCall.name, Sets.union, Sets.adjust_self] at found
      obtain ⟨set, used, rfl⟩ := Option.map_eq_some_iff.mp found
      rcases Finset.mem_union.mp mem with old | new
      · exact h name set used jid old
      · exact driven jid (List.mem_toFinset.mp new)
    | removeMembers name jids =>
      rw [GroupSetCall.apply, GroupSetCall.name, Sets.difference, Sets.adjust_self] at found
      obtain ⟨set, used, rfl⟩ := Option.map_eq_some_iff.mp found
      exact h name set used jid (Finset.mem_sdiff.mp mem).1
    | delete name =>
      rw [GroupSetCall.apply, GroupSetCall.name, Sets.erase_self] at found
      cases found
  · rw [GroupSetCall.apply_other m call own] at found
    exact h name members found jid mem

/-- The calls of a command are about groups. -/
theorem called_groups {call : GroupSetCall} (driven : a.AboutGroups codec)
    (h : s.called codec a = some call) : ∀ jid ∈ call.jids, codec.isGroupJid jid = true := by
  have named : ∀ name, (∀ jid ∈ (GroupSetCall.create name).jids, codec.isGroupJid jid = true) ∧
      ∀ jid ∈ (GroupSetCall.delete name).jids, codec.isGroupJid jid = true :=
    fun name => ⟨nofun, nofun⟩
  cases a with
  | call call' actor now =>
    cases h
    exact driven
  | chat command now =>
    simp only [called, GroupSetCommands.call] at h
    split at h
    · cases h
    · split at h
      · cases h
      · split at h
        · cases h
        · next name _ =>
          unfold GroupSetCommands.callNamed at h
          split at h
          · split at h
            · cases h
            · cases h
              exact (named name).1
          · split at h
            · split at h
              · cases h
              · cases h
                exact (named name).2
            · split at h
              · cases h
              · split at h
                · exact memberCall_groups h
                · split at h
                  · exact memberCall_groups h
                  · cases h
  | cli command now =>
    cases command with
    | list => cases h
    | named subcommand rawName =>
      rw [called] at h
      unfold Cli.call at h
      dsimp only at h
      split at h
      · cases h
      · next name _ =>
        cases subcommand with
        | create =>
          cases h
          exact (named name).1
        | showSet => cases h
        | modify action rawTargets => exact memberCall_groups h
        | delete =>
          cases h
          exact (named name).2
  | database => cases h

/-- **The tables stand for the family that the calls make.** -/
theorem map_of_run {as : List GroupSetAction}
    (run : ((families codec).observe (system codec)).Run (s, s.tables.map) as (t, m)) :
    t.tables.map = m := by
  refine run.invariant (I := fun p => p.1.tables.map = p.2) ?_ rfl
  rintro ⟨s, m⟩ a ⟨t, m'⟩ same - step
  obtain ⟨stepped, family⟩ := Monitor.observe_step.mp step
  have mapped := step_map stepped
  dsimp only at same mapped family ⊢
  rw [mapped, family, same, families]

/-- The sets of a family stay sets of groups. -/
theorem groups_of_run {as : List GroupSetAction} (groups : Groups codec s.tables.map)
    (driven : ∀ a ∈ as, a.AboutGroups codec)
    (run : ((families codec).observe (system codec)).Run (s, s.tables.map) as (t, m)) :
    Groups codec m := by
  have run := run.of_forall (H := fun _ a => a.AboutGroups codec) fun a mem _ _ => driven a mem
  refine run.invariant (I := fun p => Groups codec p.2) ?_ groups
  rintro p a q groups driven step
  obtain ⟨-, family⟩ := Monitor.observe_step.mp step
  simp only [families] at family
  cases called : p.1.called codec a with
  | none =>
    rw [called] at family
    exact family ▸ groups
  | some call =>
    rw [called] at family
    exact family ▸ groups.apply (called_groups driven called)

/-! ## Commands that cannot go through -/

/-- A target that names no group. -/
def Unresolvable (codec : JidCodec) (db : Database) (target : String) : Prop :=
  trim target ≠ "" ∧ ∃ reason, TargetResolver.judge codec db false (trim target) = .error reason

theorem execute_unresolvable {command : String} (now : Timestamp)
    (h : ∃ target ∈ (GroupSetCommands.parse command).targets, Unresolvable codec s.db target) :
    (GroupSetCommands.execute codec s command now).2 = s := by
  have targets : (GroupSetCommands.parse command).targets ≠ [] := by
    obtain ⟨target, mem, -⟩ := h
    exact List.ne_nil_of_mem mem
  have none : GroupSetCommands.call codec s command = none := by
    unfold GroupSetCommands.call
    dsimp only
    split
    · rfl
    · split
      · rfl
      · split
        · rfl
        · unfold GroupSetCommands.callNamed
          rw [if_pos targets, if_pos targets, memberCall_unresolvable .add _ h,
            memberCall_unresolvable .remove _ h]
          simp only [ite_self]
  rw [GroupSetCommands.execute_store, none]
  rfl

theorem groupset_unresolvable {action : MemberAction} {rawName : String}
    {rawTargets : List String} (now : Timestamp)
    (h : ∃ target ∈ Cli.targetInputs rawTargets, Unresolvable codec s.db target) :
    (Cli.groupset codec s now (.named (.modify action rawTargets) rawName)).2 = s := by
  have none : Cli.call codec s (.named (.modify action rawTargets) rawName) = none := by
    unfold Cli.call
    dsimp only
    split
    · rfl
    · exact memberCall_unresolvable action _ h
  rw [Cli.groupset_store, none]
  rfl

/-! ## The refinement -/

/-- How the repository and the commands behave as a family of sets. -/
structure Refines (codec : JidCodec) (t : GroupSetStore) (m : GroupSetMap) : Prop where
  shows : t.Shows m
  calls : ∀ (call : GroupSetCall) (actor : String) (now : Timestamp),
    call.Answers m (call.run t actor now).1 ∧ (call.run t actor now).2.Shows (call.apply m)
  others : ∀ (call : GroupSetCall) (name : GroupSetName),
    name ≠ call.name → call.apply m name = m name
  /-- A set that is deleted and created again is empty. -/
  renewed : ∀ (name : GroupSetName) (actor actor' : String) (now now' : Timestamp),
    GroupSetRepository.members ((GroupSetCall.create name).run
      ((GroupSetCall.delete name).run t actor now).2 actor' now').2 name = some []
  /-- The other tables are written without the sets. -/
  database : ∀ op u, (system codec).step t (.database op) = some u → u.Shows m
  chat : ∀ command now, (∃ target ∈ (GroupSetCommands.parse command).targets,
    Unresolvable codec t.db target) → (GroupSetCommands.execute codec t command now).2 = t
  cli : ∀ action rawTargets rawName now,
    (∃ target ∈ Cli.targetInputs rawTargets, Unresolvable codec t.db target) →
      (Cli.groupset codec t now (.named (.modify action rawTargets) rawName)).2 = t

theorem shows_map (t : GroupSetStore) : t.Shows t.tables.map := GroupSetRepository.shows t

theorem members_renewed (t : GroupSetStore) (name : GroupSetName) (actor actor' : String)
    (now now' : Timestamp) : GroupSetRepository.members ((GroupSetCall.create name).run
      ((GroupSetCall.delete name).run t actor now).2 actor' now').2 name = some [] := by
  have shown := GroupSetRepository.members_shows ((GroupSetCall.create name).run
    ((GroupSetCall.delete name).run t actor now).2 actor' now').2 name
  rw [(GroupSetCall.create_run _ actor' now' name).1, (GroupSetCall.delete_run t actor now name).1,
    Sets.create_erase] at shown
  obtain ⟨rows, found, empty⟩ := Option.map_eq_some_iff.mp shown
  have none : rows.map GroupSetMember.jid = [] := List.toFinset_eq_empty_iff _ |>.mp empty
  rw [found, List.map_eq_nil_iff.mp none]

theorem refines_map (t : GroupSetStore) : Refines codec t t.tables.map where
  shows := shows_map t
  calls call actor now := by
    obtain ⟨mapped, answers⟩ := GroupSetCall.run_spec t actor now call
    exact ⟨answers, mapped ▸ shows_map _⟩
  others call _ other := GroupSetCall.apply_other _ call other
  renewed := members_renewed t
  database op u step := by
    have mapped := step_map step
    simp only [called] at mapped
    exact mapped ▸ shows_map u
  chat _ now unresolvable := execute_unresolvable now unresolvable
  cli _ _ _ now unresolvable := groupset_unresolvable now unresolvable

/-- **In every state of every run the group sets are the family that the calls
have made, and a family of sets of groups stays one.** -/
theorem group_sets_refine (codec : JidCodec) {s t : GroupSetStore} {m : GroupSetMap}
    {as : List GroupSetAction}
    (run : ((families codec).observe (system codec)).Run (s, s.tables.map) as (t, m)) :
    Refines codec t m ∧
      (Groups codec s.tables.map → (∀ a ∈ as, a.AboutGroups codec) → Groups codec m) :=
  ⟨map_of_run run ▸ refines_map t, fun groups driven => groups_of_run groups driven run⟩

/-- A set is filled from the terminal, and a command in the chat that names nobody
leaves it as it is. -/
theorem group_sets_refine_newsletter :
    ∃ t m as, ((families JidCodec.baileys).observe (system JidCodec.baileys)).Run
        (⟨Database.empty, .empty⟩, (GroupSetTables.empty).map) as (t, m) ∧
      Refines JidCodec.baileys t m ∧ Groups JidCodec.baileys m ∧
      m ⟨"newsletter", by decide⟩ = some {"120363049876500007@g.us"} := by
  let found : DiscoveredDestination :=
    { jid := "120363049876500007@g.us", normalized := by decide, subject := "Readers" }
  let now : Date := ⟨1796000000000, by omega⟩
  let as : List GroupSetAction :=
    [.database (.synchronize [found] "cli" now.toISOString),
      .chat "/groupset create Newsletter" now,
      .cli (.named (.modify .add ["120363049876500007@g.us"]) "NEWSLETTER") now,
      .chat "/groupset add newsletter 120363049876500007@g.us, nobody" now]
  have trace : (((families JidCodec.baileys).observe (system JidCodec.baileys)).exec
      (⟨Database.empty, .empty⟩, (GroupSetTables.empty).map) as).any
        (fun p => decide (p.2 ⟨"newsletter", by decide⟩ = some {"120363049876500007@g.us"})) =
      true := by
    decide +kernel
  obtain ⟨⟨t, m⟩, exec, members⟩ := (Option.any_eq_true _ _).mp trace
  have run := System.run_of_exec exec
  obtain ⟨refines, groups⟩ := group_sets_refine JidCodec.baileys run
  have start : Groups JidCodec.baileys (GroupSetTables.empty).map := nofun
  have about : ∀ a ∈ as, a.AboutGroups JidCodec.baileys := by
    iterate 4 refine List.forall_mem_cons.mpr ⟨trivial, ?_⟩
    exact List.forall_mem_nil _
  exact ⟨t, m, as, run, refines, groups start about, of_decide_eq_true members⟩

end GroupSetStore

end WhatsappBot
