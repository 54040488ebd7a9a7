import WhatsappBot.Db.GroupSetMap
import WhatsappBot.Whatsapp.ControllerCommands

/-!
# The group set commands

`src/whatsapp/group-set-commands.ts` and the command `groupset` of
`src/cli/index.ts`. Each reads, and then makes at most one call that writes.
-/

namespace WhatsappBot

open Lib.KeyedSets

/-- `'add' | 'remove'`. -/
inductive MemberAction where
  | add
  | remove
deriving DecidableEq

namespace MemberAction

def text : MemberAction → String
  | add => "add"
  | remove => "remove"

/-- The call with which an action changes the members of a set. -/
def call (name : GroupSetName) (jids : List String) : MemberAction → GroupSetCall
  | add => .addMembers name jids
  | remove => .removeMembers name jids

/-- `groupSets.addMembers` or `groupSets.removeMembers`. -/
def change (s : GroupSetStore) (name : GroupSetName) (jids : List String) (actor : String)
    (now : Timestamp) : MemberAction → Option MembershipChange × GroupSetStore
  | add => GroupSetRepository.addMembers s name jids actor now
  | remove => GroupSetRepository.removeMembers s name jids actor now

theorem change_store (s : GroupSetStore) (name : GroupSetName) (jids : List String)
    (actor : String) (now : Timestamp) (action : MemberAction) :
    (action.change s name jids actor now).2 = ((action.call name jids).run s actor now).2 := by
  cases action <;> rfl

end MemberAction

/-! ## The chat -/

structure ParsedGroupSet where
  action : String
  name : Option String
  targets : List String

namespace GroupSetCommands

/-- `(match?.[1] ?? '').trim().split(/\s+/).filter(Boolean)`. -/
def parts (command : String) : List String :=
  match BulkControllerCommands.afterHead command "/groupset" with
  | none => []
  | some rest => (splitWords (trim (String.ofList rest))).filter fun part => part ≠ ""

/-- `parse`; it takes the targets apart as `targetInputs` does. -/
def parse (command : String) : ParsedGroupSet :=
  match parts command with
  | [] => { action := "", name := none, targets := [] }
  | [action] => { action := toLowerCase action, name := none, targets := [] }
  | action :: name :: rest =>
    { action := toLowerCase action, name := some name, targets := Cli.targetInputs rest }

def lines : List String → String := "\n".intercalate

def memberLine (member : GroupSetMember) : String :=
  match member.destination with
  | none => "❓ " ++ member.jid ++ " — missing"
  | some destination =>
    let label := (destination.aliasName.map Alias.text).getD member.jid
    (if destination.enabled && destination.canSend then "✅" else "⛔") ++ " " ++ label ++ " — " ++
      destination.subject

def showSet (s : GroupSetStore) (name : GroupSetName) : String :=
  match GroupSetRepository.members s name with
  | none => "❌ Group set not found: " ++ name.text
  | some members =>
    let allowed := members.countP fun member =>
      member.destination.any fun destination => destination.enabled && destination.canSend
    let missing := members.countP fun member => member.destination.isNone
    let disabled := members.length - allowed - missing
    lines (["📁 " ++ name.text, "", toString members.length ++ " groups", ""] ++
      members.map memberLine ++
      ["", "Allowed: " ++ toString allowed, "Disabled: " ++ toString disabled,
        "Missing: " ++ toString missing])

def abortedText (action : MemberAction) (issues : List TargetIssue) : String :=
  lines (["❌ Group set " ++ action.text ++ " aborted.", "", "Invalid targets:"] ++
    (issues.map fun issue => "- " ++ issue.input ++ " — " ++ issue.reason.text) ++
    ["", "No changes were made."])

def updatedText (action : MemberAction) (name : GroupSetName) (change : MembershipChange)
    (duplicates : Nat) : String :=
  lines ["✅ Updated group set: " ++ name.text, "",
    (if action = .add then "Added" else "Removed") ++ ": " ++ toString change.changed,
    (if action = .add then "Already present" else "Not present") ++ ": " ++
      toString (change.unchanged + duplicates)]

variable (codec : JidCodec) (s : GroupSetStore)

def modify (action : MemberAction) (name : GroupSetName) (inputs : List String)
    (now : Timestamp) : Except AppError String × GroupSetStore :=
  if inputs = [] then (.ok ("❌ Usage: /groupset " ++ action.text ++ " NAME TARGET..."), s)
  else match GroupSetRepository.get s name with
    | none => (.ok ("❌ Group set not found: " ++ name.text), s)
    | some _ =>
      match TargetResolver.resolveTargets codec s.db inputs false with
      | .error error => (.error error, s)
      | .ok resolved =>
        if resolved.issues ≠ [] then (.ok (abortedText action resolved.issues), s)
        else
          match action.change s name (resolved.destinations.map Destination.jid)
            "self-controller" now with
          | (none, s') => (.ok ("❌ Group set not found: " ++ name.text), s')
          | (some change, s') => (.ok (updatedText action name change resolved.duplicates), s')

/-- `list`, as it is shown. -/
def listText : String :=
  match GroupSetRepository.list s with
  | [] => "No group sets found."
  | sets =>
    lines (["📁 Group Sets", ""] ++
      sets.map fun set => set.name.text ++ " — " ++ toString set.memberCount ++ " groups")

def createSet (name : GroupSetName) (now : Timestamp) : Except AppError String × GroupSetStore :=
  match GroupSetRepository.create s name "self-controller" now with
  | (some created, s') => (.ok ("✅ Group set created: " ++ created.name.text), s')
  | (none, s') => (.ok ("❌ Group set already exists: " ++ name.text), s')

def deleteSet (name : GroupSetName) (now : Timestamp) : Except AppError String × GroupSetStore :=
  match GroupSetRepository.delete s name "self-controller" now with
  | (true, s') => (.ok ("✅ Group set deleted: " ++ name.text), s')
  | (false, s') => (.ok ("❌ Group set not found: " ++ name.text), s')

/-- The branches of `execute` that have a name. -/
def executeNamed (parsed : ParsedGroupSet) (name : GroupSetName) (now : Timestamp) :
    Except AppError String × GroupSetStore :=
  if parsed.action = "create" then
    if parsed.targets ≠ [] then (.ok "❌ Usage: /groupset create NAME", s)
    else createSet s name now
  else if parsed.action = "delete" then
    if parsed.targets ≠ [] then (.ok "❌ Usage: /groupset delete NAME", s)
    else deleteSet s name now
  else if parsed.action = "show" then
    if parsed.targets ≠ [] then (.ok "❌ Usage: /groupset show NAME", s)
    else (.ok (showSet s name), s)
  else if parsed.action = "add" then modify codec s .add name parsed.targets now
  else if parsed.action = "remove" then modify codec s .remove name parsed.targets now
  else (.ok "❌ Usage: /groupset create|add|remove|list|show|delete NAME [TARGET...]", s)

def execute (command : String) (now : Timestamp) : Except AppError String × GroupSetStore :=
  let parsed := parse command
  if parsed.action = "list" then
    if parsed.name.isSome then (.ok "❌ Usage: /groupset list", s) else (.ok (listText s), s)
  else match parsed.name with
    | none => (.ok "❌ Usage: /groupset create|add|remove|show|delete NAME [TARGET...]", s)
    | some rawName =>
      match GroupSetName.normalize rawName with
      | .error _ =>
        (.ok "❌ Group set name must be 1-64 characters using letters, numbers, _ or -.", s)
      | .ok name => executeNamed codec s parsed name now

end GroupSetCommands

/-! ## The command line -/

/-- The subcommands of `groupset` that take a name. -/
inductive GroupSetSubcommand where
  | create
  | showSet
  | modify (action : MemberAction) (rawTargets : List String)
  | delete

inductive GroupSetCommand where
  | list
  | named (subcommand : GroupSetSubcommand) (rawName : String)

/-- What `output` gets. -/
inductive GroupSetOutput where
  | sets (sets : List GroupSet)
  | set (set : GroupSet)
  | shown (set : GroupSet) (members : List GroupSetMember)
  | modified (name : GroupSetName) (action : MemberAction) (changed others : Nat)
  | deleted (name : GroupSetName)

namespace Cli

def groupSetNotFound (name : GroupSetName) : AppError :=
  .error ("Group set not found: " ++ name.text)

variable (codec : JidCodec) (s : GroupSetStore)

def modifyGroupSet (action : MemberAction) (name : GroupSetName) (rawTargets : List String)
    (now : Timestamp) : Except AppError GroupSetOutput × GroupSetStore :=
  match GroupSetRepository.get s name with
  | none => (.error (groupSetNotFound name), s)
  | some _ =>
    let inputs := targetInputs rawTargets
    if inputs = [] then
      (.error (.error ("At least one target is required for groupset " ++ action.text)), s)
    else match TargetResolver.resolveTargets codec s.db inputs false with
      | .error error => (.error error, s)
      | .ok resolved =>
        if resolved.issues ≠ [] then
          (.error (.error ("Group set " ++ action.text ++ " aborted; invalid targets: " ++
            targetIssueMessage resolved.issues)), s)
        else
          match action.change s name (resolved.destinations.map Destination.jid) "cli" now with
          | (none, s') => (.error (groupSetNotFound name), s')
          | (some change, s') =>
            (.ok (.modified name action change.changed (change.unchanged + resolved.duplicates)),
              s')

/-- A subcommand with its name normalized. -/
def groupSetNamed (name : GroupSetName) (now : Timestamp) :
    GroupSetSubcommand → Except AppError GroupSetOutput × GroupSetStore
  | .create =>
    match GroupSetRepository.create s name "cli" now with
    | (some created, s') => (.ok (.set created), s')
    | (none, s') => (.error (.error ("Group set already exists: " ++ name.text)), s')
  | .showSet =>
    match GroupSetRepository.get s name with
    | none => (.error (groupSetNotFound name), s)
    | some set => (.ok (.shown set ((GroupSetRepository.members s name).getD [])), s)
  | .modify action rawTargets => modifyGroupSet codec s action name rawTargets now
  | .delete =>
    match GroupSetRepository.delete s name "cli" now with
    | (true, s') => (.ok (.deleted name), s')
    | (false, s') => (.error (groupSetNotFound name), s')

def groupset (now : Timestamp) : GroupSetCommand → Except AppError GroupSetOutput × GroupSetStore
  | .list => (.ok (.sets (GroupSetRepository.list s)), s)
  | .named subcommand rawName =>
    match GroupSetName.normalize rawName with
    | .error error => (.error error, s)
    | .ok name => groupSetNamed codec s name now subcommand

end Cli

/-! ## The call of a command -/

namespace TargetResolver

variable {codec : JidCodec} {db : Database} {requireAllowed : Bool} {p p' : Progress}

/-- A round of the loop takes no issue back, and makes one of an input that fails. -/
theorem visit_issues {rawInput : String}
    (h : visit codec db requireAllowed p rawInput = .ok p') :
    (p.issues ≠ [] → p'.issues ≠ []) ∧
      (trim rawInput ≠ "" → (∃ reason, judge codec db requireAllowed (trim rawInput) =
        .error reason) → p'.issues ≠ []) := by
  unfold visit at h
  by_cases blank : trim rawInput = ""
  · simp only [blank, if_true, Except.ok.injEq] at h
    subst h
    exact ⟨id, fun visible => absurd blank visible⟩
  · simp only [blank, if_false] at h
    split at h
    · cases h
      have some : ∀ issue : TargetIssue, p.issues ++ [issue] ≠ [] := fun issue =>
        List.append_ne_nil_of_right_ne_nil _ (List.cons_ne_nil _ _)
      exact ⟨fun _ => some _, fun _ _ => some _⟩
    · next destination judged =>
      have sound : ¬∃ reason, judge codec db requireAllowed (trim rawInput) = .error reason := by
        rintro ⟨reason, failed⟩
        cases judged.symm.trans failed
      split at h
      · cases h
      · split at h <;> cases h <;> exact ⟨id, fun _ fails => absurd fails sound⟩

/-- An input that names no group is an issue. -/
theorem issues_of_unresolvable {inputs : List String} {result : ResolveTargetsResult}
    (h : resolveTargets codec db inputs requireAllowed = .ok result)
    (unresolvable : ∃ input ∈ inputs, trim input ≠ "" ∧
      ∃ reason, judge codec db requireAllowed (trim input) = .error reason) :
    result.issues ≠ [] := by
  have run : ∀ (inputs : List String) {p p' : Progress},
      inputs.foldlM (visit codec db requireAllowed) p = .ok p' →
      p.issues ≠ [] ∨ (∃ input ∈ inputs, trim input ≠ "" ∧
        ∃ reason, judge codec db requireAllowed (trim input) = .error reason) →
      p'.issues ≠ [] := by
    intro inputs
    induction inputs with
    | nil =>
      intro p p' ran cause
      cases ran
      exact cause.resolve_right fun ⟨_, mem, _⟩ => absurd mem List.not_mem_nil
    | cons input inputs ih =>
      intro p p' ran cause
      rw [List.foldlM_cons] at ran
      cases visited : visit codec db requireAllowed p input with
      | error error =>
        rw [visited] at ran
        cases ran
      | ok q =>
        rw [visited] at ran
        obtain ⟨keeps, makes⟩ := visit_issues visited
        refine ih ran ?_
        rcases cause with old | ⟨first, mem, visible, fails⟩
        · exact Or.inl (keeps old)
        · rcases List.mem_cons.mp mem with rfl | later
          · exact Or.inl (makes visible fails)
          · exact Or.inr ⟨first, later, visible, fails⟩
  unfold resolveTargets at h
  cases ran : inputs.foldlM (visit codec db requireAllowed)
      { resolved := [], issues := [], seen := [], duplicates := 0 } with
  | error error =>
    rw [ran] at h
    cases h
  | ok p =>
    rw [ran] at h
    cases h
    exact run inputs ran (Or.inr unresolvable)

end TargetResolver

/-- The store after a command that makes this call, if it makes one. -/
def GroupSetStore.after (s : GroupSetStore) (actor : String) (now : Timestamp) :
    Option GroupSetCall → GroupSetStore
  | none => s
  | some call => (call.run s actor now).2

section Calls

variable (codec : JidCodec) (s : GroupSetStore)

/-- The call with which a command changes the members of a set. -/
def memberCall (action : MemberAction) (name : GroupSetName) (inputs : List String) :
    Option GroupSetCall :=
  if inputs = [] ∨ (GroupSetRepository.get s name).isNone then none
  else match TargetResolver.resolveTargets codec s.db inputs false with
    | .error _ => none
    | .ok resolved =>
      if resolved.issues ≠ [] then none
      else some (action.call name (resolved.destinations.map Destination.jid))

def GroupSetCommands.callNamed (parsed : ParsedGroupSet) (name : GroupSetName) :
    Option GroupSetCall :=
  if parsed.action = "create" then if parsed.targets ≠ [] then none else some (.create name)
  else if parsed.action = "delete" then if parsed.targets ≠ [] then none else some (.delete name)
  else if parsed.action = "show" then none
  else if parsed.action = "add" then memberCall codec s .add name parsed.targets
  else if parsed.action = "remove" then memberCall codec s .remove name parsed.targets
  else none

def GroupSetCommands.call (command : String) : Option GroupSetCall :=
  let parsed := parse command
  if parsed.action = "list" then none
  else match parsed.name with
    | none => none
    | some rawName =>
      match GroupSetName.normalize rawName with
      | .error _ => none
      | .ok name => callNamed codec s parsed name

def Cli.callNamed (name : GroupSetName) : GroupSetSubcommand → Option GroupSetCall
  | .create => some (.create name)
  | .showSet => none
  | .modify action rawTargets => memberCall codec s action name (targetInputs rawTargets)
  | .delete => some (.delete name)

def Cli.call : GroupSetCommand → Option GroupSetCall
  | .list => none
  | .named subcommand rawName =>
    match GroupSetName.normalize rawName with
    | .error _ => none
    | .ok name => callNamed codec s name subcommand

variable {codec s}

/-- The targets of a command about members, as far as they are groups. -/
theorem memberCall_groups {action : MemberAction} {name : GroupSetName} {inputs : List String}
    {call : GroupSetCall} (h : memberCall codec s action name inputs = some call) :
    ∀ jid ∈ call.jids, codec.isGroupJid jid = true := by
  obtain ⟨result, resolved, -, canonical⟩ :=
    TargetResolver.resolveTargets_spec codec s.db inputs false
  unfold memberCall at h
  split at h
  · cases h
  · rw [resolved] at h
    dsimp only at h
    split at h
    · cases h
    · cases h
      have jids : (action.call name (result.destinations.map Destination.jid)).jids =
          result.destinations.map Destination.jid := by cases action <;> rfl
      intro jid mem
      rw [jids] at mem
      obtain ⟨destination, known, rfl⟩ := List.mem_map.mp mem
      exact canonical.groups destination known

/-- A target that names no group keeps the command from calling. -/
theorem memberCall_unresolvable {inputs : List String} (action : MemberAction)
    (name : GroupSetName) (unresolvable : ∃ input ∈ inputs, trim input ≠ "" ∧
      ∃ reason, TargetResolver.judge codec s.db false (trim input) = .error reason) :
    memberCall codec s action name inputs = none := by
  unfold memberCall
  split
  · rfl
  · split
    · rfl
    · next result resolved =>
      exact if_pos (TargetResolver.issues_of_unresolvable resolved unresolvable)

section

variable {action : MemberAction} {name : GroupSetName} {inputs : List String}

theorem memberCall_absent (absent : GroupSetRepository.get s name = none) :
    memberCall codec s action name inputs = none := by
  have stops : inputs = [] ∨ (GroupSetRepository.get s name).isNone = true :=
    Or.inr (Option.isNone_iff_eq_none.mpr absent)
  rw [memberCall, if_pos stops]

theorem memberCall_nil : memberCall codec s action name [] = none := by
  rw [memberCall, if_pos (Or.inl rfl)]

theorem memberCall_error {error : AppError}
    (failed : TargetResolver.resolveTargets codec s.db inputs false = .error error) :
    memberCall codec s action name inputs = none := by
  rw [memberCall, failed]
  exact ite_self _

theorem memberCall_resolved {set : GroupSet} {resolved : ResolveTargetsResult}
    (found : GroupSetRepository.get s name = some set) (given : inputs ≠ [])
    (ran : TargetResolver.resolveTargets codec s.db inputs false = .ok resolved) :
    memberCall codec s action name inputs = if resolved.issues ≠ [] then none
      else some (action.call name (resolved.destinations.map Destination.jid)) := by
  have goes : ¬(inputs = [] ∨ (GroupSetRepository.get s name).isNone = true) := by
    rw [found]
    exact not_or.mpr ⟨given, Bool.false_ne_true⟩
  rw [memberCall, if_neg goes, ran]

end

variable (codec s) (now : Timestamp)

theorem GroupSetCommands.modify_store (action : MemberAction) (name : GroupSetName)
    (inputs : List String) : (modify codec s action name inputs now).2 =
      s.after "self-controller" now (memberCall codec s action name inputs) := by
  unfold modify
  by_cases empty : inputs = []
  · subst empty
    rw [if_pos rfl, memberCall_nil]
    rfl
  · rw [if_neg empty]
    cases found : GroupSetRepository.get s name with
    | none =>
      rw [memberCall_absent found]
      rfl
    | some set =>
      cases ran : TargetResolver.resolveTargets codec s.db inputs false with
      | error =>
        rw [memberCall_error ran]
        rfl
      | ok resolved =>
        rw [memberCall_resolved found empty ran]
        dsimp only
        split
        · rfl
        · rw [GroupSetStore.after, ← MemberAction.change_store]
          split
          · next same => rw [same]
          · next same => rw [same]

theorem Cli.modifyGroupSet_store (action : MemberAction) (name : GroupSetName)
    (rawTargets : List String) : (modifyGroupSet codec s action name rawTargets now).2 =
      s.after "cli" now (memberCall codec s action name (targetInputs rawTargets)) := by
  unfold modifyGroupSet
  cases found : GroupSetRepository.get s name with
  | none =>
    rw [memberCall_absent found]
    rfl
  | some set =>
    dsimp only
    by_cases empty : targetInputs rawTargets = []
    · rw [if_pos empty, empty, memberCall_nil]
      rfl
    · rw [if_neg empty]
      cases ran : TargetResolver.resolveTargets codec s.db (targetInputs rawTargets) false with
      | error =>
        rw [memberCall_error ran]
        rfl
      | ok resolved =>
        rw [memberCall_resolved found empty ran]
        dsimp only
        split
        · rfl
        · rw [GroupSetStore.after, ← MemberAction.change_store]
          split
          · next same => rw [same]
          · next same => rw [same]

/-- **A command from the chat makes its call and writes nothing else.** -/
theorem GroupSetCommands.execute_store (command : String) :
    (execute codec s command now).2 =
      s.after "self-controller" now (GroupSetCommands.call codec s command) := by
  unfold execute GroupSetCommands.call
  dsimp only
  split
  · split <;> rfl
  · split
    · rfl
    · split
      · rfl
      · next name _ =>
        unfold executeNamed GroupSetCommands.callNamed
        split
        · split
          · rfl
          · unfold createSet
            rw [GroupSetStore.after, GroupSetCall.run]
            split <;> next same => rw [same]; rfl
        · split
          · split
            · rfl
            · unfold deleteSet
              rw [GroupSetStore.after, GroupSetCall.run]
              split <;> next same => rw [same]; rfl
          · split
            · split <;> rfl
            · split
              · exact modify_store codec s now .add name _
              · split
                · exact modify_store codec s now .remove name _
                · rfl

/-- **A command from the terminal makes its call and writes nothing else.** -/
theorem Cli.groupset_store (command : GroupSetCommand) :
    (groupset codec s now command).2 = s.after "cli" now (Cli.call codec s command) := by
  cases command with
  | list => rfl
  | named subcommand rawName =>
    unfold groupset Cli.call
    dsimp only
    split
    · rfl
    · next name _ =>
      cases subcommand with
      | create =>
        rw [groupSetNamed, Cli.callNamed, GroupSetStore.after, GroupSetCall.run]
        split <;> next same => rw [same]; rfl
      | showSet =>
        rw [groupSetNamed, Cli.callNamed]
        split <;> rfl
      | modify action rawTargets => exact modifyGroupSet_store codec s now action name rawTargets
      | delete =>
        rw [groupSetNamed, Cli.callNamed, GroupSetStore.after, GroupSetCall.run]
        split <;> next same => rw [same]; rfl

end Calls

end WhatsappBot
