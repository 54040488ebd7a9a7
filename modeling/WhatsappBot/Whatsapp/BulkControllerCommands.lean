import WhatsappBot.Messaging.BulkMessageService
import WhatsappBot.Whatsapp.TargetResolver

/-!
# The bulk commands

`sendMulti` and `sendAll` of `src/whatsapp/bulk-controller-commands.ts`, and the
commands `sendmulti` and `sendall` of `src/cli/index.ts`: each resolves its
targets and then answers, throws, or calls the bulk message service.
-/

namespace WhatsappBot

/-- What a command comes to before its first await. -/
inductive BulkOutcome where
  | reply (text : String)
  | enqueue (request : BulkEnqueueRequest)

namespace BulkControllerCommands

/-- `[^\s,]`. -/
def isTargetChar (c : Char) : Bool := !isTrimmed c && c ≠ ','

/-- `\s+([\s\S]+)$`: the message, when the rest of the command starts with white
space; white space alone gives its last character back. -/
def messageEnd (text : List Char) : Option (List Char) :=
  let blank := text.takeWhile isTrimmed
  match text.dropWhile isTrimmed with
  | c :: message => if blank = [] then none else some (c :: message)
  | [] => if 2 ≤ blank.length then blank.getLast?.map fun c => [c] else none

/-- `(?:\s*,\s*[^\s,]+)*` and `messageEnd`, most groups first: the rest of the
expression and the message. Each group takes one of `fuel`. -/
def targetGroups : Nat → List Char → Option (List Char × List Char)
  | 0, text => (messageEnd text).map fun message => ([], message)
  | fuel + 1, text =>
    let stop := (messageEnd text).map fun message => ([], message)
    match text.dropWhile isTrimmed with
    | ',' :: afterComma =>
      let next := afterComma.dropWhile isTrimmed
      let target := next.takeWhile isTargetChar
      if target = [] then stop
      else match targetGroups fuel (next.dropWhile isTargetChar) with
        | none => stop
        | some (expression, message) =>
          some (text.takeWhile isTrimmed ++ ',' :: afterComma.takeWhile isTrimmed ++ target ++
            expression, message)
    | _ => stop

/-- `text.split(',')`. -/
def splitCommas (text : List Char) : List (List Char) := text.splitOn ','

/-- The rest of a command after its head, in any case, and white space. -/
def afterHead (command head : String) : Option (List Char) :=
  let text := command.toList
  let rest := text.drop head.length
  if (text.take head.length).map Char.toLower = head.toList ∧
      (rest.head?.any isTrimmed) then some rest
  else none

def multiMessage (command : String) : Option (List String × String) :=
  match afterHead command "/sendmulti" with
  | none => none
  | some rest =>
    let text := rest.dropWhile isTrimmed
    let target := text.takeWhile isTargetChar
    if target = [] then none
    else match targetGroups text.length (text.dropWhile isTargetChar) with
      | none => none
      | some (expression, message) =>
        if trim (String.ofList message) = "" then none
        else some
          ((splitCommas (target ++ expression)).map fun text => trim (String.ofList text),
            trim (String.ofList message))

/-- The message of a command with this head. -/
def messageAfter (command head : String) : Option String :=
  match afterHead command head with
  | none => none
  | some rest =>
    (messageEnd rest).bind fun message =>
      if trim (String.ofList message) = "" then none else some (trim (String.ofList message))

def invalidTargets (issues : List TargetIssue) : String :=
  "\n".intercalate (["❌ Multi-send aborted.", "", "Invalid targets:"] ++
    (issues.map fun issue => "- " ++ issue.input ++ " — " ++ issue.reason.text) ++
    ["", "No messages were queued."])

variable (codec : JidCodec)

def sendMulti (db : Database) (command : String) : Except AppError BulkOutcome :=
  match multiMessage command with
  | none => .ok (.reply "❌ Usage: /sendmulti TARGET1,TARGET2 MESSAGE")
  | some (targets, message) =>
    (TargetResolver.resolveTargets codec db targets true).map fun resolved =>
      if resolved.issues ≠ [] then .reply (invalidTargets resolved.issues)
      else .enqueue
        { type := .sendmulti
          destinations := resolved.destinations
          text := some message
          actor := some "self-controller"
          duplicateTargets := some resolved.duplicates }

def sendAll (db : Database) (command : String) : Except AppError BulkOutcome :=
  match messageAfter command "/sendall" with
  | none => .ok (.reply "❌ Usage: /sendall MESSAGE")
  | some message =>
    (TargetResolver.snapshotAllowed codec db).map fun snapshot =>
      if snapshot.destinations = [] then
        .reply "⚠️ No allowed groups found.\nNothing was queued."
      else .enqueue
        { type := .sendall
          destinations := snapshot.destinations
          text := some message
          actor := some "self-controller"
          duplicateTargets := some snapshot.duplicates }

end BulkControllerCommands

/-! ## The command line -/

namespace Cli

variable (codec : JidCodec)

/-- `targetInputs`. -/
def targetInputs (values : List String) : List String :=
  ((values.flatMap fun value => BulkControllerCommands.splitCommas value.toList).map
    fun text => trim (String.ofList text)).filter fun input => input ≠ ""

def targetIssueMessage (issues : List TargetIssue) : String :=
  ", ".intercalate (issues.map fun issue => issue.input ++ ": " ++ issue.reason.text)

def sendMulti (db : Database) (rawTargets : List String) (text : String) (force : Bool) :
    Except AppError BulkOutcome :=
  (TargetResolver.resolveTargets codec db (targetInputs rawTargets) true).bind fun resolved =>
    if resolved.issues ≠ [] then
      .error (.error
        ("Multi-send aborted; invalid targets: " ++ targetIssueMessage resolved.issues))
    else if resolved.destinations = [] then
      .error (.error "At least one destination is required")
    else .ok <| .enqueue
      { type := .sendmulti
        destinations := resolved.destinations
        text := some text
        force := some force
        actor := some "cli"
        duplicateTargets := some resolved.duplicates }

def sendAll (db : Database) (text : String) (force : Bool) : Except AppError BulkOutcome :=
  (TargetResolver.snapshotAllowed codec db).bind fun snapshot =>
    if snapshot.destinations = [] then
      .error (.error "No allowed and sendable groups were found")
    else .ok <| .enqueue
      { type := .sendall
        destinations := snapshot.destinations
        text := some text
        force := some force
        actor := some "cli"
        duplicateTargets := some snapshot.duplicates }

end Cli

/-- A command that sends to many groups, where it comes from. -/
inductive BulkCommand where
  | sendMulti (command : String)
  | sendAll (command : String)
  | cliSendMulti (rawTargets : List String) (text : String) (force : Bool)
  | cliSendAll (text : String) (force : Bool)

namespace BulkCommand

variable (codec : JidCodec)

def outcome (db : Database) : BulkCommand → Except AppError BulkOutcome
  | sendMulti command => BulkControllerCommands.sendMulti codec db command
  | sendAll command => BulkControllerCommands.sendAll codec db command
  | cliSendMulti rawTargets text force => Cli.sendMulti codec db rawTargets text force
  | cliSendAll text force => Cli.sendAll codec db text force

/-- The targets that a multi-send names. -/
def targets : BulkCommand → Option (List String)
  | sendMulti command => (BulkControllerCommands.multiMessage command).map Prod.fst
  | cliSendMulti rawTargets _ _ => some (Cli.targetInputs rawTargets)
  | sendAll _ | cliSendAll _ _ => none

variable {codec}

/-- **A multi-send with an issue calls nothing.** -/
theorem outcome_of_issues {db : Database} {command : BulkCommand} {targets : List String}
    {resolved : ResolveTargetsResult} (named : command.targets = some targets)
    (h : TargetResolver.resolveTargets codec db targets true = .ok resolved)
    (issues : resolved.issues ≠ []) (request : BulkEnqueueRequest) :
    command.outcome codec db ≠ .ok (.enqueue request) := by
  cases command with
  | sendMulti command =>
    obtain ⟨⟨_, message⟩, parsed, rfl⟩ := Option.map_eq_some_iff.mp named
    simp only [outcome, BulkControllerCommands.sendMulti, parsed, h, Except.map, if_pos issues,
      ne_eq, Except.ok.injEq, reduceCtorEq, not_false_eq_true]
  | cliSendMulti rawTargets text force =>
    cases named
    simp only [outcome, Cli.sendMulti, h, Except.bind, if_pos issues, ne_eq, reduceCtorEq,
      not_false_eq_true]
  | sendAll | cliSendAll => cases named

end BulkCommand

end WhatsappBot
