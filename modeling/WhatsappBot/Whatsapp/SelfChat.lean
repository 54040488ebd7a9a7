import WhatsappBot.Lib.Transition
import WhatsappBot.Whatsapp.SelfController

/-!
# Self-chat commands

Any number of controllers on one database: processes start and end, sockets
come and go, and calls of `handleUpsert` interleave between any two of their
statements and awaits. The history keeps every call of the executor, with what
was true at that moment.
-/

namespace WhatsappBot

open Lib.Relational Lib.Transition

/-- The tables that controllers share, and the controllers that are alive. -/
structure SelfChat (Bytes : Type) where
  processed : ControllerMessages
  sources : ForwardSources Bytes
  controllers : AList fun _ : Nat => SelfChatController

inductive SelfChatAction where
  /-- A process constructs its controller. -/
  | start (k : Nat) (ownJids : List String) (forwardSources : Bool) (now : Date)
  /-- The end of a process, at any point. -/
  | crash (k : Nat)
  | attach (k : Nat) (socket : Nat)
  | detach (k : Nat)
  /-- A call of `handleUpsert`. -/
  | upsert (k n : Nat) (event : UpsertEvent)
  /-- One piece of a call. -/
  | turn (k n : Nat) (input : UpsertInput)

/-- A call of the executor, with what was true at that moment. -/
structure Execution (Bytes : Type) where
  controller : SelfChatController
  event : UpsertEvent
  message : WAMessage
  command : String
  sourceKey : Option String
  sources : ForwardSources Bytes
  now : Date

/-- What has been executed, and what `storeForwardSource` has saved. -/
structure SelfChatHistory (Bytes : Type) where
  executed : List (Execution Bytes) := []
  saved : List WAMessage := []

/-- What one piece of a call leaves behind. -/
structure UpsertTurn (Bytes : Type) where
  phase : UpsertPhase
  processed : ControllerMessages
  sources : ForwardSources Bytes

namespace SelfChatController

variable {Bytes : Type} (platform : ControllerPlatform Bytes) (c : SelfChatController)

/-- `attach`; a replacement socket takes the handler along. -/
def attach (socket : Nat) : SelfChatController := { c with socket := some socket }

def detach : SelfChatController := { c with socket := none }

/-- One piece of `handleUpsert`. -/
def next (event : UpsertEvent) (i : UpsertInput) (processed : ControllerMessages)
    (sources : ForwardSources Bytes) : UpsertPhase → UpsertTurn Bytes
  | .entering =>
    ⟨if event.type ≠ "notify" ∨ truthyText event.requestId then .returned 0
      else .storing event.messages, processed, sources⟩
  | .storing [] => ⟨.handling event.messages 0, processed, sources⟩
  | .storing (message :: rest) =>
    match c.storable platform message with
    | none => ⟨.storing rest, processed, sources⟩
    | some contentType =>
      match sourceOf platform message contentType i.clock with
      | .error error => ⟨.thrown error, processed, sources⟩
      | .ok source =>
        if i.fails then ⟨.thrown (.sqlite .unavailable), processed, sources⟩
        else ⟨.storing rest, processed, ForwardSourceRepository.save sources source⟩
  | .handling [] accepted => ⟨.returned accepted, processed, sources⟩
  | .handling (message :: rest) accepted =>
    match c.accepts platform message with
    | none => ⟨.handling rest accepted, processed, sources⟩
    | some (text, socket) =>
      if i.fails then ⟨.thrown (.sqlite .unavailable), processed, sources⟩
      else
        let (marked, processed') := ControllerRepository.markProcessed processed
          (message.key.id.getD "") (platform.sha256 text) i.clock.toISOString
        if marked then ⟨.looking message text socket rest accepted, processed', sources⟩
        else ⟨.handling rest accepted, processed', sources⟩
  | .looking message text socket rest accepted =>
    if i.fails && c.forwardSources && (quotedKey message).isSome then
      ⟨.apologizing message socket rest accepted, processed, sources⟩
    else
      match c.invocation platform sources message text i.clock with
      | none => ⟨.replying message socket missingSource rest accepted, processed, sources⟩
      | some _ => ⟨.executing message socket rest accepted, processed, sources⟩
  | .executing message socket rest accepted =>
    match i.answer with
    | .ok reply => ⟨.replying message socket reply rest accepted, processed, sources⟩
    | .error _ => ⟨.apologizing message socket rest accepted, processed, sources⟩
  | .replying message socket _ rest accepted =>
    match i.answer with
    | .ok _ => ⟨.handling rest (accepted + 1), processed, sources⟩
    | .error _ => ⟨.apologizing message socket rest accepted, processed, sources⟩
  | .apologizing _ _ rest accepted => ⟨.handling rest (accepted + 1), processed, sources⟩
  | .returned accepted => ⟨.returned accepted, processed, sources⟩
  | .thrown error => ⟨.thrown error, processed, sources⟩

/-- The call of the executor in one piece of `handleUpsert`. -/
def executes (event : UpsertEvent) (i : UpsertInput) (sources : ForwardSources Bytes) :
    UpsertPhase → Option (Execution Bytes)
  | .looking message text _ _ _ =>
    if i.fails && c.forwardSources && (quotedKey message).isSome then none
    else (c.invocation platform sources message text i.clock).map fun sourceKey =>
      { controller := c
        event := event
        message := message
        command := text
        sourceKey := sourceKey
        sources := sources
        now := i.clock }
  | _ => none

/-- The message that one piece of `handleUpsert` saves. -/
def saves (i : UpsertInput) : UpsertPhase → Option WAMessage
  | .storing (message :: _) =>
    match c.storable platform message with
    | none => none
    | some contentType =>
      match sourceOf platform message contentType i.clock with
      | .error _ => none
      | .ok _ => if i.fails then none else some message
  | _ => none

end SelfChatController

namespace SelfChat

variable {Bytes : Type} (platform : ControllerPlatform Bytes)

/-- A call of `handleUpsert`, with its controller. -/
def call (s : SelfChat Bytes) (k n : Nat) : Option (SelfChatController × Upsert) :=
  (s.controllers.lookup k).bind fun c => (c.upserts.lookup n).map fun u => (c, u)

def setController (s : SelfChat Bytes) (k : Nat) (c : SelfChatController) : SelfChat Bytes :=
  { s with controllers := s.controllers.insert k c }

def setUpsert (c : SelfChatController) (n : Nat) (u : Upsert) : SelfChatController :=
  { c with upserts := c.upserts.insert n u }

def perform (s : SelfChat Bytes) : SelfChatAction → Option (SelfChat Bytes)
  | .start k ownJids forwardSources now =>
    match s.controllers.lookup k with
    | some _ => none
    | none => some <| s.setController k
      { ownJids := ownJids
        startedAtSeconds := now.ms / 1000
        forwardSources := forwardSources
        socket := none
        upserts := ∅ }
  | .crash k => some { s with controllers := s.controllers.erase k }
  | .attach k socket => (s.controllers.lookup k).map fun c => s.setController k (c.attach socket)
  | .detach k => (s.controllers.lookup k).map fun c => s.setController k c.detach
  | .upsert k n event =>
    (s.controllers.lookup k).bind fun c =>
      match c.upserts.lookup n with
      | some _ => none
      | none => some <| s.setController k (setUpsert c n ⟨event, .entering⟩)
  | .turn k n input =>
    (s.call k n).map fun (c, u) =>
      let turn := c.next platform u.event input s.processed s.sources u.phase
      { (s.setController k (setUpsert c n { u with phase := turn.phase })) with
        processed := turn.processed
        sources := turn.sources }

def system : System (SelfChat Bytes) SelfChatAction where
  step := perform platform

/-- What an action adds to the history. -/
def history : Monitor (SelfChat Bytes) SelfChatAction (SelfChatHistory Bytes) where
  next h s
    | .turn k n input =>
      match s.call k n with
      | none => h
      | some (c, u) =>
        { executed := h.executed ++
            (c.executes platform u.event input s.sources u.phase).toList
          saved := h.saved ++ (c.saves platform input u.phase).toList }
    | _ => h

def observed : System (SelfChat Bytes × SelfChatHistory Bytes) SelfChatAction :=
  (history platform).observe (system platform)

/-- No process is alive; the tables are arbitrary. -/
def Start (s : SelfChat Bytes) : Prop := s.controllers = ∅

def initial : SelfChat Bytes := ⟨default, default, ∅⟩

theorem initial_start : (initial : SelfChat Bytes).Start := rfl

/-! ## Where a call comes from -/

variable {platform} {s t : SelfChat Bytes} {a : SelfChatAction} {k n : Nat}
  {c c' : SelfChatController} {u u' : Upsert}

/-- Two states of one controller: only its socket and its calls change. -/
structure SameController (c c' : SelfChatController) : Prop where
  ownJids : c'.ownJids = c.ownJids
  startedAtSeconds : c'.startedAtSeconds = c.startedAtSeconds
  forwardSources : c'.forwardSources = c.forwardSources

theorem SameController.refl (c : SelfChatController) : SameController c c := ⟨rfl, rfl, rfl⟩

/-- Where a call of the new state comes from. -/
inductive CallAfter (platform : ControllerPlatform Bytes) (s : SelfChat Bytes) (a : SelfChatAction)
    (k n : Nat) (c' : SelfChatController) (u' : Upsert) : Prop where
  | kept {c : SelfChatController} (found : s.call k n = some (c, u')) (same : SameController c c')
    (other : ∀ input, a ≠ .turn k n input)
  | delivered {event : UpsertEvent} (action : a = .upsert k n event)
    (call : u' = ⟨event, .entering⟩)
  | turned {input : UpsertInput} {c : SelfChatController} {u : Upsert}
    (action : a = .turn k n input) (found : s.call k n = some (c, u))
    (same : SameController c c')
    (call : u' = { u with
      phase := (c.next platform u.event input s.processed s.sources u.phase).phase })

theorem call_eq_some : s.call k n = some (c, u) ↔
    s.controllers.lookup k = some c ∧ c.upserts.lookup n = some u := by
  simp only [call, Option.bind_eq_some_iff, Option.map_eq_some_iff, Prod.mk.injEq]
  constructor
  · rintro ⟨_, found, _, held, rfl, rfl⟩
    exact ⟨found, held⟩
  · rintro ⟨found, held⟩
    exact ⟨c, found, u, held, rfl, rfl⟩

theorem call_setController {j : Nat} (s : SelfChat Bytes) (c : SelfChatController) (k n : Nat) :
    (s.setController j c).call k n =
      if k = j then (c.upserts.lookup n).map fun u => (c, u) else s.call k n := by
  unfold setController call
  dsimp only
  by_cases same : k = j
  · subst same
    rw [AList.lookup_insert, if_pos rfl, Option.bind_some]
  · rw [AList.lookup_insert_ne same, if_neg same]

theorem call_after (step : (system platform).step s a = some t)
    (found' : t.call k n = some (c', u')) : CallAfter platform s a k n c' u' := by
  cases a with
  | start j ownJids forwardSources now =>
    simp only [system, perform] at step
    split at step
    · cases step
    · cases step
      rw [call_setController] at found'
      split at found'
      · simp only [AList.lookup_empty, Option.map_none, reduceCtorEq] at found'
      · exact .kept found' (.refl _) fun _ => nofun
  | crash j =>
    cases step
    obtain ⟨found, held⟩ := call_eq_some.mp found'
    by_cases same : k = j
    · rw [same] at found
      rw [AList.lookup_erase] at found
      cases found
    · rw [AList.lookup_erase_ne same] at found
      exact .kept (call_eq_some.mpr ⟨found, held⟩) (.refl _) fun _ => nofun
  | attach j socket | detach j =>
    obtain ⟨c, found, rfl⟩ := Option.map_eq_some_iff.mp step
    rw [call_setController] at found'
    split at found'
    · next same =>
      subst same
      obtain ⟨u, held, heq⟩ := Option.map_eq_some_iff.mp found'
      cases heq
      exact .kept (call_eq_some.mpr ⟨found, held⟩) ⟨rfl, rfl, rfl⟩ fun _ => nofun
    · exact .kept found' (.refl _) fun _ => nofun
  | upsert j m event =>
    obtain ⟨c, found, step⟩ := Option.bind_eq_some_iff.mp step
    split at step
    · cases step
    · cases step
      rw [call_setController] at found'
      split at found'
      · next same =>
        subst same
        obtain ⟨u, held, heq⟩ := Option.map_eq_some_iff.mp found'
        cases heq
        unfold setUpsert at held
        by_cases same : n = m
        · subst same
          rw [AList.lookup_insert, Option.some.injEq] at held
          exact .delivered rfl held.symm
        · rw [AList.lookup_insert_ne same] at held
          exact .kept (call_eq_some.mpr ⟨found, held⟩) ⟨rfl, rfl, rfl⟩ fun _ => nofun
      · exact .kept found' (.refl _) fun _ => nofun
  | turn j m input =>
    obtain ⟨⟨c, u⟩, found, rfl⟩ := Option.map_eq_some_iff.mp step
    have turned : (s.setController j (setUpsert c m { u with
        phase := (c.next platform u.event input s.processed s.sources u.phase).phase })).call k n =
          some (c', u') := found'
    rw [call_setController] at turned
    split at turned
    · next same =>
      subst same
      obtain ⟨v, held, heq⟩ := Option.map_eq_some_iff.mp turned
      cases heq
      unfold setUpsert at held
      by_cases same : n = m
      · subst same
        rw [AList.lookup_insert, Option.some.injEq] at held
        exact .turned rfl found ⟨rfl, rfl, rfl⟩ held.symm
      · rw [AList.lookup_insert_ne same] at held
        refine .kept (call_eq_some.mpr ⟨(call_eq_some.mp found).1, held⟩) ⟨rfl, rfl, rfl⟩ ?_
        rintro _ ⟨⟩
        exact same rfl
    · next other =>
      refine .kept turned (.refl _) ?_
      rintro _ ⟨⟩
      exact other rfl

/-- A turn, taken apart. -/
theorem turn_of_step {input : UpsertInput}
    (step : (system platform).step s (.turn k n input) = some t) :
    ∃ c u, s.call k n = some (c, u) ∧
      t.processed = (c.next platform u.event input s.processed s.sources u.phase).processed := by
  obtain ⟨⟨c, u⟩, found, rfl⟩ := Option.map_eq_some_iff.mp step
  exact ⟨c, u, found, rfl⟩

/-- Only turns write the tables. -/
theorem processed_elsewhere (step : (system platform).step s a = some t)
    (other : ∀ k n input, a ≠ .turn k n input) : t.processed = s.processed := by
  cases a with
  | start =>
    simp only [system, perform] at step
    split at step
    · cases step
    · cases step
      rfl
  | crash =>
    cases step
    rfl
  | attach | detach =>
    obtain ⟨c, -, rfl⟩ := Option.map_eq_some_iff.mp step
    rfl
  | upsert =>
    obtain ⟨c, -, step⟩ := Option.bind_eq_some_iff.mp step
    split at step
    · cases step
    · cases step
      rfl
  | turn k n input => exact absurd rfl (other k n input)

end SelfChat

/-! ## A message is marked before its command is executed -/

/-- The message that a call has marked and not yet looked at. -/
def UpsertPhase.marked : UpsertPhase → Option WAMessage
  | .looking message _ _ _ _ => some message
  | _ => none

/-- `message.key.id`, which an accepted message has. -/
def WAMessage.messageId (message : WAMessage) : String := message.key.id.getD ""

def ControllerMessages.Known (processed : ControllerMessages) (id : String) : Prop :=
  ∃ row ∈ processed.rows, row.messageId = id

theorem ControllerRepository.markProcessed_cases (processed : ControllerMessages)
    (id hash : String) (now : Timestamp) :
    ((markProcessed processed id hash now).1 = true ∧ ¬processed.Known id ∧
        (markProcessed processed id hash now).2.Known id) ∨
      markProcessed processed id hash now = (false, processed) := by
  rcases processed.insertOrIgnore_cases
      { messageId := id, receivedAt := now, commandHash := hash } with
    ⟨added, rows, apart⟩ | ⟨same, -⟩
  · refine Or.inl ⟨added, ?_, ?_⟩
    · rintro ⟨row, mem, known⟩
      exact apart row mem known
    · refine ⟨{ messageId := id, receivedAt := now, commandHash := hash }, ?_, rfl⟩
      unfold markProcessed
      rw [rows]
      exact List.mem_append_right _ (List.mem_singleton_self _)
  · exact Or.inr same

theorem ControllerRepository.known_markProcessed {processed : ControllerMessages} {id : String}
    (h : processed.Known id) (id' hash : String) (now : Timestamp) :
    (markProcessed processed id' hash now).2.Known id := by
  obtain ⟨row, mem, known⟩ := h
  exact ⟨row, Table.mem_insertOrIgnore mem, known⟩

namespace SelfChatController

variable {Bytes : Type} {platform : ControllerPlatform Bytes} {c c' : SelfChatController}
  {event : UpsertEvent} {i : UpsertInput} {processed : ControllerMessages}
  {sources : ForwardSources Bytes} {phase : UpsertPhase}

/-- No piece of a call removes a mark. -/
theorem known_next {id : String} (h : processed.Known id) :
    (c.next platform event i processed sources phase).processed.Known id := by
  unfold next
  split
  case h_5 =>
    split
    · exact h
    · split
      · exact h
      · dsimp only
        split <;> exact ControllerRepository.known_markProcessed h ..
  all_goals repeat' split
  all_goals exact h

/-- A call comes to look at a message by marking it, the first to do so. -/
theorem marked_next {message : WAMessage}
    (h : (c.next platform event i processed sources phase).phase.marked = some message) :
    ¬processed.Known message.messageId ∧
      (c.next platform event i processed sources phase).processed.Known message.messageId ∧
      ∃ rest accepted text socket, phase = .handling (message :: rest) accepted ∧
        c.accepts platform message = some (text, socket) ∧
        (c.next platform event i processed sources phase).phase =
          .looking message text socket rest accepted := by
  cases phase with
  | handling todo accepted =>
    cases todo with
    | nil => cases h
    | cons first rest =>
      simp only [next] at h ⊢
      cases accepts : c.accepts platform first with
      | none =>
        rw [accepts] at h
        cases h
      | some answer =>
        rcases answer with ⟨text, socket⟩
        rw [accepts] at h
        dsimp only at h ⊢
        split at h
        · cases h
        · next granted =>
          rw [if_neg granted]
          rcases ControllerRepository.markProcessed_cases processed (first.key.id.getD "")
              (platform.sha256 text) i.clock.toISOString with ⟨added, unknown, known⟩ | same
          · rw [if_pos added] at h ⊢
            cases h
            exact ⟨unknown, known, rest, accepted, text, socket, rfl, accepts, rfl⟩
          · rw [same] at h
            cases h
  | entering =>
    simp only [next] at h
    split at h <;> cases h
  | storing todo =>
    cases todo with
    | nil => cases h
    | cons first rest =>
      simp only [next] at h
      split at h
      · cases h
      · split at h
        · cases h
        · split at h <;> cases h
  | looking =>
    simp only [next] at h
    split at h
    · cases h
    · split at h <;> cases h
  | executing | replying =>
    simp only [next] at h
    split at h <;> cases h
  | apologizing | returned | thrown => cases h

/-- The executor is called for the marked message. -/
theorem executes_spec {e : Execution Bytes} (h : c.executes platform event i sources phase = some e) :
    e.controller = c ∧ e.event = event ∧ e.sources = sources ∧ e.now = i.clock ∧
      ∃ socket rest accepted, phase = .looking e.message e.command socket rest accepted ∧
        c.invocation platform sources e.message e.command i.clock = some e.sourceKey := by
  unfold executes at h
  split at h
  · split at h
    · cases h
    · obtain ⟨sourceKey, invoked, rfl⟩ := Option.map_eq_some_iff.mp h
      exact ⟨rfl, rfl, rfl, rfl, _, _, _, rfl, invoked⟩
  · cases h

theorem saves_spec {message : WAMessage} (h : c.saves platform i phase = some message) :
    message.isForwarded = true := by
  unfold saves at h
  split at h
  · split at h
    · cases h
    · next storable =>
      split at h
      · cases h
      · split at h
        · cases h
        · cases h
          exact isForwarded_of_storable storable
  · cases h

end SelfChatController

/-! ## Every execution is authorized -/

/-- What the controller has checked when it calls the executor: the event, the
message, the command, and for a forward its source. -/
structure Execution.Authorized {Bytes : Type} (platform : ControllerPlatform Bytes)
    (e : Execution Bytes) : Prop where
  notify : e.event.type = "notify"
  unrequested : truthyText e.event.requestId = false
  listed : e.message ∈ e.event.messages
  identified : ∃ id, e.message.key.id = some id ∧ id ≠ ""
  fromMe : e.message.key.fromMe = some true
  remote : ∃ jid, e.message.key.remoteJid = some jid ∧ platform.jids.isUserJid jid = true ∧
    ∃ own ∈ e.controller.ownJids, platform.jids.sameJid own jid = true
  participant : ∀ participant, e.message.key.participant = some participant → participant ≠ "" →
    ∃ own ∈ e.controller.ownJids, platform.jids.sameJid own participant = true
  direct : e.message.isForwarded = false
  recent : ∃ seconds : ℚ, e.message.timestamp = .finite seconds ∧
    ((e.controller.startedAtSeconds - 30 : ℤ) : ℚ) ≤ seconds
  command : ∃ text, e.message.messageText = some text ∧ e.command = trim text ∧
    isCommand e.command = true
  source : e.sourceKey.isSome = true ∨ commandHead e.command ∈ forwardCommands →
    ∃ key source, e.sourceKey = some key ∧ SelfChatController.quotedKey e.message = some key ∧
      ForwardSourceRepository.get e.sources key = some source ∧
      source.expired platform.dates e.now = false

/-- An event whose messages are handled. -/
def UpsertEvent.Heard (event : UpsertEvent) : Prop :=
  event.type = "notify" ∧ truthyText event.requestId = false

/-- What has been checked where a call stands. -/
def UpsertPhase.Admitted {Bytes : Type} (platform : ControllerPlatform Bytes)
    (c : SelfChatController) (event : UpsertEvent) : UpsertPhase → Prop
  | .entering | .returned _ | .thrown _ => True
  | .storing _ => event.Heard
  | .handling rest _ | .executing _ _ rest _ | .replying _ _ _ rest _ | .apologizing _ _ rest _ =>
    event.Heard ∧ rest ⊆ event.messages
  | .looking message text _ rest _ => event.Heard ∧ rest ⊆ event.messages ∧
    message ∈ event.messages ∧ c.isAuthorized platform message = true ∧
    message.trimmedText = some text ∧ isCommand text = true ∧
    ∃ id, message.key.id = some id ∧ id ≠ ""

namespace SelfChatController

variable {Bytes : Type} {platform : ControllerPlatform Bytes} {c c' : SelfChatController}
  {event : UpsertEvent} {phase : UpsertPhase}

theorem isAuthorized_congr (same : SelfChat.SameController c c') (message : WAMessage) :
    c'.isAuthorized platform message = c.isAuthorized platform message := by
  have own : c'.isOwn platform = c.isOwn platform := by
    funext jid
    rw [isOwn, isOwn, same.ownJids]
  rw [isAuthorized, isAuthorized, ownParticipant, ownParticipant, own, same.startedAtSeconds]

theorem admitted_congr (same : SelfChat.SameController c c')
    (h : phase.Admitted platform c event) : phase.Admitted platform c' event := by
  cases phase with
  | looking message =>
    obtain ⟨heard, rest, listed, authorized, checked⟩ := h
    exact ⟨heard, rest, listed, (isAuthorized_congr same message).trans authorized, checked⟩
  | entering | storing | handling | executing | replying | apologizing | returned | thrown =>
    exact h

/-- What has been checked carries over to the next piece. -/
theorem admitted_next (i : UpsertInput) (processed : ControllerMessages)
    (sources : ForwardSources Bytes) (h : phase.Admitted platform c event) :
    (c.next platform event i processed sources phase).phase.Admitted platform c event := by
  cases phase with
  | entering =>
    simp only [next]
    split
    · trivial
    · next admitted =>
      push Not at admitted
      exact ⟨admitted.1, (Bool.not_eq_true _).mp admitted.2⟩
  | storing todo =>
    cases todo with
    | nil => exact ⟨h, List.Subset.refl _⟩
    | cons message rest =>
      simp only [next]
      split
      · exact h
      · split
        · trivial
        · split
          · trivial
          · exact h
  | handling todo accepted =>
    cases todo with
    | nil => trivial
    | cons message rest =>
      obtain ⟨heard, listed⟩ := h
      obtain ⟨head, tail⟩ := List.cons_subset.mp listed
      simp only [next]
      split
      · exact ⟨heard, tail⟩
      · next text socket accepts =>
        obtain ⟨authorized, trimmed, command, id⟩ := accepts_spec accepts
        split
        · trivial
        · split
          · exact ⟨heard, tail, head, authorized, trimmed, command, id⟩
          · exact ⟨heard, tail⟩
  | looking message text socket rest accepted =>
    obtain ⟨heard, tail, -⟩ := h
    simp only [next]
    split
    · exact ⟨heard, tail⟩
    · split <;> exact ⟨heard, tail⟩
  | executing | replying =>
    simp only [next]
    split <;> exact h
  | apologizing | returned | thrown => exact h

/-- A call of the executor meets what is asked of it. -/
theorem authorized_of_executes {i : UpsertInput} {sources : ForwardSources Bytes}
    {e : Execution Bytes} (h : phase.Admitted platform c event)
    (executes : c.executes platform event i sources phase = some e) : e.Authorized platform := by
  obtain ⟨controller, heardEvent, stored, now, socket, rest, accepted, rfl, invoked⟩ :=
    executes_spec executes
  obtain ⟨⟨notify, unrequested⟩, -, listed, authorized, trimmed, command, id⟩ := h
  obtain ⟨fromMe, ⟨jid, remote, -, user, own⟩, participant, direct, recent⟩ :=
    isAuthorized_iff.mp authorized
  obtain ⟨text, raw, same⟩ := Option.map_eq_some_iff.mp trimmed
  subst controller heardEvent
  exact
    { notify := notify
      unrequested := unrequested
      listed := listed
      identified := id
      fromMe := fromMe
      remote := ⟨jid, remote, user, List.any_eq_true.mp own⟩
      participant := fun participant' given nonempty =>
        List.any_eq_true.mp (participant participant' given nonempty)
      direct := direct
      recent := recent
      command := ⟨text, raw, same.symm, command⟩
      source := fun forward => by
        rw [stored, now]
        refine invocation_spec invoked (forward.imp_right fun head => ?_)
        exact isForwardCommand_of_head (by rw [← same, trim_trim]) head }

end SelfChatController

/-! ## At most once -/

namespace SelfChat

variable {Bytes : Type} {platform : ControllerPlatform Bytes} {s t : SelfChat Bytes}
  {p q : SelfChat Bytes × SelfChatHistory Bytes} {a : SelfChatAction} {k n : Nat}

/-- The ids of the messages executed so far. -/
def executedIds (h : SelfChatHistory Bytes) : List String :=
  h.executed.map fun e => e.message.messageId

/-- A call has marked the message with this id and is about to look at it. -/
def Looks (s : SelfChat Bytes) (k n : Nat) (id : String) : Prop :=
  ∃ c u message, s.call k n = some (c, u) ∧ u.phase.marked = some message ∧
    message.messageId = id

/-- The marks are what keeps a command from a second execution. -/
structure Once (p : SelfChat Bytes × SelfChatHistory Bytes) : Prop where
  known : ∀ id ∈ executedIds p.2, p.1.processed.Known id
  distinct : (executedIds p.2).Nodup
  looking : ∀ {k n id}, p.1.Looks k n id → p.1.processed.Known id ∧ id ∉ executedIds p.2
  apart : ∀ {k n k' n' id}, p.1.Looks k n id → p.1.Looks k' n' id → k = k' ∧ n = n'

theorem known_of_step {id : String} (h : s.processed.Known id)
    (step : (system platform).step s a = some t) : t.processed.Known id := by
  by_cases turn : ∃ k n input, a = .turn k n input
  · obtain ⟨k, n, input, rfl⟩ := turn
    obtain ⟨c, u, -, processed⟩ := turn_of_step step
    rw [processed]
    exact SelfChatController.known_next h
  · push Not at turn
    rw [processed_elsewhere step turn]
    exact h

/-- A call that looks at a message has done so before, or marks it now. -/
theorem looks_after {id : String} (step : (system platform).step s a = some t)
    (looks : t.Looks k n id) :
    (s.Looks k n id ∧ ∀ input, a ≠ .turn k n input) ∨
      (∃ input, a = .turn k n input) ∧ ¬s.processed.Known id ∧ t.processed.Known id := by
  obtain ⟨c', u', message, found', marked, same⟩ := looks
  cases call_after step found' with
  | @kept c found sameController other => exact Or.inl ⟨⟨c, u', message, found, marked, same⟩, other⟩
  | delivered action call =>
    subst call
    cases marked
  | @turned input c u action found sameController call =>
    subst call action
    obtain ⟨unknown, known, -⟩ := SelfChatController.marked_next marked
    obtain ⟨c₁, u₁, found₁, processed⟩ := turn_of_step step
    cases found.symm.trans found₁
    rw [← processed] at known
    exact Or.inr ⟨⟨input, rfl⟩, same ▸ unknown, same ▸ known⟩

/-- The history after an action: the executor has been called for a marked
message, or not at all. -/
theorem executed_after (step : (observed platform).step p a = some q) :
    q.2.executed = p.2.executed ∨
      ∃ k n input c u e, a = .turn k n input ∧ p.1.call k n = some (c, u) ∧
        c.executes platform u.event input p.1.sources u.phase = some e ∧
        q.2.executed = p.2.executed ++ [e] := by
  have after : q.2 = (history platform).next p.2 p.1 a := (Monitor.observe_step.mp step).2
  rw [after]
  cases a with
  | start | crash | attach | detach | upsert => exact Or.inl rfl
  | turn k n input =>
    simp only [history]
    cases found : p.1.call k n with
    | none => exact Or.inl rfl
    | some call =>
      rcases call with ⟨c, u⟩
      dsimp only
      cases executes : c.executes platform u.event input p.1.sources u.phase with
      | none => exact Or.inl (List.append_nil _)
      | some e => exact Or.inr ⟨k, n, input, c, u, e, rfl, found, executes, rfl⟩

theorem looks_of_executes {c : SelfChatController} {u : Upsert} {input : UpsertInput}
    {e : Execution Bytes} (found : s.call k n = some (c, u))
    (executes : c.executes platform u.event input s.sources u.phase = some e) :
    s.Looks k n e.message.messageId := by
  obtain ⟨-, -, -, -, socket, rest, accepted, phase, -⟩ :=
    SelfChatController.executes_spec executes
  exact ⟨c, u, e.message, found, by rw [phase]; rfl, rfl⟩

theorem Once.step (h : Once p) (step : (observed platform).step p a = some q) : Once q := by
  have moved : (system platform).step p.1 a = some q.1 := (Monitor.observe_step.mp step).1
  have apart : ∀ {k n k' n' id}, q.1.Looks k n id → q.1.Looks k' n' id → k = k' ∧ n = n' := by
    intro k n k' n' id looks looks'
    rcases looks_after moved looks with ⟨before, other⟩ | ⟨⟨input, action⟩, unknown, -⟩ <;>
      rcases looks_after moved looks' with ⟨before', other'⟩ | ⟨⟨input', action'⟩, unknown', -⟩
    · exact h.apart before before'
    · exact absurd (h.looking before).1 unknown'
    · exact absurd (h.looking before').1 unknown
    · rw [action] at action'
      cases action'
      exact ⟨rfl, rfl⟩
  rcases executed_after step with same | ⟨k, n, input, c, u, e, action, found, executes, added⟩
  · have ids : executedIds q.2 = executedIds p.2 := by rw [executedIds, same, executedIds]
    refine ⟨fun id mem => ?_, ?_, ?_, apart⟩
    · exact known_of_step (h.known id (ids ▸ mem)) moved
    · rw [ids]
      exact h.distinct
    · intro k n id looks
      rw [ids]
      rcases looks_after moved looks with ⟨before, -⟩ | ⟨-, unknown, known⟩
      · exact ⟨known_of_step (h.looking before).1 moved, (h.looking before).2⟩
      · exact ⟨known, fun mem => unknown (h.known id mem)⟩
  · have looks : p.1.Looks k n e.message.messageId := looks_of_executes found executes
    have ids : executedIds q.2 = executedIds p.2 ++ [e.message.messageId] := by
      rw [executedIds, added, List.map_append]
      rfl
    refine ⟨?_, ?_, ?_, apart⟩
    · intro id mem
      rw [ids] at mem
      rcases List.mem_append.mp mem with old | new
      · exact known_of_step (h.known id old) moved
      · rw [List.mem_singleton.mp new]
        exact known_of_step (h.looking looks).1 moved
    · rw [ids, List.nodup_append]
      refine ⟨h.distinct, List.nodup_singleton _, ?_⟩
      rintro id old _ new rfl
      rw [List.mem_singleton.mp new] at old
      exact (h.looking looks).2 old
    · intro k' n' id looks'
      rw [ids]
      rcases looks_after moved looks' with ⟨before, other⟩ | ⟨⟨input', action'⟩, unknown, -⟩
      · refine ⟨known_of_step (h.looking before).1 moved, fun mem => ?_⟩
        rcases List.mem_append.mp mem with old | new
        · exact (h.looking before).2 old
        · rw [List.mem_singleton.mp new] at before
          obtain ⟨rfl, rfl⟩ := h.apart before looks
          exact other input action
      · rw [action] at action'
        cases action'
        obtain ⟨c', u', message, found', marked, same⟩ := looks'
        cases call_after moved found' with
        | kept _ _ other => exact absurd action (other input)
        | delivered action' => rw [action] at action'; cases action'
        | turned action' found'' sameController call =>
          rw [action] at action'
          cases action'
          cases found.symm.trans found''
          subst call
          obtain ⟨-, -, _, _, _, _, phase, -⟩ := SelfChatController.marked_next marked
          obtain ⟨-, -, -, -, _, _, _, phase', -⟩ := SelfChatController.executes_spec executes
          rw [phase] at phase'
          cases phase'

/-! ## Every run -/

/-- What every call stands on, and what the history has seen. -/
structure Checked (platform : ControllerPlatform Bytes)
    (p : SelfChat Bytes × SelfChatHistory Bytes) : Prop where
  admitted : ∀ {k n c u}, p.1.call k n = some (c, u) → u.phase.Admitted platform c u.event
  executed : ∀ e ∈ p.2.executed, e.Authorized platform
  saved : ∀ message ∈ p.2.saved, message.isForwarded = true

theorem saved_after (step : (observed platform).step p a = some q)
    (h : ∀ message ∈ p.2.saved, message.isForwarded = true) :
    ∀ message ∈ q.2.saved, message.isForwarded = true := by
  have after : q.2 = (history platform).next p.2 p.1 a := (Monitor.observe_step.mp step).2
  rw [after]
  cases a with
  | start | crash | attach | detach | upsert => exact h
  | turn k n input =>
    simp only [history]
    split
    · exact h
    · intro message mem
      rcases List.mem_append.mp mem with old | new
      · exact h message old
      · exact SelfChatController.saves_spec (Option.mem_toList.mp new)

theorem Checked.step (h : Checked platform p) (step : (observed platform).step p a = some q) :
    Checked platform q where
  admitted := by
    intro k n c' u' found'
    cases call_after (Monitor.observe_step.mp step).1 found' with
    | kept found same => exact SelfChatController.admitted_congr same (h.admitted found)
    | delivered _ call =>
      subst call
      trivial
    | turned _ found same call =>
      subst call
      exact SelfChatController.admitted_congr same
        (SelfChatController.admitted_next _ _ _ (h.admitted found))
  executed := by
    rcases executed_after step with same | ⟨k, n, input, c, u, e, -, found, executes, added⟩
    · rw [same]
      exact h.executed
    · rw [added]
      intro e' mem
      rcases List.mem_append.mp mem with old | new
      · exact h.executed e' old
      · rw [List.mem_singleton.mp new]
        exact SelfChatController.authorized_of_executes (h.admitted found) executes
  saved := saved_after step h.saved

theorem Start.no_call (h : s.Start) (k n : Nat) : s.call k n = none := by
  rw [call, h, AList.lookup_empty]
  rfl

/-- **Self-chat commands are authorized and run at most once**, in every run of
any number of controllers on one database. -/
theorem commands_once (platform : ControllerPlatform Bytes) {s₀ s : SelfChat Bytes}
    {h : SelfChatHistory Bytes} {as : List SelfChatAction} (start : s₀.Start)
    (run : (observed platform).Run (s₀, {}) as (s, h)) :
    (h.executed.map fun e => e.message.key.id).Nodup ∧
      (∀ e ∈ h.executed, e.Authorized platform) ∧
      ∀ message ∈ h.saved, ∀ e ∈ h.executed, e.message ≠ message := by
  have once : Once (s, h) := by
    refine run.invariant (I := Once) (fun h _ step => h.step step) ?_
    refine ⟨fun id mem => absurd mem List.not_mem_nil, List.nodup_nil, ?_, ?_⟩
    · rintro k n id ⟨c, u, message, found, -⟩
      rw [Start.no_call start] at found
      cases found
    · rintro k n k' n' id ⟨c, u, message, found, -⟩
      rw [Start.no_call start] at found
      cases found
  have checked : Checked platform (s, h) := by
    refine run.invariant (I := Checked platform) (fun h _ step => h.step step) ?_
    refine ⟨?_, fun e mem => absurd mem List.not_mem_nil,
      fun message mem => absurd mem List.not_mem_nil⟩
    intro k n c u found
    rw [Start.no_call start] at found
    cases found
  refine ⟨?_, checked.executed, ?_⟩
  · have distinct : ((h.executed.map fun e => e.message.key.id).map fun id =>
        id.getD "").Nodup := by
      rw [List.map_map]
      exact once.distinct
    exact distinct.of_map _
  · rintro message saved e executed rfl
    have direct := (checked.executed e executed).direct
    rw [checked.saved e.message saved] at direct
    cases direct

/-! ## A run -/

/-- A JID cut at its `@`. -/
def cutJid (value : String) : Option JidParts :=
  match value.toList.dropWhile (· ≠ '@') with
  | '@' :: server =>
    some ⟨String.ofList (value.toList.takeWhile (· ≠ '@')), String.ofList server⟩
  | _ => none

/-- A platform that knows one digest, and whose payloads are the messages themselves. -/
def plain : ControllerPlatform WAMessage where
  jids :=
    { jidDecode := cutJid
      jidEncode := fun user server => user ++ "@" ++ server
      toLowerCase := fun text => String.ofList (text.toList.map Char.toLower) }
  dates := ⟨fun _ => none⟩
  sha256 := fun _ => "ae4267a01f1269fbbf4824d26cf3bb22e8059a4797cc5bb46e43c40ff7ed090f"
  encode := id

def ownJid : String := "989121234567@s.whatsapp.net"

def clock : Date := ⟨1790000000000, by decide⟩

/-- A command of the account to itself. -/
def statusMessage : WAMessage where
  key := { remoteJid := some ownJid, fromMe := some true, id := some "controller-1" }
  messageTimestamp := some (.finite 1790000000)
  message := some { conversation := some " /status" }

/-- The same event comes twice, and both calls take turns. -/
def twice : List SelfChatAction :=
  [.start 0 [ownJid] true clock, .attach 0 7,
    .upsert 0 0 { messages := [statusMessage], type := "notify" },
    .upsert 0 1 { messages := [statusMessage], type := "notify" }] ++
  (List.replicate 5 [SelfChatAction.turn 0 0 { clock := clock },
    .turn 0 1 { clock := clock }]).flatten

theorem commands_once_status :
    ∃ s h, (observed plain).Run (initial, {}) twice (s, h) ∧
      h.executed.length = 1 ∧ (h.executed.map fun e => e.message.key.id).Nodup ∧
      (∀ e ∈ h.executed, e.Authorized plain) ∧
      ∀ message ∈ h.saved, ∀ e ∈ h.executed, e.message ≠ message := by
  have trace : (((observed plain).exec (initial, {}) twice).any fun p =>
      p.2.executed.length = 1) = true := by
    decide +kernel
  obtain ⟨⟨s, h⟩, run, one⟩ := (Option.any_eq_true _ _).mp trace
  have run := System.run_of_exec run
  exact ⟨s, h, run, of_decide_eq_true one, commands_once plain initial_start run⟩

end SelfChat

end WhatsappBot
