import WhatsappBot.Whatsapp.SelfChatBot
import WhatsappBot.Whatsapp.Superseded

/-!
# Who writes to the store

Every transaction of the executor is one that its command permits, and the
command is one that a controller has authorized. A job that a command queues
names no file, and forwards what the command's message quoted or nothing.
-/

namespace WhatsappBot

open Lib.Relational Lib.Transition

/-! ## The jobs of a command -/

section

variable {platform : KeyPlatform} {config : AppConfig} {submission : Submission}

open MessageService

end

section

variable {Creds Value : Type} {platform : ExecutorPlatform Creds Value} {command : String}
  {branch : ControllerBranch} {phase : EnqueuePhase} {submission : Submission}

end

/-! ## The log of a run -/

/-- A transaction on the store, with the command that made it if there is one. -/
inductive StoreEntry (Bytes : Type) where
  | outside (write : StoreWrite)
  | command (execution : Execution Bytes) (write : StoreWrite)

namespace StoreEntry

variable {Bytes : Type}

def write : StoreEntry Bytes → StoreWrite
  | outside write | command _ write => write

def outside? : StoreEntry Bytes → Option StoreWrite
  | outside write => some write
  | command _ _ => none

/-- The store after the transactions of a log. -/
def replay (s : GroupSetStore) (log : List (StoreEntry Bytes)) : GroupSetStore :=
  log.foldl (fun s entry => entry.write.apply s) s

theorem replay_append (s : GroupSetStore) (log : List (StoreEntry Bytes))
    (entry : StoreEntry Bytes) :
    replay s (log ++ [entry]) = entry.write.apply (replay s log) := List.foldl_concat ..

end StoreEntry

/-- The branch that an execution takes. -/
def Execution.branch {Bytes : Type} (x : Execution Bytes) : ControllerBranch :=
  ControllerCommands.branch x.command x.sourceKey

namespace SelfChatBot

variable {Bytes Creds Value : Type} {platform : ChatPlatform Bytes Creds Value}
  {s t : SelfChatBot Bytes} {p q : SelfChatBot Bytes × SelfChatBotHistory Bytes}
  {a : SelfChatBotAction} {s₀ : GroupSetStore}

/-- A log that explains the store: what is not from outside is from a command that has been
executed, and that permits it. -/
structure Explains (platform : ChatPlatform Bytes Creds Value) (s₀ : GroupSetStore)
    (p : SelfChatBot Bytes × SelfChatBotHistory Bytes) (log : List (StoreEntry Bytes)) : Prop where
  store : StoreEntry.replay s₀ log = p.1.store
  outside : log.filterMap StoreEntry.outside? = p.2.outside
  commands : ∀ x write, StoreEntry.command x write ∈ log →
    x ∈ p.2.chat.executed ∧ x.branch.Permits platform.executor x.command write

/-- Each call of the executor is that of a command, and awaits what the command is for. -/
def Serves (platform : ChatPlatform Bytes Creds Value) (h : SelfChatBotHistory Bytes)
    (e : ExecutorCall) : Prop :=
  ∃ x ∈ h.chat.executed, e.command = x.command ∧ e.sourceKey = x.sourceKey ∧
    e.phase.Bound platform.executor x.command x.branch

structure Governed (platform : ChatPlatform Bytes Creds Value) (s₀ : GroupSetStore)
    (p : SelfChatBot Bytes × SelfChatBotHistory Bytes) : Prop where
  checked : SelfChat.Checked platform.controller (p.1.chat, p.2.chat)
  serves : ∀ {k n e}, p.1.executors k n = some e → Serves platform p.2 e
  explained : ∃ log, Explains platform s₀ p log

theorem executed_subset {c c' : SelfChat Bytes × SelfChatHistory Bytes} {b : SelfChatAction}
    (moved : (SelfChat.observed platform.controller).step c b = some c') :
    c.2.executed ⊆ c'.2.executed := by
  rcases SelfChat.executed_after moved with same | ⟨_, _, _, _, _, x, _, _, _, added⟩
  · exact same ▸ List.Subset.refl _
  · rw [added]
    exact List.subset_append_left _ _

theorem mem_executed {c c' : SelfChat Bytes × SelfChatHistory Bytes} {k n : Nat}
    {input : UpsertInput} {controller : SelfChatController} {u : Upsert} {x : Execution Bytes}
    (moved : (SelfChat.observed platform.controller).step c (.turn k n input) = some c')
    (found : c.1.call k n = some (controller, u))
    (executes : controller.executes platform.controller u.event input c.1.sources u.phase =
      some x) : x ∈ c'.2.executed := by
  rw [(Monitor.observe_step.mp moved).2]
  simp only [SelfChat.history, found, executes, Option.toList_some]
  exact List.mem_append_right _ (List.mem_singleton_self x)

theorem Serves.mono {h h' : SelfChatBotHistory Bytes} {e : ExecutorCall}
    (serves : Serves platform h e) (grows : h.chat.executed ⊆ h'.chat.executed) :
    Serves platform h' e := by
  obtain ⟨x, mem, bound⟩ := serves
  exact ⟨x, grows mem, bound⟩

theorem Explains.mono {log : List (StoreEntry Bytes)} (h : Explains platform s₀ p log)
    (store : q.1.store = p.1.store) (outside : q.2.outside = p.2.outside)
    (grows : p.2.chat.executed ⊆ q.2.chat.executed) : Explains platform s₀ q log where
  store := h.store.trans store.symm
  outside := h.outside.trans outside.symm
  commands x write mem := (h.commands x write mem).imp_left fun mem => grows mem

theorem Governed.step (h : Governed platform s₀ p)
    (step : (observed platform).step p a = some q) : Governed platform s₀ q := by
  cases moves_of_step step with
  | @chat b b' chat action heard moved =>
    have grows := executed_subset moved
    refine ⟨h.checked.step moved, fun {k n e} awaits => ?_, ?_⟩
    · rcases awaited_cases awaits with old | ⟨input, c, u, x, rfl, found, executes, rfl⟩
      · exact (h.serves old).mono grows
      · exact ⟨x, mem_executed moved found executes, rfl, rfl, .dispatching⟩
    · obtain ⟨log, explains⟩ := h.explained
      exact ⟨log, explains.mono rfl rfl grows⟩
  | @execute k n input e e' store action awaits turn =>
    obtain ⟨x, mem, command, sourceKey, bound⟩ := h.serves awaits
    obtain ⟨log, explains⟩ := h.explained
    have taken : ControllerCommands.branch e.command e.sourceKey = x.branch := by
      rw [command, sourceKey]
      rfl
    obtain ⟨command', sourceKey', bound', wrote⟩ :=
      ExecutorCall.turn_wrote (by rw [taken, command]; exact bound) turn
    rw [taken, command] at bound' wrote
    refine ⟨h.checked, fun {k' n' other} awaits' => ?_, ?_⟩
    · rcases setExecutor_cases awaits' with ⟨-, -, same⟩ | old
      · cases same
        exact ⟨x, mem, command'.trans command, sourceKey'.trans sourceKey, bound'⟩
      · exact h.serves old
    · rcases wrote with same | ⟨write, permits, same⟩
      · exact ⟨log, explains.mono same rfl (List.Subset.refl _)⟩
      · refine ⟨log ++ [.command x write], ?_, ?_, fun x' write' mem' => ?_⟩
        · rw [StoreEntry.replay_append, explains.store]
          exact same.symm
        · rw [List.filterMap_append, explains.outside]
          exact List.append_nil _
        · rcases List.mem_append.mp mem' with old | new
          · exact explains.commands x' write' old
          · cases List.mem_singleton.mp new
            exact ⟨mem, permits⟩
  | @outside write action =>
    obtain ⟨log, explains⟩ := h.explained
    refine ⟨h.checked, h.serves, log ++ [.outside write], ?_, ?_, fun x write' mem => ?_⟩
    · rw [StoreEntry.replay_append, explains.store]
      rfl
    · rw [List.filterMap_append, explains.outside]
      rfl
    · rcases List.mem_append.mp mem with old | new
      · exact explains.commands x write' old
      · cases List.mem_singleton.mp new

theorem Start.governed (start : s.Start) : Governed platform s.store (s, {}) where
  checked :=
    { admitted := fun {k n c u} found => by
        rw [SelfChat.Start.no_call start.chat] at found
        cases found
      executed := fun _ mem => absurd mem List.not_mem_nil
      saved := fun _ mem => absurd mem List.not_mem_nil }
  serves {k n e} awaits := by
    rw [start.executors] at awaits
    cases awaits
  explained := ⟨[], rfl, rfl, fun _ _ mem => absurd mem List.not_mem_nil⟩

/-- The functions of a platform that knows the digest of the first message below. -/
def keys : KeyPlatform where
  sha256 := fun _ => "9cf88ab2591f1c1304c83f87bdd4730ead0ea543ef840f173ec1a18784f44ba2"
  normalizeNfc := id
  localeLe := fun a b => decide (a ≤ b)

def chatGroup : DiscoveredDestination where
  jid := "120363049876500011@g.us"
  normalized := by decide
  subject := "Choir"

/-- The id of a message that is forwarded. -/
def notedId : String := "3EB0C431C26A1916E07A"

/-- What the key of the forward is a digest of. -/
def forwardText : String :=
  (IdempotencyInput.canonical keys
    { destinationJid := chatGroup.jid
      payloadType := .text
      text := ""
      mediaHash := none
      scheduleIdentity := "IMMEDIATE"
      filename := none
      options := [("forwardSourceKey", .string (forwardSourceKey SelfChat.ownJid notedId))]
      forceNonce := none
      dryRun := false }).stringify

/-- A platform that knows the digests of the two messages below. -/
def plain : ChatPlatform WAMessage Bool String where
  controller := SelfChat.plain
  executor :=
    { keys :=
        { keys with
          sha256 := fun text =>
            if text = forwardText then
              "d82d9e8267d9950d1ca0299b59a23a13d724f49b8f0b91291af0be084e651584"
            else keys.sha256 text }
      jids := JoiningCodec.baileys
      dates := ⟨fun _ => none⟩
      auth := Session.registration
      config := .default false
      journalMode := "wal"
      grouped := [] }

def initial : SelfChatBot WAMessage := ⟨SelfChat.initial, fun _ _ => none, ⟨.empty, .empty⟩⟩

theorem initial_start : initial.Start := ⟨SelfChat.initial_start, fun _ _ => rfl⟩

def input : ExecutorInput where
  wall := SelfChat.clock
  uuid := ⟨"5c8a0b1e-7d2f-4e3a-9b6c-d1e2f3a4b5c6", by decide⟩
  auth := ⟨none, default⟩
  socket := none

/-- The account tells itself to send a message. -/
def sendMessage : WAMessage where
  key := { remoteJid := some SelfChat.ownJid, fromMe := some true, id := some "controller-2" }
  messageTimestamp := some (.finite 1790000000)
  message := some { conversation := some "/send 120363049876500011@g.us Rehearsal at 7" }

/-- A group is found and allowed, and then the command comes. -/
def sending : List SelfChatBotAction :=
  [.outside (.database (.synchronize [chatGroup] "cli" SelfChat.clock.toISOString)),
    .outside (.database (.setEnabled chatGroup.jid true "cli" SelfChat.clock.toISOString)),
    .chat (.start 0 [SelfChat.ownJid] true SelfChat.clock), .chat (.attach 0 7),
    .chat (.upsert 0 0 { messages := [sendMessage], type := "notify" })] ++
  List.replicate 5 (.chat (.turn 0 0 { clock := SelfChat.clock })) ++
  List.replicate 4 (.execute 0 0 input) ++ [.chat (.turn 0 0 { clock := SelfChat.clock })]

/-- A text that the account forwards to itself. -/
def noted : WAMessage where
  key := { remoteJid := some SelfChat.ownJid, fromMe := some true, id := some notedId }
  messageTimestamp := some (.finite 1790000000)
  message := some
    { extendedTextMessage := some
        { text := some "hello", contextInfo := some { isForwarded := some true } } }

end SelfChatBot

end WhatsappBot

