import WhatsappBot.Whatsapp.ExecutorUuids
import WhatsappBot.Whatsapp.PlainReplies
import WhatsappBot.Whatsapp.SelfChat

/-!
# Controllers with their executors

The controllers of `SelfChat` with the calls of the executor that they await,
and the store that these calls write. A call of the executor takes its turns
among those of every other call, while other processes write to the store.
-/

namespace WhatsappBot

open Lib.Relational Lib.Transition

structure ChatPlatform (Bytes Creds Value : Type) where
  controller : ControllerPlatform Bytes
  executor : ExecutorPlatform Creds Value

/-- `executors k n` is the call of the executor that call `n` of controller `k` awaits. -/
structure SelfChatBot (Bytes : Type) where
  chat : SelfChat Bytes
  executors : Nat → Nat → Option ExecutorCall
  store : GroupSetStore

inductive SelfChatBotAction where
  /-- An action of the controllers; where it answers for the executor, the executor's own
  answer stands in. -/
  | chat (action : SelfChatAction)
  /-- A turn of the executor. -/
  | execute (k n : Nat) (input : ExecutorInput)
  /-- A transaction of another process, or of the rest of this one. -/
  | outside (write : StoreWrite)

structure SelfChatBotHistory (Bytes : Type) where
  chat : SelfChatHistory Bytes := {}
  /-- The texts handed to `sendMessage`. -/
  sent : List String := []
  outside : List StoreWrite := []

/-- What the awaiting controller gets of a call, once the call has ended. -/
def ExecutorCall.answer (e : ExecutorCall) : Option (Except Unit String) :=
  match e.phase with
  | .returned reply => some (.ok reply)
  | .thrown _ => some (.error ())
  | _ => none

/-- The call that an execution starts. -/
def Execution.call {Bytes : Type} (x : Execution Bytes) : ExecutorCall where
  command := x.command
  sourceKey := x.sourceKey
  phase := .dispatching

/-- The text that `sendMessage` is called with on the way to a phase. -/
def UpsertPhase.sends : UpsertPhase → Option String
  | .replying _ _ reply _ _ => some reply
  | .apologizing _ _ _ _ => some SelfChatController.commandFailed
  | _ => none

namespace SelfChatBot

variable {Bytes Creds Value : Type} (platform : ChatPlatform Bytes Creds Value)

/-- An action of the controllers, with the answer of the executor in it. -/
def heard (s : SelfChatBot Bytes) : SelfChatAction → Option SelfChatAction
  | .turn k n input =>
    match s.executors k n with
    | none => some (.turn k n input)
    | some e => e.answer.map fun answer => .turn k n { input with answer := answer }
  | a => some a

def setExecutor (s : SelfChatBot Bytes) (k n : Nat) (e : Option ExecutorCall) :
    Nat → Nat → Option ExecutorCall :=
  Function.update s.executors k (Function.update (s.executors k) n e)

/-- The calls that are awaited after an action of the controllers: a turn ends the call that
it was waiting for, and may start one. -/
def awaited (s : SelfChatBot Bytes) : SelfChatAction → Nat → Nat → Option ExecutorCall
  | .crash k => Function.update s.executors k fun _ => none
  | .turn k n input => s.setExecutor k n <| (s.chat.call k n).bind fun (c, u) =>
    (c.executes platform.controller u.event input s.chat.sources u.phase).map Execution.call
  | _ => s.executors

def perform (s : SelfChatBot Bytes) : SelfChatBotAction → Option (SelfChatBot Bytes)
  | .chat a =>
    (s.heard a).bind fun a => ((SelfChat.system platform.controller).step s.chat a).map fun chat =>
      { s with
        chat := chat
        executors := s.awaited platform a }
  | .execute k n input =>
    (s.executors k n).map fun e =>
      let (e', store) := e.step platform.executor input s.store
      { s with
        executors := s.setExecutor k n (some e')
        store := store }
  | .outside write => some { s with store := write.apply s.store }

def system : System (SelfChatBot Bytes) SelfChatBotAction where
  step := perform platform

/-- What an action of the controllers sends. -/
def sends (s : SelfChatBot Bytes) : SelfChatAction → Option String
  | .turn k n input => (s.chat.call k n).bind fun (c, u) =>
    (c.next platform.controller u.event input s.chat.processed s.chat.sources u.phase).phase.sends
  | _ => none

def history : Monitor (SelfChatBot Bytes) SelfChatBotAction (SelfChatBotHistory Bytes) where
  next h s
    | .chat a =>
      match s.heard a with
      | none => h
      | some a =>
        { h with
          chat := (SelfChat.history platform.controller).next h.chat s.chat a
          sent := h.sent ++ (s.sends platform a).toList }
    | .execute _ _ _ => h
    | .outside write => { h with outside := h.outside ++ [write] }

def observed : System (SelfChatBot Bytes × SelfChatBotHistory Bytes) SelfChatBotAction :=
  (history platform).observe (system platform)

/-- No process is alive; the tables are arbitrary. -/
structure Start (s : SelfChatBot Bytes) : Prop where
  chat : s.chat.Start
  executors : ∀ k n, s.executors k n = none

/-! ## Steps -/

variable {platform} {s t : SelfChatBot Bytes} {p q : SelfChatBot Bytes × SelfChatBotHistory Bytes}
  {a : SelfChatBotAction} {k n : Nat}

/-- What a step does. -/
inductive Moves (platform : ChatPlatform Bytes Creds Value)
    (p : SelfChatBot Bytes × SelfChatBotHistory Bytes) (a : SelfChatBotAction) :
    SelfChatBot Bytes × SelfChatBotHistory Bytes → Prop where
  | chat {b b' : SelfChatAction} {chat : SelfChat Bytes × SelfChatHistory Bytes}
    (action : a = .chat b) (heard : p.1.heard b = some b')
    (moved : (SelfChat.observed platform.controller).step (p.1.chat, p.2.chat) b' = some chat) :
    Moves platform p a
      ({ p.1 with chat := chat.1, executors := p.1.awaited platform b' },
        { p.2 with chat := chat.2, sent := p.2.sent ++ (p.1.sends platform b').toList })
  | execute {k n : Nat} {input : ExecutorInput} {e e' : ExecutorCall} {store : GroupSetStore}
    (action : a = .execute k n input) (awaits : p.1.executors k n = some e)
    (turn : e.step platform.executor input p.1.store = (e', store)) :
    Moves platform p a
      ({ p.1 with executors := p.1.setExecutor k n (some e'), store := store }, p.2)
  | outside {write : StoreWrite} (action : a = .outside write) :
    Moves platform p a
      ({ p.1 with store := write.apply p.1.store }, { p.2 with outside := p.2.outside ++ [write] })

theorem moves_of_step (step : (observed platform).step p a = some q) : Moves platform p a q := by
  rcases q with ⟨t, h⟩
  obtain ⟨moved, after⟩ := Monitor.observe_step.mp step
  dsimp only at moved after
  cases a with
  | chat b =>
    obtain ⟨b', heard, stepped⟩ := Option.bind_eq_some_iff.mp moved
    obtain ⟨chat, inner, rfl⟩ := Option.map_eq_some_iff.mp stepped
    simp only [history, heard] at after
    subst after
    have observed : (SelfChat.observed platform.controller).step (p.1.chat, p.2.chat) b' =
        some (chat, (SelfChat.history platform.controller).next p.2.chat p.1.chat b') :=
      Monitor.observe_step.mpr ⟨inner, rfl⟩
    exact .chat rfl heard observed
  | execute k n input =>
    obtain ⟨e, awaits, rfl⟩ := Option.map_eq_some_iff.mp moved
    subst after
    exact .execute rfl awaits rfl
  | outside write =>
    cases moved
    subst after
    exact .outside rfl

theorem setExecutor_cases {s : SelfChatBot Bytes} {j m : Nat} {new : Option ExecutorCall}
    {e : ExecutorCall} (h : s.setExecutor j m new k n = some e) :
    (k = j ∧ n = m ∧ new = some e) ∨ s.executors k n = some e := by
  unfold setExecutor at h
  by_cases controller : k = j
  · subst controller
    rw [Function.update_self] at h
    by_cases call : n = m
    · subst call
      rw [Function.update_self] at h
      exact Or.inl ⟨rfl, rfl, h⟩
    · rw [Function.update_of_ne call] at h
      exact Or.inr h
  · rw [Function.update_of_ne controller] at h
    exact Or.inr h

/-- A call that is awaited has been before, or starts now. -/
theorem awaited_cases {b : SelfChatAction} {e : ExecutorCall}
    (h : s.awaited platform b k n = some e) :
    s.executors k n = some e ∨
      ∃ input c u x, b = .turn k n input ∧ s.chat.call k n = some (c, u) ∧
        c.executes platform.controller u.event input s.chat.sources u.phase = some x ∧
        e = x.call := by
  cases b with
  | turn j m input =>
    rcases setExecutor_cases h with ⟨rfl, rfl, started⟩ | old
    · obtain ⟨⟨c, u⟩, found, started⟩ := Option.bind_eq_some_iff.mp started
      obtain ⟨x, executes, rfl⟩ := Option.map_eq_some_iff.mp started
      exact Or.inr ⟨input, c, u, x, rfl, found, executes, rfl⟩
    · exact Or.inl old
  | crash j =>
    simp only [awaited] at h
    by_cases same : k = j
    · subst same
      rw [Function.update_self] at h
      cases h
    · rw [Function.update_of_ne same] at h
      exact Or.inl h
  | start | attach | detach | upsert => exact Or.inl h

end SelfChatBot

end WhatsappBot
