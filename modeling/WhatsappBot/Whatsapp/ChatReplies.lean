import WhatsappBot.Whatsapp.ChatWrites

/-!
# Replies come back

`sendMessage` puts a reply into the chat of the account with itself, where every
controller reads it as a message of the account. None of them takes it for a
command, so that no reply is answered.
-/

namespace WhatsappBot

open Lib.Relational Lib.Transition

/-- Awaiting the executor. -/
inductive UpsertPhase.Executing : UpsertPhase → Prop where
  | intro (message : WAMessage) (socket : Nat) (rest : List WAMessage) (accepted : Nat) :
    Executing (.executing message socket rest accepted)

namespace SelfChatController

variable {Bytes : Type} {platform : ControllerPlatform Bytes} {c : SelfChatController}
  {event : UpsertEvent} {i : UpsertInput} {processed : ControllerMessages}
  {sources : ForwardSources Bytes} {phase : UpsertPhase}

/-- A text that opens is no command to any controller. -/
theorem accepts_of_opens {message : WAMessage} {reply : String} (plain : opens reply = true)
    (text : message.messageText = some reply) : c.accepts platform message = none := by
  cases accepted : c.accepts platform message with
  | none => rfl
  | some answer =>
    obtain ⟨-, trimmed, command, -⟩ := accepts_spec accepted
    rw [WAMessage.trimmedText, text, Option.map_some, Option.some.injEq] at trimmed
    rw [← trimmed, not_isCommand_of_opens plain] at command
    cases command

/-- A call of the executor is awaited exactly from the piece that makes it. -/
theorem executes_of_executing
    (h : (c.next platform event i processed sources phase).phase.Executing) :
    (c.executes platform event i sources phase).isSome = true := by
  cases phase with
  | looking message text socket rest accepted =>
    simp only [next] at h
    unfold executes
    dsimp only
    split at h
    · cases h
    · next reads =>
      rw [if_neg reads]
      split at h
      · cases h
      · next sourceKey invoked =>
        rw [invoked]
        rfl
  | entering =>
    simp only [next] at h
    split at h <;> cases h
  | storing todo =>
    cases todo with
    | nil => cases h
    | cons message rest =>
      simp only [next] at h
      split at h
      · cases h
      · split at h
        · cases h
        · split at h <;> cases h
  | handling todo accepted =>
    cases todo with
    | nil => cases h
    | cons message rest =>
      simp only [next] at h
      split at h
      · cases h
      · split at h
        · cases h
        · split at h <;> cases h
  | executing | replying =>
    simp only [next] at h
    split at h <;> cases h
  | apologizing | returned | thrown => cases h

/-- What a piece sends is a fixed text, or what the executor has answered. -/
theorem sends_next {reply : String}
    (h : (c.next platform event i processed sources phase).phase.sends = some reply) :
    opens reply = true ∨ phase.Executing ∧ i.answer = .ok reply := by
  have failed : opens commandFailed = true := by decide
  have missing : opens missingSource = true := opens_append (by decide)
  cases phase with
  | executing message socket rest accepted =>
    simp only [next] at h
    split at h
    · next answer =>
      cases h
      exact Or.inr ⟨⟨_, _, _, _⟩, answer⟩
    · cases h
      exact Or.inl failed
  | looking message text socket rest accepted =>
    simp only [next] at h
    split at h
    · cases h
      exact Or.inl failed
    · split at h
      · cases h
        exact Or.inl missing
      · cases h
  | replying =>
    simp only [next] at h
    split at h
    · cases h
    · cases h
      exact Or.inl failed
  | entering =>
    simp only [next] at h
    split at h <;> cases h
  | storing todo =>
    cases todo with
    | nil => cases h
    | cons message rest =>
      simp only [next] at h
      split at h
      · cases h
      · split at h
        · cases h
        · split at h <;> cases h
  | handling todo accepted =>
    cases todo with
    | nil => cases h
    | cons message rest =>
      simp only [next] at h
      split at h
      · cases h
      · split at h
        · cases h
        · split at h <;> cases h
  | apologizing | returned | thrown => cases h

end SelfChatController

namespace SelfChatBot

variable {Bytes Creds Value : Type} {platform : ChatPlatform Bytes Creds Value}
  {s t : SelfChatBot Bytes} {p q : SelfChatBot Bytes × SelfChatBotHistory Bytes}
  {a : SelfChatBotAction} {k n : Nat}

/-- The UUIDs that an action draws or inserts are of this kind. -/
def Draws (kind : Uuid → Prop) : SelfChatBotAction → Prop
  | .chat _ => True
  | .execute _ _ input => kind input.uuid
  | .outside write => write.Draws kind

/-- A controller that awaits the executor has a call of it. -/
def Attended (s : SelfChatBot Bytes) : Prop :=
  ∀ {k n c u}, s.chat.call k n = some (c, u) → u.phase.Executing → (s.executors k n).isSome = true

structure Plain (p : SelfChatBot Bytes × SelfChatBotHistory Bytes) : Prop where
  attended : p.1.Attended
  rows : p.1.store.db.Drawn Uuid.Hexadecimal
  draws : ∀ {k n e}, p.1.executors k n = some e → e.phase.Draws Uuid.Hexadecimal
  replies : ∀ {k n e}, p.1.executors k n = some e → e.phase.Plain
  sent : ∀ reply ∈ p.2.sent, opens reply = true

theorem setExecutor_self (s : SelfChatBot Bytes) (k n : Nat) (e : Option ExecutorCall) :
    s.setExecutor k n e k n = e := by
  rw [setExecutor, Function.update_self, Function.update_self]

theorem setExecutor_other {s : SelfChatBot Bytes} {j m : Nat} (e : Option ExecutorCall)
    (other : ¬(k = j ∧ n = m)) : s.setExecutor j m e k n = s.executors k n := by
  unfold setExecutor
  by_cases controller : k = j
  · subst controller
    rw [Function.update_self, Function.update_of_ne fun call => other ⟨rfl, call⟩]
  · rw [Function.update_of_ne controller]

theorem attended_awaited {b : SelfChatAction} {chat : SelfChat Bytes} (h : s.Attended)
    (moved : (SelfChat.system platform.controller).step s.chat b = some chat) :
    Attended { s with chat := chat, executors := s.awaited platform b } := by
  intro k n c' u' found' executing
  change (s.awaited platform b k n).isSome = true
  have after := SelfChat.call_after moved found'
  cases b with
  | turn j m input =>
    simp only [awaited]
    by_cases same : k = j ∧ n = m
    · obtain ⟨rfl, rfl⟩ := same
      rw [setExecutor_self]
      cases after with
      | kept _ _ other => exact absurd rfl (other input)
      | delivered action => cases action
      | turned action found same call =>
        cases action
        subst call
        rw [found, Option.bind_some, Option.isSome_map]
        exact SelfChatController.executes_of_executing executing
    · rw [setExecutor_other _ same]
      cases after with
      | kept found => exact h found executing
      | delivered action => cases action
      | turned action =>
        cases action
        exact absurd ⟨rfl, rfl⟩ same
  | crash j =>
    simp only [awaited]
    by_cases same : k = j
    · subst same
      cases moved
      obtain ⟨found, -⟩ := SelfChat.call_eq_some.mp found'
      rw [AList.lookup_erase] at found
      cases found
    · rw [Function.update_of_ne same]
      cases after with
      | kept found => exact h found executing
      | delivered action => cases action
      | turned action => cases action
  | start | attach | detach =>
    cases after with
    | kept found => exact h found executing
    | delivered action => cases action
    | turned action => cases action
  | upsert =>
    cases after with
    | kept found => exact h found executing
    | delivered action call =>
      subst call
      cases executing
    | turned action => cases action

theorem opens_sends {b b' : SelfChatAction} {reply : String} (h : Plain p)
    (heard : p.1.heard b = some b') (sends : p.1.sends platform b' = some reply) :
    opens reply = true := by
  cases b' with
  | turn k n input =>
    obtain ⟨⟨c, u⟩, found, sends⟩ := Option.bind_eq_some_iff.mp sends
    rcases SelfChatController.sends_next sends with fixed | ⟨executing, answered⟩
    · exact fixed
    · obtain ⟨e, awaits⟩ := Option.isSome_iff_exists.mp (h.attended found executing)
      have plain := h.replies awaits
      cases b with
      | turn j m given =>
        simp only [SelfChatBot.heard] at heard
        split at heard
        · next idle =>
          cases heard
          rw [idle] at awaits
          cases awaits
        · next e' awaits' =>
          obtain ⟨answer, ended, same⟩ := Option.map_eq_some_iff.mp heard
          cases same
          cases awaits.symm.trans awaits'
          dsimp only at answered
          subst answered
          unfold ExecutorCall.answer at ended
          split at ended
          · next phase =>
            cases ended
            rw [phase] at plain
            cases plain with
            | returned plain => exact plain
          · cases ended
          · cases ended
      | _ => cases heard
  | _ => cases sends

theorem Plain.step (h : Plain p) (draws : Draws Uuid.Hexadecimal a)
    (step : (observed platform).step p a = some q) : Plain q := by
  cases moves_of_step step with
  | @chat b b' chat action heard moved =>
    refine ⟨attended_awaited h.attended (Monitor.observe_step.mp moved).1, h.rows,
      fun {k n e} awaits => ?_, fun {k n e} awaits => ?_, fun reply mem => ?_⟩
    · rcases awaited_cases awaits with old | ⟨_, _, _, x, _, _, _, rfl⟩
      · exact h.draws old
      · exact .dispatching
    · rcases awaited_cases awaits with old | ⟨_, _, _, x, _, _, _, rfl⟩
      · exact h.replies old
      · exact .dispatching
    · rcases List.mem_append.mp mem with old | new
      · exact h.sent reply old
      · exact opens_sends h heard (Option.mem_toList.mp new)
  | @execute k n input e e' store action awaits turn =>
    subst action
    obtain ⟨drawn, rows⟩ := ExecutorCall.turn_draws draws (h.draws awaits) h.rows turn
    have plain := ExecutorCall.step_plain platform.executor input h.rows (h.replies awaits)
    rw [turn] at plain
    refine ⟨fun {k' n' c u} found executing => ?_, rows, fun {k' n' other} awaits' => ?_,
      fun {k' n' other} awaits' => ?_, h.sent⟩
    · change (p.1.setExecutor k n (some e') k' n').isSome = true
      by_cases same : k' = k ∧ n' = n
      · obtain ⟨rfl, rfl⟩ := same
        rw [setExecutor_self]
        rfl
      · rw [setExecutor_other _ same]
        exact h.attended found executing
    · rcases setExecutor_cases awaits' with ⟨-, -, same⟩ | old
      · cases same
        exact drawn
      · exact h.draws old
    · rcases setExecutor_cases awaits' with ⟨-, -, same⟩ | old
      · cases same
        exact plain
      · exact h.replies old
  | @outside write action =>
    subst action
    exact ⟨h.attended, StoreWrite.Draws.apply draws h.rows, h.draws, h.replies, h.sent⟩

/-- **No reply is answered**: in every run of any number of controllers, executors and
other processes, what has been sent is no command to any controller when it comes back,
and no command that has been executed was a reply. -/
theorem replies_are_no_commands (platform : ChatPlatform Bytes Creds Value)
    {s₀ s : SelfChatBot Bytes} {h : SelfChatBotHistory Bytes} {as : List SelfChatBotAction}
    (start : s₀.Start) (rows : s₀.store.db.Drawn Uuid.Hexadecimal)
    (run : (observed platform).RunWhere (fun _ a => Draws Uuid.Hexadecimal a) (s₀, {}) as (s, h)) :
    ∀ reply ∈ h.sent,
      (∀ (c : SelfChatController) (message : WAMessage), message.messageText = some reply →
        c.accepts platform.controller message = none) ∧
      ∀ x ∈ h.chat.executed, x.message.messageText ≠ some reply := by
  have initially : Plain (s₀, ({} : SelfChatBotHistory Bytes)) := by
    refine ⟨fun {k n c u} found => ?_, rows, fun {k n e} awaits => ?_, fun {k n e} awaits => ?_,
      fun _ mem => absurd mem List.not_mem_nil⟩
    · rw [SelfChat.Start.no_call start.chat] at found
      cases found
    · rw [start.executors] at awaits
      cases awaits
    · rw [start.executors] at awaits
      cases awaits
  have plain : Plain (s, h) :=
    run.invariant (I := Plain) (fun h draws step => h.step draws step) initially
  have governed : Governed platform s₀.store (s, h) :=
    run.run.invariant (I := Governed platform s₀.store) (fun h _ step => h.step step)
      start.governed
  intro reply sent
  refine ⟨fun c message text =>
    SelfChatController.accepts_of_opens (plain.sent reply sent) text, ?_⟩
  intro x executed text
  obtain ⟨own, raw, same, command⟩ := (governed.checked.executed x executed).command
  rw [text, Option.some.injEq] at raw
  rw [same, ← raw, not_isCommand_of_opens (plain.sent reply sent)] at command
  cases command

/-- The reply to `/send` starts with `Queued`, and no controller takes it for a command. -/
theorem replies_are_no_commands_sending :
    ∃ s h, (observed plain).RunWhere (fun _ a => Draws Uuid.Hexadecimal a) (initial, {}) sending
        (s, h) ∧ h.sent.length = 1 ∧
      ∀ reply ∈ h.sent,
        (∀ (c : SelfChatController) (message : WAMessage), message.messageText = some reply →
          c.accepts plain.controller message = none) ∧
        ∀ x ∈ h.chat.executed, x.message.messageText ≠ some reply := by
  have trace : (((observed plain).exec (initial, {}) sending).any fun p =>
      p.2.sent.length = 1) = true := by
    decide +kernel
  obtain ⟨⟨s, h⟩, exec, one⟩ := (Option.any_eq_true _ _).mp trace
  have digit : input.uuid.Hexadecimal :=
    ⟨'5', "c8a0b1e-7d2f-4e3a-9b6c-d1e2f3a4b5c6".toList, by decide, by decide⟩
  have draws : ∀ a ∈ sending, Draws Uuid.Hexadecimal a := by
    intro a mem
    simp only [sending, List.mem_append, List.mem_cons, List.not_mem_nil, or_false,
      List.mem_replicate] at mem
    rcases mem with (((rfl | rfl | rfl | rfl | rfl) | ⟨-, rfl⟩) | ⟨-, rfl⟩) | rfl
    case inl.inr => exact digit
    all_goals trivial
  have run := (System.run_of_exec exec).of_forall fun a mem _ _ => draws a mem
  have rows : initial.store.db.Drawn Uuid.Hexadecimal := fun _ mem => absurd mem List.not_mem_nil
  exact ⟨s, h, run, of_decide_eq_true one, replies_are_no_commands plain initial_start rows run⟩

end SelfChatBot

end WhatsappBot
