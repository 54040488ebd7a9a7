import WhatsappBot.Db.ForwardReferences
import WhatsappBot.Whatsapp.QuotedSources

/-!
# References to what the self-chat stored

Every source in the table was saved by some `storeForwardSource`, so its key is
a chat and a message id that are not empty, with a bar between them. Ids and
device suffixes that have a bar of their own lead `resolve` astray.
-/

namespace WhatsappBot

open Lib.Relational Lib.Transition ForwardSourceRepository

namespace SelfChatController

variable {Bytes : Type} {platform : ControllerPlatform Bytes} {c : SelfChatController}
  {i : UpsertInput} {event : UpsertEvent} {processed : ControllerMessages}
  {sources : ForwardSources Bytes} {phase : UpsertPhase} {row : ForwardSource Bytes}

/-- Some `storeForwardSource` saves this row. -/
def Stored (platform : ControllerPlatform Bytes) (row : ForwardSource Bytes) : Prop :=
  ∃ (c : SelfChatController) (message : WAMessage) (contentType : ForwardContentType) (now : Date),
    c.storable platform message = some contentType ∧
      sourceOf platform message contentType now = .ok row

/-- A piece of a call adds the rows that it saves, and no other. -/
theorem mem_next (h : row ∈ (c.next platform event i processed sources phase).sources.rows) :
    row ∈ sources.rows ∨ Stored platform row := by
  unfold next at h
  split at h
  case h_3 message rest =>
    split at h
    · exact Or.inl h
    · next contentType storable =>
      split at h
      · exact Or.inl h
      · next source made =>
        split at h
        · exact Or.inl h
        · refine (Table.mem_of_insertOrIgnore h).imp_right ?_
          rintro rfl
          exact ⟨c, message, contentType, i.clock, storable, made⟩
  case h_5 =>
    split at h
    · exact Or.inl h
    · split at h
      · exact Or.inl h
      · dsimp only at h
        split at h <;> exact Or.inl h
  all_goals repeat' split at h
  all_goals exact Or.inl h

/-- The key of what was stored. -/
theorem Stored.keyed (h : Stored platform row) : row.Keyed := by
  obtain ⟨c, message, contentType, now, storable, made⟩ := h
  obtain ⟨⟨jid, remote, -⟩, id, named, nonempty⟩ := storable_key storable
  have key : row.sourceKey.toList = jid.toList ++ '|' :: id.toList := by
    rw [sourceOf_key made, remote, named, Option.getD_some, Option.getD_some, forwardSourceKey,
      String.toList_append, String.toList_append, List.append_assoc]
    rfl
  have bar : '|' ∈ jid.toList ++ ['|'] :=
    List.mem_append_right _ (List.mem_singleton_self '|')
  obtain ⟨chat, more, joined, plain⟩ := List.eq_append_cons_of_mem bar
  refine ⟨chat, more ++ id.toList, ⟨?_, plain, ?_⟩⟩
  · rw [key, ← List.singleton_append, ← List.append_assoc, joined, List.append_assoc,
      List.cons_append]
  · intro nil
    exact nonempty (String.toList_eq_nil_iff.mp (List.append_eq_nil_iff.mp nil).2)

end SelfChatController

namespace SelfChat

variable {Bytes : Type} {platform : ControllerPlatform Bytes} {s t : SelfChat Bytes}
  {a : SelfChatAction}

/-- Every row in the table was saved by some `storeForwardSource`. -/
def AllStored (platform : ControllerPlatform Bytes) (s : SelfChat Bytes) : Prop :=
  ∀ row ∈ s.sources.rows, SelfChatController.Stored platform row

theorem AllStored.step (h : AllStored platform s) (step : (system platform).step s a = some t) :
    AllStored platform t := by
  cases a with
  | start =>
    simp only [system, perform] at step
    split at step
    · cases step
    · cases step
      exact h
  | crash =>
    cases step
    exact h
  | attach | detach =>
    obtain ⟨c, -, rfl⟩ := Option.map_eq_some_iff.mp step
    exact h
  | upsert =>
    obtain ⟨c, -, step⟩ := Option.bind_eq_some_iff.mp step
    split at step
    · cases step
    · cases step
      exact h
  | turn =>
    obtain ⟨⟨c, u⟩, -, rfl⟩ := Option.map_eq_some_iff.mp step
    intro row mem
    rcases SelfChatController.mem_next mem with before | stored
    · exact h row before
    · exact stored

theorem AllStored.of_run {as : List SelfChatAction} (run : (system platform).Run initial as s) :
    AllStored platform s :=
  run.invariant (I := AllStored platform) (fun h _ step => h.step step)
    fun _ mem => absurd mem List.not_mem_nil

theorem forward_references_iff (platform : ControllerPlatform Bytes) {s : SelfChat Bytes}
    {as : List SelfChatAction} (run : (system platform).Run initial as s) :
    (∀ source ∈ s.sources.rows, RoundTrips s.sources source) ↔
      ∀ source ∈ s.sources.rows, Referable s.sources source :=
  roundTrips_iff fun row mem => (AllStored.of_run run row mem).keyed

/-! ## Two runs -/

/-- The other address of the account. -/
def ownLid : String := "205554443331@lid"

/-- A text that the account forwards to itself. -/
def noteToSelf (jid id : String) : WAMessage where
  key := { remoteJid := some jid, fromMe := some true, id := some id }
  message := some
    { extendedTextMessage := some
        { text := some "hello", contextInfo := some { isForwarded := some true } } }

/-- A controller starts and stores the texts of an event. -/
def noting (messages : List WAMessage) : List SelfChatAction :=
  [.start 0 [ownJid, ownLid] true clock, .upsert 0 0 { messages := messages, type := "notify" }] ++
    List.replicate (messages.length + 1) (.turn 0 0 { clock := clock })

/-- Two texts of one id, under the two addresses, and one of another id. -/
def notes : List WAMessage :=
  [noteToSelf ownJid "3EB0C431C26A1916E07A", noteToSelf ownLid "3EB0C431C26A1916E07A",
    noteToSelf ownJid "3EB09D2E57F4C83A61BB"]

theorem forward_references_found :
    ∃ s, (system plain).Run initial (noting notes) s ∧
      s.sources.rows.map ForwardSource.messageId = ["3EB0C431C26A1916E07A",
        "3EB0C431C26A1916E07A", "3EB09D2E57F4C83A61BB"] ∧
      ∀ source ∈ s.sources.rows, RoundTrips s.sources source := by
  have trace : (((system plain).exec initial (noting notes)).any fun s =>
      decide (s.sources.rows.map ForwardSource.messageId = ["3EB0C431C26A1916E07A",
        "3EB0C431C26A1916E07A", "3EB09D2E57F4C83A61BB"]) && s.sources.rows.all fun source =>
        decide ('|' ∉ source.messageId.toList) && decide ('\u0000' ∉ source.messageId.toList) &&
          decide ('\u0000' ∉ source.chat)) = true := by
    decide +kernel
  obtain ⟨s, exec, holds⟩ := (Option.any_eq_true _ _).mp trace
  rw [Bool.and_eq_true, decide_eq_true_eq, List.all_eq_true] at holds
  have run := System.run_of_exec exec
  refine ⟨s, run, holds.1, (forward_references_iff plain run).mpr fun source mem => ?_⟩
  have own := holds.2 source mem
  simp only [Bool.and_eq_true, decide_eq_true_eq] at own
  exact ⟨own.1.1, own.1.2, Or.inl own.2⟩

/-- An id with a bar is taken for a key, and nothing is found. -/
theorem bar_hides_source : ¬∀ {s : SelfChat WAMessage} {as : List SelfChatAction},
    (system plain).Run initial as s →
      ∀ source ∈ s.sources.rows, RoundTrips s.sources source := by
  intro found
  have trace : (((system plain).exec initial (noting [noteToSelf ownJid "3EB0|1"])).any fun s =>
      s.sources.rows.any fun source =>
        (resolve s.sources source.messageId).toOption.any Option.isNone) = true := by
    decide +kernel
  obtain ⟨s, exec, holds⟩ := (Option.any_eq_true _ _).mp trace
  obtain ⟨source, mem, lost⟩ := List.any_eq_true.mp holds
  rcases (found (System.run_of_exec exec) source mem).answers mem with answer | answer
  · rw [answer] at lost
    cases lost
  · rw [answer] at lost
    cases lost

end SelfChat

end WhatsappBot
