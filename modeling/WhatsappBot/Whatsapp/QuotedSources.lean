import WhatsappBot.Whatsapp.SelfChat

/-!
# Quoted sources

A stored source keeps its row through every run. A command that quotes it finds
the row again as long as both messages spell the chat alike: the guard compares
JIDs in their normal form, the key is built from them as they came.
-/

namespace WhatsappBot

open Lib.Relational Lib.Transition

theorem forwardSourceKey_inj {jid jid' id : String} :
    forwardSourceKey jid id = forwardSourceKey jid' id ↔ jid = jid' := by
  constructor
  · intro same
    have texts := congrArg String.toList same
    simp only [forwardSourceKey, String.toList_append] at texts
    exact String.toList_inj.mp (List.append_cancel_right (List.append_cancel_right texts))
  · rintro rfl
    rfl

namespace SelfChatController

variable {Bytes : Type} {platform : ControllerPlatform Bytes} {c : SelfChatController}
  {i : UpsertInput} {event : UpsertEvent} {processed : ControllerMessages}
  {sources : ForwardSources Bytes} {phase : UpsertPhase} {key : String}
  {record : ForwardSource Bytes}

/-- No piece of a call drops a row. -/
theorem get_next (h : ForwardSourceRepository.get sources key = some record) :
    ForwardSourceRepository.get (c.next platform event i processed sources phase).sources key =
      some record := by
  unfold next
  split
  case h_3 =>
    split
    · exact h
    · split
      · exact h
      · split
        · exact h
        · exact ForwardSourceRepository.get_save h
  case h_5 =>
    split
    · exact h
    · split
      · exact h
      · dsimp only
        split <;> exact h
  all_goals repeat' split
  all_goals exact h

/-- The row that a piece of a call saves. -/
structure SavesRow (platform : ControllerPlatform Bytes) (c : SelfChatController)
    (i : UpsertInput) (phase : UpsertPhase) (message : WAMessage) (record : ForwardSource Bytes) :
    Prop where
  saves : c.saves platform i phase = some message
  row : ∃ contentType, c.storable platform message = some contentType ∧
    sourceOf platform message contentType i.clock = .ok record

theorem SavesRow.inserted {message : WAMessage}
    (h : SavesRow platform c i phase message record) :
    (c.next platform event i processed sources phase).sources =
      ForwardSourceRepository.save sources record := by
  obtain ⟨saves, contentType, storable, row⟩ := h
  unfold SelfChatController.saves at saves
  split at saves
  · next first rest =>
    cases stored : c.storable platform first with
    | none => simp only [stored, reduceCtorEq] at saves
    | some kind =>
      simp only [stored] at saves
      split at saves
      · cases saves
      · next source row' =>
        split at saves
        · cases saves
        · next granted =>
          cases saves
          rw [storable] at stored
          cases stored
          rw [row] at row'
          cases row'
          simp only [next, storable, row, if_neg granted]
  · cases saves

theorem sourceOf_key {message : WAMessage} {contentType : ForwardContentType} {now : Date}
    (h : sourceOf platform message contentType now = .ok record) :
    record.sourceKey =
      forwardSourceKey (message.key.remoteJid.getD "") (message.key.id.getD "") := by
  simp only [sourceOf] at h
  split at h
  · cases h
    rfl
  · split at h
    · cases h
    · cases h
      rfl

/-- What is saved has a chat and an id. -/
theorem storable_key {message : WAMessage} {contentType : ForwardContentType}
    (h : c.storable platform message = some contentType) :
    (∃ jid, message.key.remoteJid = some jid ∧ jid ≠ "") ∧
      ∃ id, message.key.id = some id ∧ id ≠ "" := by
  unfold storable at h
  split at h
  · next conditions =>
    simp only [Bool.and_eq_true] at conditions
    obtain ⟨⟨⟨⟨⟨⟨⟨-, jid⟩, id⟩, -⟩, -⟩, -⟩, -⟩, -⟩ := conditions
    exact ⟨truthyText_iff.mp jid, truthyText_iff.mp id⟩
  · cases h

end SelfChatController

namespace SelfChat

variable {Bytes : Type} {platform : ControllerPlatform Bytes} {s s' t : SelfChat Bytes}
  {a : SelfChatAction} {as : List SelfChatAction} {key : String} {record : ForwardSource Bytes}
  {message command : WAMessage} {c : SelfChatController}

/-- No step drops a row. -/
theorem get_step (h : ForwardSourceRepository.get s.sources key = some record)
    (step : (system platform).step s a = some t) :
    ForwardSourceRepository.get t.sources key = some record := by
  cases a with
  | start =>
    simp only [system, perform] at step
    split at step
    · cases step
    · cases step
      exact h
  | crash =>
    cases step
    exact h
  | attach | detach =>
    obtain ⟨c, -, rfl⟩ := Option.map_eq_some_iff.mp step
    exact h
  | upsert =>
    obtain ⟨c, -, step⟩ := Option.bind_eq_some_iff.mp step
    split at step
    · cases step
    · cases step
      exact h
  | turn =>
    obtain ⟨⟨c, u⟩, -, rfl⟩ := Option.map_eq_some_iff.mp step
    exact SelfChatController.get_next h

/-- **A stored source keeps its row** through every run. -/
theorem get_run (h : ForwardSourceRepository.get s.sources key = some record)
    (run : (system platform).Run s as t) :
    ForwardSourceRepository.get t.sources key = some record :=
  run.invariant (I := fun s => ForwardSourceRepository.get s.sources key = some record)
    (fun h _ step => get_step h step) h

/-- One turn stores a message: the key is new, so its row is inserted. -/
def Stores (platform : ControllerPlatform Bytes) (s : SelfChat Bytes) (message : WAMessage)
    (record : ForwardSource Bytes) (s' : SelfChat Bytes) : Prop :=
  ForwardSourceRepository.get s.sources record.sourceKey = none ∧
    ∃ k n input c u, s.call k n = some (c, u) ∧
      SelfChatController.SavesRow platform c input u.phase message record ∧
      (system platform).step s (.turn k n input) = some s'

/-- A controller looks for the source that a forward command in the same chat quotes. -/
structure LooksUp (platform : ControllerPlatform Bytes) (t : SelfChat Bytes)
    (c : SelfChatController) (message command : WAMessage) : Prop where
  call : ∃ k n u, t.call k n = some (c, u) ∧ ∃ text socket rest accepted,
    u.phase = .looking command text socket rest accepted ∧ isForwardCommand text = true
  repository : c.forwardSources = true
  authorized : c.isAuthorized platform command = true
  chat : ∃ jid jid', message.key.remoteJid = some jid ∧ command.key.remoteJid = some jid' ∧
    platform.jids.sameJid jid jid' = true
  quotes : command.contextInfo.bind ContextInfo.stanzaId = message.key.id

/-- What is there, and what is looked for. -/
theorem LooksUp.keys (stores : Stores platform s message record s')
    (run : (system platform).Run s' as t) (looks : LooksUp platform t c message command) :
    ∃ jid jid' id, message.key.remoteJid = some jid ∧ command.key.remoteJid = some jid' ∧
      record.sourceKey = forwardSourceKey jid id ∧
      ForwardSourceRepository.get t.sources (forwardSourceKey jid id) = some record ∧
      c.quotedSource t.sources command =
        ForwardSourceRepository.get t.sources (forwardSourceKey jid' id) := by
  obtain ⟨absent, k, n, input, saver, u, found, saves, step⟩ := stores
  obtain ⟨contentType, storable, row⟩ := saves.row
  have key := SelfChatController.sourceOf_key row
  have stored : ForwardSourceRepository.get s'.sources record.sourceKey = some record := by
    obtain ⟨⟨c', u'⟩, found', rfl⟩ := Option.map_eq_some_iff.mp step
    rw [found] at found'
    cases found'
    dsimp only
    rw [saves.inserted]
    exact ForwardSourceRepository.get_save_new absent
  have kept := get_run stored run
  obtain ⟨-, id, named, nonempty⟩ := SelfChatController.storable_key storable
  obtain ⟨jid, jid', sent, received, -⟩ := looks.chat
  have quoted : SelfChatController.quotedKey command = some (forwardSourceKey jid' id) := by
    rw [SelfChatController.quotedKey, looks.quotes, named]
    dsimp only
    rw [if_neg nonempty, received, Option.getD_some]
  rw [sent, named, Option.getD_some, Option.getD_some] at key
  refine ⟨jid, jid', id, sent, received, key, key ▸ kept, ?_⟩
  rw [SelfChatController.quotedSource, if_pos looks.repository, quoted, Option.bind_some]

theorem quoted_source_found_iff (stores : Stores platform s message record s')
    (run : (system platform).Run s' as t) (looks : LooksUp platform t c message command) :
    c.quotedSource t.sources command = some record ↔
      command.key.remoteJid = message.key.remoteJid := by
  obtain ⟨jid, jid', id, sent, received, key, kept, lookup⟩ := looks.keys stores run
  rw [lookup, received, sent, Option.some.injEq]
  constructor
  · intro same
    have found := (mem_of_findBy same).2
    rw [key] at found
    exact (forwardSourceKey_inj.mp found).symm
  · rintro rfl
    exact kept

/-! ## One chat in two spellings -/

/-- `jidDecode`: the device after `:` and the agent after `_` are cut off the user. -/
def decodeJid (value : String) : Option JidParts :=
  (cutJid value).map fun parts =>
    { parts with user := String.ofList (parts.user.toList.takeWhile fun c => c ≠ ':' && c ≠ '_') }

/-- A platform that knows devices. -/
def linked : ControllerPlatform WAMessage :=
  { plain with jids := { plain.jids with jidDecode := decodeJid } }

def deviceJid : String := "989121234567:3@s.whatsapp.net"

def forwardedText : WAMessage where
  key := { remoteJid := some ownJid, fromMe := some true, id := some "source-1" }
  messageTimestamp := some (.finite 1790000000)
  message := some
    { extendedTextMessage := some
        { text := some "hello", contextInfo := some { isForwarded := some true } } }

/-- A command that quotes the text, in a chat of this spelling. -/
def forwardCommand (jid : String) : WAMessage where
  key := { remoteJid := some jid, fromMe := some true, id := some "controller-1" }
  messageTimestamp := some (.finite 1790000000)
  message := some
    { extendedTextMessage := some
        { text := some "/forward home", contextInfo := some { stanzaId := some "source-1" } } }

/-- A call of `handleUpsert` about to save the text. -/
def savingCall : Upsert :=
  ⟨{ messages := [forwardedText], type := "notify" }, .storing [forwardedText]⟩

def savingController : SelfChatController where
  ownJids := [ownJid]
  startedAtSeconds := 1790000000
  forwardSources := true
  socket := some 7
  upserts := (∅ : AList fun _ : Nat => Upsert).insert 0 savingCall

def saving : SelfChat WAMessage where
  processed := default
  sources := default
  controllers := (∅ : AList fun _ : Nat => SelfChatController).insert 0 savingController

def storedText : ForwardSource WAMessage where
  sourceKey := forwardSourceKey ownJid "source-1"
  payload := forwardedText
  contentType := .text
  receivedAt := clock.toISOString
  expiresAt := none

/-- The call ends, and the command comes in. -/
def commanding (jid : String) : List SelfChatAction :=
  .upsert 0 1 { messages := [forwardCommand jid], type := "notify" } ::
    List.replicate 4 (.turn 0 1 { clock := clock })

/-- Whether the second call looks for the source of the command. -/
def looking (jid : String) (t : SelfChat WAMessage) : Bool :=
  (t.call 0 1).any fun (c, u) =>
    match u.phase with
    | .looking command text _ _ _ =>
      command = forwardCommand jid && isForwardCommand text && c.forwardSources &&
        c.isAuthorized linked command
    | _ => false

theorem saving_call : saving.call 0 0 = some (savingController, savingCall) := rfl

theorem savesRow_forwardedText : SelfChatController.SavesRow linked savingController
    { clock := clock } savingCall.phase forwardedText storedText where
  saves := by decide +kernel
  row := ⟨.text, by decide +kernel, rfl⟩

/-- The text is saved, and a command in a chat of this spelling looks for it. -/
theorem looksUp_forwardedText (jid : String)
    (trace : (((system linked).exec saving (.turn 0 0 { clock := clock } :: commanding jid)).any
      (looking jid)) = true) (same : linked.jids.sameJid ownJid jid = true) :
    ∃ s' t c, Stores linked saving forwardedText storedText s' ∧
      (system linked).Run s' (commanding jid) t ∧
        LooksUp linked t c forwardedText (forwardCommand jid) := by
  obtain ⟨t, exec, looks⟩ := (Option.any_eq_true _ _).mp trace
  obtain ⟨⟨c, u⟩, found, looks⟩ := (Option.any_eq_true _ _).mp looks
  cases System.run_of_exec exec with
  | cons _ step rest =>
    refine ⟨_, t, c, ⟨rfl, 0, 0, _, _, _, saving_call, savesRow_forwardedText, step⟩, rest, ?_⟩
    dsimp only at looks
    split at looks
    · next command text socket others accepted phase =>
      simp only [Bool.and_eq_true, decide_eq_true_eq] at looks
      obtain ⟨⟨⟨rfl, forward⟩, repository⟩, authorized⟩ := looks
      exact ⟨⟨0, 1, u, found, text, socket, others, accepted, phase, forward⟩, repository,
        authorized, ⟨ownJid, jid, rfl, rfl, same⟩, rfl⟩
    · cases looks

theorem quoted_source_found_own :
    ∃ s' t c, Stores linked saving forwardedText storedText s' ∧
      (system linked).Run s' (commanding ownJid) t ∧
      LooksUp linked t c forwardedText (forwardCommand ownJid) ∧
      c.quotedSource t.sources (forwardCommand ownJid) = some storedText := by
  obtain ⟨s', t, c, stores, run, looks⟩ :=
    looksUp_forwardedText ownJid (by decide +kernel) (by decide +kernel)
  exact ⟨s', t, c, stores, run, looks, (quoted_source_found_iff stores run looks).mpr rfl⟩

/-- The command comes with the device, and the text is not found. -/
theorem device_hides_source :
    ∃ s' t c, Stores linked saving forwardedText storedText s' ∧
      (system linked).Run s' (commanding deviceJid) t ∧
      LooksUp linked t c forwardedText (forwardCommand deviceJid) ∧
      c.quotedSource t.sources (forwardCommand deviceJid) ≠ some storedText := by
  obtain ⟨s', t, c, stores, run, looks⟩ :=
    looksUp_forwardedText deviceJid (by decide +kernel) (by decide +kernel)
  refine ⟨s', t, c, stores, run, looks, fun same => ?_⟩
  obtain ⟨jid, jid', id, sent, received, key, -, lookup⟩ := looks.keys stores run
  cases sent
  cases received
  have found := (mem_of_findBy (lookup.symm.trans same)).2
  rw [key, forwardSourceKey_inj] at found
  revert found
  decide

end SelfChat

end WhatsappBot
