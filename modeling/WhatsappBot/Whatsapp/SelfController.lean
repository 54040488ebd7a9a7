import WhatsappBot.Db.ForwardSources
import WhatsappBot.Whatsapp.Jid
import Mathlib.Data.List.AList
import Mathlib.Data.Rat.Defs

/-!
# The self-chat controller

`src/whatsapp/self-controller.ts` and the repositories under it. A call of
`handleUpsert` is cut at its statements of the database and at its awaits; the
executor and the socket answer whatever they like. A `Turn` says what one such
piece does.
-/

namespace WhatsappBot

open Lib.Relational

/-! ## Messages -/

structure ContextInfo where
  isForwarded : Option Bool := none
  forwardingScore : Option Nat := none
  stanzaId : Option String := none
deriving DecidableEq, Repr

structure ExtendedTextMessage where
  text : Option String := none
  contextInfo : Option ContextInfo := none
deriving DecidableEq, Repr

/-- `imageMessage`, `videoMessage` or `documentMessage`; the media itself is not read. -/
structure MediaMessage where
  contextInfo : Option ContextInfo := none
deriving DecidableEq, Repr

structure MessageContent where
  conversation : Option String := none
  extendedTextMessage : Option ExtendedTextMessage := none
  imageMessage : Option MediaMessage := none
  videoMessage : Option MediaMessage := none
  documentMessage : Option MediaMessage := none
deriving DecidableEq, Repr

structure MessageKey where
  remoteJid : Option String := none
  fromMe : Option Bool := none
  id : Option String := none
  participant : Option String := none
deriving DecidableEq, Repr

/-- What `Number` makes of a timestamp. -/
inductive JsNumber where
  | finite (value : ℚ)
  | notFinite
deriving DecidableEq

structure WAMessage where
  key : MessageKey
  messageTimestamp : Option JsNumber := none
  message : Option MessageContent := none
deriving DecidableEq

/-- An event `messages.upsert`. -/
structure UpsertEvent where
  messages : List WAMessage
  type : String
  requestId : Option String := none

/-- `Boolean(text)`, where `null` and `undefined` are `none`. -/
def truthyText (text : Option String) : Bool := text.getD "" ≠ ""

theorem truthyText_iff {text : Option String} :
    truthyText text = true ↔ ∃ value, text = some value ∧ value ≠ "" := by
  cases text with
  | none => simp only [truthyText, Option.getD_none, reduceCtorEq, false_and, exists_false,
      ne_eq, not_true_eq_false, decide_false, Bool.false_eq_true]
  | some value => simp only [truthyText, Option.getD_some, decide_eq_true_eq, Option.some.injEq,
      exists_eq_left']

namespace WAMessage

def forwardContentType (message : WAMessage) : Option ForwardContentType :=
  message.message.bind fun content =>
    if truthyText (content.extendedTextMessage.bind ExtendedTextMessage.text) ||
        truthyText content.conversation then some .text
    else if content.imageMessage.isSome then some .image
    else if content.videoMessage.isSome then some .video
    else if content.documentMessage.isSome then some .document
    else none

def contextInfo (message : WAMessage) : Option ContextInfo :=
  message.message.bind fun content =>
    (content.extendedTextMessage.bind ExtendedTextMessage.contextInfo) <|>
    (content.imageMessage.bind MediaMessage.contextInfo) <|>
    (content.videoMessage.bind MediaMessage.contextInfo) <|>
    (content.documentMessage.bind MediaMessage.contextInfo)

def messageText (message : WAMessage) : Option String :=
  message.message.bind fun content =>
    content.conversation <|> (content.extendedTextMessage.bind ExtendedTextMessage.text)

def isForwarded (message : WAMessage) : Bool :=
  message.contextInfo.any fun context =>
    context.isForwarded = some true || 0 < context.forwardingScore.getD 0

/-- `messageText(message)?.trim()`. -/
def trimmedText (message : WAMessage) : Option String := message.messageText.map trim

/-- `Number(message.messageTimestamp ?? 0)`. -/
def timestamp (message : WAMessage) : JsNumber := message.messageTimestamp.getD (.finite 0)

end WAMessage

def forwardSourceKey (jid id : String) : String := jid ++ "|" ++ id

/-! ## Commands -/

/-- `text?.startsWith('/')`. -/
def isCommand (text : String) : Bool := text.toList.head? = some '/'

/-- The heads that the executor takes for forwards. -/
def forwardCommands : List String := ["/forward", "/forwardmulti", "/forwardset", "/forwardall"]

/-- `/^\/forward(?:multi|set|all)?(?:\s|$)/i.test(text)`. -/
def isForwardCommand (text : String) : Bool :=
  forwardCommands.any fun head =>
    (text.toList.take head.length).map Char.toLower = head.toList &&
      ((text.toList.drop head.length).head?.all isTrimmed)

/-- The head of a command, as the executor splits it: `command.trim().split(/\s+/)[0]`. -/
def commandHead (command : String) : String :=
  String.ofList ((trim command).toList.takeWhile fun c => !isTrimmed c)

/-- **What the executor takes for a forward, the controller does too.** -/
theorem isForwardCommand_of_head {text : String} (trimmed : trim text = text)
    (head : commandHead text ∈ forwardCommands) : isForwardCommand text = true := by
  have split : text.toList = (commandHead text).toList ++
      text.toList.dropWhile fun c => !isTrimmed c := by
    rw [commandHead, trimmed, String.toList_ofList, List.takeWhile_append_dropWhile]
  have lower : ∀ known ∈ forwardCommands, known.toList.map Char.toLower = known.toList := by
    decide
  have ends : ((text.toList.dropWhile fun c => !isTrimmed c).head?.all isTrimmed) = true := by
    have first := List.head?_dropWhile_not (fun c => !isTrimmed c) text.toList
    cases found : (text.toList.dropWhile fun c => !isTrimmed c).head? with
    | none => rfl
    | some c =>
      rw [found] at first
      simpa only [Option.all_some, Bool.not_eq_false'] using first
  unfold isForwardCommand
  rw [List.any_eq_true]
  refine ⟨commandHead text, head, ?_⟩
  rw [Bool.and_eq_true, decide_eq_true_eq, split, ← String.length_toList, List.take_left,
    List.drop_left]
  exact ⟨lower _ head, ends⟩

/-! ## The tables -/

/-- A row of `controller_messages`. -/
structure ControllerMessage where
  messageId : String
  receivedAt : Timestamp
  commandHash : String
deriving DecidableEq, Repr

/-- `message_id PRIMARY KEY`. -/
abbrev ControllerMessages := Table ControllerMessage fun a b => a.messageId ≠ b.messageId

/-- `markProcessed`: whether the row is new. -/
def ControllerRepository.markProcessed (messages : ControllerMessages)
    (messageId commandHash : String) (receivedAt : Timestamp) : Bool × ControllerMessages :=
  messages.insertOrIgnore
    { messageId := messageId, receivedAt := receivedAt, commandHash := commandHash }

/-! ## Controllers -/

/-- What the platform provides to a controller. -/
structure ControllerPlatform (Bytes : Type) where
  jids : JidCodec
  dates : DateParser
  /-- `createHash('sha256').update(text).digest('hex')`. -/
  sha256 : String → String
  /-- `proto.WebMessageInfo.encode(message).finish()`. -/
  encode : WAMessage → Bytes

/-- Where a call of `handleUpsert` stands. -/
inductive UpsertPhase where
  | entering
  /-- In the first loop, over `storeForwardSource`. -/
  | storing (rest : List WAMessage)
  /-- In the second loop, before a call of `handleMessage`. -/
  | handling (rest : List WAMessage) (accepted : Nat)
  /-- In `handleMessage`, with the message marked; `socket` is the one captured. -/
  | looking (message : WAMessage) (text : String) (socket : Nat) (rest : List WAMessage)
    (accepted : Nat)
  /-- Awaiting the executor. -/
  | executing (message : WAMessage) (socket : Nat) (rest : List WAMessage) (accepted : Nat)
  /-- Awaiting `socket.sendMessage` of a reply. -/
  | replying (message : WAMessage) (socket : Nat) (reply : String) (rest : List WAMessage)
    (accepted : Nat)
  /-- In the `catch` block, awaiting `socket.sendMessage`. -/
  | apologizing (message : WAMessage) (socket : Nat) (rest : List WAMessage) (accepted : Nat)
  | returned (accepted : Nat)
  | thrown (error : AppError)

/-- A call of `handleUpsert`. -/
structure Upsert where
  event : UpsertEvent
  phase : UpsertPhase

/-- `SelfChatController`, with its calls of `handleUpsert`. Its handler is
registered exactly while it has a socket. -/
structure SelfChatController where
  ownJids : List String
  startedAtSeconds : Int
  /-- Whether a `ForwardSourceRepository` was given. -/
  forwardSources : Bool
  socket : Option Nat
  upserts : AList fun _ : Nat => Upsert

/-- What one piece of a call takes from outside: the clock, whether its statement
fails, and what the executor or the socket answers. -/
structure UpsertInput where
  clock : Date
  fails : Bool := false
  answer : Except Unit String := .error ()

namespace SelfChatController

variable {Bytes : Type} (platform : ControllerPlatform Bytes) (c : SelfChatController)

/-- `this.ownJids.some((own) => sameJid(own, jid))`. -/
def isOwn (jid : String) : Bool := c.ownJids.any fun own => platform.jids.sameJid own jid

/-- The participant of a message is missing, or is the account itself. -/
def ownParticipant (message : WAMessage) : Bool :=
  !truthyText message.key.participant || c.isOwn platform (message.key.participant.getD "")

def isAuthorized (message : WAMessage) : Bool :=
  message.key.fromMe = some true && truthyText message.key.remoteJid &&
    platform.jids.isUserJid (message.key.remoteJid.getD "") &&
    c.isOwn platform (message.key.remoteJid.getD "") && c.ownParticipant platform message &&
    !message.isForwarded &&
    match message.timestamp with
    | .finite seconds => decide (((c.startedAtSeconds - 30 : ℤ) : ℚ) ≤ seconds)
    | .notFinite => false

/-- Whether `storeForwardSource` saves a message, and as what. -/
def storable (message : WAMessage) : Option ForwardContentType :=
  if c.forwardSources && truthyText message.key.remoteJid && truthyText message.key.id &&
      message.key.fromMe = some true &&
      platform.jids.isUserJid (message.key.remoteJid.getD "") &&
      c.isOwn platform (message.key.remoteJid.getD "") && c.ownParticipant platform message &&
      message.isForwarded then message.forwardContentType
  else none

/-- The row that `storeForwardSource` saves; `toISOString` throws on a date out of range. -/
def sourceOf (message : WAMessage) (contentType : ForwardContentType) (now : Date) :
    Except AppError (ForwardSource Bytes) :=
  let row (expiresAt : Option Timestamp) : ForwardSource Bytes :=
    { sourceKey := forwardSourceKey (message.key.remoteJid.getD "") (message.key.id.getD "")
      payload := platform.encode message
      contentType := contentType
      receivedAt := now.toISOString
      expiresAt := expiresAt }
  if contentType = .text then .ok (row none)
  else match Date.ofMs (now.ms + 24 * 60 * 60 * 1000) with
    | none => .error .range
    | some expiresAt => .ok (row (some expiresAt.toISOString))

/-- The text of a command that `handleMessage` accepts, with the socket. -/
def accepts (message : WAMessage) : Option (String × Nat) :=
  if c.isAuthorized platform message then
    match c.socket, message.trimmedText with
    | some socket, some text =>
      if truthyText message.key.id && isCommand text then some (text, socket) else none
    | _, _ => none
  else none

/-- `sourceKey` of `handleMessage`. -/
def quotedKey (message : WAMessage) : Option String :=
  match message.contextInfo.bind ContextInfo.stanzaId with
  | none => none
  | some quotedId =>
    if quotedId = "" then none
    else some (forwardSourceKey (message.key.remoteJid.getD "") quotedId)

/-- `source` of `handleMessage`. -/
def quotedSource (sources : ForwardSources Bytes) (message : WAMessage) :
    Option (ForwardSource Bytes) :=
  if c.forwardSources then
    (quotedKey message).bind fun sourceKey => ForwardSourceRepository.get sources sourceKey
  else none

/-- The reply to a forward command without a source. -/
def missingSource : String :=
  "Forward source is missing or expired. Forward a text, photo, video, or document into " ++
    "Message Yourself again, then reply."

/-- The reply of the `catch` block. -/
def commandFailed : String :=
  "Command failed. Use the CLI for recovery and inspect service logs."

/-- Whether the executor is called for a marked message, and with which source key. -/
def invocation (sources : ForwardSources Bytes) (message : WAMessage) (text : String)
    (now : Date) : Option (Option String) :=
  if isForwardCommand text then
    match c.quotedSource sources message with
    | none => none
    | some source =>
      if source.expired platform.dates now then none else some (quotedKey message)
  else some none

variable {platform} {c}

theorem isAuthorized_iff {message : WAMessage} : c.isAuthorized platform message = true ↔
    message.key.fromMe = some true ∧
    (∃ jid, message.key.remoteJid = some jid ∧ jid ≠ "" ∧ platform.jids.isUserJid jid = true ∧
      c.isOwn platform jid = true) ∧
    (∀ participant, message.key.participant = some participant → participant ≠ "" →
      c.isOwn platform participant = true) ∧
    message.isForwarded = false ∧
    ∃ seconds : ℚ, message.timestamp = .finite seconds ∧
      ((c.startedAtSeconds - 30 : ℤ) : ℚ) ≤ seconds := by
  have recent : (match message.timestamp with
      | .finite seconds => decide (((c.startedAtSeconds - 30 : ℤ) : ℚ) ≤ seconds)
      | .notFinite => false) = true ↔ ∃ seconds : ℚ, message.timestamp = .finite seconds ∧
        ((c.startedAtSeconds - 30 : ℤ) : ℚ) ≤ seconds := by
    cases message.timestamp with
    | finite seconds => simp only [decide_eq_true_eq, JsNumber.finite.injEq, exists_eq_left']
    | notFinite => simp only [Bool.false_eq_true, reduceCtorEq, false_and, exists_false]
  have participant : c.ownParticipant platform message = true ↔
      ∀ participant, message.key.participant = some participant → participant ≠ "" →
        c.isOwn platform participant = true := by
    unfold ownParticipant truthyText
    cases message.key.participant with
    | none => simp only [Option.getD_none, ne_eq, not_true_eq_false, decide_false, Bool.not_false,
        Bool.true_or, reduceCtorEq, false_implies, implies_true]
    | some jid =>
      by_cases empty : jid = ""
      · simp only [empty, Option.getD_some, ne_eq, not_true_eq_false, decide_false, Bool.not_false,
          Bool.true_or, Option.some.injEq, forall_eq', false_implies]
      · simp only [Option.getD_some, ne_eq, empty, not_false_eq_true, decide_true, Bool.not_true,
          Bool.false_or, Option.some.injEq, forall_eq', true_implies]
  unfold isAuthorized
  simp only [Bool.and_eq_true, decide_eq_true_eq, recent, participant, truthyText_iff,
    Bool.not_eq_true', and_assoc]
  constructor
  · rintro ⟨fromMe, ⟨jid, remote, nonempty⟩, user, own, rest⟩
    rw [remote, Option.getD_some] at user own
    exact ⟨fromMe, ⟨jid, remote, nonempty, user, own⟩, rest⟩
  · rintro ⟨fromMe, ⟨jid, remote, nonempty, user, own⟩, rest⟩
    rw [remote, Option.getD_some]
    exact ⟨fromMe, ⟨jid, rfl, nonempty⟩, user, own, rest⟩

/-- A message that is saved is marked forwarded. -/
theorem isForwarded_of_storable {message : WAMessage} {contentType : ForwardContentType}
    (h : c.storable platform message = some contentType) : message.isForwarded = true := by
  unfold storable at h
  split at h
  · next conditions => exact (Bool.and_eq_true_iff.mp conditions).2
  · cases h

theorem accepts_spec {message : WAMessage} {text : String} {socket : Nat}
    (h : c.accepts platform message = some (text, socket)) :
    c.isAuthorized platform message = true ∧ message.trimmedText = some text ∧
      isCommand text = true ∧ ∃ id, message.key.id = some id ∧ id ≠ "" := by
  unfold accepts at h
  split at h
  · next authorized =>
    split at h
    · next held found =>
      split at h
      · next command =>
        cases h
        obtain ⟨id, command⟩ := Bool.and_eq_true_iff.mp command
        exact ⟨authorized, found, command, truthyText_iff.mp id⟩
      · cases h
    · cases h
  · cases h

/-- The executor gets a source key only when the message quotes it, with a source that is
stored and has not expired, and a forward never without. -/
theorem invocation_spec {sources : ForwardSources Bytes} {message : WAMessage} {text : String}
    {now : Date} {sourceKey : Option String}
    (h : c.invocation platform sources message text now = some sourceKey)
    (forward : sourceKey.isSome = true ∨ isForwardCommand text = true) :
    ∃ key source, sourceKey = some key ∧ quotedKey message = some key ∧
      ForwardSourceRepository.get sources key = some source ∧
      source.expired platform.dates now = false := by
  unfold invocation at h
  split at h
  · split at h
    · cases h
    · next source found =>
      split at h
      · cases h
      · next unexpired =>
        cases h
        unfold quotedSource at found
        split at found
        · obtain ⟨key, quoted, stored⟩ := Option.bind_eq_some_iff.mp found
          exact ⟨key, source, quoted, quoted, stored, (Bool.not_eq_true _).mp unexpired⟩
        · cases found
  · next other =>
    cases h
    rcases forward with given | command
    · cases given
    · exact absurd command other

end SelfChatController

end WhatsappBot
