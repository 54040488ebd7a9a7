import WhatsappBot.Domain.IsoFormat
import WhatsappBot.Lib.PrefixCode
import WhatsappBot.Messaging.MediaStaging
import WhatsappBot.Runtime.Processes

/-!
# What a key identifies

`buildIdempotencyKey` hashes the text of a canonical object. The text is a
self-delimiting code of the fields that go into it, so where the hash has no
collision two keys are equal exactly if the fields are.
-/

namespace WhatsappBot

open Lib.PrefixCode

/-! ## The text of a JSON string -/

namespace Json

/-- The value of a hexadecimal digit. -/
def hexValue (c : Char) : Nat := if c.isDigit then c.toNat - 48 else c.toNat - 87

/-- The character at the start of the inside of a JSON string, and what follows it. -/
def readChar : List Char → Option (Char × List Char)
  | '\\' :: 'u' :: '0' :: '0' :: high :: low :: rest =>
    some (Char.ofNat (16 * hexValue high + hexValue low), rest)
  | '\\' :: 'n' :: rest => some ('\n', rest)
  | '\\' :: 'r' :: rest => some ('\r', rest)
  | '\\' :: 't' :: rest => some ('\t', rest)
  | '\\' :: 'b' :: rest => some (Char.ofNat 8, rest)
  | '\\' :: 'f' :: rest => some (Char.ofNat 12, rest)
  | '\\' :: c :: rest => some (c, rest)
  | c :: rest => some (c, rest)
  | [] => none

theorem hexValue_digitChar {n : Nat} (h : n < 16) : hexValue (Nat.digitChar n) = n := by
  have table : ∀ n < 16, hexValue (Nat.digitChar n) = n := by decide
  exact table n h

theorem readChar_plain {c : Char} (h : c ≠ '\\') (rest : List Char) :
    readChar (c :: rest) = some (c, rest) := by
  unfold readChar
  split
  all_goals first
    | (next heq => exact absurd (List.cons.inj heq).1 h)
    | (next heq => cases heq; rfl)
    | (next heq => cases heq)

theorem readChar_quoteChar (c : Char) (rest : List Char) :
    readChar ((quoteChar c).toList ++ rest) = some (c, rest) := by
  have ofNat : ∀ {n : Nat}, c.toNat = n → c = Char.ofNat n := by
    rintro n rfl
    exact (Char.ofNat_toNat c).symm
  unfold quoteChar
  split_ifs with quotation backslash newline ret tab backspace feed control
  · rw [quotation]
    rfl
  · rw [backslash]
    rfl
  · rw [newline]
    rfl
  · rw [ret]
    rfl
  · rw [tab]
    rfl
  · rw [ofNat backspace]
    rfl
  · rw [ofNat feed]
    rfl
  · simp only [String.toList_append, String.toList_ofList]
    change some (Char.ofNat (16 * hexValue (Nat.digitChar (c.toNat / 16)) +
      hexValue (Nat.digitChar (c.toNat % 16))), rest) = some (c, rest)
    rw [hexValue_digitChar (by omega), hexValue_digitChar (by omega), Nat.div_add_mod,
      Char.ofNat_toNat]
  · rw [show c.toString.toList = [c] from String.toList_singleton c]
    exact readChar_plain backslash rest

theorem quoteChar_delimited : Delimited fun c => (quoteChar c).toList :=
  Delimited.of_decode readChar readChar_quoteChar

/-- No character is quoted by a text that starts with a quotation mark. -/
theorem quoteChar_starts (c : Char) :
    ∃ first rest, (quoteChar c).toList = first :: rest ∧ first ≠ '"' := by
  unfold quoteChar
  split_ifs with quotation
  all_goals first
    | exact ⟨_, _, rfl, by decide⟩
    | skip
  · exact ⟨_, _, String.toList_append, by decide⟩
  · exact ⟨c, [], String.toList_singleton c, quotation⟩

theorem quote_toList (text : String) : (quote text).toList =
    '"' :: (text.toList.flatMap (fun c => (quoteChar c).toList) ++ ['"']) := by
  rw [quote, String.toList_append, String.toList_append, String.toList_join, List.flatMap_map]
  rfl

theorem quote_delimited : Delimited fun text => (quote text).toList := by
  have body := (quoteChar_delimited.terminated '"' quoteChar_starts).after ['"']
  have strings := body.comp (f := String.toList) fun _ _ same => String.toList_injective same
  simpa only [quote_toList, List.singleton_append] using strings

/-- No JSON string starts like `null`. -/
theorem null_apart (text : String) (x y : List Char) :
    ['n', 'u', 'l', 'l'] ++ x ≠ (quote text).toList ++ y := by
  rw [quote_toList]
  intro same
  simp only [List.cons_append, List.cons.injEq] at same
  exact absurd same.1 (by decide)

end Json

/-! ## The text of a canonical object -/

/-- The fields that the repository's callers put into a key. -/
structure KeyFields where
  destinationJid : String
  payloadType : PayloadType
  text : String
  mediaHash : Option String
  scheduleIdentity : String
  filename : Option String
  forwardSourceKey : Option String
  forceNonce : Option String
  dryRun : Bool
deriving DecidableEq

def KeyFields.input (fields : KeyFields) : IdempotencyInput where
  destinationJid := fields.destinationJid
  payloadType := fields.payloadType
  text := fields.text
  mediaHash := fields.mediaHash
  scheduleIdentity := fields.scheduleIdentity
  filename := fields.filename
  options := fields.forwardSourceKey.elim [] fun sourceKey =>
    [("forwardSourceKey", .string sourceKey)]
  forceNonce := fields.forceNonce
  dryRun := fields.dryRun

namespace KeyCode

def text (value : String) : List Char := (Json.quote value).toList

/-- What stands before a value: the mark before the entry, its key and a colon. -/
def entry (mark key : String) : List Char := mark.toList ++ ((Json.quote key).toList ++ ":".toList)

def optional (value : Option String) : List Char := value.elim "null".toList text

def options (sourceKey : Option String) : List Char :=
  sourceKey.elim "\x7b\x7d".toList fun key =>
    entry "\x7b" "forwardSourceKey" ++ (text key ++ "\x7d".toList)

def payload (payloadType : PayloadType) : List Char := text payloadType.name

/-- The end of the object. -/
def ending (dryRun : Bool) : List Char :=
  if dryRun then entry "," "dryRun" ++ ("true".toList ++ "\x7d".toList) else "\x7d".toList

/-- The text of the canonical object, field by field. -/
def code (fields : KeyFields) : List Char :=
  entry "\x7b" "destinationJid" ++ text fields.destinationJid ++
  (entry "," "payloadType" ++ payload fields.payloadType ++
  (entry "," "text" ++ text fields.text ++
  (entry "," "mediaHash" ++ optional fields.mediaHash ++
  (entry "," "scheduleIdentity" ++ text fields.scheduleIdentity ++
  (entry "," "filename" ++ optional fields.filename ++
  (entry "," "options" ++ options fields.forwardSourceKey ++
  (entry "," "forceNonce" ++ optional fields.forceNonce ++ ending fields.dryRun)))))))

theorem text_delimited : Delimited text := Json.quote_delimited

theorem optional_delimited : Delimited optional :=
  text_delimited.option fun value x y => Json.null_apart value x y

theorem options_delimited : Delimited options := by
  refine ((text_delimited.before _).after _).option fun key x y same => ?_
  exact absurd (List.cons.inj (List.cons.inj same).2).1 (by decide)

theorem payload_delimited : Delimited payload := by
  refine text_delimited.comp fun a b same => ?_
  revert same
  cases a <;> cases b <;> decide

theorem ending_delimited : Delimited ending := by
  refine ⟨fun {a b x y} same => ?_⟩
  cases a <;> cases b
  · exact ⟨rfl, List.append_cancel_left same⟩
  · exact absurd (List.cons.inj same).1 (by decide)
  · exact absurd (List.cons.inj same).1 (by decide)
  · exact ⟨rfl, List.append_cancel_left same⟩

theorem code_injective : Function.Injective code := by
  intro a b same
  have tuple := (text_delimited.after (entry "\x7b" "destinationJid")).pair
    ((payload_delimited.after (entry "," "payloadType")).pair
    ((text_delimited.after (entry "," "text")).pair
    ((optional_delimited.after (entry "," "mediaHash")).pair
    ((text_delimited.after (entry "," "scheduleIdentity")).pair
    ((optional_delimited.after (entry "," "filename")).pair
    ((options_delimited.after (entry "," "options")).pair
    ((optional_delimited.after (entry "," "forceNonce")).pair ending_delimited)))))))
  have fields : (a.destinationJid, a.payloadType, a.text, a.mediaHash, a.scheduleIdentity,
      a.filename, a.forwardSourceKey, a.forceNonce, a.dryRun) =
      (b.destinationJid, b.payloadType, b.text, b.mediaHash, b.scheduleIdentity,
        b.filename, b.forwardSourceKey, b.forceNonce, b.dryRun) := tuple.injective same
  cases a
  cases b
  simpa only [KeyFields.mk.injEq, Prod.mk.injEq] using fields

theorem stringify_canonical (platform : KeyPlatform) (fields : KeyFields) :
    (fields.input.canonical platform).stringify.toList = code fields := by
  have optional : ∀ value, (Json.ofOption value).stringify.toList = optional value := by
    intro value
    cases value with
    | none => simp only [Json.ofOption, Json.stringify, KeyCode.optional, Option.elim]
    | some value => simp only [Json.ofOption, Json.stringify, KeyCode.optional, Option.elim, text]
  have options : (Json.object (fields.input.options.mergeSort fun a b =>
      platform.localeLe a.1 b.1)).stringify.toList = options fields.forwardSourceKey := by
    unfold KeyFields.input
    cases fields.forwardSourceKey with
    | none =>
      simp only [Option.elim, List.mergeSort_nil, Json.stringify, Json.stringifyEntries, options]
      rfl
    | some key =>
      simp only [Option.elim, List.mergeSort_singleton, Json.stringify, Json.stringifyEntries,
        String.toList_append, options, entry, text, List.append_assoc]
  unfold IdempotencyInput.canonical
  generalize (Json.object (fields.input.options.mergeSort fun a b =>
    platform.localeLe a.1 b.1)) = sorted at options
  cases dryRun : fields.input.dryRun with
  | false =>
    have off : fields.dryRun = false := dryRun
    simp only [Bool.false_eq_true, if_false, List.append_nil, Json.stringify,
      Json.stringifyEntries, String.toList_append, List.append_assoc, optional, options, code,
      ending, off, entry, text, payload]
    rfl
  | true =>
    have on : fields.dryRun = true := dryRun
    simp only [if_true, List.cons_append, List.nil_append, Json.stringify,
      Json.stringifyEntries, String.toList_append, List.append_assoc, optional, options, code,
      ending, on, entry, text, payload]
    rfl

end KeyCode

/-! ## Calls -/

/-- The ISO texts of two dates are equal only if the dates are. -/
theorem Date.toISOString_injective : Function.Injective Date.toISOString := by
  intro a b same
  have read := ofIso_toISOString a
  rw [same, ofIso_toISOString b] at read
  exact (Option.some.inj read).symm

theorem MessageService.isoOr_injective :
    Function.Injective fun scheduledAt => isoOr scheduledAt "IMMEDIATE" := by
  have apart : ∀ date : Date, date.toISOString ≠ "IMMEDIATE" := by
    intro date same
    have unread : Date.ofIso "IMMEDIATE" = none := by decide +kernel
    have read := Date.ofIso_toISOString date
    rw [same, unread] at read
    cases read
  intro a b same
  cases a with
  | none =>
    cases b with
    | none => rfl
    | some b => exact absurd same.symm (apart b)
  | some a =>
    cases b with
    | none => exact absurd same (apart a)
    | some b => rw [Date.toISOString_injective same]

/-- A call of `enqueue` or of `enqueueForward` that has come to its key. -/
inductive KeyedCall where
  | message (config : AppConfig) (request : QueueMessageRequest) (destination : Destination)
    (staged : Option StagedMedia) (uuid : Uuid)
  | forward (config : AppConfig) (request : ForwardRequest) (destination : Destination)
    (uuid : Uuid)

/-- What two calls agree on when they ask for the same. -/
@[ext]
structure Identity where
  forwardSourceKey : Option String
  destinationJid : String
  payloadType : PayloadType
  text : String
  mediaHash : Option String
  schedule : Option Date
  filename : Option String
  dryRun : Bool

namespace KeyedCall

open MessageService

variable (platform : KeyPlatform) (stager : MediaStager)

def uuid : KeyedCall → Uuid
  | message _ _ _ _ uuid | forward _ _ _ uuid => uuid

def forced : KeyedCall → Bool
  | message _ request _ _ _ => request.force
  | forward _ _ _ _ => false

/-- The filename that a request asks for, sanitized. -/
def requestedFilename (request : QueueMessageRequest) : Option String :=
  match request.filename with
  | none => none
  | some filename => if filename = "" then none else some (stager.sanitizeFilename filename)

/-- What the key of a call stands for. A filename counts with the file that it names. -/
def identity : KeyedCall → Identity
  | message config request destination staged _ =>
    { forwardSourceKey := none
      destinationJid := destination.jid
      payloadType := (staged.map StagedMedia.payloadType).getD .text
      text := normalizeMessage platform request.text
      mediaHash := staged.map StagedMedia.hash
      schedule := request.scheduledAt
      filename := if staged.isSome then requestedFilename stager request else none
      dryRun := request.dryRun.getD config.dryRun }
  | forward config request destination _ =>
    { forwardSourceKey := some request.sourceKey
      destinationJid := destination.jid
      payloadType := .text
      text := ""
      mediaHash := none
      schedule := request.scheduledAt
      filename := none
      dryRun := config.dryRun }

/-- What the call asks for when a filename counts without a file, too. -/
def literalIdentity : KeyedCall → Identity
  | message config request destination staged uuid =>
    { identity platform stager (message config request destination staged uuid) with
      filename := requestedFilename stager request }
  | call => identity platform stager call

/-- The media of a call: what `stage` returns for its path and filename, or nothing. -/
def StagedFor (request : QueueMessageRequest) (staged : Option StagedMedia) : Prop :=
  if request.mediaPath.getD "" ≠ "" then
    ∃ (c : Staging) (size : Nat) (hash : Digest) (created : Bool),
      c.sourcePath = request.mediaPath.getD "" ∧ c.requestedFilename = request.filename ∧
      staged = some (c.media stager size hash created)
  else staged = none

/-- A call with the submission that it comes to; no caller passes options. -/
inductive Submits : KeyedCall → Submission → Prop where
  | message {db : Database} {config : AppConfig} {request : QueueMessageRequest}
    {destination : Destination} {staged : Option StagedMedia} {uuid : Uuid} {now : Date}
    {submission : Submission}
    (found : DestinationRepository.resolve db request.destination = some destination)
    (options : request.options = []) (media : StagedFor stager request staged)
    (prepared : prepare platform config request destination staged uuid now = .ok submission) :
    Submits (message config request destination staged uuid) submission
  | forward {db : Database} {config : AppConfig} {request : ForwardRequest}
    {destination : Destination} {uuid : Uuid} {now : Date} {submission : Submission}
    (found : DestinationRepository.resolve db request.destination = some destination)
    (prepared : prepareForward platform config request destination uuid now = .ok submission) :
    Submits (forward config request destination uuid) submission

/-- The fields of the key. -/
def fields (call : KeyedCall) : KeyFields :=
  let identity := call.identity platform stager
  { destinationJid := identity.destinationJid
    payloadType := identity.payloadType
    text := identity.text
    mediaHash := identity.mediaHash
    scheduleIdentity := isoOr identity.schedule "IMMEDIATE"
    filename := identity.filename
    forwardSourceKey := identity.forwardSourceKey
    forceNonce := if call.forced then some call.uuid.text else none
    dryRun := identity.dryRun }

variable {platform} {stager} {c₁ c₂ : KeyedCall} {s₁ s₂ : Submission}

/-- The filename of the key is the sanitized one that was asked for. -/
theorem filename_of_staged {request : QueueMessageRequest} {staged : Option StagedMedia}
    (h : StagedFor stager request staged) :
    (if request.filename.getD "" ≠ "" then staged.map StagedMedia.safeFilename else none) =
      if staged.isSome then requestedFilename stager request else none := by
  unfold StagedFor at h
  split at h
  · obtain ⟨c, size, hash, created, -, named, rfl⟩ := h
    have safe : (c.media stager size hash created).safeFilename =
        stager.safeFilename c.sourcePath request.filename := by
      rw [← named]
      rfl
    simp only [Option.map_some, safe, Option.isSome_some, if_true]
    unfold requestedFilename MediaStager.safeFilename
    cases filename : request.filename with
    | none => rfl
    | some name =>
      by_cases empty : name = ""
      · simp only [empty, Option.getD_some, ne_eq, not_true_eq_false, if_false, if_true]
      · simp only [empty, Option.getD_some, ne_eq, not_false_eq_true, if_true, if_false]
  · rw [h]
    simp only [Option.map_none, ite_self, Option.isSome_none, Bool.false_eq_true, if_false]

/-- **The key of a call is the hash of its fields.** -/
theorem Submits.key (h : Submits platform stager c₁ s₁) :
    s₁.job.idempotencyKey = buildIdempotencyKey platform (c₁.fields platform stager).input := by
  cases h with
  | @message db config request destination staged uuid now submission found options media
      prepared =>
    unfold prepare at prepared
    split_ifs at prepared
    cases prepared
    change buildIdempotencyKey platform _ = _
    rw [options, filename_of_staged media]
    rfl
  | forward found prepared =>
    unfold prepareForward at prepared
    split at prepared
    · cases prepared
    · cases prepared
      rfl

theorem buildIdempotencyKey_eq_iff (collisionFree : Function.Injective platform.sha256)
    (a b : KeyFields) :
    buildIdempotencyKey platform a.input = buildIdempotencyKey platform b.input ↔ a = b := by
  constructor
  · intro same
    apply KeyCode.code_injective
    rw [← KeyCode.stringify_canonical platform, ← KeyCode.stringify_canonical platform,
      collisionFree same]
  · rintro rfl
    rfl

theorem fields_eq_iff (distinct : c₁.uuid ≠ c₂.uuid) :
    c₁.fields platform stager = c₂.fields platform stager ↔
      c₁.forced = false ∧ c₂.forced = false ∧
        c₁.identity platform stager = c₂.identity platform stager := by
  have text_ne : c₁.uuid.text ≠ c₂.uuid.text := by
    intro same
    apply distinct
    cases u₁ : c₁.uuid
    cases u₂ : c₂.uuid
    rw [u₁, u₂] at same
    cases same
    rfl
  constructor
  · intro same
    have nonce : (if c₁.forced then some c₁.uuid.text else none) =
        if c₂.forced then some c₂.uuid.text else none := congrArg KeyFields.forceNonce same
    have unforced : c₁.forced = false ∧ c₂.forced = false := by
      cases forced₁ : c₁.forced <;> cases forced₂ : c₂.forced
      · exact ⟨rfl, rfl⟩
      · simp only [forced₁, forced₂, Bool.false_eq_true, if_false, if_true, reduceCtorEq] at nonce
      · simp only [forced₁, forced₂, Bool.false_eq_true, if_false, if_true, reduceCtorEq] at nonce
      · simp only [forced₁, forced₂, if_true, Option.some.injEq] at nonce
        exact absurd nonce text_ne
    refine ⟨unforced.1, unforced.2, ?_⟩
    have schedule := isoOr_injective (congrArg KeyFields.scheduleIdentity same)
    simp only [fields, KeyFields.mk.injEq] at same
    obtain ⟨jid, payload, text, hash, -, filename, source, -, dryRun⟩ := same
    exact Identity.ext source jid payload text hash schedule filename dryRun
  · rintro ⟨unforced₁, unforced₂, same⟩
    simp only [fields, unforced₁, unforced₂, same, Bool.false_eq_true, if_false]

/-- **Two calls have one key exactly if neither is forced and they ask for the same.** -/
theorem keys_identify (collisionFree : Function.Injective platform.sha256)
    (h₁ : Submits platform stager c₁ s₁) (h₂ : Submits platform stager c₂ s₂)
    (distinct : c₁.uuid ≠ c₂.uuid) :
    s₁.job.idempotencyKey = s₂.job.idempotencyKey ↔
      c₁.forced = false ∧ c₂.forced = false ∧
        c₁.identity platform stager = c₂.identity platform stager := by
  rw [h₁.key, h₂.key, buildIdempotencyKey_eq_iff collisionFree, fields_eq_iff distinct]

end KeyedCall

/-! ## Two calls -/

namespace KeyedCall

open MessageService

/-- `keys_identify`, for filenames that count without a file, too. -/
def LiterallyIdentify (platform : KeyPlatform) (stager : MediaStager) : Prop :=
  ∀ {c₁ c₂ : KeyedCall} {s₁ s₂ : Submission}, Submits platform stager c₁ s₁ →
    Submits platform stager c₂ s₂ → c₁.uuid ≠ c₂.uuid →
    (s₁.job.idempotencyKey = s₂.job.idempotencyKey ↔
      c₁.forced = false ∧ c₂.forced = false ∧
        c₁.literalIdentity platform stager = c₂.literalIdentity platform stager)

/-- The text that the key of `hello` to the group hashes. -/
def helloText : String :=
  "\x7b\"destinationJid\":\"120363041234567890@g.us\",\"payloadType\":\"text\"," ++
    "\"text\":\"hello\",\"mediaHash\":null,\"scheduleIdentity\":\"IMMEDIATE\"," ++
    "\"filename\":null,\"options\":\x7b\x7d,\"forceNonce\":null\x7d"

/-- A platform without collisions that knows the digest of one text. -/
def collisionFree : KeyPlatform where
  sha256 := fun text => if text = helloText then Example.digest else "~" ++ text
  normalizeNfc := id
  localeLe := fun a b => decide (a ≤ b)

theorem collisionFree_injective : Function.Injective collisionFree.sha256 := by
  have apart : ∀ text, Example.digest ≠ "~" ++ text := by
    intro text same
    have first := congrArg (fun text : String => text.toList.head?) same
    rw [String.toList_append] at first
    cases first
  intro a b same
  simp only [collisionFree] at same
  split_ifs at same with known₁ known₂ known₂
  · rw [known₁, known₂]
  · exact absurd same (apart b)
  · exact absurd same.symm (apart a)
  · exact String.append_right_inj _ |>.mp same

/-- The SHA-256 of no bytes. -/
def emptyDigest : Digest where
  text := "e3b0c44298fc1c149afbf4c8996fb92427ae41e4649b934ca495991b7852b855"
  length := by decide
  hex := by decide

def stager : MediaStager where
  mediaDir := "/var/lib/whatsapp-queue/media"
  maxBytes := 104857600
  sha256 := fun _ => emptyDigest
  normalizeNfkc := id
  resolve := id

def textRequest (text : String) (filename : Option String) : QueueMessageRequest where
  destination := Example.group.jid
  text := some text
  filename := filename

/-- A text to the group. -/
def textCall (text : String) (filename : Option String) (uuid : Uuid) : KeyedCall :=
  .message (.default false) (textRequest text filename) Example.group none uuid

def textSubmission (text : String) (filename : Option String) (uuid : Uuid) : Submission where
  job := messageJob collisionFree (.default false) (textRequest text filename) Example.group none
    uuid (Example.clock 0)
  actor := "cli"
  media := none

theorem submits_text (text : String) (filename : Option String) (uuid : Uuid)
    (accepted : prepare collisionFree (.default false) (textRequest text filename) Example.group
      none uuid (Example.clock 0) = .ok (textSubmission text filename uuid)) :
    Submits collisionFree stager (textCall text filename uuid)
      (textSubmission text filename uuid) :=
  .message (show DestinationRepository.resolve Example.vacant.db Example.group.jid =
    some Example.group by decide) rfl rfl accepted

/-- Line ends and white space around a text do not count. -/
theorem keys_identify_hello :
    ∃ s₁ s₂, Submits collisionFree stager (textCall "hello" none Example.uuid) s₁ ∧
      Submits collisionFree stager (textCall " hello\r\n" none Example.otherUuid) s₂ ∧
      s₁.job.idempotencyKey = s₂.job.idempotencyKey := by
  have h₁ := submits_text "hello" none Example.uuid rfl
  have h₂ := submits_text " hello\r\n" none Example.otherUuid rfl
  refine ⟨_, _, h₁, h₂, ?_⟩
  exact (keys_identify collisionFree_injective h₁ h₂ (by decide)).mpr ⟨rfl, rfl, rfl⟩

/-- A filename is no part of a message without a file. -/
theorem filename_without_file :
    Function.Injective collisionFree.sha256 ∧ ¬LiterallyIdentify collisionFree stager := by
  refine ⟨collisionFree_injective, fun identify => ?_⟩
  have h₁ := submits_text "hello" (some "a.txt") Example.uuid rfl
  have h₂ := submits_text "hello" (some "b.txt") Example.otherUuid rfl
  have literal := (identify h₁ h₂ (by decide)).mp rfl
  have filenames := congrArg Identity.filename literal.2.2
  revert filenames
  decide

end KeyedCall

end WhatsappBot
