import WhatsappBot.Messaging.MessageService

/-!
# Staging media

`src/messaging/media-staging.ts`. A call of `stage` is cut at its awaits: one
turn for each chunk that it reads, and between the last chunk and the end of
the call the turns that look for the target, open the temporary file and rename
it. The disk is a map from the paths of regular files to their contents; a read
stream keeps the file that it has opened.
-/

namespace WhatsappBot

/-! ## File names -/

/-- The part of a path after its last `/`. -/
def lastComponent (path : List Char) : List Char :=
  (path.reverse.takeWhile (· ≠ '/')).reverse

/-- `basename` of `node:path`; slashes at the end do not count. -/
def basename (path : String) : String :=
  String.ofList (lastComponent ((path.toList.reverse.dropWhile (· = '/')).reverse))

/-- `[a-zA-Z0-9._-]`. -/
def isFilenameChar (c : Char) : Bool := c.isAlphanum || c = '.' || c = '_' || c = '-'

/-- `replace(/[^a-zA-Z0-9._-]+/g, '_')`; `inRun` tells whether the character before was replaced. -/
def replaceRuns (inRun : Bool) : List Char → List Char
  | [] => []
  | c :: rest =>
    if isFilenameChar c then c :: replaceRuns false rest
    else if inRun then replaceRuns true rest
    else '_' :: replaceRuns true rest

/-- `extname` of a name that does not start with a dot: from its last dot on. -/
def extname (name : String) : String :=
  if '.' ∈ name.toList then
    String.ofList ('.' :: (name.toList.reverse.takeWhile (· ≠ '.')).reverse)
  else ""

/-- The extensions that `stage` knows, with their MIME types and payload types. -/
def mimeByExtension : List (String × String × PayloadType) :=
  [(".jpg", "image/jpeg", .image), (".jpeg", "image/jpeg", .image), (".png", "image/png", .image),
    (".webp", "image/webp", .image), (".gif", "image/gif", .video), (".mp4", "video/mp4", .video),
    (".mov", "video/quicktime", .video), (".mkv", "video/x-matroska", .video),
    (".mp3", "audio/mpeg", .audio), (".ogg", "audio/ogg", .audio),
    (".opus", "audio/ogg; codecs=opus", .audio), (".wav", "audio/wav", .audio),
    (".pdf", "application/pdf", .document), (".txt", "text/plain", .document),
    (".zip", "application/zip", .document)]

def detect (extension : String) : String × PayloadType :=
  (mimeByExtension.lookup extension).getD ("application/octet-stream", .document)

/-! ## Contents -/

abbrev Bytes := List UInt8

/-- `[0-9a-f]`. -/
def isHexDigit (c : Char) : Bool := c.isDigit || ('a' ≤ c && c ≤ 'f')

/-- A SHA-256 in hexadecimal digits. -/
structure Digest where
  text : String
  length : text.length = 64
  hex : text.toList.all isHexDigit
deriving DecidableEq

theorem Digest.not_mem {c : Char} (hash : Digest) (h : isHexDigit c = false) :
    c ∉ hash.text.toList := by
  intro mem
  rw [List.all_eq_true.mp hash.hex c mem] at h
  cases h

theorem Digest.ext_text {hash hash' : Digest} (h : hash.text = hash'.text) : hash = hash' := by
  obtain ⟨text, _, _⟩ := hash
  obtain ⟨text', _, _⟩ := hash'
  cases h
  rfl

/-- The regular files by path. -/
abbrev Disk := String → Option Bytes

/-- What a stager is given: its configuration and what the platform provides. -/
structure MediaStager where
  mediaDir : String
  maxBytes : Nat
  sha256 : Bytes → Digest
  /-- `text.normalize('NFKC')`. -/
  normalizeNfkc : String → String
  /-- `resolve` of `node:path`, in the working directory of the process. -/
  resolve : String → String

namespace MediaStager

variable (stager : MediaStager)

def sanitizeFilename (value : String) : String :=
  let cleaned := String.ofList <|
    ((replaceRuns false (stager.normalizeNfkc (basename value)).toList).dropWhile (· = '.')).take 120
  if cleaned = "" then "attachment.bin" else cleaned

/-- `safeFilename` of a call. -/
def safeFilename (sourcePath : String) (requestedFilename : Option String) : String :=
  stager.sanitizeFilename (requestedFilename.getD (basename (stager.resolve sourcePath)))

/-- `extname(safeFilename).toLowerCase()`. -/
def extension (filename : String) : String :=
  String.ofList ((extname filename).toList.map Char.toLower)

def targetDir (hash : Digest) : String :=
  stager.mediaDir ++ "/" ++ String.ofList (hash.text.toList.take 2)

/-- `<hash><extension>` in its shard. -/
def target (hash : Digest) (extension : String) : String :=
  stager.targetDir hash ++ "/" ++ hash.text ++ (if extension = "" then ".bin" else extension)

def temporary (hash : Digest) (uuid : Uuid) : String :=
  stager.targetDir hash ++ "/." ++ hash.text ++ "." ++ uuid.text ++ ".tmp"

end MediaStager

/-! ## The extension has no slash -/

theorem isFilenameChar_of_mem_replaceRuns {inRun : Bool} {text : List Char} {c : Char}
    (h : c ∈ replaceRuns inRun text) : isFilenameChar c = true := by
  induction text generalizing inRun with
  | nil => cases h
  | cons first rest ih =>
    unfold replaceRuns at h
    split at h
    · next allowed =>
      rcases List.mem_cons.mp h with rfl | later
      · exact allowed
      · exact ih later
    · split at h
      · exact ih h
      · rcases List.mem_cons.mp h with rfl | later
        · decide
        · exact ih later

namespace MediaStager

variable (stager : MediaStager)

theorem isFilenameChar_of_mem_sanitize (value : String) {c : Char}
    (h : c ∈ (stager.sanitizeFilename value).toList) : isFilenameChar c = true := by
  unfold sanitizeFilename at h
  dsimp only at h
  split at h
  · have all : "attachment.bin".toList.all isFilenameChar = true := by decide
    exact List.all_eq_true.mp all c h
  · rw [String.toList_ofList] at h
    exact isFilenameChar_of_mem_replaceRuns
      ((List.dropWhile_sublist _).mem (List.mem_of_mem_take h))

variable {stager}

theorem slash_not_mem_extension (value : String) :
    '/' ∉ (extension (stager.sanitizeFilename value)).toList := by
  intro h
  rw [extension, String.toList_ofList] at h
  obtain ⟨c, mem, lower⟩ := List.mem_map.mp h
  have allowed : c = '.' ∨ isFilenameChar c = true := by
    unfold extname at mem
    split at mem
    · rw [String.toList_ofList] at mem
      rcases List.mem_cons.mp mem with dot | rest
      · exact Or.inl dot
      · rw [List.mem_reverse] at rest
        exact Or.inr (stager.isFilenameChar_of_mem_sanitize value
          (List.mem_reverse.mp ((List.takeWhile_sublist _).mem rest)))
    · cases mem
  rw [eq_of_toLower lower (Or.inl (by decide))] at allowed
  revert allowed
  decide

/-- **The path of a target spells its hash.** -/
theorem managedHash_target (hash : Digest) {extension : String} (h : '/' ∉ extension.toList) :
    managedHash (stager.target hash extension) = hash.text := by
  let name := hash.text ++ (if extension = "" then ".bin" else extension)
  have noSlash : '/' ∉ name.toList := by
    rw [String.toList_append, List.mem_append, not_or]
    refine ⟨hash.not_mem (by decide), ?_⟩
    split
    · decide
    · exact h
  have last : ∀ dir : List Char,
      (((dir ++ '/' :: name.toList).reverse.takeWhile (· ≠ '/')).reverse) = name.toList := by
    intro dir
    rw [List.reverse_append, List.reverse_cons, List.append_assoc, List.takeWhile_append_of_pos,
      List.singleton_append, List.takeWhile_cons_of_neg, List.append_nil, List.reverse_reverse]
    · simp only [ne_eq, not_true_eq_false, decide_false, Bool.false_eq_true, not_false_eq_true]
    · intro c mem
      rw [decide_eq_true_eq]
      rintro rfl
      exact noSlash (List.mem_reverse.mp mem)
  have split : (stager.target hash extension).toList =
      (stager.targetDir hash).toList ++ '/' :: name.toList := by
    simp only [target, name, String.toList_append, List.append_assoc]
    rfl
  have length : hash.text.toList.length = 64 := by
    rw [String.length_toList]
    exact hash.length
  unfold managedHash
  rw [split, last, String.toList_append, ← length, List.take_left, String.ofList_toList]

end MediaStager

/-! ## What happens to files -/

/-- A change of one file, or of a file and its name. -/
inductive FileChange where
  | nothing
  /-- A write to the file at a path, which is created if there is none. -/
  | write (path : String) (content : Bytes)
  | remove (path : String)
  | rename (path target : String)
deriving DecidableEq

namespace FileChange

def run (disk : Disk) : FileChange → Disk
  | .nothing => disk
  | .write path content => Function.update disk path (some content)
  | .remove path => Function.update disk path none
  | .rename path target =>
    match disk path with
    | none => disk
    | some content => Function.update (Function.update disk path none) target (some content)

/-- The paths that a change names. -/
def paths : FileChange → List String
  | .nothing => []
  | .write path _ | .remove path => [path]
  | .rename path target => [path, target]

/-- The paths whose files a change takes away; a write leaves a file in its place. -/
def displaced (disk : Disk) : FileChange → List String
  | .nothing | .write _ _ => []
  | .remove path => [path]
  | .rename path target => if path = target ∨ disk path = none then [] else [path, target]

end FileChange

/-- What `createReadStream` has of its file. The file is opened with the first
read, and it is read to its end also when its path is lost to another file. -/
inductive ReadStream where
  | unopened
  /-- The file that is at the path. -/
  | linked
  /-- A file that was at the path, with its content. -/
  | unlinked (content : Bytes)
deriving DecidableEq

namespace ReadStream

/-- The file that the next read is from. -/
def content (disk : Disk) (path : String) : ReadStream → Option Bytes
  | .unopened | .linked => disk path
  | .unlinked content => some content

/-- The stream after a read. -/
def opened : ReadStream → ReadStream
  | .unopened | .linked => .linked
  | .unlinked content => .unlinked content

/-- The file at the path of the stream is taken away. -/
def displace (disk : Disk) (path : String) : ReadStream → ReadStream
  | .linked => ((disk path).map ReadStream.unlinked).getD .linked
  | stream => stream

end ReadStream

/-! ## A call of `stage` -/

/-- Where a call of `stage` stands. -/
inductive StagingPhase where
  | entering
  /-- In `hashFile`, with the size that `statSync` gave and the bytes read so far. -/
  | hashing (size : Nat) (stream : ReadStream) (read : Bytes)
  /-- Before the temporary file is opened. -/
  | opening (size : Nat) (hash : Digest) (uuid : Uuid)
  | copying (size : Nat) (hash : Digest) (uuid : Uuid) (stream : ReadStream) (copied : Bytes)
  | returned (media : StagedMedia)
  | thrown (error : AppError)

structure Staging where
  sourcePath : String
  requestedFilename : Option String
  phase : StagingPhase

/-- What a turn of a call takes from outside: one less than the most bytes that its
read returns, `randomUUID`, and the errors of its file operation and of the `rmSync`
that follows one, if they have any. -/
structure StagingInput where
  chunk : Nat
  uuid : Uuid
  failure : Option AppError := none
  removal : Option AppError := none

namespace Staging

def goto (c : Staging) (phase : StagingPhase) : Staging := { c with phase := phase }

@[simp] theorem goto_phase (c : Staging) (phase : StagingPhase) : (c.goto phase).phase = phase := rfl

@[simp] theorem goto_sourcePath (c : Staging) (phase : StagingPhase) :
    (c.goto phase).sourcePath = c.sourcePath := rfl

@[simp] theorem goto_requestedFilename (c : Staging) (phase : StagingPhase) :
    (c.goto phase).requestedFilename = c.requestedFilename := rfl

variable (stager : MediaStager)

def source (c : Staging) : String := stager.resolve c.sourcePath

def safeFilename (c : Staging) : String := stager.safeFilename c.sourcePath c.requestedFilename

def extension (c : Staging) : String := MediaStager.extension (c.safeFilename stager)

def target (c : Staging) (hash : Digest) : String := stager.target hash (c.extension stager)

/-- The result of a call. -/
def media (c : Staging) (size : Nat) (hash : Digest) (created : Bool) : StagedMedia where
  path := c.target stager hash
  hash := hash.text
  addressed := MediaStager.managedHash_target hash (MediaStager.slash_not_mem_extension _)
  byteSize := size
  mimeType := (detect (c.extension stager)).1
  payloadType := (detect (c.extension stager)).2
  created := created
  safeFilename := c.safeFilename stager

/-- What `createReadStream` delivers next. -/
def nextChunk (content read : Bytes) (chunk : Nat) : Bytes :=
  (content.drop read.length).take (chunk + 1)

/-- The `catch` block: the temporary file goes, and a target that is there will do. An
error of `rmSync` leaves the file and is the one that the call throws. -/
def recover (c : Staging) (size : Nat) (hash : Digest) (uuid : Uuid) (error : AppError)
    (i : StagingInput) (disk : Disk) : Staging × FileChange :=
  match i.removal with
  | some error => (c.goto (.thrown error), .nothing)
  | none =>
    let removed := FileChange.remove (stager.temporary hash uuid)
    match removed.run disk (c.target stager hash) with
    | none => (c.goto (.thrown error), removed)
    | some _ => (c.goto (.returned (c.media stager size hash true)), removed)

/-- One turn of a call, and what it does to the files. -/
def act (c : Staging) (i : StagingInput) (disk : Disk) : Staging × FileChange :=
  match c.phase, i.failure with
  | .entering, some error | .hashing _ _ _, some error => (c.goto (.thrown error), .nothing)
  | .entering, none =>
    match disk (c.source stager) with
    | none => (c.goto (.thrown (.error "Media path must be a regular file")), .nothing)
    | some content =>
      if stager.maxBytes < content.length then
        (c.goto (.thrown (.error ("Media exceeds configured maximum of " ++
          toString stager.maxBytes ++ " bytes"))), .nothing)
      else (c.goto (.hashing content.length .unopened []), .nothing)
  | .hashing size stream read, none =>
    match stream.content disk (c.source stager) with
    | none => (c.goto (.thrown (.error "ENOENT: no such file or directory")), .nothing)
    | some content =>
      match nextChunk content read i.chunk with
      | byte :: bytes => (c.goto (.hashing size stream.opened (read ++ byte :: bytes)), .nothing)
      | [] =>
        let hash := stager.sha256 read
        match disk (c.target stager hash) with
        | some _ => (c.goto (.returned (c.media stager size hash false)), .nothing)
        | none => (c.goto (.opening size hash i.uuid), .nothing)
  | .opening size hash uuid, some error => c.recover stager size hash uuid error i disk
  | .opening size hash uuid, none =>
    match disk (stager.temporary hash uuid) with
    -- the flag `wx`
    | some _ => c.recover stager size hash uuid (.error "EEXIST: file already exists") i disk
    | none =>
      (c.goto (.copying size hash uuid .unopened []), .write (stager.temporary hash uuid) [])
  | .copying size hash uuid _ _, some error => c.recover stager size hash uuid error i disk
  | .copying size hash uuid stream copied, none =>
    match stream.content disk (c.source stager) with
    | none => c.recover stager size hash uuid (.error "ENOENT: no such file or directory") i disk
    | some content =>
      match nextChunk content copied i.chunk with
      | byte :: bytes =>
        (c.goto (.copying size hash uuid stream.opened (copied ++ byte :: bytes)),
          match disk (stager.temporary hash uuid) with
          -- the bytes go to a file that has lost its path
          | none => .nothing
          | some _ => .write (stager.temporary hash uuid) (copied ++ byte :: bytes))
      | [] =>
        match disk (stager.temporary hash uuid) with
        | none =>
          c.recover stager size hash uuid (.error "ENOENT: no such file or directory") i disk
        | some _ =>
          (c.goto (.returned (c.media stager size hash true)),
            .rename (stager.temporary hash uuid) (c.target stager hash))
  | .returned _, _ | .thrown _, _ => (c, .nothing)

/-- The call and the files after a turn. -/
def step (c : Staging) (i : StagingInput) (disk : Disk) : Staging × Disk :=
  ((c.act stager i disk).1, (c.act stager i disk).2.run disk)

/-- A call while another one, or another program, changes files. -/
def displace (c : Staging) (disk : Disk) (displaced : List String) : Staging :=
  if c.source stager ∈ displaced then
    match c.phase with
    | .hashing size stream read =>
      c.goto (.hashing size (stream.displace disk (c.source stager)) read)
    | .copying size hash uuid stream copied =>
      c.goto (.copying size hash uuid (stream.displace disk (c.source stager)) copied)
    | _ => c
  else c

/-- Whether a turn from the first state to the second has drawn a UUID. -/
def draws (c c' : Staging) : Bool :=
  match c.phase, c'.phase with
  | .hashing _ _ _, .opening _ _ _ => true
  | _, _ => false

end Staging

end WhatsappBot
