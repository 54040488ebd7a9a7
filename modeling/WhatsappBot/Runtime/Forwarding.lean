import WhatsappBot.Runtime.OnePass
import WhatsappBot.Runtime.Possession
import WhatsappBot.Runtime.RateLimit
import WhatsappBot.Whatsapp.BaileysTransport

/-!
# Forwards through the live transport

The processes together with the table of forward sources and the calls of
`BaileysTransport.send`. A worker that hands a job to the live transport runs
`callSocket` in that turn; the outcome of the send is what `settle` makes of
the answer in the turn that ends the await. The log keeps every call of
`socket.sendMessage`.
-/

namespace WhatsappBot

open Lib.SharedStore Lib.Transition Lib.Relational BaileysTransport

/-- A call of `socket.sendMessage`, with the job it is for. -/
structure SocketCall where
  job : QueueJob
  jid : String
  content : AnyMessageContent
  date : Date

/-- A call of `BaileysTransport.send`, with what it came to before its await. -/
structure SendCall where
  job : QueueJob
  start : Except DeliveryError AnyMessageContent

/-- What a turn takes from outside for the transport: whether there is a socket,
an error with which the read of the source throws, and the answer of the socket. -/
structure TransportInput where
  socket : Bool := true
  interruption : Option Thrown := none
  answer : Except Thrown (Option String) := .error .primitive

inductive ForwardingAction where
  | turn (id : WorkerId) (input : WorkerInput) (transport : TransportInput)
  /-- An action of the processes that is no worker's turn. -/
  | other (action : Action)
  /-- `ForwardSourceRepository.save` in `storeForwardSource`. -/
  | save (message : WAMessage) (contentType : ForwardContentType) (now : Date)

structure ForwardingPlatform (Bytes : Type) where
  processes : Platform
  transport : TransportPlatform Bytes

structure Forwarding (Bytes : Type) where
  processes : Processes
  sources : ForwardSources Bytes
  calls : AList fun _ : WorkerId => SendCall
  sent : List SocketCall

/-- The error as the queue worker gets it. -/
def DeliveryError.failure (error : DeliveryError) : TransportFailure :=
  .delivery error.errorClass error.message error.retryAfterMs

theorem QueueWorker.SameSettings.simulates {w w' : Worker} (h : SameSettings w w')
    (job : QueueJob) : w'.simulates job = w.simulates job := by
  simp only [Worker.simulates, h.transport]

namespace SendCall

/-- What `send` comes to in the end. -/
def outcome (call : SendCall) (answer : Except Thrown (Option String)) :
    Except TransportFailure String :=
  match call.start with
  | .error error => .error error.failure
  | .ok _ =>
    match settle call.job answer with
    | .error error => .error error.failure
    | .ok id => .ok id

/-- The call of the socket, if it has come to that. -/
def socketCalls (call : SendCall) (date : Date) : List SocketCall :=
  match call.start with
  | .error _ => []
  | .ok content =>
    [{ job := call.job, jid := call.job.destinationJid, content := content, date := date }]

end SendCall

namespace Forwarding

variable {Bytes : Type} (platform : ForwardingPlatform Bytes)

/-- `this.forwardSources?.get(key)`. -/
def read (s : Forwarding Bytes) (transport : TransportInput) (key : String) :
    Except Thrown (Option (ForwardSource Bytes)) :=
  match transport.interruption with
  | some error => .error error
  | none => .ok (ForwardSourceRepository.get s.sources key)

/-- A worker's input, with the outcome of its send. -/
def input (s : Forwarding Bytes) (id : WorkerId) (input : WorkerInput)
    (transport : TransportInput) : WorkerInput :=
  { input with
    outcome :=
      match s.calls.lookup id with
      | none => .error .unexpected
      | some call => call.outcome transport.answer }

/-- The call of `BaileysTransport.send` in a worker's turn. -/
def called (s : Forwarding Bytes) (id : WorkerId) (input : WorkerInput)
    (transport : TransportInput) : Option SendCall :=
  (s.processes.handsOver (.worker id input)).bind fun (w, job) =>
    if w.simulates job then none
    else some
      { job := job
        start :=
          callSocket platform.transport transport.socket (s.read transport) job input.wall }

/-- The state with a call of `BaileysTransport.send` begun. -/
def begin (s : Forwarding Bytes) (id : WorkerId) (date : Date) : Option SendCall → Forwarding Bytes
  | none => s
  | some call =>
    { s with calls := s.calls.insert id call, sent := s.sent ++ call.socketCalls date }

/-- Whether an action of the processes is a worker's turn. -/
def isTurn : Action → Bool
  | .worker _ _ => true
  | _ => false

def step (s : Forwarding Bytes) : ForwardingAction → Option (Forwarding Bytes)
  | .turn id input transport =>
    ((Processes.system platform.processes).step s.processes
      (.worker id (s.input id input transport))).map fun processes =>
        { s.begin id input.wall (s.called platform id input transport) with processes := processes }
  | .other action =>
    if isTurn action then none
    else ((Processes.system platform.processes).step s.processes action).map fun processes =>
      { s with processes := processes }
  | .save message contentType now =>
    match SelfChatController.sourceOf platform.transport.controller message contentType now with
    | .error _ => none
    | .ok source => some { s with sources := ForwardSourceRepository.save s.sources source }

def system : System (Forwarding Bytes) ForwardingAction where
  step := step platform

/-- A row that `storeForwardSource` can have saved. -/
def Saved (source : ForwardSource Bytes) : Prop :=
  ∃ message contentType now,
    SelfChatController.sourceOf platform.transport.controller message contentType now = .ok source

/-- No process is alive and nothing is sent; the tables are arbitrary, but for
the sources, which were saved from messages. -/
structure Start (s : Forwarding Bytes) : Prop where
  processes : s.processes.Start
  sources : ∀ source ∈ s.sources.rows, Saved platform source
  calls : s.calls = ∅
  sent : s.sent = []

/-! ## What an action can be -/

variable {platform} {s t : Forwarding Bytes} {a : ForwardingAction}

theorem step_turn {id : WorkerId} {input : WorkerInput} {transport : TransportInput}
    (h : (system platform).step s (.turn id input transport) = some t) :
    (Processes.system platform.processes).step s.processes
        (.worker id (s.input id input transport)) = some t.processes ∧
      t.sources = s.sources ∧
      t.calls = (s.begin id input.wall (s.called platform id input transport)).calls ∧
      t.sent = (s.begin id input.wall (s.called platform id input transport)).sent := by
  obtain ⟨processes, stepped, rfl⟩ := Option.map_eq_some_iff.mp h
  refine ⟨stepped, ?_, rfl, rfl⟩
  cases s.called platform id input transport <;> rfl

theorem step_other {action : Action} (h : (system platform).step s (.other action) = some t) :
    isTurn action = false ∧
      (Processes.system platform.processes).step s.processes action = some t.processes ∧
      t.sources = s.sources ∧ t.calls = s.calls ∧ t.sent = s.sent := by
  simp only [system, step] at h
  split at h
  · cases h
  · next other =>
    obtain ⟨processes, stepped, rfl⟩ := Option.map_eq_some_iff.mp h
    exact ⟨by simpa only [Bool.not_eq_true] using other, stepped, rfl, rfl, rfl⟩

theorem step_save {message : WAMessage} {contentType : ForwardContentType} {now : Date}
    (h : (system platform).step s (.save message contentType now) = some t) :
    ∃ source, Saved platform source ∧
      t = { s with sources := ForwardSourceRepository.save s.sources source } := by
  simp only [system, step] at h
  split at h
  · cases h
  · next source made =>
    cases h
    exact ⟨source, ⟨message, contentType, now, made⟩, rfl⟩

/-- **What an action does to the processes**: one of their own actions, or nothing. -/
theorem processes_after (h : (system platform).step s a = some t) :
    t.processes = s.processes ∨
      ∃ action, (Processes.system platform.processes).step s.processes action =
        some t.processes := by
  cases a with
  | turn id input transport => exact Or.inr ⟨_, (step_turn h).1⟩
  | other action => exact Or.inr ⟨_, (step_other h).2.1⟩
  | save =>
    obtain ⟨_, -, rfl⟩ := step_save h
    exact Or.inl rfl

theorem called_eq {id : WorkerId} {input : WorkerInput} {transport : TransportInput}
    {call : SendCall} (h : s.called platform id input transport = some call) :
    ∃ w, s.processes.workers.lookup id = some w ∧ w.phase = .handing call.job ∧
      w.simulates call.job = false ∧
      call.start =
        callSocket platform.transport transport.socket (s.read transport) call.job input.wall := by
  obtain ⟨⟨w, job⟩, hands, h⟩ := Option.bind_eq_some_iff.mp h
  obtain ⟨id', input', action, found, handing, -⟩ := Processes.handsOver_eq hands
  cases action
  dsimp only at h
  split at h
  · cases h
  · next live =>
    cases h
    exact ⟨w, found, handing, by simpa only [Bool.not_eq_true] using live, rfl⟩

theorem called_of_handing {id : WorkerId} {input : WorkerInput} {transport : TransportInput}
    {w : Worker} {job : QueueJob} (found : s.processes.workers.lookup id = some w)
    (handing : w.phase = .handing job) (processing : job.status = .PROCESSING)
    (live : w.simulates job = false) :
    s.called platform id input transport = some
      { job := job
        start :=
          callSocket platform.transport transport.socket (s.read transport) job input.wall } := by
  have hands : s.processes.handsOver (.worker id input) = some (w, job) := by
    simp only [Processes.handsOver, found, handing, processing, if_true]
  rw [called, hands, Option.bind_some]
  simp only [live, Bool.false_eq_true, if_false]

/-- A turn of a worker that hands nothing over calls no transport. -/
theorem called_none {id : WorkerId} {input : WorkerInput} {transport : TransportInput}
    {w : Worker} (found : s.processes.workers.lookup id = some w)
    (other : ∀ job, w.phase ≠ .handing job) : s.called platform id input transport = none := by
  cases call : s.called platform id input transport with
  | none => rfl
  | some call' =>
    obtain ⟨w', found', handing, -⟩ := called_eq call
    cases found.symm.trans found'
    exact absurd handing (other _)

end Forwarding

end WhatsappBot
