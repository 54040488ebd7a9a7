import WhatsappBot.Lib.Batch
import WhatsappBot.Messaging.Idempotency
import WhatsappBot.Whatsapp.ConnectionManager

/-!
# The authentication state

`src/whatsapp/auth-state.ts` and `src/db/repositories/auth-repository.ts` under
the connection manager. Every `createSocket` reads the credentials into a copy
of its own, which its socket then changes in place and saves. What Baileys and
`JSON.parse` do with the text of a row is a parameter.
-/

namespace WhatsappBot

open Lib.Batch Lib.Transition

/-! ## The tables -/

/-- A row of `wa_auth_creds` or `wa_auth_keys`. -/
structure AuthRow where
  valueJson : String
  updatedAt : Timestamp
deriving DecidableEq, Repr

/-- `category` and `key_id`. -/
abbrev AuthKey := String × String

structure AuthTables where
  /-- The row of `wa_auth_creds`. -/
  creds : Option AuthRow
  /-- `wa_auth_keys`, by its primary key. -/
  keys : AuthKey → Option AuthRow

namespace Json

def property (name : String) : Json → Option Json
  | object entries => entries.lookup name
  | _ => none

/-- `Boolean(value)`, where `undefined` is `none`. -/
def truthy : Option Json → Bool
  | some (bool value) => value
  | some (number value) => value ≠ 0
  | some (string value) => value ≠ ""
  | some (array _) | some (object _) => true
  | some null | none => false

/-- `value === true`. -/
def isTrue : Option Json → Bool
  | some (bool value) => value
  | _ => false

end Json

/-- `initAuthCreds`, whose keys are random, the conversions of `serialize` and
`deserialize`, and `JSON.parse`, which may throw. -/
structure AuthCodec (Creds Value : Type) where
  initAuthCreds : Nat → Creds
  serialize : Creds → String
  deserialize : String → Option Creds
  serializeValue : Value → String
  /-- `creds.registered`. -/
  registered : Creds → Bool
  parse : String → Option Json

namespace AuthCodec

variable {Creds Value : Type} (codec : AuthCodec Creds Value)

/-- What `hasCredentials` returns for the text of the row. A property of `null`
throws, which it catches as it does an error of `JSON.parse`. -/
def accepts (stored : String) : Bool :=
  if stored = "" then false
  else match codec.parse stored with
    | none => false
    | some credentials =>
      Json.isTrue (credentials.property "registered") ||
        (Json.truthy (credentials.property "me") && Json.truthy (credentials.property "account"))

/-- A paired identity, as `hasCredentials` would find it. -/
def paired (creds : Creds) : Bool := codec.accepts (codec.serialize creds)

/-- New credentials are not paired, and the two conversions are each other's inverse. -/
structure Lawful : Prop where
  fresh : ∀ seed, codec.paired (codec.initAuthCreds seed) = false
  revived : ∀ creds, codec.deserialize (codec.serialize creds) = some creds

end AuthCodec

namespace AuthTables

variable {Creds Value : Type}

def getCredentials (auth : AuthTables) : Option String := auth.creds.map AuthRow.valueJson

def saveCredentials (auth : AuthTables) (valueJson : String) (now : Timestamp) : AuthTables :=
  { auth with creds := some { valueJson := valueJson, updatedAt := now } }

/-- `keys.set` and the `setKeys` that it ends in, of updates that are in one
object for each category. -/
def setKeys (codec : AuthCodec Creds Value) (auth : AuthTables)
    (data : AList fun _ : AuthKey => Option Value) (now : Timestamp) : AuthTables :=
  let row (value : Option Value) : Option AuthRow :=
    value.map fun value => { valueJson := codec.serializeValue value, updatedAt := now }
  { auth with keys := applyBatch row data auth.keys }

def hasCredentials (codec : AuthCodec Creds Value) (auth : AuthTables) : Bool :=
  auth.getCredentials.any codec.accepts

def clear : AuthTables where
  creds := none
  keys := fun _ => none

end AuthTables

/-! ## The credentials of a connection -/

/-- The manager, the tables, and the `creds` of every `createSocket`. -/
structure Session (Creds : Type) where
  manager : ConnectionManager
  auth : AuthTables
  held : Nat → Option Creds

inductive SessionAction (Creds Value : Type) where
  /-- A turn of the manager: the seed of new credentials, whether a save of the
  credentials succeeds, and its clock. -/
  | connection (a : ConnectionAction) (seed : Nat) (stored : Bool) (now : Timestamp)
  /-- A socket changes its credentials in place. -/
  | mutate (generation : Nat) (creds : Creds)
  /-- A socket emits `creds.update`. -/
  | credsUpdate (generation : Nat) (stored : Bool) (now : Timestamp)
  /-- A socket calls `keys.set`. -/
  | setKeys (generation : Nat) (data : AList fun _ : AuthKey => Option Value) (stored : Bool)
    (now : Timestamp)

namespace ConnectionManager

/-- The factory has returned the socket of this generation. -/
def constructed (m : ConnectionManager) (generation : Nat) : Bool :=
  (m.attempts.lookup generation).any Attempt.constructed

/-- Whether `logout` clears the tables with this action, and returns. -/
def clears (m : ConnectionManager) : ConnectionAction → Bool
  | .logout _ => m.socket.isNone
  | .loggedOut ok _ => ok && m.socket.isSome
  | _ => false

/-- The generation whose handler starts a protocol restart with this action;
the closure calls `saveCreds` at once. -/
def restarts (m : ConnectionManager) : ConnectionAction → Option Nat
  | .update generation (.close status _) =>
    (m.attempts.lookup generation).bind fun attempt =>
      if generation = m.generation ∧ attempt.constructed ∧
          status = some DisconnectReason.restartRequired.code ∧ !attempt.settled ∧ !m.stopped ∧
          attempt.protocolRestartCount < 2 then some generation
      else none
  | _ => none

/-- A step to `n` has called `createSocket`. -/
def creates (m n : ConnectionManager) : Bool :=
  (m.attempts.lookup n.generation).isNone && (n.attempts.lookup n.generation).isSome

end ConnectionManager

namespace Session

variable {Creds Value : Type} (codec : AuthCodec Creds Value)

def initial (auth : AuthTables) : Session Creds where
  manager := .initial
  auth := auth
  held := fun _ => none

/-- The credentials that `useSQLiteAuthState` reads, unless their text is no JSON. -/
def load (auth : AuthTables) (seed : Nat) : Option Creds :=
  match auth.getCredentials with
  | none => some (codec.initAuthCreds seed)
  | some stored =>
    if stored = "" then some (codec.initAuthCreds seed) else codec.deserialize stored

/-- `saveCreds` of a generation; a transaction that fails leaves the tables as they are. -/
def saveCreds (s : Session Creds) (generation : Nat) (stored : Bool) (now : Timestamp) :
    AuthTables :=
  match s.held generation with
  | some creds =>
    if stored then s.auth.saveCredentials (codec.serialize creds) now else s.auth
  | none => s.auth

/-- `createSocket` tests whether the credentials that it has read are registered. -/
def agrees (s : Session Creds) : ConnectionAction → Bool
  | .loaded generation (some registered) =>
    (s.held generation).map codec.registered = some registered
  | _ => true

/-- The tables after a turn of the manager. -/
def connectionAuth (s : Session Creds) (a : ConnectionAction) (stored : Bool) (now : Timestamp) :
    AuthTables :=
  if s.manager.clears a then .clear
  else match s.manager.restarts a with
    | some generation => s.saveCreds codec generation stored now
    | none => s.auth

/-- The credentials in memory after a turn of the manager. -/
def connectionHeld (s : Session Creds) (manager : ConnectionManager) (seed : Nat) :
    Nat → Option Creds :=
  if s.manager.creates manager then
    Function.update s.held manager.generation (load codec s.auth seed)
  else s.held

def perform (s : Session Creds) : SessionAction Creds Value → Option (Session Creds)
  | .connection a seed stored now =>
    if s.agrees codec a then
      (ConnectionManager.system.step s.manager a).map fun manager =>
        { manager := manager
          auth := s.connectionAuth codec a stored now
          held := s.connectionHeld codec manager seed }
    else none
  | .mutate generation creds =>
    if s.manager.constructed generation then
      some { s with held := Function.update s.held generation (some creds) }
    else none
  | .credsUpdate generation stored now =>
    if s.manager.constructed generation then
      some { s with auth := s.saveCreds codec generation stored now }
    else none
  | .setKeys generation data stored now =>
    if s.manager.constructed generation then
      some { s with auth := if stored then s.auth.setKeys codec data now else s.auth }
    else none

def system : System (Session Creds) (SessionAction Creds Value) where
  step s a := s.perform codec a

end Session

end WhatsappBot
