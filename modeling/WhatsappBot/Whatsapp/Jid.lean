import WhatsappBot.Messaging.Idempotency

/-!
# JIDs

`src/whatsapp/jid.ts`. The two functions that take a JID apart and put one
together are those of Baileys.
-/

namespace WhatsappBot

/-- `jidDecode` as far as it is read here: the user and the server. -/
structure JidParts where
  user : String
  server : String
deriving DecidableEq, Repr

structure JidCodec where
  jidDecode : String → Option JidParts
  jidEncode : String → String → String
  /-- `text.toLowerCase()`. -/
  toLowerCase : String → String

namespace JidCodec

variable (codec : JidCodec)

def allowedServers : List String := ["s.whatsapp.net", "g.us", "lid", "broadcast", "newsletter"]

def normalizeJid (value : String) : Except AppError String :=
  match codec.jidDecode (trim value) with
  | none => .error (.error ("Invalid WhatsApp JID: " ++ value))
  | some decoded =>
    if decoded.user = "" ∨ decoded.server = "" then
      .error (.error ("Invalid WhatsApp JID: " ++ value))
    else
      let server := codec.toLowerCase decoded.server
      if server ∉ allowedServers ∧ '.' ∉ server.toList then
        .error (.error ("Unsupported WhatsApp JID server: " ++ server))
      else .ok (codec.jidEncode decoded.user decoded.server)

/-- The server of the normal form of a JID. -/
def serverOf (value : String) : Option String :=
  match codec.normalizeJid value with
  | .error _ => none
  | .ok jid => (codec.jidDecode jid).map JidParts.server

def isGroupJid (value : String) : Bool := codec.serverOf value = some "g.us"

def isUserJid (value : String) : Bool :=
  codec.serverOf value = some "s.whatsapp.net" || codec.serverOf value = some "lid"

/-- `sameJid`, for two JIDs that are not missing. -/
def sameJid (left right : String) : Bool :=
  if left = "" ∨ right = "" then false
  else match codec.normalizeJid left, codec.normalizeJid right with
    | .ok left, .ok right => left = right
    | _, _ => false

/-- A group JID has a normal form. -/
theorem normalizeJid_of_isGroupJid {value : String} (h : codec.isGroupJid value = true) :
    ∃ jid, codec.normalizeJid value = .ok jid := by
  unfold isGroupJid serverOf at h
  cases normal : codec.normalizeJid value with
  | ok jid => exact ⟨jid, rfl⟩
  | error error =>
    rw [normal] at h
    cases h

end JidCodec

end WhatsappBot
