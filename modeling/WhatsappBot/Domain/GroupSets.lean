import WhatsappBot.Db.Schema
import WhatsappBot.Domain.Text
import WhatsappBot.Messaging.Idempotency

/-!
# Group sets

`src/domain/group-sets.ts`.
-/

namespace WhatsappBot

structure GroupSetMember where
  jid : String
  createdAt : Timestamp
  destination : Option Destination
deriving DecidableEq

structure MembershipChange where
  changed : Nat
  unchanged : Nat
deriving DecidableEq, Repr

/-- `[a-z0-9]`. -/
def isSetNameStart (c : Char) : Bool := c.isLower || c.isDigit

/-- `[a-z0-9_-]`. -/
def isSetNameChar (c : Char) : Bool := isSetNameStart c || c = '_' || c = '-'

/-- `/^[a-z0-9][a-z0-9_-]{0,63}$/`. -/
def isSetName (name : String) : Bool :=
  match name.toList with
  | c :: rest => isSetNameStart c && rest.length ≤ 63 && rest.all isSetNameChar
  | [] => false

def normalizeGroupSetName (value : String) : Except AppError String :=
  let normalized := toLowerCase (trim value)
  if isSetName normalized then .ok normalized
  else .error
    (.error "Group set name must be 1-64 characters using letters, numbers, _ or -")

/-- A name it accepts is a name. -/
theorem normalizeGroupSetName_ok {value name : String}
    (h : normalizeGroupSetName value = .ok name) : isSetName name = true := by
  rw [normalizeGroupSetName] at h
  split at h
  · next accepted => exact Except.ok.inj h ▸ accepted
  · exact nomatch h

end WhatsappBot
