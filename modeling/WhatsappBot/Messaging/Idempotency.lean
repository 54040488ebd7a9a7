import WhatsappBot.Domain.Jobs
import Mathlib.Algebra.GroupWithZero.Nat
import Mathlib.Data.List.DropRight

/-!
# Idempotency keys

`src/messaging/idempotency.ts`: the normal form of a message text and the key
under which equal requests meet. Hashing, Unicode normalization and the
locale's order of strings are the platform's.
-/

namespace WhatsappBot

/-- What the key depends on and the platform provides. -/
structure KeyPlatform where
  /-- `createHash('sha256').update(text).digest('hex')`. -/
  sha256 : String → String
  /-- `text.normalize('NFC')`. -/
  normalizeNfc : String → String
  /-- `a.localeCompare(b) <= 0`. -/
  localeLe : String → String → Bool

/-! ## Text -/

/-- `text.replace(/\r\n/g, '\n')`. -/
def replaceCrlf : List Char → List Char
  | '\r' :: '\n' :: rest => '\n' :: replaceCrlf rest
  | c :: rest => c :: replaceCrlf rest
  | [] => []

/-- The white space and line terminators that `trim` removes. -/
def isTrimmed (c : Char) : Bool :=
  c.toNat ∈ [0x9, 0xA, 0xB, 0xC, 0xD, 0x20, 0xA0, 0x1680, 0x2028, 0x2029, 0x202F, 0x205F, 0x3000,
    0xFEFF] || (0x2000 ≤ c.toNat && c.toNat ≤ 0x200A)

def trim (text : String) : String :=
  String.ofList
    (((text.toList.dropWhile isTrimmed).reverse.dropWhile isTrimmed).reverse)

theorem trim_toList (text : String) :
    (trim text).toList = (text.toList.dropWhile isTrimmed).rdropWhile isTrimmed := by
  rw [trim, String.toList_ofList]
  rfl

theorem trim_trim (text : String) : trim (trim text) = trim text := by
  have leading : (trim text).toList.dropWhile isTrimmed = (trim text).toList := by
    rw [trim_toList, List.dropWhile_eq_self_iff]
    intro pos
    have kept := List.rdropWhile_prefix isTrimmed (text.toList.dropWhile isTrimmed)
    rw [kept.getElem pos]
    exact List.dropWhile_eq_self_iff.mp (List.dropWhile_idempotent isTrimmed text.toList) _
  have trailing : (trim text).toList.rdropWhile isTrimmed = (trim text).toList := by
    rw [trim_toList]
    exact List.rdropWhile_idempotent isTrimmed _
  apply String.toList_injective
  rw [trim_toList (trim text), leading, trailing]

def normalizeMessage (platform : KeyPlatform) (value : Option String) : String :=
  trim (platform.normalizeNfc (String.ofList (replaceCrlf (value.getD "").toList)))

/-- `text.length`, in UTF-16 code units. -/
def utf16Length (text : String) : Nat :=
  (text.toList.map fun c => if 0x10000 ≤ c.toNat then 2 else 1).sum

/-! ## JSON -/

inductive Json where
  | null
  | bool (value : Bool)
  | number (value : Int)
  | string (value : String)
  | array (values : List Json)
  | object (entries : List (String × Json))

namespace Json

def quoteChar (c : Char) : String :=
  if c = '"' then "\\\""
  else if c = '\\' then "\\\\"
  else if c = '\n' then "\\n"
  else if c = '\r' then "\\r"
  else if c = '\t' then "\\t"
  else if c.toNat = 8 then "\\b"
  else if c.toNat = 12 then "\\f"
  else if c.toNat < 32 then
    "\\u00" ++ String.ofList [Nat.digitChar (c.toNat / 16), Nat.digitChar (c.toNat % 16)]
  else c.toString

def quote (text : String) : String :=
  "\"" ++ String.join (text.toList.map quoteChar) ++ "\""

mutual

def stringify : Json → String
  | null => "null"
  | bool value => if value then "true" else "false"
  | number value => toString value
  | string value => quote value
  | array values => "[" ++ stringifyValues values ++ "]"
  | object entries => "\x7b" ++ stringifyEntries entries ++ "\x7d"

/-- The elements of an array, separated by commas. -/
def stringifyValues : List Json → String
  | [] => ""
  | [value] => stringify value
  | value :: rest => stringify value ++ "," ++ stringifyValues rest

/-- The entries of an object, separated by commas. -/
def stringifyEntries : List (String × Json) → String
  | [] => ""
  | [(key, value)] => quote key ++ ":" ++ stringify value
  | (key, value) :: rest => quote key ++ ":" ++ stringify value ++ "," ++ stringifyEntries rest

end

end Json

/-! ## Keys -/

structure IdempotencyInput where
  destinationJid : String
  payloadType : PayloadType
  text : String
  mediaHash : Option String
  scheduleIdentity : String
  filename : Option String
  options : List (String × Json)
  forceNonce : Option String
  dryRun : Bool

def Json.ofOption : Option String → Json
  | none => .null
  | some value => .string value

/-- The object that `buildIdempotencyKey` hashes. -/
def IdempotencyInput.canonical (platform : KeyPlatform) (input : IdempotencyInput) : Json :=
  .object <|
    [("destinationJid", .string input.destinationJid),
      ("payloadType", .string input.payloadType.name),
      ("text", .string input.text),
      ("mediaHash", .ofOption input.mediaHash),
      ("scheduleIdentity", .string input.scheduleIdentity),
      ("filename", .ofOption input.filename),
      ("options", .object (input.options.mergeSort fun a b => platform.localeLe a.1 b.1)),
      ("forceNonce", .ofOption input.forceNonce)] ++
    (if input.dryRun then [("dryRun", .bool true)] else [])

def buildIdempotencyKey (platform : KeyPlatform) (input : IdempotencyInput) : String :=
  platform.sha256 (input.canonical platform).stringify

end WhatsappBot
