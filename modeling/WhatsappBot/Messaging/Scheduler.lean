import WhatsappBot.Domain.Jobs
import WhatsappBot.Domain.Time

/-!
# Schedules

`parseSchedule` of `src/messaging/scheduler.ts`.
-/

namespace WhatsappBot

/-- `new Date(text)`, `none` for an invalid date; which texts other than the ISO
ones it reads is the platform's. -/
structure DateParser where
  parse : String → Option Date

namespace Scheduler

/-- `/[+-]\d{2}:\d{2}$/`, on the reversed text. -/
def endsWithOffset : List Char → Bool
  | m₂ :: m₁ :: ':' :: h₂ :: h₁ :: sign :: _ =>
    m₂.isDigit && m₁.isDigit && h₂.isDigit && h₁.isDigit && (sign = '+' || sign = '-')
  | _ => false

/-- `/Z$/i`, on the reversed text. -/
def endsWithZ : List Char → Bool
  | c :: _ => c = 'Z' || c = 'z'
  | [] => false

/-- `/(?:Z|[+-]\d{2}:\d{2})$/i`. -/
def hasExplicitOffset (value : String) : Bool :=
  endsWithZ value.toList.reverse || endsWithOffset value.toList.reverse

def parseSchedule (parser : DateParser) (value : String) (now : Date) : Except AppError Date :=
  if !hasExplicitOffset value then
    .error (.error "Schedule must be ISO-8601 with an explicit UTC offset or Z")
  else match parser.parse value with
    | none => .error (.error "Invalid schedule timestamp")
    | some parsed =>
      if parsed.ms ≤ now.ms then .error (.error "Schedule must be in the future") else .ok parsed

end Scheduler

end WhatsappBot
