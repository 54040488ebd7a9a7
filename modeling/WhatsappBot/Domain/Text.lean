import Mathlib.Data.List.Basic

/-!
# Letters

`toLowerCase` of the language, for texts that are compared with ASCII ones.
-/

namespace WhatsappBot

/-- The Kelvin sign, which is a `k` in lower case. -/
def kelvinSign : Char := '\u212A'

def foldKelvin (c : Char) : Char := if c = kelvinSign then 'K' else c

/-- `toLowerCase`, as far as the result is ASCII: no other character beside the
capital letters has a lower case there. -/
def toLowerCase (text : String) : String :=
  String.ofList (text.toList.map fun c => (foldKelvin c).toLower)

end WhatsappBot
