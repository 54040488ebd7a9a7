import WhatsappBot.Messaging.MessageService
import WhatsappBot.Messaging.NormalText

/-!
# Is the normal form normal?

`normalizeMessage` replaces the line ends of a text once, from left to right. A
carriage return before a line end stays, next to the line feed that the line
end has become: this pair is a line end again, which the next normalization
replaces. Texts without such a place, between their first and their last
visible character, come to a normal form.
-/

namespace WhatsappBot

/-! ## Line ends -/

/-- `\r\n` occurs in a text. -/
def HasCrlf (text : List Char) : Prop := ['\r', '\n'] <:+: text

/-- A line end occurs right after a carriage return. -/
def HasCrCrlf (text : List Char) : Prop := ['\r', '\r', '\n'] <:+: text

theorem hasCrlf_cons {c : Char} {rest : List Char} :
    HasCrlf (c :: rest) ↔ (c = '\r' ∧ rest.head? = some '\n') ∨ HasCrlf rest := by
  rw [HasCrlf, List.infix_cons_iff]
  refine or_congr_left ?_
  rw [List.cons_prefix_cons, eq_comm]
  refine and_congr_right fun _ => ?_
  cases rest with
  | nil => simp only [List.prefix_nil, reduceCtorEq, List.head?_nil]
  | cons d more =>
    simp only [List.cons_prefix_cons, List.nil_prefix, and_true, List.head?_cons, Option.some.injEq]
    exact eq_comm

theorem hasCrCrlf_cons {c : Char} {rest : List Char} :
    HasCrCrlf (c :: rest) ↔ (c = '\r' ∧ ['\r', '\n'] <+: rest) ∨ HasCrCrlf rest := by
  rw [HasCrCrlf, List.infix_cons_iff, List.cons_prefix_cons, eq_comm]
  rfl

theorem replaceCrlf_of_not_hasCrlf {text : List Char} (h : ¬HasCrlf text) :
    replaceCrlf text = text := by
  induction text using replaceCrlf.induct with
  | case1 rest ih => exact absurd (hasCrlf_cons.mpr (Or.inl ⟨rfl, rfl⟩)) h
  | case2 c rest other ih =>
    rw [replaceCrlf.eq_2 c rest other, ih fun later => h (hasCrlf_cons.mpr (Or.inr later))]
  | case3 => rfl

theorem length_replaceCrlf (text : List Char) : (replaceCrlf text).length ≤ text.length := by
  induction text using replaceCrlf.induct with
  | case1 rest ih =>
    simp only [replaceCrlf, List.length_cons]
    omega
  | case2 c rest other ih =>
    rw [replaceCrlf.eq_2 c rest other]
    simp only [List.length_cons]
    omega
  | case3 => exact Nat.le_refl 0

/-- A line end that is replaced makes the text shorter. -/
theorem hasCrlf_iff {text : List Char} : HasCrlf text ↔ replaceCrlf text ≠ text := by
  refine ⟨fun h same => ?_, fun differs => ?_⟩
  rotate_left
  · by_contra none_left
    exact differs (replaceCrlf_of_not_hasCrlf none_left)
  have shorter : (replaceCrlf text).length < text.length := by
    clear same
    induction text using replaceCrlf.induct with
    | case1 rest =>
      have le := length_replaceCrlf rest
      simp only [replaceCrlf, List.length_cons]
      omega
    | case2 c rest other ih =>
      rw [replaceCrlf.eq_2 c rest other]
      simp only [List.length_cons]
      rcases hasCrlf_cons.mp h with ⟨rfl, next⟩ | later
      · obtain ⟨more, rfl⟩ := List.head?_eq_some_iff.mp next
        exact absurd rfl (other more rfl)
      · have lt := ih later
        omega
    | case3 => simp only [HasCrlf, List.infix_nil, reduceCtorEq] at h
  rw [same] at shorter
  exact Nat.lt_irrefl _ shorter

theorem head_replaceCrlf {text : List Char} :
    (replaceCrlf text).head? = some '\n' ↔ text.head? = some '\n' ∨ ['\r', '\n'] <+: text := by
  cases text using replaceCrlf.induct with
  | case1 rest =>
    simp only [replaceCrlf, List.head?_cons, List.cons_prefix_cons, List.nil_prefix, and_self,
      or_true]
  | case2 c rest other =>
    rw [replaceCrlf.eq_2 c rest other, List.head?_cons, List.head?_cons, List.cons_prefix_cons]
    refine ⟨Or.inl, fun h => h.elim id ?_⟩
    rintro ⟨first, more, rfl⟩
    exact absurd rfl (other more first.symm)
  | case3 => simp only [replaceCrlf, List.head?_nil, reduceCtorEq, List.prefix_nil, or_self]

/-- **What one replacement leaves**: a line end wherever one stood right after a
carriage return. -/
theorem hasCrlf_replaceCrlf {text : List Char} : HasCrlf (replaceCrlf text) ↔ HasCrCrlf text := by
  induction text using replaceCrlf.induct with
  | case1 rest ih =>
    rw [replaceCrlf, hasCrlf_cons, hasCrCrlf_cons, hasCrCrlf_cons, ih]
    simp only [List.cons_prefix_cons, Char.reduceEq, false_and, and_false, false_or]
  | case2 c rest other ih =>
    rw [replaceCrlf.eq_2 c rest other, hasCrlf_cons, hasCrCrlf_cons, ih, head_replaceCrlf]
    refine or_congr_left (and_congr_right fun first => ?_)
    refine or_iff_right fun next => ?_
    obtain ⟨more, rfl⟩ := List.head?_eq_some_iff.mp next
    exact other more first rfl
  | case3 =>
    simp only [replaceCrlf, HasCrlf, HasCrCrlf, List.infix_nil, reduceCtorEq]

/-! ## White space around a text -/

theorem replaceCrlf_snoc (before after : List Char) {c : Char} (visible : isTrimmed c = false) :
    replaceCrlf (before ++ c :: after) = replaceCrlf before ++ c :: replaceCrlf after := by
  have stops : ∀ d ∈ (c :: after).head?, d ≠ '\n' := by
    rintro d ⟨⟩ rfl
    revert visible
    decide
  have alone : ∀ more, c = '\r' → after = '\n' :: more → False := by
    rintro more rfl -
    revert visible
    decide
  rw [replaceCrlf_append stops, replaceCrlf.eq_2 c after alone]

/-- A text is white space, or it is white space around a text without any at its ends. -/
theorem trim_cases (text : List Char) :
    ((∀ c ∈ text, isTrimmed c = true) ∧ trim (String.ofList text) = "") ∨
    ∃ lead trail, (∀ c ∈ lead, isTrimmed c = true) ∧ (∀ c ∈ trail, isTrimmed c = true) ∧
      text = lead ++ ((trim (String.ofList text)).toList ++ trail) ∧
      (trim (String.ofList text)).toList ≠ [] := by
  have whole := List.takeWhile_append_dropWhile (p := isTrimmed) (l := text)
  have rest := List.rdropWhile_append_rtakeWhile (p := isTrimmed) (l := text.dropWhile isTrimmed)
  have core : (trim (String.ofList text)).toList =
      (text.dropWhile isTrimmed).rdropWhile isTrimmed := by
    rw [trim_toList, String.toList_ofList]
  by_cases empty : (trim (String.ofList text)).toList = []
  · refine Or.inl ⟨?_, String.toList_eq_nil_iff.mp empty⟩
    rw [core] at empty
    intro c mem
    rw [← whole, ← rest, empty, List.nil_append] at mem
    rcases List.mem_append.mp mem with lead | trail
    · exact List.mem_takeWhile_imp lead
    · exact List.mem_rtakeWhile_imp trail
  · refine Or.inr ⟨text.takeWhile isTrimmed, (text.dropWhile isTrimmed).rtakeWhile isTrimmed,
      fun c mem => List.mem_takeWhile_imp mem, fun c mem => List.mem_rtakeWhile_imp mem, ?_, empty⟩
    rw [core, rest, whole]

/-- Replacing line ends and dropping the white space around a text commute. -/
theorem trim_replaceCrlf (text : List Char) :
    (trim (String.ofList (replaceCrlf text))).toList =
      replaceCrlf (trim (String.ofList text)).toList := by
  have head := head_trim (String.ofList text)
  have last := last_trim (String.ofList text)
  rcases trim_cases text with ⟨blank, empty⟩ | ⟨lead, trail, before, after, eq, nonempty⟩
  · rw [empty, trim_toList, String.toList_ofList,
      List.dropWhile_eq_nil_iff.mpr (replaceCrlf_blank blank)]
    rfl
  · generalize (trim (String.ofList text)).toList = core at head last eq nonempty ⊢
    have shape := List.dropLast_append_getLast nonempty
    have ends := last _ (List.getLast?_eq_some_getLast nonempty)
    obtain ⟨c, rest, first⟩ := List.exists_cons_of_ne_nil nonempty
    have starts : isTrimmed c = false := head c (by rw [first]; rfl)
    have own : replaceCrlf core = replaceCrlf core.dropLast ++ [core.getLast nonempty] := by
      have snoc := replaceCrlf_snoc core.dropLast [] ends
      rwa [shape] at snoc
    have whole :
        replaceCrlf text = replaceCrlf lead ++ (replaceCrlf core ++ replaceCrlf trail) := by
      have inner : replaceCrlf (core ++ trail) = replaceCrlf core ++ replaceCrlf trail := by
        have snoc := replaceCrlf_snoc core.dropLast trail ends
        rw [← List.singleton_append, ← List.append_assoc, shape] at snoc
        rw [snoc, own, List.append_assoc, List.singleton_append]
      rw [eq, replaceCrlf_append, inner]
      rw [first]
      rintro d ⟨⟩ rfl
      revert starts
      decide
    have opening : replaceCrlf core = c :: replaceCrlf rest := by
      have snoc := replaceCrlf_snoc [] rest starts
      rwa [List.nil_append, ← first] at snoc
    rw [whole, trim_spaced (replaceCrlf_blank before) (replaceCrlf_blank after),
      String.toList_ofList]
    · rw [opening]
      rintro d ⟨⟩
      exact starts
    · rw [own, List.getLast?_concat]
      rintro d ⟨⟩
      exact ends
    · rw [opening]
      exact List.cons_ne_nil _ _

/-! ## Unicode -/

/-- What is relied on of `normalize('NFC')` here: it is idempotent, a part of a
normalized text is normalized, and carriage returns and line feeds stay where
they are, with a text between two of them that is neither empty nor has one. -/
structure KeyPlatform.KeepsLineEnds (platform : KeyPlatform) : Prop where
  idempotent : ∀ text, platform.nfc (platform.nfc text) = platform.nfc text
  part : ∀ {text part}, platform.nfc text = text → part <:+: text → platform.nfc part = part
  apart : ∀ (before after : List Char) {c : Char}, c = '\r' ∨ c = '\n' →
    platform.nfc (before ++ c :: after) = platform.nfc before ++ c :: platform.nfc after
  line : ∀ {text}, (∀ c ∈ text, c ≠ '\r' ∧ c ≠ '\n') →
    ∀ c ∈ platform.nfc text, c ≠ '\r' ∧ c ≠ '\n'
  nonempty : ∀ {text}, platform.nfc text = [] → text = []

/-- A text up to its first carriage return or line feed. -/
theorem exists_line (text : List Char) : ∃ line after, text = line ++ after ∧
    (∀ c ∈ line, c ≠ '\r' ∧ c ≠ '\n') ∧
    (after = [] ∨ ∃ c more, after = c :: more ∧ (c = '\r' ∨ c = '\n')) := by
  induction text with
  | nil => exact ⟨[], [], rfl, fun c mem => absurd mem List.not_mem_nil, Or.inl rfl⟩
  | cons c rest ih =>
    by_cases ends : c = '\r' ∨ c = '\n'
    · exact ⟨[], c :: rest, rfl, fun d mem => absurd mem List.not_mem_nil,
        Or.inr ⟨c, rest, rfl, ends⟩⟩
    · obtain ⟨line, after, rfl, plain, next⟩ := ih
      refine ⟨c :: line, after, rfl, fun d mem => ?_, next⟩
      rcases List.mem_cons.mp mem with rfl | mem
      · exact not_or.mp ends
      · exact plain d mem

namespace KeyPlatform.KeepsLineEnds

variable {platform : KeyPlatform}

theorem nfc_nil (h : platform.KeepsLineEnds) : platform.nfc [] = [] :=
  h.part (h.idempotent []) List.nil_infix

theorem nfc_cons (h : platform.KeepsLineEnds) {c : Char} (ends : c = '\r' ∨ c = '\n')
    (after : List Char) : platform.nfc (c :: after) = c :: platform.nfc after := by
  have alone := h.apart [] after ends
  rwa [List.nil_append, h.nfc_nil, List.nil_append] at alone

/-- No line feed comes to the front of a text. -/
theorem head_nfc (h : platform.KeepsLineEnds) {text : List Char}
    (feed : (platform.nfc text).head? = some '\n') : text.head? = some '\n' := by
  obtain ⟨line, after, rfl, plain, next⟩ := exists_line text
  cases line with
  | nil =>
    rcases next with rfl | ⟨c, more, rfl, ends⟩
    · rw [List.nil_append, h.nfc_nil] at feed
      cases feed
    · rw [List.nil_append, h.nfc_cons ends] at feed
      exact feed
  | cons d line =>
    exfalso
    obtain ⟨e, normal, eq⟩ := List.exists_cons_of_ne_nil fun nil =>
      List.cons_ne_nil d line (h.nonempty nil)
    have visible := h.line plain e (by rw [eq]; exact List.mem_cons_self)
    have first : (platform.nfc (d :: line ++ after)).head? = some e := by
      rcases next with rfl | ⟨c, more, rfl, ends⟩
      · rw [List.append_nil, eq]
        rfl
      · rw [h.apart _ _ ends, eq]
        rfl
    rw [first] at feed
    exact visible.2 (Option.some.inj feed)

/-- **Unicode normalization and the replacement of line ends commute.** -/
theorem nfc_replaceCrlf (h : platform.KeepsLineEnds) (text : List Char) :
    platform.nfc (replaceCrlf text) = replaceCrlf (platform.nfc text) := by
  induction size : text.length using Nat.strongRecOn generalizing text with
  | ind n ih =>
    subst size
    obtain ⟨line, after, rfl, plain, next⟩ := exists_line text
    have before : ∀ c ∈ line, c ≠ '\r' := fun c mem => (plain c mem).1
    have before' : ∀ c ∈ platform.nfc line, c ≠ '\r' := fun c mem => (h.line plain c mem).1
    have shorter : ∀ {c : Char} {more : List Char}, more.length < (line ++ c :: more).length := by
      intro c more
      simp only [List.length_append, List.length_cons]
      omega
    rcases next with rfl | ⟨c, more, rfl, ends⟩
    · have kept := replaceCrlf_line before' []
      rw [List.append_nil] at kept
      rw [replaceCrlf_line before, replaceCrlf, List.append_nil, kept, replaceCrlf, List.append_nil]
    · rw [replaceCrlf_line before, h.apart line more ends, replaceCrlf_line before']
      by_cases pair : c = '\r' ∧ more.head? = some '\n'
      · obtain ⟨rfl, feed⟩ := pair
        obtain ⟨rest, rfl⟩ := List.head?_eq_some_iff.mp feed
        have later := ih rest.length (by
          simp only [List.length_append, List.length_cons]
          omega) rest rfl
        rw [replaceCrlf, h.apart _ _ (Or.inr rfl), h.nfc_cons (Or.inr rfl), replaceCrlf, later]
      · have alone : ∀ rest, c = '\r' → more = '\n' :: rest → False := by
          rintro rest rfl rfl
          exact pair ⟨rfl, rfl⟩
        have alone' : ∀ rest, c = '\r' → platform.nfc more = '\n' :: rest → False := by
          intro rest first eq
          exact pair ⟨first, h.head_nfc (by rw [eq]; rfl)⟩
        rw [replaceCrlf.eq_2 c more alone, h.apart _ _ ends, ih more.length shorter more rfl,
          replaceCrlf.eq_2 c _ alone']

end KeyPlatform.KeepsLineEnds

/-! ## The normal form -/

/-- The text that a message comes down to, with its line ends as they came. -/
def visibleText (platform : KeyPlatform) (text : Option String) : List Char :=
  (trim (platform.normalizeNfc (text.getD ""))).toList

variable {platform : KeyPlatform}

theorem normalizeMessage_eq (h : platform.KeepsLineEnds) (text : Option String) :
    (normalizeMessage platform text).toList = replaceCrlf (visibleText platform text) := by
  have whole : platform.nfc (text.getD "").toList =
      (platform.normalizeNfc (text.getD "")).toList := by
    rw [KeyPlatform.nfc, String.ofList_toList]
  have normal : platform.normalizeNfc (String.ofList (replaceCrlf (text.getD "").toList)) =
      String.ofList (replaceCrlf (platform.normalizeNfc (text.getD "")).toList) := by
    rw [← whole, ← h.nfc_replaceCrlf, KeyPlatform.nfc, String.ofList_toList]
  rw [normalizeMessage, normal, trim_replaceCrlf, String.ofList_toList, visibleText]

/-- The normal form is normalized, and has no white space around it. -/
theorem visibleText_normal (h : platform.KeepsLineEnds) (text : Option String) :
    visibleText platform (some (normalizeMessage platform text)) =
      (normalizeMessage platform text).toList := by
  have part : (normalizeMessage platform text).toList <:+:
      platform.nfc (replaceCrlf (text.getD "").toList) := by
    rw [normalizeMessage, trim_toList]
    exact (List.rdropWhile_prefix _ _).isInfix.trans (List.dropWhile_suffix _).isInfix
  have normal := h.part (h.idempotent _) part
  rw [KeyPlatform.nfc, String.ofList_toList, String.toList_inj] at normal
  rw [visibleText, Option.getD_some, normal, normalizeMessage, trim_trim]

theorem normalizeMessage_idempotent_iff (h : platform.KeepsLineEnds) (text : Option String) :
    normalizeMessage platform (some (normalizeMessage platform text)) =
      normalizeMessage platform text ↔ ¬HasCrlf (normalizeMessage platform text).toList := by
  rw [← String.toList_inj, normalizeMessage_eq h, visibleText_normal h, hasCrlf_iff]
  exact Classical.not_not.symm

/-! ## A stored text, submitted again -/

namespace MessageService

/-- Two requests for text messages ask for the same: destination, schedule,
options and intent, and neither is forced. -/
structure SameTerms (config config' : AppConfig) (request request' : QueueMessageRequest)
    (destination destination' : Destination) : Prop where
  destination : destination'.jid = destination.jid
  schedule : request'.scheduledAt = request.scheduledAt
  options : request'.options = request.options
  intent : request'.dryRun.getD config'.dryRun = request.dryRun.getD config.dryRun
  unforced : request.force = false
  unforced' : request'.force = false

/-- Whoever submits the stored text of a text job again, in time, gets its key. -/
def RequeuesAlike (platform : KeyPlatform) (text : Option String) : Prop :=
  ∀ {config config' : AppConfig} {request request' : QueueMessageRequest}
    {destination destination' : Destination} {uuid uuid' : Uuid} {now now' : Date}
    {stored : Submission}, request.text = text →
    prepare platform config request destination none uuid now = .ok stored →
    SameTerms config config' request request' destination destination' →
    request'.text = stored.job.text → isPast request'.scheduledAt now' = false →
    ∃ again, prepare platform config' request' destination' none uuid' now' = .ok again ∧
      again.job.idempotencyKey = stored.job.idempotencyKey

theorem prepare_text_ok {config : AppConfig} {request : QueueMessageRequest}
    {destination : Destination} {uuid : Uuid} {now : Date} {submission : Submission}
    (h : prepare platform config request destination none uuid now = .ok submission) :
    normalizeMessage platform request.text ≠ "" ∧
      ¬textLimit none < utf16Length (normalizeMessage platform request.text) ∧
      submission.job = messageJob platform config request destination none uuid now := by
  unfold prepare at h
  split at h
  · cases h
  · next visible =>
    split at h
    · cases h
    · next short =>
      split at h
      · cases h
      · cases h
        exact ⟨fun empty => visible ⟨empty, rfl⟩, short, rfl⟩

theorem requeuesAlike_of_idempotent {text : Option String}
    (normal : normalizeMessage platform (some (normalizeMessage platform text)) =
      normalizeMessage platform text) : RequeuesAlike platform text := by
  intro config config' request request' destination destination' uuid uuid' now now' stored asked
    prepared same again inTime
  obtain ⟨visible, short, job⟩ := prepare_text_ok prepared
  rw [asked] at visible short
  have resubmitted : request'.text = some (normalizeMessage platform text) := by
    rw [again, job, messageJob, asked]
    exact if_neg visible
  have text' : normalizeMessage platform request'.text = normalizeMessage platform text := by
    rw [resubmitted, normal]
  refine ⟨{ job := messageJob platform config' request' destination' none uuid' now'
            actor := request'.actor.getD "cli"
            media := none }, ?_, ?_⟩
  · rw [prepare, text', if_neg (fun empty => visible empty.1), if_neg short, inTime]
    rfl
  · rw [job]
    simp only [messageJob, messageKey, text', asked, same.destination, same.schedule, same.options,
      same.intent, same.unforced, same.unforced', Option.map_none, ite_self,
      Bool.false_eq_true, if_false]

end MessageService

theorem normal_form_iff (platform : KeyPlatform) (lineEnds : platform.KeepsLineEnds)
    (text : Option String) :
    (normalizeMessage platform (some (normalizeMessage platform text)) =
        normalizeMessage platform text ∧
      ¬HasCrlf (normalizeMessage platform text).toList ∧
      MessageService.RequeuesAlike platform text) ↔
    ¬HasCrCrlf (visibleText platform text) := by
  have single := normalizeMessage_idempotent_iff lineEnds text
  have left : HasCrlf (normalizeMessage platform text).toList ↔
      HasCrCrlf (visibleText platform text) := by
    rw [normalizeMessage_eq lineEnds, hasCrlf_replaceCrlf]
  rw [← left]
  refine ⟨fun normal => normal.2.1, fun none_left => ?_⟩
  have normal := single.mpr none_left
  exact ⟨normal, none_left, MessageService.requeuesAlike_of_idempotent normal⟩

namespace Example

instance : DecidablePred HasCrlf := fun text => inferInstanceAs (Decidable (_ <:+: text))

instance : DecidablePred HasCrCrlf := fun text => inferInstanceAs (Decidable (_ <:+: text))

/-- A platform that takes every text for normalized and knows the digest of one message. -/
def precomposed : KeyPlatform where
  sha256 := fun _ => "df1948d60f481c380a7b07e1b310f2fbc21fb4c5feb20fa0e2d45af90bd6543e"
  normalizeNfc := id
  localeLe := fun a b => decide (a ≤ b)

theorem precomposed_keepsLineEnds : precomposed.KeepsLineEnds := by
  have same (text : List Char) : precomposed.nfc text = text := String.toList_ofList
  constructor
  · exact fun text => same _
  · exact fun _ _ => same _
  · intro before after c _
    rw [same, same, same]
  · intro text plain
    rw [same]
    exact plain
  · intro text nil
    rwa [same] at nil

/-- A message with an ordinary line end. -/
theorem normal_form_hello :
    MessageService.RequeuesAlike precomposed (some " hello\r\nworld\r\r\n") :=
  ((normal_form_iff precomposed precomposed_keepsLineEnds (some " hello\r\nworld\r\r\n")).mpr
    (by decide +kernel)).2.2

/-- A carriage return is left before a line feed, and the second normalization drops it. -/
theorem carriage_return_left : ¬∀ text : Option String,
    normalizeMessage precomposed (some (normalizeMessage precomposed text)) =
      normalizeMessage precomposed text ∧
    ¬HasCrlf (normalizeMessage precomposed text).toList := by
  intro normal
  have once := (normal (some "hello\r\r\nworld")).1
  revert once
  decide +kernel

end Example

end WhatsappBot
