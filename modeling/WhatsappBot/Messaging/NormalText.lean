import WhatsappBot.Lib.Words
import WhatsappBot.Messaging.Idempotency

/-!
# The normal form of a text, word by word

`normalizeMessage` drops the white space around a text and works on its words and
on the white space between them separately.
-/

namespace WhatsappBot

open Lib.Words

/-! ## Texts without white space around them -/

theorem trim_of_ends {text : List Char} (first : ∀ c ∈ text.head?, isTrimmed c = false)
    (last : ∀ c ∈ text.getLast?, isTrimmed c = false) :
    trim (String.ofList text) = String.ofList text := by
  have leading : text.dropWhile isTrimmed = text := by
    cases text with
    | nil => rfl
    | cons c rest =>
      exact List.dropWhile_cons_of_neg (by rw [first c rfl]; exact Bool.false_ne_true)
  have trailing : text.rdropWhile isTrimmed = text := by
    refine (List.rdropWhile_eq_self_iff).mpr fun nonempty => ?_
    rw [last _ (List.getLast?_eq_some_getLast nonempty)]
    exact Bool.false_ne_true
  rw [← String.toList_inj, trim_toList, String.toList_ofList, leading, trailing]

theorem trim_spaced {lead trail text : List Char} (before : ∀ c ∈ lead, isTrimmed c = true)
    (after : ∀ c ∈ trail, isTrimmed c = true) (first : ∀ c ∈ text.head?, isTrimmed c = false)
    (last : ∀ c ∈ text.getLast?, isTrimmed c = false) (nonempty : text ≠ []) :
    trim (String.ofList (lead ++ (text ++ trail))) = String.ofList text := by
  obtain ⟨c, rest, eq⟩ := List.exists_cons_of_ne_nil nonempty
  have visible : isTrimmed c = false := first c (by rw [eq]; rfl)
  have leading : (lead ++ (text ++ trail)).dropWhile isTrimmed = text ++ trail := by
    rw [List.dropWhile_append_of_pos before, eq, List.cons_append,
      List.dropWhile_cons_of_neg (by rw [visible]; exact Bool.false_ne_true)]
  have trailing : (text ++ trail).rdropWhile isTrimmed = text := by
    have shape := List.dropLast_append_getLast nonempty
    have ends := last _ (List.getLast?_eq_some_getLast nonempty)
    rw [List.rdropWhile, List.reverse_append,
      List.dropWhile_append_of_pos fun d mem => after d (List.mem_reverse.mp mem), ← shape,
      List.reverse_append, List.reverse_singleton, List.singleton_append,
      List.dropWhile_cons_of_neg (by rw [ends]; exact Bool.false_ne_true), List.reverse_cons,
      List.reverse_reverse]
  rw [← String.toList_inj, trim_toList, String.toList_ofList, String.toList_ofList, leading,
    trailing]

/-- A trimmed text begins with a character that is not white space. -/
theorem head_trim (text : String) : ∀ c ∈ (trim text).toList.head?, isTrimmed c = false := by
  intro c mem
  have kept := List.rdropWhile_prefix isTrimmed (text.toList.dropWhile isTrimmed)
  rw [← trim_toList] at kept
  obtain ⟨more, eq⟩ := kept
  have first := List.head?_dropWhile_not isTrimmed text.toList
  rw [← eq, List.head?_append, Option.mem_def.mp mem, Option.some_or] at first
  exact first

/-- A trimmed text ends so, too. -/
theorem last_trim (text : String) : ∀ c ∈ (trim text).toList.getLast?, isTrimmed c = false := by
  intro c mem
  rw [trim_toList] at mem
  cases found : (text.toList.dropWhile isTrimmed).rdropWhile isTrimmed with
  | nil =>
    rw [found] at mem
    cases mem
  | cons d rest =>
    have nonempty : (text.toList.dropWhile isTrimmed).rdropWhile isTrimmed ≠ [] := by
      rw [found]
      exact List.cons_ne_nil d rest
    have last := List.rdropWhile_last_not isTrimmed _ nonempty
    rw [List.getLast?_eq_some_getLast nonempty, Option.mem_some_iff] at mem
    rw [mem] at last
    simpa only [Bool.not_eq_true] using last

/-! ## Line ends -/

theorem replaceCrlf_append {before after : List Char} (h : ∀ c ∈ after.head?, c ≠ '\n') :
    replaceCrlf (before ++ after) = replaceCrlf before ++ replaceCrlf after := by
  induction before using replaceCrlf.induct with
  | case1 rest ih => simp only [List.cons_append, replaceCrlf, ih]
  | case2 c rest other ih =>
    have alone : ∀ more, c = '\r' → rest ++ after ≠ '\n' :: more := by
      intro more return_char same
      cases rest with
      | nil =>
        rw [List.nil_append] at same
        exact h '\n' (by rw [same]; rfl) rfl
      | cons d rest =>
        rw [List.cons_append, List.cons.injEq] at same
        exact other rest return_char (by rw [same.1])
    rw [List.cons_append, replaceCrlf.eq_2 c _ alone, replaceCrlf.eq_2 c rest other, ih]
    rfl
  | case3 => rfl

theorem replaceCrlf_line {line : List Char} (h : ∀ c ∈ line, c ≠ '\r') (after : List Char) :
    replaceCrlf (line ++ after) = line ++ replaceCrlf after := by
  induction line with
  | nil => rfl
  | cons c rest ih =>
    rw [List.cons_append, replaceCrlf.eq_2 c, ih fun d mem => h d (List.mem_cons_of_mem _ mem)]
    · rfl
    · exact fun more return_char _ => h c List.mem_cons_self return_char

theorem replaceCrlf_word {word : List Char} (h : ∀ c ∈ word, isTrimmed c = false)
    (after : List Char) : replaceCrlf (word ++ after) = word ++ replaceCrlf after := by
  refine replaceCrlf_line (fun c mem => ?_) after
  rintro rfl
  have visible := h '\r' mem
  revert visible
  decide

theorem replaceCrlf_blank {gap : List Char} (all : ∀ c ∈ gap, isTrimmed c = true) :
    ∀ c ∈ replaceCrlf gap, isTrimmed c = true := by
  induction gap using replaceCrlf.induct with
  | case1 rest ih =>
    rw [replaceCrlf]
    intro c mem
    rcases List.mem_cons.mp mem with rfl | mem
    · decide
    · exact ih (fun d mem => all d (List.mem_cons_of_mem _ (List.mem_cons_of_mem _ mem))) c mem
  | case2 d rest other ih =>
    rw [replaceCrlf.eq_2 d rest other]
    intro c mem
    rcases List.mem_cons.mp mem with rfl | mem
    · exact all c List.mem_cons_self
    · exact ih (fun d mem => all d (List.mem_cons_of_mem _ mem)) c mem
  | case3 => exact all

theorem replaceCrlf_gap {gap : List Char} (h : IsGap isTrimmed gap) :
    IsGap isTrimmed (replaceCrlf gap) ∧ (replaceCrlf gap = [' '] ↔ gap = [' ']) := by
  have some_left : ∀ gap : List Char, replaceCrlf gap = [] → gap = [] := by
    intro gap nil
    induction gap using replaceCrlf.induct with
    | case1 rest => cases nil
    | case2 d rest other =>
      rw [replaceCrlf.eq_2 d rest other] at nil
      cases nil
    | case3 => rfl
  refine ⟨⟨fun nil => h.1 (some_left gap nil), replaceCrlf_blank h.2⟩, fun same => ?_, ?_⟩
  · cases gap using replaceCrlf.induct with
    | case1 rest => cases same
    | case2 d rest other =>
      rw [replaceCrlf.eq_2 d rest other, List.cons.injEq] at same
      rw [same.1, some_left rest same.2]
    | case3 => cases same
  · rintro rfl
    rfl

/-! ## Unicode -/

/-- What is relied on of `normalize('NFC')`: white space neither joins what is beside
it nor stops being white space, only the ordinary space becomes one, and other text
has none in it. -/
structure KeyPlatform.KeepsSpaces (platform : KeyPlatform) : Prop where
  apart : ∀ (before after : String) (c : Char), isTrimmed c = true →
    platform.normalizeNfc (before ++ c.toString ++ after) = platform.normalizeNfc before ++
      platform.normalizeNfc c.toString ++ platform.normalizeNfc after
  blank : ∀ c, isTrimmed c = true → ∃ d, isTrimmed d = true ∧
    platform.normalizeNfc c.toString = d.toString ∧ (d = ' ' ↔ c = ' ')
  word : ∀ text : String, (∀ c ∈ text.toList, isTrimmed c = false) →
    ∀ c ∈ (platform.normalizeNfc text).toList, isTrimmed c = false
  empty : ∀ text, platform.normalizeNfc text = "" ↔ text = ""

namespace KeyPlatform

variable {platform : KeyPlatform}

/-- `normalize('NFC')` on characters. -/
def nfc (platform : KeyPlatform) (text : List Char) : List Char :=
  (platform.normalizeNfc (String.ofList text)).toList

theorem KeepsSpaces.nfc_apart (h : platform.KeepsSpaces) {c : Char} (blank : isTrimmed c = true)
    (before after : List Char) :
    platform.nfc (before ++ c :: after) =
      platform.nfc before ++ (platform.nfc [c] ++ platform.nfc after) := by
  have text : String.ofList (before ++ c :: after) =
      String.ofList before ++ c.toString ++ String.ofList after := by
    rw [← String.toList_inj]
    simp only [String.toList_append, String.toList_ofList, Char.toString_eq_singleton,
      String.toList_singleton, List.append_assoc, List.singleton_append]
  have single : String.ofList [c] = c.toString := by
    rw [← String.toList_inj, String.toList_ofList, Char.toString_eq_singleton,
      String.toList_singleton]
  simp only [nfc, text, single, h.apart _ _ c blank, String.toList_append, List.append_assoc]

theorem KeepsSpaces.nfc_nil (h : platform.KeepsSpaces) : platform.nfc [] = [] := by
  rw [nfc, (h.empty (String.ofList [])).mpr rfl, String.toList_empty]

/-- A single white space character keeps to itself. -/
theorem KeepsSpaces.nfc_single (h : platform.KeepsSpaces) {c : Char} (blank : isTrimmed c = true) :
    ∃ d, isTrimmed d = true ∧ platform.nfc [c] = [d] ∧ (d = ' ' ↔ c = ' ') := by
  obtain ⟨d, trimmed, same, space⟩ := h.blank c blank
  refine ⟨d, trimmed, ?_, space⟩
  have single : String.ofList [c] = c.toString := by
    rw [← String.toList_inj, String.toList_ofList, Char.toString_eq_singleton,
      String.toList_singleton]
  rw [nfc, single, same, Char.toString_eq_singleton, String.toList_singleton]

theorem KeepsSpaces.nfc_gap (h : platform.KeepsSpaces) {gap : List Char}
    (isGap : IsGap isTrimmed gap) (before after : List Char) :
    platform.nfc (before ++ (gap ++ after)) =
      platform.nfc before ++ (platform.nfc gap ++ platform.nfc after) := by
  obtain ⟨some_gap, blanks⟩ := isGap
  induction gap generalizing before with
  | nil => exact absurd rfl some_gap
  | cons c gap ih =>
    have first := blanks c List.mem_cons_self
    have rest (before : List Char) : platform.nfc (before ++ (c :: gap ++ after)) =
        platform.nfc before ++ (platform.nfc [c] ++ (platform.nfc gap ++ platform.nfc after)) := by
      rw [List.cons_append, h.nfc_apart first]
      cases gap with
      | nil => rw [List.nil_append, h.nfc_nil, List.nil_append]
      | cons d gap =>
        have later := ih [] (List.cons_ne_nil d gap) fun e mem =>
          blanks e (List.mem_cons_of_mem _ mem)
        rw [List.nil_append, h.nfc_nil, List.nil_append] at later
        rw [later]
    have alone := h.nfc_apart first [] gap
    rw [List.nil_append, h.nfc_nil, List.nil_append] at alone
    rw [rest, alone, List.append_assoc]

theorem KeepsSpaces.nil_of_nfc (h : platform.KeepsSpaces) {text : List Char}
    (nil : platform.nfc text = []) : text = [] := by
  have empty := (h.empty (String.ofList text)).mp (String.toList_eq_nil_iff.mp nil)
  rw [← String.toList_ofList (l := text), empty, String.toList_empty]

theorem KeepsSpaces.nfc_cons (h : platform.KeepsSpaces) {c : Char} (blank : isTrimmed c = true)
    (after : List Char) : platform.nfc (c :: after) = platform.nfc [c] ++ platform.nfc after := by
  have alone := h.nfc_apart blank [] after
  rwa [List.nil_append, h.nfc_nil, List.nil_append] at alone

theorem KeepsSpaces.nfc_blank (h : platform.KeepsSpaces) {gap : List Char}
    (all : ∀ c ∈ gap, isTrimmed c = true) : ∀ c ∈ platform.nfc gap, isTrimmed c = true := by
  induction gap with
  | nil =>
    rw [h.nfc_nil]
    exact all
  | cons d gap ih =>
    obtain ⟨e, trimmed, same, -⟩ := h.nfc_single (all d List.mem_cons_self)
    rw [h.nfc_cons (all d List.mem_cons_self), same]
    intro c mem
    rcases List.mem_cons.mp mem with rfl | mem
    · exact trimmed
    · exact ih (fun f mem => all f (List.mem_cons_of_mem _ mem)) c mem

theorem KeepsSpaces.isGap_nfc (h : platform.KeepsSpaces) {gap : List Char}
    (isGap : IsGap isTrimmed gap) :
    IsGap isTrimmed (platform.nfc gap) ∧ (platform.nfc gap = [' '] ↔ gap = [' ']) := by
  refine ⟨⟨fun nil => isGap.1 (h.nil_of_nfc nil), h.nfc_blank isGap.2⟩, ?_⟩
  obtain ⟨c, more, rfl⟩ := List.exists_cons_of_ne_nil isGap.1
  obtain ⟨d, -, same, space⟩ := h.nfc_single (isGap.2 c List.mem_cons_self)
  rw [h.nfc_cons (isGap.2 c List.mem_cons_self), same, List.singleton_append, List.cons.injEq,
    List.cons.injEq, space]
  refine and_congr_right fun _ => ⟨h.nil_of_nfc, ?_⟩
  rintro rfl
  exact h.nfc_nil

theorem KeepsSpaces.isWord_nfc (h : platform.KeepsSpaces) {word : List Char}
    (isWord : IsWord isTrimmed word) : IsWord isTrimmed (platform.nfc word) := by
  refine ⟨fun nil => isWord.1 (h.nil_of_nfc nil), h.word _ ?_⟩
  rw [String.toList_ofList]
  exact isWord.2

/-- White space before and after a text. -/
theorem KeepsSpaces.nfc_around (h : platform.KeepsSpaces) {lead trail : List Char}
    (before : ∀ c ∈ lead, isTrimmed c = true) (after : ∀ c ∈ trail, isTrimmed c = true)
    (text : List Char) :
    platform.nfc (lead ++ (text ++ trail)) =
      platform.nfc lead ++ (platform.nfc text ++ platform.nfc trail) := by
  have ends : platform.nfc (text ++ trail) = platform.nfc text ++ platform.nfc trail := by
    cases trail with
    | nil => rw [List.append_nil, h.nfc_nil, List.append_nil]
    | cons c trail =>
      have cut := h.nfc_gap ⟨List.cons_ne_nil c trail, after⟩ text []
      rwa [List.append_nil, h.nfc_nil, List.append_nil] at cut
  rw [← ends]
  cases lead with
  | nil => rw [List.nil_append, h.nfc_nil, List.nil_append]
  | cons c lead =>
    have cut := h.nfc_gap ⟨List.cons_ne_nil c lead, before⟩ [] (text ++ trail)
    rwa [List.nil_append, h.nfc_nil, List.nil_append] at cut

end KeyPlatform

/-! ## The normal form -/

theorem replaceCrlf_spread {first trail : List Char} {rest : List (List Char × List Char)}
    (spaced : Spaced isTrimmed first rest) :
    replaceCrlf (spread first rest ++ trail) =
      spread first (rest.map (Prod.map replaceCrlf id)) ++ replaceCrlf trail := by
  induction rest generalizing first with
  | nil => exact replaceCrlf_word spaced.2 trail
  | cons step rest ih =>
    obtain ⟨word, -, later⟩ := spaced
    obtain ⟨c, more, eq, visible⟩ := spread_head later
    have stops : ∀ d ∈ (spread step.2 rest ++ trail).head?, d ≠ '\n' := by
      rw [eq]
      rintro d ⟨⟩ rfl
      revert visible
      decide
    simp only [spread, List.map_cons, Prod.map, id, List.append_assoc]
    rw [replaceCrlf_word word.2, replaceCrlf_append stops, ih later]

variable {platform : KeyPlatform}

theorem KeyPlatform.KeepsSpaces.nfc_spread (h : platform.KeepsSpaces) {first : List Char}
    {rest : List (List Char × List Char)} (spaced : Spaced isTrimmed first rest) :
    platform.nfc (spread first rest) =
      spread (platform.nfc first) (rest.map (Prod.map platform.nfc platform.nfc)) := by
  induction rest generalizing first with
  | nil => rfl
  | cons step rest ih =>
    simp only [spread, List.map_cons, Prod.map]
    rw [h.nfc_gap spaced.2.1, ih spaced.2.2]

/-- What the normal form makes of a gap and the word after it. -/
def normalStep (platform : KeyPlatform) (step : List Char × List Char) : List Char × List Char :=
  (platform.nfc (replaceCrlf step.1), platform.nfc step.2)

theorem spaced_crlf {first : List Char} {rest : List (List Char × List Char)}
    (spaced : Spaced isTrimmed first rest) :
    Spaced isTrimmed first (rest.map (Prod.map replaceCrlf id)) := by
  induction rest generalizing first with
  | nil => exact spaced
  | cons step rest ih => exact ⟨spaced.1, (replaceCrlf_gap spaced.2.1).1, ih spaced.2.2⟩

theorem spaced_normal (h : platform.KeepsSpaces) {first : List Char}
    {rest : List (List Char × List Char)} (spaced : Spaced isTrimmed first rest) :
    Spaced isTrimmed (platform.nfc first) (rest.map (normalStep platform)) := by
  induction rest generalizing first with
  | nil => exact h.isWord_nfc spaced
  | cons step rest ih =>
    exact ⟨h.isWord_nfc spaced.1, (h.isGap_nfc (replaceCrlf_gap spaced.2.1).1).1, ih spaced.2.2⟩

/-- **The normal form works word by word.** -/
theorem normalizeMessage_spread (h : platform.KeepsSpaces) {lead trail first : List Char}
    {rest : List (List Char × List Char)} (before : ∀ c ∈ lead, isTrimmed c = true)
    (after : ∀ c ∈ trail, isTrimmed c = true) (spaced : Spaced isTrimmed first rest) :
    (normalizeMessage platform
        (some (String.ofList (lead ++ (spread first rest ++ trail))))).toList =
      spread (platform.nfc first) (rest.map (normalStep platform)) := by
  obtain ⟨c, more, eq, visible⟩ := spread_head spaced
  have stops : ∀ d ∈ (spread first rest ++ trail).head?, d ≠ '\n' := by
    rw [eq]
    rintro d ⟨⟩ rfl
    revert visible
    decide
  have steps : (rest.map (Prod.map replaceCrlf id)).map (Prod.map platform.nfc platform.nfc) =
      rest.map (normalStep platform) := by
    rw [List.map_map]
    rfl
  have normal := spaced_normal h spaced
  rw [normalizeMessage, trim_toList, Option.getD_some, String.toList_ofList,
    replaceCrlf_append stops, replaceCrlf_spread spaced, ← KeyPlatform.nfc,
    h.nfc_around (replaceCrlf_blank before) (replaceCrlf_blank after),
    h.nfc_spread (spaced_crlf spaced), steps,
    dropWhile_spread normal (h.nfc_blank (replaceCrlf_blank before)),
    rdropWhile_spread normal (h.nfc_blank (replaceCrlf_blank after))]

theorem normalStep_single (h : platform.KeepsSpaces) (word : List Char) :
    normalStep platform ([' '], word) = ([' '], platform.nfc word) := by
  have space : platform.nfc (replaceCrlf [' ']) = [' '] :=
    (h.isGap_nfc ⟨List.cons_ne_nil _ _, List.forall_mem_singleton.mpr (by decide)⟩).2.mpr rfl
  rw [normalStep, space]

/-- **Two texts of the same words have one normal form exactly when their white space
comes to the same.** -/
theorem normalStep_space (h : platform.KeepsSpaces) {step : List Char × List Char}
    (isGap : IsGap isTrimmed step.1) :
    normalStep platform ([' '], step.2) = normalStep platform step ↔ step.1 = [' '] := by
  rw [normalStep_single h, normalStep, Prod.mk.injEq, and_iff_left rfl, eq_comm,
    (h.isGap_nfc (replaceCrlf_gap isGap).1).2, (replaceCrlf_gap isGap).2]

end WhatsappBot
