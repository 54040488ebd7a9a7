import WhatsappBot.Runtime.Processes
import WhatsappBot.Whatsapp.ControllerCommands

/-!
# When the chat and the terminal queue the same message

`/send` and `/schedule` join the words of a message by single spaces, so they queue
the message of the command line exactly when it has no other white space inside.
-/

namespace WhatsappBot

open Lib.Words MessageService BulkControllerCommands

/-! ## Messages and their words -/

/-- A text cut into its words, and the white space around and between them. -/
structure Cut (text : String) where
  lead : List Char
  trail : List Char
  first : List Char
  rest : List (List Char × List Char)
  before : ∀ c ∈ lead, isTrimmed c = true
  after : ∀ c ∈ trail, isTrimmed c = true
  spaced : Spaced isTrimmed first rest
  same : text.toList = lead ++ (spread first rest ++ trail)

theorem Cut.trim_eq {text : String} (cut : Cut text) :
    trim text = String.ofList (spread cut.first cut.rest) := by
  rw [← String.toList_inj, trim_toList, cut.same, String.toList_ofList,
    dropWhile_spread cut.spaced cut.before, rdropWhile_spread cut.spaced cut.after]

/-- A text that is not blank has words. -/
theorem exists_cut {text : String} (h : trim text ≠ "") : Nonempty (Cut text) := by
  have trimmed : (trim text).toList ≠ [] := fun nil => h (String.toList_eq_nil_iff.mp nil)
  rw [trim_toList] at trimmed
  have starts : ∃ c more, (text.toList.dropWhile isTrimmed).rdropWhile isTrimmed = c :: more ∧
      isTrimmed c = false := by
    obtain ⟨c, more, eq⟩ := List.exists_cons_of_ne_nil trimmed
    refine ⟨c, more, eq, ?_⟩
    obtain ⟨others, split⟩ := List.rdropWhile_prefix isTrimmed (text.toList.dropWhile isTrimmed)
    have visible := List.head?_dropWhile_not isTrimmed text.toList
    rw [← split, eq] at visible
    exact visible
  have ends : ∃ before c, (text.toList.dropWhile isTrimmed).rdropWhile isTrimmed =
      before ++ [c] ∧ isTrimmed c = false := by
    refine ⟨_, _, (List.dropLast_append_getLast trimmed).symm, ?_⟩
    rw [← Bool.not_eq_true]
    exact List.rdropWhile_last_not isTrimmed _ trimmed
  obtain ⟨first, rest, spaced, eq⟩ := exists_spread starts ends
  refine ⟨text.toList.takeWhile isTrimmed, (text.toList.dropWhile isTrimmed).rtakeWhile isTrimmed,
    first, rest, List.all_eq_true.mp List.all_takeWhile, fun c mem => List.mem_rtakeWhile_imp mem,
    spaced, ?_⟩
  rw [← eq, List.rdropWhile, List.rtakeWhile, ← List.reverse_append,
    List.takeWhile_append_dropWhile, List.reverse_reverse, List.takeWhile_append_dropWhile]

/-- A text without white space. -/
def Solid (text : String) : Prop := IsWord isTrimmed text.toList

theorem solid_of_all {text : String}
    (h : (!text.toList.isEmpty && text.toList.all fun c => !isTrimmed c) = true) : Solid text := by
  rw [Bool.and_eq_true, Bool.not_eq_true', List.all_eq_true] at h
  refine ⟨fun nil => ?_, fun c mem => (Bool.not_eq_true' _).mp (h.2 c mem)⟩
  rw [nil] at h
  cases h.1

/-- A word put before a text. -/
def Cut.word {text : String} (cut : Cut text) {word : String} (solid : Solid word) :
    Cut (word ++ " " ++ text) where
  lead := []
  trail := cut.trail
  first := word.toList
  rest := (' ' :: cut.lead, cut.first) :: cut.rest
  before := fun _ mem => absurd mem List.not_mem_nil
  after := cut.after
  spaced := by
    refine ⟨solid, ⟨List.cons_ne_nil _ _, fun c mem => ?_⟩, cut.spaced⟩
    rcases List.mem_cons.mp mem with rfl | mem
    · decide
    · exact cut.before c mem
  same := by
    have space : " ".toList = [' '] := rfl
    rw [String.toList_append, String.toList_append, cut.same, space]
    simp only [spread, List.append_assoc, List.nil_append, List.cons_append]

theorem splitWords_spread {first : List Char} {rest : List (List Char × List Char)}
    (spaced : Spaced isTrimmed first rest) :
    splitWords (String.ofList (spread first rest)) =
      (first :: rest.map Prod.snd).map String.ofList := by
  obtain ⟨c, more, eq, -⟩ := spread_head spaced
  have nonempty : String.ofList (spread first rest) ≠ "" := by
    intro empty
    have nil := congrArg String.toList empty
    rw [String.toList_ofList, eq] at nil
    cases nil
  rw [splitWords, if_neg nonempty, String.toList_ofList, filter_splitOnP_spread spaced]

/-- Every gap made a single space. -/
def single (step : List Char × List Char) : List Char × List Char := ([' '], step.2)

/-- The words of a text, joined by single spaces. -/
theorem intercalate_words (first : List Char) (rest : List (List Char × List Char)) :
    " ".intercalate ((first :: rest.map Prod.snd).map String.ofList) =
      String.ofList (spread first (rest.map single)) := by
  induction rest generalizing first with
  | nil => exact String.intercalate_singleton
  | cons step rest ih =>
    rw [List.map_cons, List.map_cons, List.map_cons, String.intercalate_cons_cons,
      ← List.map_cons, ih, ← String.toList_inj]
    simp only [String.toList_append, String.toList_ofList, List.map_cons, spread, single,
      List.append_assoc]
    rfl

theorem spaced_single {first : List Char} {rest : List (List Char × List Char)}
    (spaced : Spaced isTrimmed first rest) : Spaced isTrimmed first (rest.map single) := by
  induction rest generalizing first with
  | nil => exact spaced
  | cons step rest ih =>
    refine ⟨spaced.1, ⟨List.cons_ne_nil _ _, fun c mem => ?_⟩, ih spaced.2.2⟩
    rw [List.mem_singleton.mp mem]
    decide

/-- No white space but single ordinary spaces. -/
def singleSpaced : List Char → Bool
  | c :: d :: rest => (!isTrimmed c || c = ' ' && !isTrimmed d) && singleSpaced (d :: rest)
  | _ => true

theorem singleSpaced_word {word : List Char} (visible : ∀ c ∈ word, isTrimmed c = false)
    (text : List Char) : singleSpaced (word ++ text) = singleSpaced text := by
  induction word with
  | nil => rfl
  | cons c word ih =>
    have first : isTrimmed c = false := visible c List.mem_cons_self
    rw [List.cons_append, ← ih fun d mem => visible d (List.mem_cons_of_mem _ mem)]
    cases word ++ text with
    | nil => rfl
    | cons d rest => rw [singleSpaced, first, Bool.not_false, Bool.true_or, Bool.true_and]

theorem singleSpaced_gap {gap : List Char} (isGap : IsGap isTrimmed gap) {c : Char}
    {text : List Char} (visible : isTrimmed c = false) :
    singleSpaced (gap ++ c :: text) = true ↔ gap = [' '] ∧ singleSpaced (c :: text) = true := by
  obtain ⟨d, more, rfl⟩ := List.exists_cons_of_ne_nil isGap.1
  have first : isTrimmed d = true := isGap.2 d List.mem_cons_self
  cases more with
  | nil =>
    rw [List.singleton_append, singleSpaced, first, visible]
    simp
  | cons e more =>
    have second : isTrimmed e = true := isGap.2 e (List.mem_cons_of_mem _ List.mem_cons_self)
    rw [List.cons_append, List.cons_append, singleSpaced, first, second]
    simp

/-- The gaps of such a text are single ordinary spaces. -/
theorem singleSpaced_iff {first : List Char} {rest : List (List Char × List Char)}
    (spaced : Spaced isTrimmed first rest) :
    singleSpaced (spread first rest) = true ↔ ∀ step ∈ rest, step.1 = [' '] := by
  induction rest generalizing first with
  | nil =>
    have word := singleSpaced_word spaced.2 []
    rw [List.append_nil] at word
    rw [spread, word]
    exact ⟨fun _ step mem => absurd mem List.not_mem_nil, fun _ => rfl⟩
  | cons step rest ih =>
    obtain ⟨word, gap, later⟩ := spaced
    obtain ⟨c, more, eq, visible⟩ := spread_head later
    rw [spread, singleSpaced_word word.2, List.forall_mem_cons, ← ih later, eq]
    exact singleSpaced_gap gap visible

/-- `text.length` of characters. -/
def units (text : List Char) : Nat := (text.map fun c => if 0x10000 ≤ c.toNat then 2 else 1).sum

theorem units_append (a b : List Char) : units (a ++ b) = units a + units b := by
  rw [units, List.map_append, List.sum_append, units, units]

theorem units_pos {text : List Char} (h : text ≠ []) : 1 ≤ units text := by
  obtain ⟨c, rest, rfl⟩ := List.exists_cons_of_ne_nil h
  rw [units, List.map_cons, List.sum_cons]
  split <;> omega

namespace Cut

/-- Words with nothing around them. -/
def ofSpaced {first : List Char} {rest : List (List Char × List Char)}
    (spaced : Spaced isTrimmed first rest) : Cut (String.ofList (spread first rest)) where
  lead := []
  trail := []
  first := first
  rest := rest
  before := fun _ mem => absurd mem List.not_mem_nil
  after := fun _ mem => absurd mem List.not_mem_nil
  spaced := spaced
  same := by rw [String.toList_ofList, List.append_nil, List.nil_append]

variable {text : String} (cut : Cut text)

/-- The words, joined by single spaces. -/
def joined : String := String.ofList (spread cut.first (cut.rest.map single))

variable {platform : KeyPlatform} (keeps : platform.KeepsSpaces)

include cut keeps

theorem normal : (normalizeMessage platform (some text)).toList =
    spread (platform.nfc cut.first) (cut.rest.map (normalStep platform)) := by
  rw [← normalizeMessage_spread keeps cut.before cut.after cut.spaced, ← cut.same,
    String.ofList_toList]

theorem normal_trim : normalizeMessage platform (some (trim text)) =
    normalizeMessage platform (some text) := by
  rw [← String.toList_inj, cut.normal keeps, cut.trim_eq, (ofSpaced cut.spaced).normal keeps]
  rfl

theorem normal_joined : (normalizeMessage platform (some cut.joined)).toList =
    spread (platform.nfc cut.first) ((cut.rest.map single).map (normalStep platform)) :=
  (ofSpaced (spaced_single cut.spaced)).normal keeps

/-- **Joining the words keeps the normal form of a text with single spaces only.** -/
theorem normal_joined_iff :
    normalizeMessage platform (some cut.joined) = normalizeMessage platform (some text) ↔
      singleSpaced (trim text).toList = true := by
  have words := spaced_normal keeps cut.spaced
  have joined := spaced_normal keeps (spaced_single cut.spaced)
  rw [cut.trim_eq, String.toList_ofList, singleSpaced_iff cut.spaced, ← String.toList_inj,
    cut.normal keeps, cut.normal_joined keeps]
  constructor
  · intro same step mem
    have steps := (spread_inj joined words same).2
    rw [List.map_map, List.map_inj_left] at steps
    exact (normalStep_space keeps (cut.spaced.gap step mem)).mp (steps step mem)
  · intro gaps
    congr 1
    rw [List.map_map, List.map_inj_left]
    exact fun step mem => (normalStep_space keeps (cut.spaced.gap step mem)).mpr (gaps step mem)

theorem joined_length : utf16Length (normalizeMessage platform (some cut.joined)) ≤
    utf16Length (normalizeMessage platform (some text)) := by
  have shorter : ∀ (first : List Char) (rest : List (List Char × List Char)),
      (∀ step ∈ rest, IsGap isTrimmed step.1) →
      units (spread first ((rest.map single).map (normalStep platform))) ≤
        units (spread first (rest.map (normalStep platform))) := by
    intro first rest gaps
    induction rest generalizing first with
    | nil => exact Nat.le_refl _
    | cons step rest ih =>
      rw [List.forall_mem_cons] at gaps
      have others := ih (platform.nfc step.2) gaps.2
      have gap := units_pos (keeps.isGap_nfc (replaceCrlf_gap gaps.1).1).1.1
      have space : units [' '] = 1 := by decide
      simp only [List.map_cons, single, normalStep_single keeps, spread, units_append]
      simp only [normalStep] at others ⊢
      omega
  rw [utf16Length, utf16Length, cut.normal keeps, cut.normal_joined keeps]
  exact shorter _ _ cut.spaced.gap

end Cut

/-! ## Commands -/

theorem line_cons (word next : String) (rest : List String) :
    " ".intercalate (word :: next :: rest) = word ++ " " ++ " ".intercalate (next :: rest) :=
  String.intercalate_cons_cons

/-- The words of a command of some words and a text. -/
theorem splitWords_line {text : String} (cut : Cut text) :
    splitWords (trim text) = (cut.first :: cut.rest.map Prod.snd).map String.ofList := by
  rw [cut.trim_eq, splitWords_spread cut.spaced]

section

variable {destination message : String} (cut : Cut message) (solid : Solid destination)

include solid

theorem send_line : ControllerCommands.send (" ".intercalate ["/send", destination, message]) =
    some
      { destination := destination
        text := some cut.joined
        actor := some "self-controller" } := by
  have head : Solid "/send" := solid_of_all (by decide)
  have words := splitWords_line ((cut.word solid).word head)
  rw [line_cons, line_cons, String.intercalate_singleton, ControllerCommands.send, words]
  simp only [Cut.word, List.map_cons, String.ofList_toList]
  rw [← List.map_cons, intercalate_words]
  rfl

theorem schedule_line {parser : DateParser} {now : Date} {time : String} (timed : Solid time) :
    ControllerCommands.schedule parser now
        (" ".intercalate ["/schedule", destination, time, message]) =
      some ((Scheduler.parseSchedule parser time now).map fun scheduledAt =>
        { destination := destination
          scheduledAt := some scheduledAt
          text := some cut.joined
          actor := some "self-controller" }) := by
  have head : Solid "/schedule" := solid_of_all (by decide)
  have words := splitWords_line (((cut.word timed).word solid).word head)
  rw [line_cons, line_cons, line_cons, String.intercalate_singleton, ControllerCommands.schedule,
    words]
  simp only [Cut.word, List.map_cons, String.ofList_toList]
  rw [← List.map_cons, intercalate_words]
  rfl

end

namespace BulkControllerCommands

theorem afterHead_append {head : String} {c : Char}
    (lower : head.toList.map Char.toLower = head.toList)
    (blank : isTrimmed c = true) (more : List Char) :
    afterHead (String.ofList (head.toList ++ c :: more)) head = some (c :: more) := by
  have length : head.length = head.toList.length := String.length_toList.symm
  rw [afterHead, String.toList_ofList, length, List.take_left, List.drop_left]
  exact if_pos ⟨lower, blank⟩

theorem messageEnd_spread {gap first : List Char} {rest : List (List Char × List Char)}
    (isGap : IsGap isTrimmed gap) (spaced : Spaced isTrimmed first rest) :
    messageEnd (gap ++ spread first rest) = some (spread first rest) := by
  obtain ⟨c, more, eq, visible⟩ := spread_head spaced
  rw [eq, messageEnd, dropWhile_blank isGap.2 c more visible, takeWhile_blank isGap.2 c more visible]
  exact if_neg isGap.1

variable {message : String} (cut : Cut message)

theorem trim_spread {first : List Char} {rest : List (List Char × List Char)}
    (spaced : Spaced isTrimmed first rest) :
    trim (String.ofList (spread first rest)) = String.ofList (spread first rest) ∧
      trim (String.ofList (spread first rest)) ≠ "" := by
  have same := (Cut.ofSpaced spaced).trim_eq
  obtain ⟨c, more, eq, -⟩ := spread_head spaced
  refine ⟨same, fun empty => ?_⟩
  have nil := congrArg String.toList (same.symm.trans empty)
  rw [String.toList_ofList] at nil
  exact absurd (eq.symm.trans nil) (List.cons_ne_nil _ _)

include cut

theorem messageAfter_line {head : String} (solid : Solid head)
    (lower : head.toList.map Char.toLower = head.toList) :
    messageAfter (trim (" ".intercalate [head, message])) head = some (trim message) := by
  have gap : IsGap isTrimmed (' ' :: cut.lead) := (cut.word solid).spaced.2.1
  rw [line_cons, String.intercalate_singleton, (cut.word solid).trim_eq, messageAfter]
  simp only [Cut.word, spread, List.cons_append]
  rw [afterHead_append lower (by decide), ← List.cons_append]
  dsimp only
  obtain ⟨same, nonempty⟩ := trim_spread cut.spaced
  rw [messageEnd_spread gap cut.spaced, Option.bind_some, if_neg nonempty, same, cut.trim_eq]

theorem namedMessage_line {name : String} (solid : Solid name) :
    namedMessage (trim (" ".intercalate ["/sendset", name, message])) "/sendset" =
      some (name, trim message) := by
  have head : Solid "/sendset" := solid_of_all (by decide)
  have lower : "/sendset".toList.map Char.toLower = "/sendset".toList := by decide
  have space : isTrimmed ' ' = true := by decide
  have gap : IsGap isTrimmed (' ' :: cut.lead) := (cut.word solid).spaced.2.1
  obtain ⟨-, taken, left⟩ := spread_first (cut.word solid).spaced
  obtain ⟨same, nonempty⟩ := trim_spread cut.spaced
  have blank : ∀ c ∈ [' '], isTrimmed c = true := by
    intro c mem
    rw [List.mem_singleton.mp mem]
    exact space
  have text := dropWhile_spread (cut.word solid).spaced blank []
  rw [List.append_nil, List.singleton_append] at text
  have rest := afterHead_append lower space (spread (cut.word solid).first (cut.word solid).rest)
  have line : (trim (" ".intercalate ["/sendset", name, message])) =
      String.ofList ("/sendset".toList ++
        ' ' :: spread (cut.word solid).first (cut.word solid).rest) := by
    rw [line_cons, line_cons, String.intercalate_singleton, ((cut.word solid).word head).trim_eq]
    rfl
  rw [line, namedMessage, rest, Option.bind_some]
  dsimp only
  have body : messageEnd (afterFirst (cut.word solid).rest) = some (spread cut.first cut.rest) :=
    messageEnd_spread gap cut.spaced
  have named : String.ofList (cut.word solid).first = name := String.ofList_toList
  rw [text, taken, left, body, if_neg (cut.word solid).spaced.word.1, Option.bind_some,
    if_neg nonempty, same, cut.trim_eq, named]

/-- What the targets of a list are made of. -/
def IsTarget (target : String) : Prop :=
  target.toList ≠ [] ∧ ∀ c ∈ target.toList, isTargetChar c = true

omit cut in
/-- Targets with commas between them are a list. -/
theorem exists_groups {target : String} {targets : List String}
    (names : ∀ t ∈ target :: targets, IsTarget t) :
    ∃ groups, (",".intercalate (target :: targets)).toList = target.toList ++ listText groups ∧
      (groups.map fun g => String.ofList g.target) = targets ∧
      ∀ c ∈ listText groups, isTrimmed c = false := by
  induction targets generalizing target with
  | nil =>
    refine ⟨[], ?_, rfl, fun c mem => absurd mem List.not_mem_nil⟩
    rw [String.intercalate_singleton, listText, List.flatMap_nil, List.append_nil]
  | cons next targets ih =>
    rw [List.forall_mem_cons] at names
    have nextNames := names.2 next List.mem_cons_self
    obtain ⟨groups, text, same, visible⟩ := ih names.2
    let g : TargetGroup :=
      { before := []
        after := []
        target := next.toList
        blankBefore := fun _ mem => absurd mem List.not_mem_nil
        blankAfter := fun _ mem => absurd mem List.not_mem_nil
        named := nextNames.1
        chars := nextNames.2 }
    have whole : listText (g :: groups) = ',' :: (next.toList ++ listText groups) := by
      rw [listText_cons]
      rfl
    have comma : ",".toList = [','] := rfl
    refine ⟨g :: groups, ?_, ?_, ?_⟩
    · rw [String.intercalate_cons_cons, String.toList_append, String.toList_append, text, whole,
        comma, List.append_assoc, List.singleton_append]
    · rw [List.map_cons, same, String.ofList_toList]
    · rw [whole]
      intro c mem
      rcases List.mem_cons.mp mem with rfl | mem
      · exact isTrimmed_comma
      · rcases List.mem_append.mp mem with mem | mem
        · exact isTrimmed_of_isTargetChar (nextNames.2 c mem)
        · exact visible c mem

theorem multiMessage_line {target : String} {targets : List String}
    (names : ∀ t ∈ target :: targets, IsTarget t)
    (visible : (trim message).toList.head? ≠ some ',') :
    multiMessage (trim (" ".intercalate
        ["/sendmulti", ",".intercalate (target :: targets), message])) =
      some (target :: targets, trim message) := by
  have head : Solid "/sendmulti" := solid_of_all (by decide)
  have lower : "/sendmulti".toList.map Char.toLower = "/sendmulti".toList := by decide
  have space : isTrimmed ' ' = true := by decide
  obtain ⟨groups, list, same, groupsVisible⟩ := exists_groups names
  obtain ⟨named, chars⟩ := names target List.mem_cons_self
  have solid : Solid (",".intercalate (target :: targets)) := by
    rw [Solid, list]
    refine ⟨fun nil => named (List.append_eq_nil_iff.mp nil).1, fun c mem => ?_⟩
    rcases List.mem_append.mp mem with mem | mem
    · exact isTrimmed_of_isTargetChar (chars c mem)
    · exact groupsVisible c mem
  have gap : IsGap isTrimmed (' ' :: cut.lead) := (cut.word solid).spaced.2.1
  obtain ⟨same_message, nonempty⟩ := trim_spread cut.spaced
  have line : trim (" ".intercalate
        ["/sendmulti", ",".intercalate (target :: targets), message]) =
      String.ofList ("/sendmulti".toList ++ ' ' :: (target.toList ++
        (listText groups ++ (' ' :: cut.lead ++ spread cut.first cut.rest)))) := by
    rw [line_cons, line_cons, String.intercalate_singleton, ((cut.word solid).word head).trim_eq,
      ← List.append_assoc, ← list]
    rfl
  have stops : (' ' :: cut.lead ++ spread cut.first cut.rest).head?.all
      (fun c => !isTargetChar c) = true := by
    rw [List.cons_append, List.head?_cons]
    decide
  have last : nextGroup (' ' :: cut.lead ++ spread cut.first cut.rest) = none := by
    obtain ⟨c, more, eq, shown⟩ := spread_head cut.spaced
    have comma : c ≠ ',' := by
      rintro rfl
      rw [cut.trim_eq, String.toList_ofList, eq] at visible
      exact visible rfl
    rw [eq]
    unfold nextGroup
    simp only [dropWhile_blank gap.2 c more shown]
    split
    · next other => exact absurd (List.cons.inj other).1 comma
    · rfl
  have found : listOf (trim (" ".intercalate
        ["/sendmulti", ",".intercalate (target :: targets), message])) =
      some ⟨target.toList, groups, ' ' :: cut.lead ++ spread cut.first cut.rest⟩ := by
    obtain ⟨c, more, eq⟩ := List.exists_cons_of_ne_nil named
    have first : isTrimmed c = false :=
      isTrimmed_of_isTargetChar (chars c (eq ▸ List.mem_cons_self))
    have text (after : List Char) :
        (' ' :: (target.toList ++ after)).dropWhile isTrimmed = target.toList ++ after := by
      rw [eq, List.dropWhile_cons_of_pos space, List.cons_append, List.dropWhile_cons_of_neg]
      rw [first]
      decide
    obtain ⟨taken, left⟩ := takeWhile_target chars (listText_stops groups stops)
    have enough := length_le_listText groups
    rw [listOf, line, afterHead_append lower space, Option.bind_some]
    dsimp only
    rw [text, taken, if_neg named, left, longestList_listText _ stops last]
    simp only [List.length_append]
    omega
  have split := @splitCommas_listText [] _ groups (fun c mem => absurd mem List.not_mem_nil)
    named chars
  rw [List.nil_append, String.ofList_toList, same] at split
  rw [multiMessage_eq, found, Option.bind_some, giveBack_message groups
    (messageEnd_spread gap cut.spaced), Option.bind_some]
  dsimp only
  rw [if_neg nonempty, split, same_message, cut.trim_eq]

end BulkControllerCommands

/-- A bulk request with this message, and nothing of its own that goes into a key. -/
structure Plain (message : String) (request : BulkEnqueueRequest) : Prop where
  text : request.text = some message
  own : request.forwardSourceKey = none
  unforced : request.force = none

namespace BulkControllerCommands

variable {codec : JidCodec} {db : Database} {command message : String}
  {request : BulkEnqueueRequest}

theorem ok_of_map {α β : Type} {outcome : Except AppError α} {f : α → β} {b : β}
    (h : outcome.map f = .ok b) : ∃ a, f a = b := by
  cases outcome with
  | error error => cases h
  | ok a => exact ⟨a, Except.ok.inj h⟩

theorem sendAll_plain (parsed : messageAfter command "/sendall" = some message)
    (h : sendAll codec db command = .ok (.enqueue request)) : Plain message request := by
  rw [sendAll, parsed] at h
  obtain ⟨snapshot, h⟩ := ok_of_map h
  split at h
  · cases h
  · cases h
    exact ⟨rfl, rfl, rfl⟩

theorem sendMulti_plain {targets : List String}
    (parsed : multiMessage command = some (targets, message))
    (h : sendMulti codec db command = .ok (.enqueue request)) : Plain message request := by
  rw [sendMulti, parsed] at h
  obtain ⟨resolved, h⟩ := ok_of_map h
  split at h
  · cases h
  · cases h
    exact ⟨rfl, rfl, rfl⟩

theorem sendSet_plain {members : String → Option (List GroupSetMember)} {rawName : String}
    (parsed : namedMessage command "/sendset" = some (rawName, message))
    (h : sendSet codec db members command = .ok (.enqueue request)) : Plain message request := by
  rw [sendSet, parsed] at h
  dsimp only at h
  split at h
  · cases h
  · split at h
    · cases h
    · obtain ⟨resolved, h⟩ := ok_of_map h
      split at h
      · cases h
      · cases h
        exact ⟨rfl, rfl, rfl⟩

end BulkControllerCommands

/-! ## One message -/

/-- What a command and the terminal come to before the message service. -/
def SameOutcome (platform : KeyPlatform) (message : String) :
    Except AppError QueueMessageRequest → Except AppError QueueMessageRequest → Prop
  | .ok a, .ok b => SameJob platform message a b
  | .error a, .error b => a = b
  | _, _ => False

/-- Every request that a bulk request comes to is that of the terminal. -/
def SameInBulk (platform : KeyPlatform) (message : String) (request : BulkEnqueueRequest) : Prop :=
  ∀ config batchId destination, ∃ each,
    (Bulk.callFor ⟨config, request, .creating⟩ batchId destination).phase = .resolving each ∧
      SameJob platform message each (Cli.send destination.jid message false)

/-- A message comes to the same job from the chat and from the terminal. -/
structure OneMessage (platform : KeyPlatform) (parser : DateParser) (destination message : String) :
    Prop where
  send : ∃ request,
    ControllerCommands.send (" ".intercalate ["/send", destination, message]) = some request ∧
      SameJob platform message request (Cli.send destination message false)
  schedule : ∀ time, Solid time → ∀ now, ∃ outcome,
    ControllerCommands.schedule parser now
        (" ".intercalate ["/schedule", destination, time, message]) = some outcome ∧
      SameOutcome platform message outcome
        (Cli.schedule parser now destination time message false)
  sendAll : ∀ command, command = trim (" ".intercalate ["/sendall", message]) →
    BulkControllerCommands.messageAfter command "/sendall" = some (trim message) ∧
      ∀ codec db request, BulkControllerCommands.sendAll codec db command =
        .ok (.enqueue request) → SameInBulk platform message request
  sendSet : ∀ name command, Solid name →
    command = trim (" ".intercalate ["/sendset", name, message]) →
    BulkControllerCommands.namedMessage command "/sendset" = some (name, trim message) ∧
      ∀ codec db members request, BulkControllerCommands.sendSet codec db members command =
        .ok (.enqueue request) → SameInBulk platform message request
  sendMulti : ∀ target targets command,
    (∀ t ∈ target :: targets, BulkControllerCommands.IsTarget t) →
    (trim message).toList.head? ≠ some ',' →
    command = trim (" ".intercalate
      ["/sendmulti", ",".intercalate (target :: targets), message]) →
    BulkControllerCommands.multiMessage command = some (target :: targets, trim message) ∧
      ∀ codec db request, BulkControllerCommands.sendMulti codec db command =
        .ok (.enqueue request) → SameInBulk platform message request

section

variable {platform : KeyPlatform} {destination message : String} (cut : Cut message)
  (keeps : platform.KeepsSpaces)

/-- The longest text of a message, in its normal form and with its words joined. -/
def TooLong (platform : KeyPlatform) (message : String) : Prop :=
  65536 < utf16Length
    (normalizeMessage platform (some (" ".intercalate (splitWords (trim message)))))

theorem tooLong_iff (cut : Cut message) : TooLong platform message ↔
    65536 < utf16Length (normalizeMessage platform (some cut.joined)) := by
  rw [TooLong, splitWords_line cut, intercalate_words, Cut.joined]

/-- A request with the text of the message but for its white space at the ends. -/
theorem sameJob_of_normal {a b : QueueMessageRequest} (alike : Alike a b)
    (destination : a.destination = b.destination) (text : b.text = some message)
    (same : normalizeMessage platform a.text = normalizeMessage platform (some message)) :
    SameJob platform message a b where
  destination := destination
  produced := by
    intro config d uuid uuid' now
    exact produces_congr alike (same.trans (congrArg (normalizeMessage platform) text.symm)) config
      d uuid uuid' now
  normal := by
    intro config d uuid now text key produced
    rw [(produces_text produced).1, same]

include cut

/-- A message that is not blank goes into the request of the terminal as it is. -/
theorem cli_text : (Cli.send destination message false).text = some message := by
  have filled : message ≠ "" := by
    rintro rfl
    obtain ⟨c, more, eq, -⟩ := spread_head cut.spaced
    have nil := cut.same
    rw [String.toList_empty, eq] at nil
    exact absurd nil.symm (List.append_ne_nil_of_right_ne_nil _ (List.cons_ne_nil _ _))
  exact if_neg filled

include keeps

theorem normal_ne_empty : normalizeMessage platform (some message) ≠ "" ∧
    normalizeMessage platform (some cut.joined) ≠ "" := by
  have words {first : List Char} {rest : List (List Char × List Char)} {text : String}
      (spaced : Spaced isTrimmed first rest) (same : text.toList = spread first rest) :
      text ≠ "" := by
    obtain ⟨c, more, eq, -⟩ := spread_head spaced
    rintro rfl
    rw [String.toList_empty, eq] at same
    cases same
  exact ⟨words (spaced_normal keeps cut.spaced) (cut.normal keeps),
    words (spaced_normal keeps (spaced_single cut.spaced)) (cut.normal_joined keeps)⟩

/-- Where even the joined words are too long, nothing is queued. -/
theorem sameJob_of_tooLong {a b : QueueMessageRequest} (tooLong : TooLong platform message)
    (destination : a.destination = b.destination) (textA : a.text = some cut.joined)
    (textB : b.text = some message) : SameJob platform message a b := by
  obtain ⟨filled, filledJoined⟩ := normal_ne_empty cut keeps
  rw [tooLong_iff cut] at tooLong
  have longer := cut.joined_length keeps
  have rejected (request : QueueMessageRequest) (config : AppConfig) (d : Destination) (uuid : Uuid)
      (now : Date) (filled : normalizeMessage platform request.text ≠ "")
      (long : 65536 < utf16Length (normalizeMessage platform request.text)) :
      produces platform config request d uuid now =
        .error (.error ("Message exceeds " ++ toString 65536 ++ " characters")) := by
    rw [produces, prepare, if_neg fun empty => filled empty.1]
    exact congrArg (Except.map _) (if_pos long)
  have rejectedA (config d uuid now) :=
    rejected a config d uuid now (textA ▸ filledJoined) (textA ▸ tooLong)
  have rejectedB (config d uuid now) :=
    rejected b config d uuid now (textB ▸ filled) (textB ▸ Nat.lt_of_lt_of_le tooLong longer)
  refine ⟨destination, fun config d uuid uuid' now => ?_, fun config d uuid now text key h => ?_⟩
  · rw [rejectedA, rejectedB]
  · rw [rejectedA] at h
    cases h

/-- A job with the words of the message joined has its text only if nothing is lost. -/
theorem exact_of_sameJob {a b : QueueMessageRequest} (textA : a.text = some cut.joined)
    (immediate : a.scheduledAt = none) (h : SameJob platform message a b) :
    singleSpaced (trim message).toList = true ∨ TooLong platform message := by
  obtain ⟨-, filled⟩ := normal_ne_empty cut keeps
  rw [tooLong_iff cut, or_iff_not_imp_right]
  intro short
  rw [← cut.normal_joined_iff keeps]
  have accepted : ∃ key, produces platform (.default false) a Example.group Example.uuid
      (Example.clock 0) = .ok (some (normalizeMessage platform (some cut.joined)), key) := by
    rw [produces, prepare, textA, immediate, if_neg fun empty => filled empty.1,
      if_neg (by exact short), if_neg (by decide)]
    refine ⟨messageKey platform (.default false) a Example.group none Example.uuid, ?_⟩
    rw [Except.map, messageJob, textA]
    dsimp only
    rw [if_neg filled]
  obtain ⟨key, accepted⟩ := accepted
  exact Option.some.inj (h.normal _ _ _ _ _ _ accepted)

/-- Where nothing is lost, or nothing is queued, the joined words make the same job. -/
theorem sameJob_joined (exact : singleSpaced (trim message).toList = true ∨ TooLong platform message)
    {a b : QueueMessageRequest} (alike : Alike a b) (destination : a.destination = b.destination)
    (textA : a.text = some cut.joined) (textB : b.text = some message) :
    SameJob platform message a b := by
  rcases exact with single | tooLong
  · refine sameJob_of_normal alike destination textB ?_
    rw [textA]
    exact (cut.normal_joined_iff keeps).mpr single
  · exact sameJob_of_tooLong cut keeps tooLong destination textA textB

/-- The bulk commands take the message as it is. -/
theorem sameInBulk {request : BulkEnqueueRequest} (plain : Plain (trim message) request) :
    SameInBulk platform message request := by
  intro config batchId d
  let each : QueueMessageRequest :=
    { destination := d.jid
      text := some (trim message)
      actor := some (request.actor.getD "self-controller")
      batchId := some batchId.text }
  have alike : Alike each (Cli.send d.jid message false) := ⟨rfl, ⟨rfl, rfl⟩, rfl, rfl, rfl⟩
  refine ⟨each, ?_, sameJob_of_normal alike rfl (cli_text cut) (cut.normal_trim keeps)⟩
  rw [Bulk.callFor]
  dsimp only
  rw [plain.own, plain.unforced, plain.text, Option.getD_none, Option.getD_none, Option.getD_some]
  exact if_neg fun filled => filled rfl

/-- **The chat and the terminal queue the same message exactly when it has no white
space but single ordinary spaces inside, or is too long either way.** -/
theorem oneMessage_iff (parser : DateParser) (solid : Solid destination) :
    OneMessage platform parser destination message ↔
      singleSpaced (trim message).toList = true ∨ TooLong platform message := by
  constructor
  · intro h
    obtain ⟨request, parsed, same⟩ := h.send
    rw [send_line cut solid] at parsed
    cases parsed
    exact exact_of_sameJob cut keeps rfl rfl same
  · intro exact
    refine ⟨⟨_, send_line cut solid, ?_⟩, fun time timed now =>
      ⟨_, schedule_line cut solid timed, ?_⟩, ?_, ?_, ?_⟩
    · exact sameJob_joined cut keeps exact ⟨rfl, ⟨rfl, rfl⟩, rfl, rfl, rfl⟩ rfl rfl (cli_text cut)
    · have given : time ≠ "" := by
        rintro rfl
        exact timed.1 rfl
      rw [Cli.schedule, if_neg given]
      cases Scheduler.parseSchedule parser time now with
      | error error => exact (rfl : error = error)
      | ok scheduledAt =>
        exact sameJob_joined cut keeps exact ⟨rfl, ⟨rfl, rfl⟩, rfl, rfl, rfl⟩ rfl rfl
          (@cli_text destination message cut)
    · rintro command rfl
      have parsed := messageAfter_line cut (solid_of_all (by decide) : Solid "/sendall") (by decide)
      exact ⟨parsed, fun codec db request accepted =>
        sameInBulk cut keeps (sendAll_plain parsed accepted)⟩
    · rintro name command solid rfl
      have parsed := namedMessage_line cut solid
      exact ⟨parsed, fun codec db members request accepted =>
        sameInBulk cut keeps (sendSet_plain parsed accepted)⟩
    · rintro target targets command names visible rfl
      have parsed := multiMessage_line cut names visible
      exact ⟨parsed, fun codec db request accepted =>
        sameInBulk cut keeps (sendMulti_plain parsed accepted)⟩

end

theorem sends_one_message_iff {platform : KeyPlatform} {destination message : String}
    (keeps : platform.KeepsSpaces) (parser : DateParser) (solid : Solid destination)
    (filled : trim message ≠ "") :
    OneMessage platform parser destination message ↔
      singleSpaced (trim message).toList = true ∨ TooLong platform message := by
  obtain ⟨cut⟩ := exists_cut filled
  exact oneMessage_iff cut keeps parser solid

namespace Example

theorem keepsSpaces : platform.keys.KeepsSpaces where
  apart := fun _ _ _ _ => rfl
  blank := fun c blank => ⟨c, blank, rfl, Iff.rfl⟩
  word := fun _ visible => visible
  empty := fun _ => Iff.rfl

theorem solid_family : Solid "family" := solid_of_all (by decide)

theorem sends_one_message_meeting :
    OneMessage platform.keys platform.dates "family" "Meet at ten" :=
  (sends_one_message_iff keepsSpaces platform.dates solid_family (by decide +kernel)).mpr
    (Or.inl (by decide +kernel))

/-- A line break becomes a space in the chat. -/
theorem chat_joins_lines :
    (ControllerCommands.send "/send family Meet\nat ten").bind QueueMessageRequest.text =
        some "Meet at ten" ∧
    ¬OneMessage platform.keys platform.dates "family" "Meet\nat ten" := by
  refine ⟨by decide +kernel, fun h => ?_⟩
  obtain ⟨cut⟩ : Nonempty (Cut "Meet\nat ten") := exists_cut (by decide +kernel)
  obtain ⟨request, parsed, same⟩ := h.send
  rw [send_line cut solid_family] at parsed
  cases parsed
  rcases exact_of_sameJob cut keepsSpaces rfl rfl same with single | tooLong
  · revert single
    decide +kernel
  · revert tooLong
    unfold TooLong
    decide +kernel

end Example

end WhatsappBot
