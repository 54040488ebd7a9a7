import WhatsappBot.Messaging.NormalText
import WhatsappBot.Whatsapp.BulkControllerCommands

/-!
# Target lists

What the regular expression of `multiMessage` matches: it reads the longest list of
targets and gives groups back from its end until a message follows. White space
before a comma is enough of a separator for a message that starts with the comma.
-/

namespace WhatsappBot

open Lib.Words

namespace BulkControllerCommands

/-! ## Text with white space around it -/

theorem isTrimmed_of_isTargetChar {c : Char} (h : isTargetChar c = true) :
    isTrimmed c = false := by
  rw [isTargetChar, Bool.and_eq_true, Bool.not_eq_true'] at h
  exact h.1

theorem isTrimmed_comma : isTrimmed ',' = false := by decide

theorem dropWhile_blank {blank : List Char} (h : ∀ c ∈ blank, isTrimmed c = true) (c : Char)
    (rest : List Char) (visible : isTrimmed c = false) :
    (blank ++ c :: rest).dropWhile isTrimmed = c :: rest := by
  rw [List.dropWhile_append_of_pos h, List.dropWhile_cons_of_neg]
  rw [visible]
  decide

theorem takeWhile_blank {blank : List Char} (h : ∀ c ∈ blank, isTrimmed c = true) (c : Char)
    (rest : List Char) (visible : isTrimmed c = false) :
    (blank ++ c :: rest).takeWhile isTrimmed = blank := by
  rw [List.takeWhile_append_of_pos h, List.takeWhile_cons_of_neg, List.append_nil]
  rw [visible]
  decide

/-- The text that `trim` leaves, when it starts with a visible character. -/
theorem trim_cons {c : Char} (rest : List Char) (visible : isTrimmed c = false) :
    (trim (String.ofList (c :: rest))).toList = c :: rest.rdropWhile isTrimmed := by
  have first : (c :: rest).dropWhile isTrimmed = c :: rest :=
    @dropWhile_blank [] (fun _ mem => absurd mem List.not_mem_nil) c rest visible
  have last : [c].dropWhile isTrimmed = [c] := by
    rw [List.dropWhile_cons_of_neg]
    rw [visible]
    decide
  rw [trim_toList, String.toList_ofList, first, List.rdropWhile, List.reverse_cons,
    List.dropWhile_append, last, List.rdropWhile]
  split
  · next none_left =>
    rw [List.isEmpty_iff.mp none_left]
    rfl
  · rw [List.reverse_append]
    rfl

theorem trim_blank {blank : List Char} (h : ∀ c ∈ blank, isTrimmed c = true) :
    trim (String.ofList blank) = "" := by
  rw [← String.toList_inj, trim_toList, String.toList_ofList, List.dropWhile_eq_nil_iff.mpr h]
  rfl

/-- `trim` takes the white space around a target away. -/
theorem trim_target {before target after : List Char} (hb : ∀ c ∈ before, isTrimmed c = true)
    (ha : ∀ c ∈ after, isTrimmed c = true) (named : target ≠ [])
    (chars : ∀ c ∈ target, isTargetChar c = true) :
    trim (String.ofList (before ++ (target ++ after))) = String.ofList target := by
  have visible := fun d mem => isTrimmed_of_isTargetChar (chars d mem)
  exact trim_spaced hb ha (fun d first => visible d (List.mem_of_mem_head? first))
    (fun d last => visible d (List.mem_of_mem_getLast? last)) named

/-! ## The longest list -/

/-- A comma with the white space around it, and the target after it. -/
structure TargetGroup where
  before : List Char
  after : List Char
  target : List Char
  blankBefore : ∀ c ∈ before, isTrimmed c = true
  blankAfter : ∀ c ∈ after, isTrimmed c = true
  named : target ≠ []
  chars : ∀ c ∈ target, isTargetChar c = true

def TargetGroup.text (g : TargetGroup) : List Char := g.before ++ ',' :: (g.after ++ g.target)

def listText (groups : List TargetGroup) : List Char := groups.flatMap TargetGroup.text

theorem listText_cons (g : TargetGroup) (groups : List TargetGroup) :
    listText (g :: groups) = g.before ++ ',' :: (g.after ++ (g.target ++ listText groups)) := by
  simp only [listText, List.flatMap_cons, TargetGroup.text, List.append_assoc, List.cons_append]

/-- The group that a text starts with. -/
def nextGroup (text : List Char) : Option (TargetGroup × List Char) :=
  match text.dropWhile isTrimmed with
  | ',' :: afterComma =>
    let next := afterComma.dropWhile isTrimmed
    if named : next.takeWhile isTargetChar = [] then none
    else some
      ({ before := text.takeWhile isTrimmed
         after := afterComma.takeWhile isTrimmed
         target := next.takeWhile isTargetChar
         blankBefore := List.all_eq_true.mp List.all_takeWhile
         blankAfter := List.all_eq_true.mp List.all_takeWhile
         named := named
         chars := List.all_eq_true.mp List.all_takeWhile }, next.dropWhile isTargetChar)
  | _ => none

theorem nextGroup_text {text rest : List Char} {g : TargetGroup}
    (h : nextGroup text = some (g, rest)) : g.text ++ rest = text := by
  unfold nextGroup at h
  split at h
  · next afterComma found =>
    dsimp only at h
    split at h
    · cases h
    · cases h
      simp only [TargetGroup.text, List.append_assoc, List.cons_append,
        List.takeWhile_append_dropWhile]
      rw [← found, List.takeWhile_append_dropWhile]
  · cases h

/-- As many groups as the text has, one for each of `fuel`, and what is left. -/
def longestList : Nat → List Char → List TargetGroup × List Char
  | 0, text => ([], text)
  | fuel + 1, text =>
    match nextGroup text with
    | none => ([], text)
    | some (g, rest) =>
      let (groups, left) := longestList fuel rest
      (g :: groups, left)

theorem longestList_text (fuel : Nat) (text : List Char) :
    listText (longestList fuel text).1 ++ (longestList fuel text).2 = text := by
  induction fuel generalizing text with
  | zero => rfl
  | succ fuel ih =>
    unfold longestList
    split
    · rfl
    · next g rest found =>
      dsimp only
      rw [listText, List.flatMap_cons, List.append_assoc, ← listText, ih, nextGroup_text found]

/-- The search from the end of the list: the groups that are kept, and the message. -/
def giveBack : List TargetGroup → List Char → Option (List Char × List Char)
  | [], rest => (messageEnd rest).map fun message => ([], message)
  | g :: groups, rest =>
    match giveBack groups rest with
    | some (expression, message) => some (g.text ++ expression, message)
    | none => (messageEnd (listText (g :: groups) ++ rest)).map fun message => ([], message)

/-- One group of the regular expression. -/
theorem targetGroups_succ (fuel : Nat) (text : List Char) :
    targetGroups (fuel + 1) text =
      match nextGroup text with
      | none => (messageEnd text).map fun message => ([], message)
      | some (g, rest) =>
        match targetGroups fuel rest with
        | some (expression, message) => some (g.text ++ expression, message)
        | none => (messageEnd text).map fun message => ([], message) := by
  rw [targetGroups]
  split
  · next afterComma found =>
    unfold nextGroup
    simp only [found]
    by_cases named : (afterComma.dropWhile isTrimmed).takeWhile isTargetChar = []
    · simp only [if_pos named, dif_pos named]
    · simp only [if_neg named, dif_neg named]
      cases targetGroups fuel ((afterComma.dropWhile isTrimmed).dropWhile isTargetChar) with
      | none => rfl
      | some found => simp only [TargetGroup.text, List.append_assoc, List.cons_append]
  · next other =>
    have absent : nextGroup text = none := by
      unfold nextGroup
      split
      · next afterComma found => exact absurd found (other afterComma)
      · rfl
    rw [absent]

/-- **The regular expression reads the longest list and gives groups back.** -/
theorem targetGroups_eq (fuel : Nat) (text : List Char) :
    targetGroups fuel text = giveBack (longestList fuel text).1 (longestList fuel text).2 := by
  induction fuel generalizing text with
  | zero => rfl
  | succ fuel ih =>
    rw [targetGroups_succ, longestList]
    cases found : nextGroup text with
    | none => rfl
    | some step =>
      obtain ⟨g, rest⟩ := step
      have whole : listText (g :: (longestList fuel rest).1) ++ (longestList fuel rest).2 = text := by
        rw [listText, List.flatMap_cons, List.append_assoc, ← listText, longestList_text,
          nextGroup_text found]
      dsimp only
      rw [ih, giveBack, whole]

/-- White space before a comma takes the rest of the command for a message. -/
theorem messageEnd_group (g : TargetGroup) (groups : List TargetGroup) (rest : List Char) :
    messageEnd (listText (g :: groups) ++ rest) =
      if g.before = [] then none
      else some (',' :: (g.after ++ (g.target ++ listText groups)) ++ rest) := by
  rw [listText_cons, List.append_assoc, List.cons_append, messageEnd,
    dropWhile_blank g.blankBefore _ _ isTrimmed_comma,
    takeWhile_blank g.blankBefore _ _ isTrimmed_comma]

theorem giveBack_message {rest message : List Char} (groups : List TargetGroup)
    (h : messageEnd rest = some message) :
    giveBack groups rest = some (listText groups, message) := by
  induction groups with
  | nil =>
    rw [giveBack, h]
    rfl
  | cons g groups ih =>
    rw [giveBack, ih]
    rfl

theorem giveBack_none {rest : List Char} {groups : List TargetGroup} (h : messageEnd rest = none)
    (tight : ∀ g ∈ groups, g.before = []) : giveBack groups rest = none := by
  induction groups with
  | nil =>
    rw [giveBack, h]
    rfl
  | cons g groups ih =>
    rw [giveBack, ih fun other mem => tight other (List.mem_cons_of_mem _ mem), messageEnd_group,
      if_pos (tight g List.mem_cons_self)]
    rfl

/-- What is kept, and what the message is the end of. -/
theorem giveBack_prefix {rest expression message : List Char} {groups : List TargetGroup}
    (h : giveBack groups rest = some (expression, message)) :
    ∃ kept given, groups = kept ++ given ∧ expression = listText kept ∧
      messageEnd (listText given ++ rest) = some message := by
  induction groups generalizing expression with
  | nil =>
    obtain ⟨_, found, same⟩ := Option.map_eq_some_iff.mp h
    cases same
    exact ⟨[], [], rfl, rfl, found⟩
  | cons g groups ih =>
    rw [giveBack] at h
    split at h
    · next kept message' found =>
      cases h
      obtain ⟨kept, given, split, same, ends⟩ := ih found
      refine ⟨g :: kept, given, by rw [split]; rfl, ?_, ends⟩
      rw [same, listText, listText, List.flatMap_cons]
    · obtain ⟨_, found, same⟩ := Option.map_eq_some_iff.mp h
      cases same
      exact ⟨[], g :: groups, rfl, rfl, found⟩

/-- A group that is given back starts the message with its comma. -/
theorem giveBack_comma {rest expression message : List Char} {groups : List TargetGroup}
    (h : messageEnd rest = none) (found : giveBack groups rest = some (expression, message)) :
    ∃ more, message = ',' :: more := by
  obtain ⟨kept, given, -, -, ends⟩ := giveBack_prefix found
  cases given with
  | nil =>
    rw [listText, List.flatMap_nil, List.nil_append, h] at ends
    cases ends
  | cons g given =>
    rw [messageEnd_group] at ends
    split at ends
    · cases ends
    · cases ends
      exact ⟨_, rfl⟩

theorem giveBack_spaced {rest : List Char} {groups : List TargetGroup} {g : TargetGroup}
    (mem : g ∈ groups) (spaced : g.before ≠ []) : giveBack groups rest ≠ none := by
  induction groups with
  | nil => cases mem
  | cons first groups ih =>
    intro none_found
    rw [giveBack] at none_found
    split at none_found
    · cases none_found
    · next others =>
      rcases List.mem_cons.mp mem with rfl | later
      · rw [messageEnd_group, if_neg spaced] at none_found
        cases none_found
      · exact ih later others

/-! ## Lists by themselves -/

theorem blank_stops {trail : List Char} (blank : ∀ c ∈ trail, isTrimmed c = true) :
    trail.head?.all (fun c => !isTargetChar c) = true := by
  cases trail with
  | nil => rfl
  | cons c trail =>
    rw [List.head?_cons, Option.all_some, isTargetChar, blank c List.mem_cons_self]
    rfl

/-- What can come after a target. -/
theorem listText_stops (groups : List TargetGroup) {trail : List Char}
    (stops : trail.head?.all (fun c => !isTargetChar c) = true) :
    (listText groups ++ trail).head?.all (fun c => !isTargetChar c) = true := by
  cases groups with
  | nil => exact stops
  | cons g groups =>
    rw [listText_cons, List.append_assoc]
    cases before : g.before with
    | nil => exact (by decide : (!isTargetChar ',') = true)
    | cons c more =>
      have first : ((c :: more).head?.all fun c => !isTargetChar c) = true :=
        blank_stops (before ▸ g.blankBefore)
      exact first

theorem takeWhile_target {target more : List Char} (chars : ∀ c ∈ target, isTargetChar c = true)
    (stops : more.head?.all (fun c => !isTargetChar c) = true) :
    (target ++ more).takeWhile isTargetChar = target ∧
      (target ++ more).dropWhile isTargetChar = more := by
  refine takeWhile_run chars fun c first => ?_
  rw [Option.mem_def.mp first, Option.all_some] at stops
  exact (Bool.not_eq_true' _).mp stops

theorem nextGroup_listText (g : TargetGroup) (groups : List TargetGroup) {trail : List Char}
    (stops : trail.head?.all (fun c => !isTargetChar c) = true) :
    nextGroup (listText (g :: groups) ++ trail) = some (g, listText groups ++ trail) := by
  obtain ⟨c, rest, target⟩ := List.exists_cons_of_ne_nil g.named
  have visible : isTrimmed c = false :=
    isTrimmed_of_isTargetChar (g.chars c (target ▸ List.mem_cons_self))
  have text : listText (g :: groups) ++ trail =
      g.before ++ ',' :: (g.after ++ (g.target ++ (listText groups ++ trail))) := by
    simp only [listText_cons, List.append_assoc, List.cons_append]
  have next : (g.after ++ (g.target ++ (listText groups ++ trail))).dropWhile isTrimmed =
      g.target ++ (listText groups ++ trail) := by
    rw [target, List.cons_append, dropWhile_blank g.blankAfter c _ visible]
  have after : (g.after ++ (g.target ++ (listText groups ++ trail))).takeWhile isTrimmed =
      g.after := by
    rw [target, List.cons_append, takeWhile_blank g.blankAfter c _ visible]
  obtain ⟨taken, left⟩ := takeWhile_target g.chars (listText_stops groups stops)
  unfold nextGroup
  simp only [text, dropWhile_blank g.blankBefore _ _ isTrimmed_comma,
    takeWhile_blank g.blankBefore _ _ isTrimmed_comma, next, after, taken, left, dif_neg g.named]

theorem nextGroup_blank {trail : List Char} (blank : ∀ c ∈ trail, isTrimmed c = true) :
    nextGroup trail = none := by
  unfold nextGroup
  simp only [List.dropWhile_eq_nil_iff.mpr blank]

/-- A list is read to where no group follows. -/
theorem longestList_listText {fuel : Nat} {groups : List TargetGroup} {trail : List Char}
    (enough : groups.length ≤ fuel)
    (stops : trail.head?.all (fun c => !isTargetChar c) = true) (last : nextGroup trail = none) :
    longestList fuel (listText groups ++ trail) = (groups, trail) := by
  induction groups generalizing fuel with
  | nil =>
    cases fuel with
    | zero => rfl
    | succ fuel =>
      rw [longestList, listText, List.flatMap_nil, List.nil_append, last]
  | cons g groups ih =>
    cases fuel with
    | zero => cases enough
    | succ fuel =>
      rw [longestList, nextGroup_listText g groups stops]
      dsimp only
      rw [ih (Nat.le_of_succ_le_succ enough)]

theorem length_le_listText (groups : List TargetGroup) :
    groups.length ≤ (listText groups).length := by
  induction groups with
  | nil => rfl
  | cons g groups ih =>
    rw [listText_cons]
    simp only [List.length_append, List.length_cons]
    omega

/-! ## Messages -/

theorem messageEnd_spec {text message : List Char} (h : messageEnd text = some message) :
    ∃ gap, gap ≠ [] ∧ (∀ c ∈ gap, isTrimmed c = true) ∧ text = gap ++ message ∧
      ((∃ c rest, message = c :: rest ∧ isTrimmed c = false) ∨
        ∀ c ∈ message, isTrimmed c = true) := by
  have blank : ∀ c ∈ text.takeWhile isTrimmed, isTrimmed c = true :=
    List.all_eq_true.mp List.all_takeWhile
  have split := List.takeWhile_append_dropWhile (p := isTrimmed) (l := text)
  unfold messageEnd at h
  dsimp only at h
  split at h
  · next c more found =>
    split at h
    · cases h
    · next gap =>
      cases h
      have visible := List.head?_dropWhile_not isTrimmed text
      rw [found] at visible split
      exact ⟨_, gap, blank, split.symm, Or.inl ⟨c, more, rfl, visible⟩⟩
  · next found =>
    rw [found, List.append_nil] at split
    rw [split] at h blank
    split at h
    · next two =>
      obtain ⟨last, found_last, rfl⟩ := Option.map_eq_some_iff.mp h
      have parts := List.dropLast_append_getLast? last found_last
      refine ⟨text.dropLast, ?_, fun c mem => blank c ((List.dropLast_sublist _).mem mem), parts.symm,
        Or.inr fun c mem => blank c ?_⟩
      · intro nil
        have length := congrArg List.length nil
        rw [List.length_dropLast, List.length_nil] at length
        omega
      · rw [List.mem_singleton.mp mem]
        exact List.mem_of_getLast? found_last
    · cases h

/-! ## The split at the commas -/

/-- **The targets are those of the list.** -/
theorem splitCommas_listText {lead target : List Char} (groups : List TargetGroup)
    (blank : ∀ c ∈ lead, isTrimmed c = true) (named : target ≠ [])
    (chars : ∀ c ∈ target, isTargetChar c = true) :
    ((splitCommas (lead ++ (target ++ listText groups))).map
      fun text => trim (String.ofList text)) =
      String.ofList target :: groups.map fun g => String.ofList g.target := by
  have comma_blank {blank : List Char} (h : ∀ c ∈ blank, isTrimmed c = true) : ',' ∉ blank := by
    intro mem
    have trimmed := h ',' mem
    rw [isTrimmed_comma] at trimmed
    cases trimmed
  have comma_target {target : List Char} (h : ∀ c ∈ target, isTargetChar c = true) :
      ',' ∉ target := by
    intro mem
    have char := h ',' mem
    revert char
    decide
  induction groups generalizing lead target with
  | nil =>
    have single : splitCommas (lead ++ (target ++ listText [])) = [lead ++ (target ++ [])] := by
      rw [splitCommas, listText, List.flatMap_nil, List.splitOn_eq_singleton]
      simp only [List.append_nil, List.mem_append, not_or]
      exact ⟨comma_blank blank, comma_target chars⟩
    rw [single, List.map_singleton, List.map_nil,
      trim_target blank (fun c mem => absurd mem List.not_mem_nil) named chars]
  | cons g groups ih =>
    have text : lead ++ (target ++ listText (g :: groups)) =
        (lead ++ (target ++ g.before)) ++ ',' :: (g.after ++ (g.target ++ listText groups)) := by
      simp only [listText_cons, List.append_assoc]
    have single : (lead ++ (target ++ g.before)).splitOn ',' = [lead ++ (target ++ g.before)] := by
      rw [List.splitOn_eq_singleton]
      simp only [List.mem_append, not_or]
      exact ⟨comma_blank blank, comma_target chars, comma_blank g.blankBefore⟩
    rw [text, splitCommas, List.splitOn_append_cons_self, single, List.map_append,
      List.map_singleton, trim_target blank g.blankBefore named chars, ← splitCommas,
      ih g.blankAfter g.named g.chars]
    rfl

/-! ## Commands -/

/-- The list of a command, and what follows it. -/
structure CommandList where
  target : List Char
  groups : List TargetGroup
  rest : List Char

/-- The longest list of targets that a command starts with. -/
def listOf (command : String) : Option CommandList :=
  (afterHead command "/sendmulti").bind fun rest =>
    let text := rest.dropWhile isTrimmed
    if text.takeWhile isTargetChar = [] then none
    else
      let (groups, rest) := longestList text.length (text.dropWhile isTargetChar)
      some ⟨text.takeWhile isTargetChar, groups, rest⟩

theorem multiMessage_eq (command : String) :
    multiMessage command = (listOf command).bind fun list =>
      (giveBack list.groups list.rest).bind fun (expression, message) =>
        if trim (String.ofList message) = "" then none
        else some
          ((splitCommas (list.target ++ expression)).map fun text => trim (String.ofList text),
            trim (String.ofList message)) := by
  rw [multiMessage, listOf]
  cases afterHead command "/sendmulti" with
  | none => rfl
  | some rest =>
    dsimp only [Option.bind_some]
    split
    · rfl
    · rw [targetGroups_eq]
      cases longestList (rest.dropWhile isTrimmed).length
          ((rest.dropWhile isTrimmed).dropWhile isTargetChar) with
      | mk groups left =>
        dsimp only [Option.bind_some]
        cases giveBack groups left <;> rfl

/-- A message follows the list that does not start with a comma; or none follows, and
no comma of the list has white space before it. -/
def Unambiguous (command : String) : Prop :=
  ∀ list, listOf command = some list →
    (∃ message, messageEnd list.rest = some message ∧ message.head? ≠ some ',') ∨
      (messageEnd list.rest = none ∧ ∀ g ∈ list.groups, g.before = [])

/-- A command of a list of targets alone. -/
structure ListOnly (command : String) : Prop where
  body : ∃ (lead target trail : List Char) (groups : List TargetGroup),
    afterHead command "/sendmulti" = some (lead ++ (target ++ (listText groups ++ trail))) ∧
      (∀ c ∈ lead, isTrimmed c = true) ∧ (∀ c ∈ trail, isTrimmed c = true) ∧
      target ≠ [] ∧ ∀ c ∈ target, isTargetChar c = true

/-- The text of a command is its list, white space, and the message. -/
def Reproduces (command : String) (targets : List String) (message : String) : Prop :=
  ∃ (lead target gap trail : List Char) (groups : List TargetGroup),
    afterHead command "/sendmulti" =
      some (lead ++ (target ++ (listText groups ++ (gap ++ (message.toList ++ trail))))) ∧
      (∀ c ∈ lead, isTrimmed c = true) ∧ (∀ c ∈ gap, isTrimmed c = true) ∧ gap ≠ [] ∧
      (∀ c ∈ trail, isTrimmed c = true) ∧
      targets = String.ofList target :: groups.map fun g => String.ofList g.target

/-- What the parser promises for a command. -/
structure Parses (command : String) : Prop where
  maximal : ∀ targets message, multiMessage command = some (targets, message) →
    message.toList.head? ≠ some ','
  rejected : ListOnly command → ∀ codec db,
    sendMulti codec db command = .ok (.reply "❌ Usage: /sendmulti TARGET1,TARGET2 MESSAGE")
  named : ∀ targets message, multiMessage command = some (targets, message) →
    ∀ target ∈ targets, target ≠ "" ∧ target.toList.all isTargetChar = true
  reproduced : ∀ targets message, multiMessage command = some (targets, message) →
    Reproduces command targets message

/-- What a command that is accepted has in it. -/
theorem multiMessage_spec {command : String} {targets : List String} {message : String}
    (h : multiMessage command = some (targets, message)) :
    ∃ list expression text, listOf command = some list ∧
      giveBack list.groups list.rest = some (expression, text) ∧
      trim (String.ofList text) = message ∧ message ≠ "" ∧
      targets = (splitCommas (list.target ++ expression)).map fun text =>
        trim (String.ofList text) := by
  rw [multiMessage_eq] at h
  obtain ⟨list, found, h⟩ := Option.bind_eq_some_iff.mp h
  obtain ⟨⟨expression, text⟩, given, h⟩ := Option.bind_eq_some_iff.mp h
  dsimp only at h
  split at h
  · cases h
  · next nonempty =>
    cases h
    exact ⟨list, expression, text, found, given, rfl, nonempty, rfl⟩

theorem listOf_spec {command : String} {list : CommandList} (h : listOf command = some list) :
    ∃ lead, afterHead command "/sendmulti" =
        some (lead ++ (list.target ++ (listText list.groups ++ list.rest))) ∧
      (∀ c ∈ lead, isTrimmed c = true) ∧ list.target ≠ [] ∧
      ∀ c ∈ list.target, isTargetChar c = true := by
  obtain ⟨rest, head, h⟩ := Option.bind_eq_some_iff.mp h
  dsimp only at h
  split at h
  · cases h
  · next named =>
    cases h
    refine ⟨rest.takeWhile isTrimmed, ?_, List.all_eq_true.mp List.all_takeWhile, named,
      List.all_eq_true.mp List.all_takeWhile⟩
    rw [head, longestList_text, List.takeWhile_append_dropWhile, List.takeWhile_append_dropWhile]

/-- A message that is not blank starts with the character that the text starts with. -/
theorem head_trim {text message : List Char} (h : messageEnd text = some message)
    (nonempty : trim (String.ofList message) ≠ "") :
    (trim (String.ofList message)).toList.head? = message.head? ∧
      ∃ trail, message = (trim (String.ofList message)).toList ++ trail ∧
        ∀ c ∈ trail, isTrimmed c = true := by
  obtain ⟨gap, -, -, -, ⟨c, rest, rfl, visible⟩ | blank⟩ := messageEnd_spec h
  · rw [trim_cons rest visible]
    refine ⟨rfl, rest.rtakeWhile isTrimmed, ?_, fun d mem => List.mem_rtakeWhile_imp mem⟩
    rw [List.cons_append, List.rdropWhile, List.rtakeWhile, ← List.reverse_append,
      List.takeWhile_append_dropWhile, List.reverse_reverse]
  · exact absurd (trim_blank blank) nonempty

/-- The list is all there is, so only white space is left. -/
theorem ListOnly.listOf {command : String} (h : ListOnly command) :
    ∃ list, listOf command = some list ∧ ∀ c ∈ list.rest, isTrimmed c = true := by
  obtain ⟨lead, target, trail, groups, head, blank, blankTrail, named, chars⟩ := h.body
  obtain ⟨c, more, rfl⟩ := List.exists_cons_of_ne_nil named
  have visible := isTrimmed_of_isTargetChar (chars c List.mem_cons_self)
  have body := dropWhile_blank blank c (more ++ (listText groups ++ trail)) visible
  rw [← List.cons_append] at body
  obtain ⟨taken, left⟩ := takeWhile_target chars (listText_stops groups (blank_stops blankTrail))
  have enough : groups.length ≤ (c :: more ++ (listText groups ++ trail)).length := by
    have groupwise := length_le_listText groups
    simp only [List.length_append]
    omega
  refine ⟨⟨c :: more, groups, trail⟩, ?_, blankTrail⟩
  rw [BulkControllerCommands.listOf, head, Option.bind_some]
  dsimp only
  rw [body, taken, if_neg named, left, longestList_listText enough (blank_stops blankTrail)
    (nextGroup_blank blankTrail)]

/-- Without a message nothing is accepted. -/
theorem ListOnly.rejected {command : String} (h : ListOnly command)
    (unambiguous : Unambiguous command) : multiMessage command = none := by
  obtain ⟨list, found, blank⟩ := h.listOf
  rw [multiMessage_eq, found, Option.bind_some]
  rcases unambiguous list found with ⟨message, ends, -⟩ | ⟨absent, tight⟩
  · obtain ⟨gap, -, -, split, -⟩ := messageEnd_spec ends
    have empty : trim (String.ofList message) = "" :=
      trim_blank fun c mem => blank c (split ▸ List.mem_append_right _ mem)
    rw [giveBack_message _ ends, Option.bind_some]
    exact if_pos empty
  · rw [giveBack_none absent tight]
    rfl

theorem multiMessage_named {command message : String} {targets : List String}
    (h : multiMessage command = some (targets, message)) :
    ∀ target ∈ targets, target ≠ "" ∧ target.toList.all isTargetChar = true := by
  obtain ⟨list, expression, text, found, given, -, -, rfl⟩ := multiMessage_spec h
  obtain ⟨lead, -, -, named, chars⟩ := listOf_spec found
  obtain ⟨kept, given, -, rfl, -⟩ := giveBack_prefix given
  have split := @splitCommas_listText [] _ kept (fun c mem => absurd mem List.not_mem_nil)
    named chars
  rw [List.nil_append] at split
  rw [split]
  have holds {target : List Char} (named : target ≠ []) (chars : ∀ c ∈ target, isTargetChar c) :
      String.ofList target ≠ "" ∧ (String.ofList target).toList.all isTargetChar = true := by
    refine ⟨fun empty => named ?_, ?_⟩
    · rw [← String.toList_ofList (l := target), empty, String.toList_empty]
    · rw [String.toList_ofList]
      exact List.all_eq_true.mpr chars
  intro target mem
  rcases List.mem_cons.mp mem with rfl | mem
  · exact holds named chars
  · obtain ⟨g, -, rfl⟩ := List.mem_map.mp mem
    exact holds g.named g.chars

theorem multiMessage_reproduces {command message : String} {targets : List String}
    (h : multiMessage command = some (targets, message)) : Reproduces command targets message := by
  obtain ⟨list, expression, text, found, given, rfl, nonempty, rfl⟩ := multiMessage_spec h
  obtain ⟨lead, head, blank, named, chars⟩ := listOf_spec found
  obtain ⟨kept, given, groups, rfl, ends⟩ := giveBack_prefix given
  obtain ⟨-, trail, message, blankTrail⟩ := head_trim ends nonempty
  obtain ⟨gap, some_gap, blankGap, rest, -⟩ := messageEnd_spec ends
  refine ⟨lead, list.target, gap, trail, kept, ?_, blank, blankGap, some_gap, blankTrail, ?_⟩
  · rw [head, ← message, ← rest, groups]
    simp only [listText, List.flatMap_append, List.append_assoc]
  · have split := @splitCommas_listText [] _ kept
      (fun c mem => absurd mem List.not_mem_nil) named chars
    rwa [List.nil_append] at split

/-- **The parser is right about a command exactly when the command is unambiguous.** -/
theorem multiMessage_parses_iff (command : String) : Parses command ↔ Unambiguous command := by
  constructor
  · intro h list found
    have accepted {expression more : List Char}
        (given : giveBack list.groups list.rest = some (expression, ',' :: more)) : False := by
      have trimmed := trim_cons more isTrimmed_comma
      have nonempty : trim (String.ofList (',' :: more)) ≠ "" := by
        intro empty
        rw [empty] at trimmed
        cases trimmed
      have parsed : multiMessage command = some
          ((splitCommas (list.target ++ expression)).map fun text => trim (String.ofList text),
            trim (String.ofList (',' :: more))) := by
        rw [multiMessage_eq, found, Option.bind_some, given, Option.bind_some]
        exact if_neg nonempty
      apply h.maximal _ _ parsed
      rw [trimmed]
      rfl
    cases ends : messageEnd list.rest with
    | some message =>
      refine Or.inl ⟨message, rfl, fun comma => ?_⟩
      obtain ⟨more, rfl⟩ := List.head?_eq_some_iff.mp comma
      exact accepted (giveBack_message list.groups ends)
    | none =>
      refine Or.inr ⟨rfl, fun g mem => ?_⟩
      by_contra spaced
      obtain ⟨⟨expression, message⟩, given⟩ := Option.ne_none_iff_exists'.mp
        (@giveBack_spaced list.rest _ _ mem spaced)
      obtain ⟨more, rfl⟩ := giveBack_comma ends given
      exact accepted given
  · intro unambiguous
    refine ⟨fun targets message accepted => ?_, fun only codec db => ?_,
      fun _ _ => multiMessage_named, fun _ _ => multiMessage_reproduces⟩
    · obtain ⟨list, expression, text, found, given, rfl, nonempty, -⟩ := multiMessage_spec accepted
      rcases unambiguous list found with ⟨message, ends, visible⟩ | ⟨absent, tight⟩
      · rw [giveBack_message _ ends] at given
        cases given
        rw [(head_trim ends nonempty).1]
        exact visible
      · rw [giveBack_none absent tight] at given
        cases given
    · rw [sendMulti, only.rejected unambiguous]

/-- A list alone, with a space before its comma, sends its end to its first target. -/
theorem spaced_list_accepted :
    ListOnly "/sendmulti one , two" ∧
      multiMessage "/sendmulti one , two" = some (["one"], ", two") ∧
        ¬Parses "/sendmulti one , two" := by
  have accepted : multiMessage "/sendmulti one , two" = some (["one"], ", two") := by
    decide +kernel
  have head : afterHead "/sendmulti one , two" "/sendmulti" = some " one , two".toList := by
    decide +kernel
  have blank : ∀ c ∈ [' '], isTrimmed c = true := List.forall_mem_singleton.mpr (by decide)
  have chars (target : String) (h : target.toList.all isTargetChar = true) :
      ∀ c ∈ target.toList, isTargetChar c = true := List.all_eq_true.mp h
  refine ⟨⟨[' '], "one".toList, [], [⟨[' '], [' '], "two".toList, blank, blank, by decide,
    chars "two" (by decide)⟩], head, blank, fun _ mem => absurd mem List.not_mem_nil,
    by decide, chars "one" (by decide)⟩, accepted,
    fun parses => parses.maximal _ _ accepted (by decide)⟩

end BulkControllerCommands

end WhatsappBot
