import WhatsappBot.Db.ForwardSources
import WhatsappBot.Lib.Words
import Mathlib.Data.List.Sort

/-!
# References to forward sources

`list` and `resolve` of `src/db/repositories/forward-source-repository.ts`. A
source is referred to by its key, a chat and a message id joined with a bar, or
by the message id alone, which is cut off the key in two ways: `list` cuts in
the language of the program and `resolve` in SQL.
-/

namespace WhatsappBot

open Lib.Relational Lib.Words

structure ForwardSourceSummary where
  sourceKey : String
  contentType : ForwardContentType
  receivedAt : Timestamp
  expiresAt : Option Timestamp
  messageId : String

/-! ## The message id of a key -/

/-- `key.slice(key.indexOf('|') + 1)`. -/
def sliceAfterBar (key : String) : String :=
  match key.toList.dropWhile (· ≠ '|') with
  | [] => key
  | _ :: rest => String.ofList rest

/-- A text as the functions of SQLite that count characters read it: up to its first NUL. -/
def sqlText (text : List Char) : List Char := text.takeWhile (· ≠ '\u0000')

/-- `instr(text, c)`, which looks at the bytes. -/
def instr (text : List Char) (c : Char) : Nat :=
  if c ∈ text then (text.takeWhile (· ≠ c)).length + 1 else 0

/-- `substr(text, start)`, where characters count from one. -/
def substr (text : List Char) (start : Nat) : List Char := (sqlText text).drop (start - 1)

/-- `substr(source_key, instr(source_key, '|') + 1)`. -/
def sqlMessageId (key : String) : String :=
  String.ofList (substr key.toList (instr key.toList '|' + 1))

variable {Bytes : Type}

def ForwardSource.messageId (source : ForwardSource Bytes) : String :=
  sliceAfterBar source.sourceKey

def ForwardSource.summary (source : ForwardSource Bytes) : ForwardSourceSummary where
  sourceKey := source.sourceKey
  contentType := source.contentType
  receivedAt := source.receivedAt
  expiresAt := source.expiresAt
  messageId := source.messageId

namespace ForwardSourceRepository

/-- `ORDER BY received_at DESC, source_key DESC`. -/
def newestFirst (a b : ForwardSource Bytes) : Bool :=
  b.receivedAt < a.receivedAt || (a.receivedAt = b.receivedAt && b.sourceKey ≤ a.sourceKey)

def list (sources : ForwardSources Bytes) (limit : Nat) : List ForwardSourceSummary :=
  ((sources.rows.mergeSort newestFirst).take limit).map ForwardSource.summary

def ambiguous : AppError :=
  .error "Source message ID is ambiguous; use the full source key from forwardsources"

def resolve (sources : ForwardSources Bytes) (reference : String) :
    Except AppError (Option (ForwardSource Bytes)) :=
  if '|' ∈ reference.toList then .ok (get sources reference)
  else
    match (sources.rows.filter fun source => sqlMessageId source.sourceKey = reference).take 2 with
    | [] => .ok none
    | [row] => .ok (get sources row.sourceKey)
    | _ => .error ambiguous

/-! ## What is listed -/

variable {sources : ForwardSources Bytes} {source : ForwardSource Bytes}

theorem get_of_mem (h : source ∈ sources.rows) : get sources source.sourceKey = some source :=
  findBy_of_mem sources.constraint h

theorem list_spec {limit : Nat} {summary : ForwardSourceSummary}
    (h : summary ∈ list sources limit) : ∃ source ∈ sources.rows, summary = source.summary := by
  obtain ⟨source, mem, rfl⟩ := List.mem_map.mp h
  exact ⟨source, List.mem_mergeSort.mp (List.mem_of_mem_take mem), rfl⟩

/-- A limit that shows every source. -/
theorem mem_list (h : source ∈ sources.rows) :
    source.summary ∈ list sources sources.rows.length := by
  refine List.mem_map.mpr ⟨source, ?_, rfl⟩
  rw [List.take_of_length_le (by rw [List.length_mergeSort])]
  exact List.mem_mergeSort.mpr h

end ForwardSourceRepository

/-! ## What a key comes apart into -/

/-- A key of a chat and a message id that is not empty, cut at its first bar. -/
structure CutKey (key : String) (chat rest : List Char) : Prop where
  joined : key.toList = chat ++ '|' :: rest
  plain : '|' ∉ chat
  nonempty : rest ≠ []

namespace CutKey

variable {key : String} {chat rest : List Char}

theorem cut (h : CutKey key chat rest) :
    key.toList.takeWhile (· ≠ '|') = chat ∧ key.toList.dropWhile (· ≠ '|') = '|' :: rest := by
  rw [h.joined]
  refine takeWhile_run (fun c mem => decide_eq_true ?_) (by rintro c ⟨⟩; decide)
  rintro rfl
  exact h.plain mem

theorem sliceAfterBar_eq (h : CutKey key chat rest) : sliceAfterBar key = String.ofList rest := by
  rw [sliceAfterBar, h.cut.2]

/-- What SQL cuts off: nothing if the chat has a NUL, else the id up to its first NUL. -/
theorem sqlMessageId_eq (h : CutKey key chat rest) :
    sqlMessageId key =
      if '\u0000' ∈ chat then "" else String.ofList (sqlText rest) := by
  have bar : instr key.toList '|' = chat.length + 1 := by
    rw [instr, h.cut.1, if_pos]
    rw [h.joined]
    exact List.mem_append_right _ List.mem_cons_self
  rw [sqlMessageId, bar, substr, Nat.add_sub_cancel, h.joined, sqlText]
  split
  · next nul =>
    have short : ((chat ++ '|' :: rest).takeWhile (· ≠ '\u0000')).length ≤ chat.length := by
      have stops : (chat.takeWhile (· ≠ '\u0000')).length ≠ chat.length := by
        intro whole
        have all := (List.takeWhile_prefix (l := chat) (· ≠ '\u0000')).eq_of_length whole
        have visible := List.takeWhile_eq_self_iff.mp all _ nul
        revert visible
        decide
      rw [List.takeWhile_append, if_neg stops]
      exact (List.takeWhile_prefix _).length_le
    rw [List.drop_eq_nil_of_le (by omega)]
  · next plain =>
    have all : ∀ c ∈ chat, decide (c ≠ '\u0000') = true := by
      intro c mem
      refine decide_eq_true ?_
      rintro rfl
      exact plain mem
    rw [List.takeWhile_append_of_pos all, List.takeWhile_cons_of_pos (by decide), sqlText,
      ← List.singleton_append, ← List.append_assoc, List.drop_left' (by
        rw [List.length_append, List.length_singleton])]

/-- Where there is no NUL, SQL cuts off what the program does. -/
theorem sqlMessageId_iff (h : CutKey key chat rest) (ended : '\u0000' ∉ rest) {reference : String}
    (nonempty : reference ≠ "") :
    sqlMessageId key = reference ↔ '\u0000' ∉ chat ∧ sliceAfterBar key = reference := by
  have whole : sqlText rest = rest := by
    refine List.takeWhile_eq_self_iff.mpr fun c mem => decide_eq_true ?_
    rintro rfl
    exact ended mem
  rw [h.sqlMessageId_eq, h.sliceAfterBar_eq, whole]
  split
  · next nul => exact ⟨fun same => absurd same.symm nonempty, fun same => absurd nul same.1⟩
  · next plain => exact ⟨fun same => ⟨plain, same⟩, And.right⟩

theorem sliceAfterBar_ne (h : CutKey key chat rest) : sliceAfterBar key ≠ key := by
  intro same
  have lengths := congrArg (fun text => text.toList.length) same
  rw [h.sliceAfterBar_eq] at lengths
  simp only [String.toList_ofList, h.joined, List.length_append, List.length_cons] at lengths
  omega

theorem sliceAfterBar_ne_empty (h : CutKey key chat rest) : sliceAfterBar key ≠ "" := by
  rw [h.sliceAfterBar_eq]
  intro empty
  refine h.nonempty ?_
  rw [← String.toList_ofList (l := rest), empty, String.toList_empty]

/-- SQL cuts off no NUL. -/
theorem nul_not_mem_sqlMessageId (h : CutKey key chat rest) :
    '\u0000' ∉ (sqlMessageId key).toList := by
  rw [h.sqlMessageId_eq]
  split
  · exact List.not_mem_nil
  · rw [String.toList_ofList]
    intro mem
    have visible := List.mem_takeWhile_imp mem
    revert visible
    decide

end CutKey

/-! ## Round trips -/

/-- The key of a source is a chat and a message id. -/
def ForwardSource.Keyed (source : ForwardSource Bytes) : Prop :=
  ∃ chat rest, CutKey source.sourceKey chat rest

/-- The chat of a key. -/
def ForwardSource.chat (source : ForwardSource Bytes) : List Char :=
  source.sourceKey.toList.takeWhile (· ≠ '|')

namespace ForwardSourceRepository

/-- Another stored source shows the same message id. -/
def ShownElsewhere (sources : ForwardSources Bytes) (source : ForwardSource Bytes) : Prop :=
  ∃ other ∈ sources.rows, other.sourceKey ≠ source.sourceKey ∧ other.messageId = source.messageId

/-- A stored source is found by its key, and by the message id that a list
shows for it unless another source shows the same. -/
structure RoundTrips (sources : ForwardSources Bytes) (source : ForwardSource Bytes) : Prop where
  key : resolve sources source.sourceKey = .ok (some source)
  unique : ∀ {limit : Nat} {summary : ForwardSourceSummary}, summary ∈ list sources limit →
    summary.sourceKey = source.sourceKey → ¬ShownElsewhere sources source →
      resolve sources summary.messageId = .ok (some source)
  shared : ∀ {limit : Nat} {summary : ForwardSourceSummary}, summary ∈ list sources limit →
    summary.sourceKey = source.sourceKey → ShownElsewhere sources source →
      resolve sources summary.messageId = .error ambiguous

/-- The stored sources with this message id whose chat SQL can skip. -/
def namesakes (sources : ForwardSources Bytes) (messageId : String) : List (ForwardSource Bytes) :=
  sources.rows.filter fun source => '\u0000' ∉ source.chat ∧ source.messageId = messageId

/-- The message id of a source has neither a bar nor a NUL, and its chat has no
NUL unless two others make the message id ambiguous. -/
structure Referable (sources : ForwardSources Bytes) (source : ForwardSource Bytes) : Prop where
  plain : '|' ∉ source.messageId.toList
  ended : '\u0000' ∉ source.messageId.toList
  chat : '\u0000' ∉ source.chat ∨ 2 ≤ (namesakes sources source.messageId).length

variable {sources : ForwardSources Bytes} {source : ForwardSource Bytes}

theorem resolve_key (keyed : source.Keyed) (h : source ∈ sources.rows) :
    resolve sources source.sourceKey = .ok (some source) := by
  obtain ⟨chat, rest, cut⟩ := keyed
  rw [resolve, if_pos, get_of_mem h]
  rw [cut.joined]
  exact List.mem_append_right _ List.mem_cons_self

/-- A list shows each source with its own message id. -/
theorem messageId_of_list {limit : Nat} {summary : ForwardSourceSummary}
    (shown : summary ∈ list sources limit) (key : summary.sourceKey = source.sourceKey) :
    summary.messageId = source.messageId := by
  obtain ⟨other, -, rfl⟩ := list_spec shown
  exact congrArg sliceAfterBar key

/-- What `resolve` finds by a message id, when every stored id ends before its first NUL. -/
theorem resolve_messageId (keyed : ∀ row ∈ sources.rows, row.Keyed)
    (ended : ∀ row ∈ sources.rows, '\u0000' ∉ row.messageId.toList) {reference : String}
    (plain : '|' ∉ reference.toList) (nonempty : reference ≠ "") :
    resolve sources reference =
      match (namesakes sources reference).take 2 with
      | [] => .ok none
      | [row] => .ok (get sources row.sourceKey)
      | _ => .error ambiguous := by
  have same : (sources.rows.filter fun source => sqlMessageId source.sourceKey = reference) =
      namesakes sources reference := by
    refine List.filter_congr fun row mem => decide_eq_decide.mpr ?_
    obtain ⟨chat, rest, cut⟩ := keyed row mem
    have last : '\u0000' ∉ rest := by
      have whole := ended row mem
      rwa [ForwardSource.messageId, cut.sliceAfterBar_eq, String.toList_ofList] at whole
    rw [cut.sqlMessageId_iff last nonempty, ForwardSource.chat, cut.cut.1]
    rfl
  rw [resolve, if_neg plain, same]

/-- Two rows make a message id ambiguous. -/
theorem ambiguous_of_length {rows : List (ForwardSource Bytes)} (h : 2 ≤ rows.length) :
    (match rows.take 2 with
      | [] => .ok none
      | [row] => .ok (get sources row.sourceKey)
      | _ => .error ambiguous : Except AppError (Option (ForwardSource Bytes))) =
      .error ambiguous := by
  cases rows with
  | nil =>
    rw [List.length_nil] at h
    omega
  | cons first more =>
    cases more with
    | nil =>
      rw [List.length_singleton] at h
      omega
    | cons second more => rfl

theorem mem_namesakes {messageId : String} : source ∈ namesakes sources messageId ↔
    source ∈ sources.rows ∧ '\u0000' ∉ source.chat ∧ source.messageId = messageId := by
  rw [namesakes, List.mem_filter, decide_eq_true_eq]

theorem eq_of_key {other : ForwardSource Bytes} (h : source ∈ sources.rows)
    (h' : other ∈ sources.rows) (same : other.sourceKey = source.sourceKey) : other = source := by
  have found := get_of_mem h'
  rw [same, get_of_mem h] at found
  exact (Option.some.inj found).symm

/-- Two members with different keys. -/
theorem two_le_length {rows : List (ForwardSource Bytes)} {other : ForwardSource Bytes}
    (h : source ∈ rows) (h' : other ∈ rows) (differs : other.sourceKey ≠ source.sourceKey) :
    2 ≤ rows.length := by
  cases rows with
  | nil => cases h
  | cons first more =>
    cases more with
    | nil =>
      rw [List.mem_singleton] at h h'
      exact absurd (by rw [h, h']) differs
    | cons second more =>
      simp only [List.length_cons]
      omega

/-- **References that can be followed, are.** -/
theorem Referable.roundTrips (keyed : ∀ row ∈ sources.rows, row.Keyed)
    (referable : ∀ row ∈ sources.rows, Referable sources row) (h : source ∈ sources.rows) :
    RoundTrips sources source := by
  have own := referable source h
  obtain ⟨chat, rest, cut⟩ := keyed source h
  have found := resolve_messageId keyed (fun row mem => (referable row mem).ended) own.plain
    cut.sliceAfterBar_ne_empty
  refine ⟨resolve_key ⟨chat, rest, cut⟩ h, fun shown key alone => ?_, fun shown key elsewhere => ?_⟩
  · rw [messageId_of_list shown key, found]
    have only : ∀ other ∈ namesakes sources source.messageId, other = source := by
      intro other mem
      obtain ⟨stored, -, same⟩ := mem_namesakes.mp mem
      by_contra differs
      exact alone ⟨other, stored, fun key => differs (eq_of_key h stored key), same⟩
    have skipped : '\u0000' ∉ source.chat := by
      rcases own.chat with skipped | crowded
      · exact skipped
      · intro nul
        cases members : namesakes sources source.messageId with
        | nil =>
          rw [members, List.length_nil] at crowded
          omega
        | cons first more =>
          have mem : first ∈ namesakes sources source.messageId := by
            rw [members]
            exact List.mem_cons_self
          rw [only first mem] at mem
          exact (mem_namesakes.mp mem).2.1 nul
    have member : source ∈ namesakes sources source.messageId :=
      mem_namesakes.mpr ⟨h, skipped, rfl⟩
    have distinct : (namesakes sources source.messageId).Pairwise fun a b =>
        a.sourceKey ≠ b.sourceKey := sources.constraint.filter _
    cases members : namesakes sources source.messageId with
    | nil =>
      rw [members] at member
      cases member
    | cons first more =>
      rw [members] at only distinct
      have first_eq := only first List.mem_cons_self
      cases more with
      | nil =>
        subst first_eq
        exact congrArg _ (get_of_mem h)
      | cons second more =>
        have second_eq := only second (List.mem_cons_of_mem _ List.mem_cons_self)
        have differs := (List.pairwise_cons.mp distinct).1 second List.mem_cons_self
        exact absurd (by rw [first_eq, second_eq]) differs
  · rw [messageId_of_list shown key, found]
    refine ambiguous_of_length ?_
    obtain ⟨other, stored, differs, same⟩ := elsewhere
    rcases own.chat with skipped | crowded
    · rcases (referable other stored).chat with skipped' | crowded
      · exact two_le_length (mem_namesakes.mpr ⟨h, skipped, rfl⟩)
          (mem_namesakes.mpr ⟨stored, skipped', same⟩) differs
      · rwa [same] at crowded
    · exact crowded

/-- What `resolve` answers to the message id of a source that makes its round trip. -/
theorem RoundTrips.answers (trips : RoundTrips sources source) (h : source ∈ sources.rows) :
    resolve sources source.messageId = .ok (some source) ∨
      resolve sources source.messageId = .error ambiguous := by
  have shown := mem_list h
  have key : source.summary.sourceKey = source.sourceKey := rfl
  rw [← messageId_of_list shown key]
  by_cases elsewhere : ShownElsewhere sources source
  · exact Or.inr (trips.shared shown key elsewhere)
  · exact Or.inl (trips.unique shown key elsewhere)

/-- **Only these are found again.** -/
theorem RoundTrips.referable (keyed : ∀ row ∈ sources.rows, row.Keyed)
    (trips : ∀ row ∈ sources.rows, RoundTrips sources row) (h : source ∈ sources.rows) :
    Referable sources source := by
  have plain : ∀ row ∈ sources.rows, '|' ∉ row.messageId.toList := by
    intro row mem bar
    obtain ⟨chat, rest, cut⟩ := keyed row mem
    have taken : resolve sources row.messageId =
        .ok (get sources row.messageId) := if_pos bar
    rcases (trips row mem).answers mem with found | threw
    · rw [taken, Except.ok.injEq] at found
      exact cut.sliceAfterBar_ne (mem_of_findBy found).2.symm
    · rw [taken] at threw
      cases threw
  have ended : ∀ row ∈ sources.rows, '\u0000' ∉ row.messageId.toList := by
    intro row mem nul
    have unmatched : (sources.rows.filter fun source =>
        decide (sqlMessageId source.sourceKey = row.messageId)) = [] := by
      refine List.filter_eq_nil_iff.mpr fun other stored => ?_
      obtain ⟨chat, rest, cut⟩ := keyed other stored
      rw [decide_eq_true_eq]
      intro same
      rw [← same] at nul
      exact cut.nul_not_mem_sqlMessageId nul
    have taken : resolve sources row.messageId = .ok none := by
      rw [resolve, if_neg (plain row mem), unmatched]
      rfl
    rcases (trips row mem).answers mem with found | threw
    · rw [taken] at found
      cases found
    · rw [taken] at threw
      cases threw
  refine ⟨plain source h, ended source h, ?_⟩
  by_cases nul : '\u0000' ∉ source.chat
  · exact Or.inl nul
  · refine Or.inr ?_
    obtain ⟨chat, rest, cut⟩ := keyed source h
    have taken := resolve_messageId keyed ended (plain source h) cut.sliceAfterBar_ne_empty
    have outcome := (trips source h).answers h
    rw [taken] at outcome
    cases members : namesakes sources source.messageId with
    | nil =>
      rw [members] at outcome
      rcases outcome with found | threw
      · cases found
      · cases threw
    | cons first more =>
      cases more with
      | nil =>
        have mem : first ∈ namesakes sources source.messageId := by
          rw [members]
          exact List.mem_cons_self
        rw [members] at outcome
        obtain ⟨stored, skipped, -⟩ := mem_namesakes.mp mem
        rcases outcome with found | threw
        · have same : get sources first.sourceKey = some source := Except.ok.inj found
          rw [get_of_mem stored, Option.some.injEq] at same
          exact absurd (same ▸ skipped) nul
        · cases threw
      | cons second more =>
        simp only [List.length_cons]
        omega

theorem roundTrips_iff (keyed : ∀ row ∈ sources.rows, row.Keyed) :
    (∀ row ∈ sources.rows, RoundTrips sources row) ↔ ∀ row ∈ sources.rows, Referable sources row :=
  ⟨fun trips _ mem => RoundTrips.referable keyed trips mem,
    fun referable _ mem => Referable.roundTrips keyed referable mem⟩

end ForwardSourceRepository

end WhatsappBot
