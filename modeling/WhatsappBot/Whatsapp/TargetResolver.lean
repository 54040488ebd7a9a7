import WhatsappBot.Db.Operations
import WhatsappBot.Whatsapp.Jid

/-!
# Targets of a bulk send

`src/whatsapp/target-resolver.ts`: every input that is not blank becomes a
destination, an issue or a duplicate, and `resolveTargets_spec` says that the
three are all.
-/

namespace WhatsappBot

open DestinationRepository

/-- `ORDER BY subject COLLATE NOCASE, jid`. -/
def Destination.listedBefore (a b : Destination) : Bool :=
  decide (nocase a.subject < nocase b.subject) ||
    (nocase a.subject = nocase b.subject && a.jid ≤ b.jid)

/-- `list`. -/
def DestinationRepository.list (db : Database) (enabledOnly : Bool) : List Destination :=
  (db.destinations.rows.filter fun d => !enabledOnly || d.enabled).mergeSort
    Destination.listedBefore

inductive TargetIssueReason where
  | notFound
  | invalidJid
  | notAGroup
  | disabled
  | notSendable
deriving DecidableEq, Repr

def TargetIssueReason.text : TargetIssueReason → String
  | notFound => "not found"
  | invalidJid => "invalid JID"
  | notAGroup => "not a group"
  | disabled => "disabled"
  | notSendable => "not sendable"

structure TargetIssue where
  input : String
  reason : TargetIssueReason
deriving DecidableEq, Repr

structure ResolveTargetsResult where
  destinations : List Destination
  issues : List TargetIssue
  duplicates : Nat
deriving DecidableEq

structure AllowedSnapshot where
  destinations : List Destination
  requested : Nat
  skipped : Nat
  duplicates : Nat
deriving DecidableEq

namespace TargetResolver

variable (codec : JidCodec)

/-- The row that an input names. -/
def lookup (db : Database) (input : String) : Except TargetIssueReason Destination :=
  let found (reference : String) : Except TargetIssueReason Destination :=
    match resolve db reference with
    | none => .error .notFound
    | some destination => .ok destination
  if '@' ∈ input.toList then
    match codec.normalizeJid input with
    | .error _ => .error .invalidJid
    | .ok jid => if codec.isGroupJid jid then found jid else .error .notAGroup
  else found input

/-- What an input that is not blank comes to, but for duplicates. -/
def judge (db : Database) (requireAllowed : Bool) (input : String) :
    Except TargetIssueReason Destination :=
  match lookup codec db input with
  | .error reason => .error reason
  | .ok destination =>
    if !codec.isGroupJid destination.jid then .error .notAGroup
    else if requireAllowed && !destination.enabled then .error .disabled
    else if requireAllowed && !destination.canSend then .error .notSendable
    else .ok destination

/-- The variables of the loop. -/
structure Progress where
  resolved : List Destination
  issues : List TargetIssue
  seen : List String
  duplicates : Nat

/-- One round of the loop of `resolveTargets`. -/
def visit (db : Database) (requireAllowed : Bool) (p : Progress) (rawInput : String) :
    Except AppError Progress :=
  let input := trim rawInput
  if input = "" then .ok p
  else match judge codec db requireAllowed input with
    | .error reason => .ok { p with issues := p.issues ++ [{ input := input, reason := reason }] }
    | .ok destination =>
      match codec.normalizeJid destination.jid with
      | .error error => .error error
      | .ok jid =>
        if jid ∈ p.seen then .ok { p with duplicates := p.duplicates + 1 }
        else .ok { p with seen := jid :: p.seen, resolved := p.resolved ++ [destination] }

def resolveTargets (db : Database) (inputs : List String) (requireAllowed : Bool) :
    Except AppError ResolveTargetsResult :=
  (inputs.foldlM (visit codec db requireAllowed)
    { resolved := [], issues := [], seen := [], duplicates := 0 }).map fun p =>
      { destinations := p.resolved, issues := p.issues, duplicates := p.duplicates }

def snapshotAllowed (db : Database) : Except AppError AllowedSnapshot :=
  let known := list db false
  let eligible := known.filter fun destination => destination.enabled && destination.canSend
  (resolveTargets codec db (eligible.map Destination.jid) true).map fun resolved =>
    { destinations := resolved.destinations
      requested := known.length
      skipped := known.length - eligible.length + resolved.issues.length
      duplicates := resolved.duplicates }

/-! ## Every target is counted once -/

/-- The inputs that `resolveTargets` does not pass over. -/
def nonBlank (inputs : List String) : List String := inputs.filter fun input => trim input ≠ ""

/-- What resolved destinations have in common. -/
structure Canonical (requireAllowed : Bool) (destinations : List Destination) : Prop where
  groups : ∀ d ∈ destinations, codec.isGroupJid d.jid = true
  distinct : destinations.Pairwise fun a b => codec.normalizeJid a.jid ≠ codec.normalizeJid b.jid
  allowed : requireAllowed = true → ∀ d ∈ destinations, d.enabled = true ∧ d.canSend = true

/-- The loop after some inputs. -/
structure Progress.Counted (requireAllowed : Bool) (visited : Nat) (p : Progress) : Prop where
  count : visited = p.resolved.length + p.issues.length + p.duplicates
  canonical : Canonical codec requireAllowed p.resolved
  seen : ∀ d ∈ p.resolved, ∃ jid ∈ p.seen, codec.normalizeJid d.jid = .ok jid

variable {codec} {db : Database} {requireAllowed : Bool}

theorem judge_ok {input : String} {destination : Destination}
    (h : judge codec db requireAllowed input = .ok destination) :
    codec.isGroupJid destination.jid = true ∧
      (requireAllowed = true → destination.enabled = true ∧ destination.canSend = true) := by
  unfold judge at h
  split at h
  · cases h
  · split at h
    · cases h
    · next group =>
      split at h
      · cases h
      · next enabled =>
        split at h
        · cases h
        · next canSend =>
          cases h
          simp only [Bool.not_eq_true', Bool.not_eq_false] at group
          refine ⟨group, ?_⟩
          rintro rfl
          simpa only [Bool.true_and, Bool.not_eq_true', Bool.not_eq_false] using
            And.intro enabled canSend

variable (db) in
/-- One round counts its input once, unless it is blank. -/
theorem Progress.Counted.visit {visited : Nat} {p : Progress}
    (h : p.Counted codec requireAllowed visited) (rawInput : String) :
    ∃ p', TargetResolver.visit codec db requireAllowed p rawInput = .ok p' ∧
      p'.Counted codec requireAllowed (visited + if trim rawInput = "" then 0 else 1) := by
  unfold TargetResolver.visit
  by_cases blank : trim rawInput = ""
  · simp only [blank, if_true]
    exact ⟨p, rfl, h⟩
  · simp only [blank, if_false]
    cases judged : judge codec db requireAllowed (trim rawInput) with
    | error reason =>
      refine ⟨_, rfl, ?_, h.canonical, h.seen⟩
      have count := h.count
      simp only [List.length_append, List.length_singleton]
      omega
    | ok destination =>
      obtain ⟨group, allowed⟩ := judge_ok judged
      obtain ⟨jid, normal⟩ := codec.normalizeJid_of_isGroupJid group
      simp only [normal]
      by_cases known : jid ∈ p.seen
      · simp only [known, if_true]
        refine ⟨_, rfl, ?_, h.canonical, h.seen⟩
        have count := h.count
        dsimp only
        omega
      · simp only [known, if_false]
        refine ⟨_, rfl, ?_, ⟨?_, ?_, ?_⟩, ?_⟩
        · have count := h.count
          simp only [List.length_append, List.length_singleton]
          omega
        · intro d mem
          rcases List.mem_append.mp mem with old | new
          · exact h.canonical.groups d old
          · rw [List.mem_singleton.mp new]
            exact group
        · rw [List.pairwise_append]
          refine ⟨h.canonical.distinct, List.pairwise_singleton _ _, ?_⟩
          intro d old d' new same
          rw [List.mem_singleton.mp new, normal] at same
          obtain ⟨jid', seen, normal'⟩ := h.seen d old
          rw [normal'] at same
          cases same
          exact known seen
        · intro required d mem
          rcases List.mem_append.mp mem with old | new
          · exact h.canonical.allowed required d old
          · rw [List.mem_singleton.mp new]
            exact allowed required
        · intro d mem
          rcases List.mem_append.mp mem with old | new
          · obtain ⟨jid', seen, normal'⟩ := h.seen d old
            exact ⟨jid', List.mem_cons_of_mem _ seen, normal'⟩
          · rw [List.mem_singleton.mp new]
            exact ⟨jid, List.mem_cons_self, normal⟩

variable (db) in
theorem Progress.Counted.run (inputs : List String) {visited : Nat} {p : Progress}
    (h : p.Counted codec requireAllowed visited) :
    ∃ p', inputs.foldlM (TargetResolver.visit codec db requireAllowed) p = .ok p' ∧
      p'.Counted codec requireAllowed (visited + (nonBlank inputs).length) := by
  induction inputs generalizing visited p with
  | nil => exact ⟨p, rfl, h⟩
  | cons input inputs ih =>
    obtain ⟨p₁, visited₁, counted₁⟩ := h.visit db input
    obtain ⟨p₂, visited₂, counted₂⟩ := ih counted₁
    refine ⟨p₂, ?_, ?_⟩
    · rw [List.foldlM_cons, visited₁]
      exact visited₂
    · have length : (nonBlank (input :: inputs)).length =
          (if trim input = "" then 0 else 1) + (nonBlank inputs).length := by
        unfold nonBlank
        by_cases blank : trim input = ""
        · rw [List.filter_cons_of_neg (by simpa using blank), if_pos blank, Nat.zero_add]
        · rw [List.filter_cons_of_pos (by simpa using blank), if_neg blank, List.length_cons,
            Nat.add_comm]
      rw [length, ← Nat.add_assoc]
      exact counted₂

/-- **Every target that is not blank is resolved, an issue or a duplicate.** -/
theorem resolveTargets_spec (codec : JidCodec) (db : Database) (inputs : List String)
    (requireAllowed : Bool) :
    ∃ result, resolveTargets codec db inputs requireAllowed = .ok result ∧
      (nonBlank inputs).length =
        result.destinations.length + result.issues.length + result.duplicates ∧
      Canonical codec requireAllowed result.destinations := by
  have start : Progress.Counted codec requireAllowed 0
      { resolved := [], issues := [], seen := [], duplicates := 0 } :=
    ⟨rfl, ⟨fun _ mem => absurd mem List.not_mem_nil, List.Pairwise.nil,
      fun _ _ mem => absurd mem List.not_mem_nil⟩, fun _ mem => absurd mem List.not_mem_nil⟩
  obtain ⟨p, ran, counted⟩ := start.run db inputs
  refine ⟨_, congrArg (Except.map _) ran, ?_, counted.canonical⟩
  have count := counted.count
  rw [Nat.zero_add] at count
  exact count

theorem trim_ne_empty {text : String} (h : '@' ∈ text.toList) : trim text ≠ "" := by
  have kept : '@' ∈ (trim text).toList := by
    rw [trim_toList]
    have leading : '@' ∈ text.toList.dropWhile isTrimmed := by
      rw [← List.takeWhile_append_dropWhile (p := isTrimmed) (l := text.toList)] at h
      rcases List.mem_append.mp h with blank | kept
      · exact absurd (List.mem_takeWhile_imp blank) (by decide)
      · exact kept
    rw [List.rdropWhile, List.mem_reverse]
    rw [← List.mem_reverse, ← List.takeWhile_append_dropWhile (p := isTrimmed)
      (l := (text.toList.dropWhile isTrimmed).reverse)] at leading
    rcases List.mem_append.mp leading with blank | kept
    · exact absurd (List.mem_takeWhile_imp blank) (by decide)
    · exact kept
  intro empty
  rw [empty] at kept
  cases kept

/-- **A snapshot accounts for every known destination.** -/
theorem snapshotAllowed_spec (codec : JidCodec) (db : Database) :
    ∃ snapshot, snapshotAllowed codec db = .ok snapshot ∧
      snapshot.requested = db.destinations.rows.length ∧
      snapshot.requested =
        snapshot.destinations.length + snapshot.skipped + snapshot.duplicates ∧
      Canonical codec true snapshot.destinations := by
  let eligible := (list db false).filter fun d => d.enabled && d.canSend
  obtain ⟨resolved, ran, count, canonical⟩ :=
    resolveTargets_spec codec db (eligible.map Destination.jid) true
  refine ⟨_, congrArg (Except.map _) ran, ?_, ?_, canonical⟩
  · change (list db false).length = _
    have every : db.destinations.rows.filter (fun d => !false || d.enabled) =
        db.destinations.rows := List.filter_eq_self.mpr fun d _ => rfl
    rw [list, List.length_mergeSort, every]
  · have all : nonBlank (eligible.map Destination.jid) = eligible.map Destination.jid := by
      refine List.filter_eq_self.mpr fun jid mem => ?_
      obtain ⟨d, -, rfl⟩ := List.mem_map.mp mem
      exact decide_eq_true (trim_ne_empty d.normalized)
    rw [all, List.length_map] at count
    have few : eligible.length ≤ (list db false).length := List.length_filter_le _ _
    change (list db false).length = resolved.destinations.length +
      ((list db false).length - eligible.length + resolved.issues.length) + resolved.duplicates
    omega

end TargetResolver

end WhatsappBot
