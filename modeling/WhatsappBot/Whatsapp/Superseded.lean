import WhatsappBot.Whatsapp.AuthState
import WhatsappBot.Whatsapp.Final

/-!
# Credentials of superseded sockets

The handler of `connection.update` checks that its generation is the current
one; the listener of `creds.update` and `keys.set` do not. So a socket that
another has replaced, or that a logout has left behind, still writes to the
tables, and so does a socket whose `createSocket` had read the credentials
before the logout. `superseded_apart` is about runs in which they are silent,
`superseded_writes` about one that is not.
-/

namespace WhatsappBot

open Lib.Batch Lib.Transition

/-- The socket whose event or call an action is. -/
def SessionAction.socket {Creds Value : Type} : SessionAction Creds Value → Option Nat
  | .credsUpdate generation _ _ | .setKeys generation _ _ _ => some generation
  | _ => none

/-- A socket of a later generation pairs. -/
def SessionAction.pairs {Creds Value : Type} (codec : AuthCodec Creds Value) (generation : Nat) :
    SessionAction Creds Value → Bool
  | .mutate g creds => decide (generation < g) && codec.paired creds
  | _ => false

namespace ConnectionManager

/-- The generations of the sockets constructed so far. -/
def sockets (m : ConnectionManager) : List Nat :=
  (m.attempts.entries.filter fun entry => entry.2.constructed).map fun entry => entry.1

end ConnectionManager

/-- The generations that a run has left behind. -/
structure Bygones where
  /-- The sockets that there were at the construction of another, or when a logout returned. -/
  superseded : List Nat
  /-- The calls of `createSocket` that had begun when a logout cleared the tables. -/
  signedOut : List Nat

namespace Bygones

def empty : Bygones where
  superseded := []
  signedOut := []

def has (old : Bygones) (generation : Nat) : Bool :=
  generation ∈ old.superseded || generation ∈ old.signedOut

end Bygones

namespace Session

variable {Creds Value : Type} (codec : AuthCodec Creds Value)

def superseding : Monitor (Session Creds) (SessionAction Creds Value) Bygones where
  next old s
    | .connection a _ _ _ =>
      { superseded :=
          if s.manager.constructs a || s.manager.clears a then s.manager.sockets ++ old.superseded
          else old.superseded
        signedOut :=
          if s.manager.clears a then s.manager.attempts.keys ++ old.signedOut else old.signedOut }
    | _ => old

def observed : System (Session Creds × Bygones) (SessionAction Creds Value) :=
  superseding.observe (system codec)

/-- Nothing of a bygone socket commits: no save of its credentials, by
`creds.update` or at a protocol restart, and no `keys.set` of any key. -/
def silent (p : Session Creds × Bygones) : SessionAction Creds Value → Bool
  | .connection a _ stored _ => !stored || !(p.1.manager.restarts a).any p.2.has
  | .credsUpdate generation stored _ => !stored || !p.2.has generation
  | .setKeys generation data stored _ => !stored || !p.2.has generation || data.entries.isEmpty
  | .mutate _ _ => true

/-- Where the steps meet a condition, no event or call of a superseded socket
changes the tables. -/
def LeavesTables (auth : AuthTables)
    (Meets : Session Creds × Bygones → SessionAction Creds Value → Prop) : Prop :=
  ∀ {p q : Session Creds × Bygones} {as : List (SessionAction Creds Value)}
    {a : SessionAction Creds Value} {generation : Nat},
    (observed codec).RunWhere Meets (initial auth, .empty) as p → Meets p a →
    (observed codec).step p a = some q → a.socket = some generation →
    generation ∈ p.2.superseded → q.1.auth = p.1.auth

/-- Where the steps meet a condition, a logout leaves no credentials until a
socket of a later generation pairs. -/
def StaysCleared (auth : AuthTables)
    (Meets : Session Creds × Bygones → SessionAction Creds Value → Prop) : Prop :=
  ∀ {p q r : Session Creds × Bygones} {as bs : List (SessionAction Creds Value)}
    {a : ConnectionAction} {seed : Nat} {stored : Bool} {now : Timestamp},
    (observed codec).RunWhere Meets (initial auth, .empty) as p → p.1.manager.clears a = true →
    Meets p (.connection a seed stored now) →
    (observed codec).step p (.connection a seed stored now) = some q →
    (observed codec).RunWhere
      (fun r b => Meets r b ∧ b.pairs codec q.1.manager.generation = false) q bs r →
    r.1.auth.hasCredentials codec = false

end Session

namespace ConnectionManager

/-! ## The attempts of one step -/

/-- A step that calls no `createSocket`. -/
structure Keeps (m n : ConnectionManager) : Prop where
  generation : m.generation ≤ n.generation
  attempts : ∀ {g}, g ∈ n.attempts → g ∈ m.attempts

/-- A step; a `createSocket` that it calls has a generation of its own. -/
structure Follows (m n : ConnectionManager) : Prop where
  generation : m.generation ≤ n.generation
  attempts : ∀ {g}, g ∈ n.attempts → m.generation < g ∧ g = n.generation ∨ g ∈ m.attempts

section

variable {m n : ConnectionManager} {attempt : Attempt} {generation : Nat} {ok : Bool}

theorem Keeps.modify (h : Keeps m n) (generation : Nat) (f : Attempt → Attempt) :
    Keeps m (n.modify generation f) where
  generation := h.generation
  attempts := fun {g} mem => by
    unfold ConnectionManager.modify at mem
    dsimp only at mem
    split at mem
    · exact h.attempts mem
    · next old held =>
      rcases (AList.mem_insert _).mp mem with rfl | mem
      · exact h.attempts (AList.lookup_isSome.mp (by rw [held]; rfl))
      · exact h.attempts mem

theorem Keeps.settle (h : Keeps m n) : Keeps m (n.settle generation ok) := h.modify _ _

theorem Keeps.follows (h : Keeps m n) : Follows m n where
  generation := h.generation
  attempts := fun mem => Or.inr (h.attempts mem)

theorem Keeps.createSocket (h : Keeps m n) (options : ConnectOptions)
    (protocolRestartCount : Nat) (outer : Option Nat) (watchers : Nat) :
    Follows m (n.createSocket options protocolRestartCount outer watchers) where
  generation := Nat.le_succ_of_le h.generation
  attempts := fun {g} mem => by
    rcases (AList.mem_insert _).mp mem with rfl | mem
    · exact Or.inl ⟨Nat.lt_succ_of_le h.generation, rfl⟩
    · exact Or.inr (h.attempts mem)

/-- What is of interest here is no business of the reconnect timer. -/
theorem Keeps.scheduleReconnect (h : Keeps m n) : Keeps m n.scheduleReconnect := by
  unfold ConnectionManager.scheduleReconnect
  split
  · exact h
  · exact ⟨h.generation, h.attempts⟩

theorem Keeps.afterClose (h : Keeps m n) (attempt : Attempt) (status : Option Nat)
    (now : Timestamp) : Keeps m (n.afterClose attempt status now) := by
  unfold ConnectionManager.afterClose
  split
  · exact ⟨h.generation, h.attempts⟩
  · split
    · exact ⟨h.generation, h.attempts⟩
    · have closed : Keeps m (n.setState .DISCONNECTED) := ⟨h.generation, h.attempts⟩
      dsimp only
      split
      · exact closed.scheduleReconnect
      · exact closed

theorem Keeps.onClose (h : Keeps m n) (status : Option Nat) (now : Timestamp) :
    Keeps m (n.onClose generation attempt status now) := by
  have closed : Keeps m (n.setSocket none) := ⟨h.generation, h.attempts⟩
  unfold ConnectionManager.onClose
  dsimp only
  split
  · have restarting := closed.modify generation
      (fun attempt => { attempt with settled := true, restart := .saving })
    exact ⟨restarting.generation, restarting.attempts⟩
  · have left := closed.afterClose attempt status now
    split
    · exact left
    · exact Keeps.settle (left.modify _ _)

theorem Keeps.connect (h : Keeps m n) (options : ConnectOptions) (watchers : Nat) :
    Follows m (n.connect options watchers) := by
  unfold ConnectionManager.connect
  split
  · exact h.follows
  · cases n.connectPromise with
    | some generation => exact Keeps.follows (h.modify _ _)
    | none =>
      obtain ⟨grown, attempts⟩ := h.createSocket options 0 none watchers
      exact ⟨grown, attempts⟩

theorem Keeps.onLoaded (h : Keeps m n) (registered : Option Bool) :
    Keeps m (n.onLoaded generation attempt registered) := by
  cases registered with
  | none => exact h.modify _ _
  | some registered =>
    have placed : Keeps m (n.setSocket (some generation)) := ⟨h.generation, h.attempts⟩
    exact placed.modify _ _

theorem Keeps.onFinish (h : Keeps m n) : Keeps m (n.onFinish generation attempt ok) := by
  have finished := h.modify generation fun attempt => { attempt with phase := .finished }
  unfold ConnectionManager.onFinish
  cases attempt.outer with
  | none => exact ⟨finished.generation, finished.attempts⟩
  | some outer => exact Keeps.settle (finished.modify _ _)

/-- **A step goes on with the attempts that there are**, or begins one of a new generation. -/
theorem follows_of_step {a : ConnectionAction} (step : system.step m a = some n) :
    Follows m n := by
  have start : Keeps m { m with written := [] } := ⟨le_rfl, id⟩
  have turn := turn_of_step step
  generalize { m with written := [] } = k at start turn
  cases turn with
  | connect options => exact start.connect options 0
  | disconnect =>
    have left : Keeps m { k with
        stopped := true, reconnectTimer := false, generation := k.generation + 1 } :=
      ⟨Nat.le_succ_of_le start.generation, start.attempts⟩
    unfold onDisconnect
    dsimp only
    split <;> exact Keeps.follows ⟨left.generation, left.attempts⟩
  | logout now =>
    unfold onLogout
    split <;> exact Keeps.follows ⟨start.generation, start.attempts⟩
  | disconnected | disconnectFailed | loggedOut | logoutFailed =>
    exact Keeps.follows ⟨start.generation, start.attempts⟩
  | loaded registered => exact (start.onLoaded registered).follows
  | paired ok => exact Keeps.follows (start.modify _ _)
  | opened =>
    have settled := start.modify k.generation fun attempt => { attempt with settled := true }
    unfold onOpen
    exact Keeps.follows (Keeps.settle ⟨settled.generation, settled.attempts⟩)
  | closed status now => exact (start.onClose status now).follows
  | ignored => exact start.follows
  | saved =>
    unfold onSaved
    split
    · exact Keeps.follows (start.modify _ _)
    · exact Keeps.follows (Keeps.settle (start.modify _ _))
  | slept =>
    unfold onSlept
    split
    · exact Keeps.follows (Keeps.settle (start.modify _ _))
    · apply Keeps.createSocket
      exact start.modify _ _
  | finish => exact start.onFinish.follows
  | timer =>
    exact Keeps.connect (n := { k with reconnectTimer := false })
      ⟨start.generation, start.attempts⟩ _ _
  | retry =>
    have left : Keeps m { k with retries := k.retries - 1 } := ⟨start.generation, start.attempts⟩
    exact left.scheduleReconnect.follows

end

end ConnectionManager

namespace Session

variable {Creds Value : Type} {codec : AuthCodec Creds Value}

/-! ## What an event writes -/

theorem saveCreds_failed (s : Session Creds) (generation : Nat) (now : Timestamp) :
    s.saveCreds codec generation false now = s.auth := by
  unfold saveCreds
  split <;> rfl

theorem setKeys_empty (auth : AuthTables) {data : AList fun _ : AuthKey => Option Value}
    (empty : data.entries = []) (now : Timestamp) : auth.setKeys codec data now = auth := by
  have keys : (auth.setKeys codec data now).keys = auth.keys := by
    unfold AuthTables.setKeys applyBatch
    rw [empty]
    rfl
  exact congrArg (fun keys => { auth with keys := keys }) keys

theorem observed_step {p q : Session Creds × Bygones} {a : SessionAction Creds Value} :
    (observed codec).step p a = some q ↔
      p.1.perform codec a = some q.1 ∧ q.2 = superseding.next p.2 p.1 a :=
  Monitor.observe_step

section

variable {s t : Session Creds} {generation : Nat} {stored : Bool} {now : Timestamp}

theorem mutate_spec {creds : Creds}
    (step : s.perform codec (.mutate generation creds) = some t) :
    s.manager.constructed generation = true ∧
      t = { s with held := Function.update s.held generation (some creds) } := by
  unfold perform at step
  dsimp only at step
  split at step
  · next built =>
    cases step
    exact ⟨built, rfl⟩
  · cases step

theorem credsUpdate_spec (step : s.perform codec (.credsUpdate generation stored now) = some t) :
    s.manager.constructed generation = true ∧
      t = { s with auth := s.saveCreds codec generation stored now } := by
  unfold perform at step
  dsimp only at step
  split at step
  · next built =>
    cases step
    exact ⟨built, rfl⟩
  · cases step

theorem setKeys_spec {data : AList fun _ : AuthKey => Option Value}
    (step : s.perform codec (.setKeys generation data stored now) = some t) :
    t = { s with auth := if stored then s.auth.setKeys codec data now else s.auth } := by
  unfold perform at step
  dsimp only at step
  split at step <;> cases step
  rfl

/-- A bygone socket that is silent leaves the tables as they are. -/
theorem unchanged_of_silent {p q : Session Creds × Bygones} {a : SessionAction Creds Value}
    (quiet : silent p a = true) (step : p.1.perform codec a = some q.1)
    (socket : a.socket = some generation) (old : p.2.has generation = true) :
    q.1.auth = p.1.auth := by
  cases a with
  | connection | mutate => cases socket
  | credsUpdate generation stored now =>
    cases socket
    rw [(credsUpdate_spec step).2]
    cases stored with
    | false => exact saveCreds_failed p.1 _ now
    | true =>
      rw [silent, old] at quiet
      cases quiet
  | setKeys generation data stored now =>
    cases socket
    rw [setKeys_spec step]
    cases stored with
    | false => rfl
    | true =>
      rw [silent, old] at quiet
      exact setKeys_empty p.1.auth (List.isEmpty_iff.mp quiet) now

end

/-- A row of credentials after a save is the old one or has those of the socket. -/
theorem creds_of_saveCreds {s : Session Creds} {generation : Nat} {stored : Bool}
    {now : Timestamp} {row : AuthRow}
    (saved : (s.saveCreds codec generation stored now).creds = some row) :
    s.auth.creds = some row ∨
      ∃ creds, s.held generation = some creds ∧ row.valueJson = codec.serialize creds := by
  unfold saveCreds at saved
  split at saved
  · next creds held =>
    split at saved
    · cases saved
      exact Or.inr ⟨creds, held, rfl⟩
    · exact Or.inl saved
  · exact Or.inl saved

/-! ## Generations that have begun -/

/-- No attempt, and no credentials in memory, of a generation to come. -/
structure Bounded (s : Session Creds) : Prop where
  attempts : ∀ {g}, g ∈ s.manager.attempts → g ≤ s.manager.generation
  held : ∀ {g}, s.manager.generation < g → s.held g = none

section

variable {s t : Session Creds} {a : ConnectionAction} {seed generation : Nat} {stored : Bool}
  {now : Timestamp}

theorem initial_bounded (auth : AuthTables) : (initial auth : Session Creds).Bounded where
  attempts := nofun
  held := fun _ => rfl

theorem mem_of_constructed {m : ConnectionManager} (built : m.constructed generation = true) :
    generation ∈ m.attempts := by
  obtain ⟨attempt, found, -⟩ := (Option.any_eq_true _ _).mp built
  exact AList.lookup_isSome.mp (by rw [found]; rfl)

/-- A turn of the manager, taken apart. -/
theorem connection_of_step
    (step : s.perform codec (.connection a seed stored now) = some t) :
    ConnectionManager.system.step s.manager a = some t.manager ∧
      t.auth = s.connectionAuth codec a stored now ∧
      t.held = s.connectionHeld codec t.manager seed := by
  unfold perform at step
  dsimp only at step
  split at step
  · obtain ⟨manager, turn, rfl⟩ := Option.map_eq_some_iff.mp step
    exact ⟨turn, rfl, rfl⟩
  · cases step

/-- Only the generation of a new attempt gets credentials, those that the tables have. -/
theorem connectionHeld_cases (codec : AuthCodec Creds Value) (s : Session Creds)
    (manager : ConnectionManager) (seed g : Nat) :
    s.connectionHeld codec manager seed g = s.held g ∨
      g = manager.generation ∧ s.connectionHeld codec manager seed g = load codec s.auth seed := by
  unfold connectionHeld
  split
  · by_cases same : g = manager.generation
    · subst same
      exact Or.inr ⟨rfl, Function.update_self ..⟩
    · exact Or.inl (Function.update_of_ne same ..)
  · exact Or.inl rfl

theorem Bounded.connection (h : s.Bounded)
    (step : s.perform codec (.connection a seed stored now) = some t) : t.Bounded := by
  obtain ⟨turn, -, held⟩ := connection_of_step step
  have follows := ConnectionManager.follows_of_step turn
  constructor
  · intro g mem
    rcases follows.attempts mem with ⟨-, rfl⟩ | before
    · exact le_rfl
    · exact (h.attempts before).trans follows.generation
  · intro g later
    rw [held]
    rcases connectionHeld_cases codec s t.manager seed g with kept | ⟨rfl, -⟩
    · rw [kept]
      exact h.held (follows.generation.trans_lt later)
    · exact absurd later (lt_irrefl _)

theorem Bounded.step (h : s.Bounded) {a : SessionAction Creds Value}
    (step : s.perform codec a = some t) : t.Bounded := by
  cases a with
  | connection a seed stored now => exact h.connection step
  | mutate generation creds =>
    obtain ⟨built, rfl⟩ := mutate_spec step
    refine ⟨h.attempts, fun {g} later => ?_⟩
    have other : g ≠ generation := by
      rintro rfl
      exact absurd later (not_lt.mpr (h.attempts (mem_of_constructed built)))
    exact (Function.update_of_ne other ..).trans (h.held later)
  | credsUpdate =>
    rw [(credsUpdate_spec step).2]
    exact ⟨h.attempts, h.held⟩
  | setKeys =>
    rw [setKeys_spec step]
    exact ⟨h.attempts, h.held⟩

end

/-! ## After a logout -/

/-- Since a logout that returned in generation `since`: what had begun before is
bygone, and nothing else has paired credentials, nor has the table. -/
structure Cleared (codec : AuthCodec Creds Value) (since : Nat) (p : Session Creds × Bygones) :
    Prop where
  bounded : p.1.Bounded
  grown : since ≤ p.1.manager.generation
  bygone : ∀ {g}, g ∈ p.1.manager.attempts → g ≤ since → p.2.has g = true
  held : ∀ {g creds}, since < g → p.1.held g = some creds → codec.paired creds = false
  stored : ∀ {row}, p.1.auth.creds = some row →
    ∃ creds, row.valueJson = codec.serialize creds ∧ codec.paired creds = false

section

variable {p q : Session Creds × Bygones} {a : ConnectionAction} {b : SessionAction Creds Value}
  {since seed generation : Nat} {stored : Bool} {now : Timestamp}

theorem Cleared.hasCredentials (h : Cleared codec since p) :
    p.1.auth.hasCredentials codec = false := by
  unfold AuthTables.hasCredentials AuthTables.getCredentials
  cases row : p.1.auth.creds with
  | none => rfl
  | some row =>
    obtain ⟨creds, text, unpaired⟩ := h.stored ‹_›
    simp only [Option.map_some, Option.any_some, text]
    exact unpaired

/-- Credentials that are read after a logout are new ones or not paired either. -/
theorem Cleared.load (h : Cleared codec since p) (lawful : codec.Lawful) {creds : Creds}
    (read : load codec p.1.auth seed = some creds) : codec.paired creds = false := by
  unfold Session.load AuthTables.getCredentials at read
  cases held : p.1.auth.creds with
  | none =>
    rw [held] at read
    cases read
    exact lawful.fresh seed
  | some row =>
    rw [held, Option.map_some] at read
    dsimp only at read
    split at read
    · cases read
      exact lawful.fresh seed
    · obtain ⟨saved, text, unpaired⟩ := h.stored held
      rw [text, lawful.revived, Option.some.injEq] at read
      rw [← read]
      exact unpaired

theorem Cleared.saveCreds (h : Cleared codec since p) (later : since < generation)
    {row : AuthRow} (saved : (p.1.saveCreds codec generation stored now).creds = some row) :
    ∃ creds, row.valueJson = codec.serialize creds ∧ codec.paired creds = false := by
  rcases creds_of_saveCreds saved with kept | ⟨creds, held, text⟩
  · exact h.stored kept
  · exact ⟨creds, text, h.held later held⟩

/-- A protocol restart saves the credentials of an attempt. -/
theorem mem_of_restarts {m : ConnectionManager} (restarts : m.restarts a = some generation) :
    generation ∈ m.attempts := by
  unfold ConnectionManager.restarts at restarts
  split at restarts
  · obtain ⟨attempt, found, restarts⟩ := Option.bind_eq_some_iff.mp restarts
    split at restarts
    · cases restarts
      exact AList.lookup_isSome.mp (by rw [found]; rfl)
    · cases restarts
  · cases restarts

theorem Bygones.kept {codec : AuthCodec Creds Value} (step : (observed codec).step p b = some q)
    {g : Nat} (old : p.2.has g = true) : q.2.has g = true := by
  rw [(observed_step.mp step).2]
  cases b with
  | connection a seed stored now =>
    rw [Bygones.has, Bool.or_eq_true, decide_eq_true_eq, decide_eq_true_eq] at old ⊢
    rcases old with superseded | signedOut
    · refine Or.inl ?_
      dsimp only [superseding]
      split
      · exact List.mem_append_right _ superseded
      · exact superseded
    · refine Or.inr ?_
      dsimp only [superseding]
      split
      · exact List.mem_append_right _ signedOut
      · exact signedOut
  | mutate | credsUpdate | setKeys => exact old

theorem Cleared.connection (h : Cleared codec since p) (lawful : codec.Lawful)
    (quiet : silent p (.connection a seed stored now : SessionAction Creds Value) = true)
    (step : (observed codec).step p (.connection a seed stored now) = some q) :
    Cleared codec since q := by
  obtain ⟨turn, auth, held⟩ := connection_of_step (observed_step.mp step).1
  have follows := ConnectionManager.follows_of_step turn
  constructor
  · exact h.bounded.connection (observed_step.mp step).1
  · exact h.grown.trans follows.generation
  · intro g mem early
    rcases follows.attempts mem with ⟨later, -⟩ | before
    · exact absurd (h.grown.trans_lt later) (not_lt.mpr early)
    · exact Bygones.kept step (h.bygone before early)
  · intro g creds later has
    rw [held] at has
    rcases connectionHeld_cases codec p.1 q.1.manager seed g with same | ⟨-, fresh⟩
    · rw [same] at has
      exact h.held later has
    · rw [fresh] at has
      exact h.load lawful has
  · intro row has
    rw [auth] at has
    unfold connectionAuth at has
    split at has
    · cases has
    · split at has
      · next g restarts =>
        by_cases later : since < g
        · exact h.saveCreds later has
        · have old := h.bygone (mem_of_restarts restarts) (not_lt.mp later)
          cases stored with
          | false =>
            rw [saveCreds_failed] at has
            exact h.stored has
          | true =>
            rw [silent, restarts, Option.any_some, old] at quiet
            cases quiet
      · exact h.stored has

/-- **Nothing brings the credentials back** but a socket of a later generation that pairs. -/
theorem Cleared.step (h : Cleared codec since p) (lawful : codec.Lawful)
    (quiet : silent p b = true) (unpaired : b.pairs codec since = false)
    (step : (observed codec).step p b = some q) : Cleared codec since q := by
  obtain ⟨turn, watched⟩ := observed_step.mp step
  have bounded := h.bounded.step turn
  obtain ⟨s, bygones⟩ := q
  cases b with
  | connection a seed stored now => exact h.connection lawful quiet step
  | mutate generation creds =>
    cases watched
    obtain ⟨-, rfl⟩ := mutate_spec turn
    refine ⟨bounded, h.grown, h.bygone, ?_, h.stored⟩
    intro g creds later has
    by_cases same : g = generation
    · subst same
      have has : Function.update p.1.held g _ g = some creds := has
      rw [Function.update_self, Option.some.injEq] at has
      subst has
      simpa [SessionAction.pairs, later] using unpaired
    · have has : Function.update p.1.held generation _ g = some creds := has
      rw [Function.update_of_ne same] at has
      exact h.held later has
  | credsUpdate generation stored now =>
    cases watched
    have unchanged := unchanged_of_silent quiet turn rfl
    obtain ⟨built, rfl⟩ := credsUpdate_spec turn
    refine ⟨bounded, h.grown, h.bygone, h.held, fun {row} has => ?_⟩
    by_cases later : since < generation
    · exact h.saveCreds later has
    · rw [unchanged (h.bygone (mem_of_constructed built) (not_lt.mp later))] at has
      exact h.stored has
  | setKeys generation data stored now =>
    cases watched
    cases setKeys_spec turn
    refine ⟨bounded, h.grown, h.bygone, h.held, fun {row} has => ?_⟩
    cases stored <;> exact h.stored has

/-- The action with which `logout` clears the tables begins no attempt. -/
theorem clears_spec {m n : ConnectionManager} (clears : m.clears a = true)
    (step : ConnectionManager.system.step m a = some n) :
    n.attempts = m.attempts ∧ n.generation = m.generation := by
  cases a with
  | logout now =>
    cases step
    unfold ConnectionManager.onLogout
    have gone : m.socket = none := Option.isNone_iff_eq_none.mp clears
    rw [if_neg (by rw [gone]; exact Bool.false_ne_true)]
    exact ⟨rfl, rfl⟩
  | loggedOut ok now =>
    cases ConnectionManager.loggedOut_spec clears step
    exact ⟨rfl, rfl⟩
  | _ => cases clears

theorem cleared_of_clears (bounded : p.1.Bounded) (clears : p.1.manager.clears a = true)
    (step : (observed codec).step p (.connection a seed stored now) = some q) :
    Cleared codec q.1.manager.generation q := by
  obtain ⟨step, watched⟩ := observed_step.mp step
  have after := bounded.step step
  obtain ⟨turn, auth, -⟩ := connection_of_step step
  obtain ⟨attempts, -⟩ := clears_spec clears turn
  refine ⟨after, le_rfl, ?_, ?_, ?_⟩
  · intro g mem _
    rw [attempts] at mem
    rw [watched, Bygones.has, Bool.or_eq_true, decide_eq_true_eq, decide_eq_true_eq]
    refine Or.inr ?_
    simp only [superseding, clears, if_true]
    exact List.mem_append_left _ mem
  · intro g creds later has
    rw [after.held later] at has
    cases has
  · intro row has
    rw [auth, connectionAuth, if_pos clears] at has
    cases has

end

/-- **The credentials of superseded sockets.** Where the sockets that a run has
left behind are silent, none of them changes the tables, and a logout leaves no
credentials until a socket of a later generation pairs. -/
theorem superseded_apart {Creds Value : Type} (codec : AuthCodec Creds Value)
    (lawful : codec.Lawful) (auth : AuthTables) :
    LeavesTables codec auth (fun p a => silent p a = true) ∧
      StaysCleared codec auth (fun p a => silent p a = true) := by
  constructor
  · intro p q as a generation _ quiet step socket mem
    refine unchanged_of_silent quiet (observed_step.mp step).1 socket ?_
    rw [Bygones.has, decide_eq_true mem, Bool.true_or]
  · intro p q r as bs a seed stored now run clears _ step rest
    have bounded : p.1.Bounded :=
      run.invariant (I := fun p => p.1.Bounded)
        (fun h _ step => h.step (observed_step.mp step).1) (initial_bounded auth)
    have after : Cleared codec q.1.manager.generation r :=
      rest.invariant (I := Cleared codec q.1.manager.generation)
        (fun h guard step => h.step lawful guard.1 guard.2 step)
        (cleared_of_clears bounded clears step)
    exact after.hasCredentials

/-! ## A logout that a superseded socket undoes -/

/-- Credentials that are no more than whether they are registered. -/
def registration : AuthCodec Bool String where
  initAuthCreds _ := false
  serialize registered := if registered then "\x7b\"registered\":true\x7d" else "\x7b\x7d"
  deserialize text := if text = "\x7b\x7d" then some false else some true
  serializeValue value := "\"" ++ value ++ "\""
  registered := id
  parse text :=
    if text = "\x7b\x7d" then some (.object []) else some (.object [("registered", .bool true)])

theorem registration_lawful : registration.Lawful where
  fresh _ := show registration.paired false = false by decide
  revived registered := by cases registered <;> decide

/-- A socket pairs and opens, and its connection is lost. -/
def lost : List (SessionAction Bool String) :=
  [.connection (.connect { autoReconnect := false }) 0 true "2026-01-01T00:00:00.000Z",
    .connection (.loaded 1 (some false)) 0 true "2026-01-01T00:00:00.000Z",
    .mutate 1 true,
    .credsUpdate 1 true "2026-01-01T00:00:01.000Z",
    .connection (.update 1 (.open none none "2026-01-01T00:00:01.000Z")) 0 true
      "2026-01-01T00:00:01.000Z",
    .connection (.finish 1) 0 true "2026-01-01T00:00:01.000Z",
    .connection (.update 1 (.close (some 408) "2026-01-01T01:00:00.000Z")) 0 true
      "2026-01-01T01:00:00.000Z"]

/-- The logout that follows. -/
def leave : SessionAction Bool String :=
  .connection (.logout "2026-01-01T01:00:01.000Z") 0 true "2026-01-01T01:00:01.000Z"

/-- A new connection sets a key, and what the lost socket saves late does not commit. -/
def anew : List (SessionAction Bool String) :=
  [.credsUpdate 1 false "2026-01-01T01:00:02.000Z",
    .connection (.connect { autoReconnect := false }) 0 true "2026-01-01T01:00:03.000Z",
    .connection (.loaded 2 (some false)) 0 true "2026-01-01T01:00:03.000Z",
    .setKeys 2 ((∅ : AList fun _ : AuthKey => Option String).insert ("session", "1.0") (some "new"))
      true "2026-01-01T01:00:04.000Z",
    .credsUpdate 2 true "2026-01-01T01:00:04.000Z"]

/-- The lost socket would delete the key. -/
def late : SessionAction Bool String :=
  .setKeys 1 ((∅ : AList fun _ : AuthKey => Option String).insert ("session", "1.0") none)
    false "2026-01-01T01:00:05.000Z"

theorem superseded_apart_anew :
    ∃ p q r t, (observed registration).RunWhere (fun p a => silent p a = true)
        (initial .clear, .empty) lost p ∧
      (observed registration).step p leave = some q ∧
      (observed registration).RunWhere
        (fun p a => silent p a = true ∧ a.pairs registration 1 = false) q anew r ∧
      (observed registration).step r late = some t ∧
      (r.1.auth.keys ("session", "1.0")).isSome ∧ t.1.auth = r.1.auth ∧
      r.1.auth.hasCredentials registration = false := by
  have trace : (((observed registration).execWhere (fun p a => silent p a = true)
      (initial .clear, .empty) lost).any fun p =>
        p.1.manager.clears (.logout "2026-01-01T01:00:01.000Z") && silent p leave &&
        ((observed registration).step p leave).any fun q =>
          decide (q.1.manager.generation = 1) &&
          ((observed registration).execWhere
            (fun p a => silent p a = true ∧ a.pairs registration 1 = false) q anew).any fun r =>
              (r.1.auth.keys ("session", "1.0")).isSome && decide (1 ∈ r.2.superseded) &&
                silent r late && ((observed registration).step r late).isSome) = true := by
    decide +kernel
  obtain ⟨p, run, trace⟩ := (Option.any_eq_true _ _).mp trace
  rw [Bool.and_eq_true, Bool.and_eq_true] at trace
  obtain ⟨⟨clears, quiet⟩, trace⟩ := trace
  obtain ⟨q, left, trace⟩ := (Option.any_eq_true _ _).mp trace
  rw [Bool.and_eq_true, decide_eq_true_eq] at trace
  obtain ⟨since, trace⟩ := trace
  obtain ⟨r, rest, trace⟩ := (Option.any_eq_true _ _).mp trace
  rw [Bool.and_eq_true, Bool.and_eq_true, Bool.and_eq_true, decide_eq_true_eq] at trace
  obtain ⟨⟨⟨has, mem⟩, hushed⟩, trace⟩ := trace
  obtain ⟨t, set⟩ := Option.isSome_iff_exists.mp trace
  have run := System.runWhere_of_execWhere run
  have rest := System.runWhere_of_execWhere rest
  obtain ⟨leaves, stays⟩ := superseded_apart registration registration_lawful .clear
  have all := (run.append (.single quiet left)).append (rest.mono fun _ _ guard => guard.1)
  refine ⟨p, q, r, t, run, left, rest, set, has, leaves all hushed set rfl mem, ?_⟩
  rw [← since] at rest
  exact stays run clears quiet left rest

/-- **A socket that a logout has left behind brings the credentials back**: its
`creds.update` saves the copy that it has in memory. -/
theorem superseded_writes :
    ¬LeavesTables registration .clear (fun _ _ => True) ∧
      ¬StaysCleared registration .clear (fun _ _ => True) := by
  have trace : (((observed registration).exec (initial .clear, .empty) lost).any fun p =>
      p.1.manager.clears (.logout "2026-01-01T01:00:01.000Z") &&
        ((observed registration).step p leave).any fun q =>
          decide (1 ∈ q.2.superseded) && q.1.auth.creds.isNone &&
          ((observed registration).step q (.credsUpdate 1 true "2026-01-01T01:00:02.000Z")).any
            fun r => r.1.auth.hasCredentials registration) = true := by
    decide +kernel
  obtain ⟨p, run, trace⟩ := (Option.any_eq_true _ _).mp trace
  obtain ⟨clears, trace⟩ := Bool.and_eq_true_iff.mp trace
  obtain ⟨q, left, trace⟩ := (Option.any_eq_true _ _).mp trace
  rw [Bool.and_eq_true, Bool.and_eq_true, decide_eq_true_eq] at trace
  obtain ⟨⟨mem, empty⟩, trace⟩ := trace
  obtain ⟨r, update, has⟩ := (Option.any_eq_true _ _).mp trace
  have run := System.run_of_exec run
  constructor
  · intro claim
    have before : (observed registration).Run (initial .clear, .empty) (lost ++ [leave]) q :=
      run.append (.single trivial left)
    have same := claim before trivial update rfl mem
    rw [same, AuthTables.hasCredentials, AuthTables.getCredentials,
      Option.isNone_iff_eq_none.mp empty] at has
    cases has
  · intro claim
    have none := claim run clears trivial left (.single ⟨trivial, rfl⟩ update)
    rw [none] at has
    cases has

end Session

end WhatsappBot
