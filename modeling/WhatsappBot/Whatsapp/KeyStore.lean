import WhatsappBot.Whatsapp.Superseded

/-!
# The keys of the sockets

`keys.get` of `src/whatsapp/auth-state.ts` with `getKeys` of
`src/db/repositories/auth-repository.ts`. To the sockets the rows of
`wa_auth_keys` are a map that `keys.set` writes and a logout empties; whatever
the connection manager and the other sockets do in between, `keys.get` reads
this map.
-/

namespace WhatsappBot

open Lib.Batch Lib.Transition

/-! ## Reads -/

/-- What `keys.get` does with the text of a row. -/
structure KeyCodec (Value : Type) where
  /-- `SignalDataTypeMap`: the values that a key can have. -/
  belongs : AuthKey → Value → Prop
  /-- `deserialize`, which may throw. -/
  revive : String → Option Value
  /-- `proto.Message.AppStateSyncKeyData.fromObject`. -/
  fromObject : Value → Value

namespace KeyCodec

variable {Creds Value : Type}

def coerce (keys : KeyCodec Value) (category : String) (value : Value) : Value :=
  if category = "app-state-sync-key" then keys.fromObject value else value

/-- No key is called as the prototype of an object is, to which `keys.set` and
`keys.get` cannot assign, no value is written as the empty text, and a value is read
back under its key as it was. -/
structure Lawful (keys : KeyCodec Value) (codec : AuthCodec Creds Value) : Prop where
  named : ∀ key value, keys.belongs key value → key.1 ≠ "__proto__" ∧ key.2 ≠ "__proto__"
  written : ∀ value, codec.serializeValue value ≠ ""
  revived : ∀ key value, keys.belongs key value →
    (keys.revive (codec.serializeValue value)).map (keys.coerce key.1) = some value

end KeyCodec

namespace AuthTables

variable {Value : Type}

/-- `getKeys`, as the properties of its own that the object has. -/
def getKeys (auth : AuthTables) (category : String) (ids : List String) (id : String) :
    Option String :=
  if id ∈ ids then (auth.keys (category, id)).map AuthRow.valueJson else none

/-- The properties that every object inherits. -/
def inherited : List String :=
  ["constructor", "__defineGetter__", "__defineSetter__", "hasOwnProperty", "__lookupGetter__",
    "__lookupSetter__", "isPrototypeOf", "propertyIsEnumerable", "toString", "valueOf",
    "__proto__", "toLocaleString"]

/-- One round of `keys.get`, if it does not throw. -/
def readKey (keys : KeyCodec Value) (category : String) (rows : String → Option String)
    (result : String → Option Value) (id : String) : Option (String → Option Value) :=
  match rows id with
  | some storedValue =>
    if storedValue = "" then some result
    else (keys.revive storedValue).map fun value =>
      Function.update result id (some (keys.coerce category value))
  -- `rows[id]` is what the object inherits, and its text is no JSON
  | none => if id ∈ inherited then none else some result

/-- `keys.get`, if it does not reject. -/
def keysGet (keys : KeyCodec Value) (auth : AuthTables) (category : String) (ids : List String) :
    Option (String → Option Value) :=
  ids.foldlM (readKey keys category (auth.getKeys category ids)) fun _ => none

end AuthTables

/-! ## The map behind the rows -/

/-- The keys of the sockets and their values. -/
abbrev KeyMap (Value : Type) := AuthKey → Option Value

/-- What changes the keys. -/
inductive KeyWrite (Value : Type) where
  | set (data : AList fun _ : AuthKey => Option Value)
  | clear

namespace KeyMap

variable {Creds Value : Type}

def set (map : KeyMap Value) (data : AList fun _ : AuthKey => Option Value) : KeyMap Value :=
  applyBatch (fun update => update) data map

/-- The map after these writes, the newest first. -/
def after (base : KeyMap Value) : List (KeyWrite Value) → KeyMap Value
  | [] => base
  | .clear :: _ => fun _ => none
  | .set data :: writes => (base.after writes).set data

/-- Every value is one that its key can have. -/
def Typed (keys : KeyCodec Value) (map : KeyMap Value) : Prop :=
  ∀ key value, map key = some value → keys.belongs key value

theorem Typed.set {keys : KeyCodec Value} {map : KeyMap Value} (h : map.Typed keys)
    {data : AList fun _ : AuthKey => Option Value}
    (typed : ∀ key value, data.lookup key = some (some value) → keys.belongs key value) :
    (map.set data).Typed keys := by
  intro key value found
  rw [KeyMap.set, applyBatch_apply] at found
  cases written : data.lookup key with
  | none =>
    rw [written] at found
    exact h key value found
  | some update =>
    rw [written] at found
    change update = some value at found
    rw [found] at written
    exact typed key value written

end KeyMap

namespace AuthTables

variable {Creds Value : Type} {codec : AuthCodec Creds Value} {keys : KeyCodec Value}
  {auth : AuthTables} {map : KeyMap Value} {category id : String} {ids : List String}

/-- The rows hold the values of the map. -/
def Shows (codec : AuthCodec Creds Value) (auth : AuthTables) (map : KeyMap Value) : Prop :=
  ∀ key, (auth.keys key).map AuthRow.valueJson = (map key).map codec.serializeValue

theorem Shows.setKeys (h : auth.Shows codec map)
    (data : AList fun _ : AuthKey => Option Value) (now : Timestamp) :
    (auth.setKeys codec data now).Shows codec (map.set data) := by
  intro key
  simp only [AuthTables.setKeys, KeyMap.set, applyBatch_apply]
  cases data.lookup key with
  | none => exact h key
  | some update => cases update <;> rfl

theorem Shows.clear : AuthTables.clear.Shows codec fun _ => none := fun _ => rfl

theorem readKey_of_shows (lawful : keys.Lawful codec) (shows : auth.Shows codec map)
    (typed : map.Typed keys) (asked : id ∈ ids) (result : String → Option Value) :
    readKey keys category (auth.getKeys category ids) result id =
      match map (category, id) with
      | some value => some (Function.update result id (some value))
      | none => if id ∈ inherited then none else some result := by
  have row : auth.getKeys category ids id = (map (category, id)).map codec.serializeValue := by
    rw [getKeys, if_pos asked]
    exact shows (category, id)
  unfold readKey
  rw [row]
  cases found : map (category, id) with
  | none => rfl
  | some value =>
    obtain ⟨revived, read, same⟩ :=
      Option.map_eq_some_iff.mp (lawful.revived (category, id) value (typed _ value found))
    simp only [Option.map_some, lawful.written value, if_false, read, same]

/-- The rounds of `keys.get` for some of the keys that are asked for. -/
theorem foldlM_readKey (lawful : keys.Lawful codec) (shows : auth.Shows codec map)
    (typed : map.Typed keys) {part : List String} (asked : ∀ id ∈ part, id ∈ ids)
    (result : String → Option Value) :
    (part.foldlM (readKey keys category (auth.getKeys category ids)) result = none ↔
      ∃ id ∈ part, id ∈ inherited ∧ map (category, id) = none) ∧
    ∀ final, part.foldlM (readKey keys category (auth.getKeys category ids)) result = some final →
      ∀ id, final id = if id ∈ part then (map (category, id)).or (result id) else result id := by
  induction part generalizing result with
  | nil =>
    refine ⟨⟨fun rejects => (by cases rejects), fun ⟨id, mem, _⟩ => (by cases mem)⟩, ?_⟩
    intro final read id
    cases read
    rw [if_neg List.not_mem_nil]
  | cons head rest ih =>
    have others := fun id mem => asked id (List.mem_cons_of_mem head mem)
    rw [List.foldlM_cons, readKey_of_shows lawful shows typed (asked head List.mem_cons_self)]
    cases found : map (category, head) with
    | some value =>
      obtain ⟨rejects, reads⟩ := ih others (Function.update result head (some value))
      simp only [Option.bind_eq_bind, Option.bind_some]
      refine ⟨rejects.trans ⟨?_, ?_⟩, fun final read id => ?_⟩
      · rintro ⟨id, mem, own, none⟩
        exact ⟨id, List.mem_cons_of_mem head mem, own, none⟩
      · rintro ⟨id, mem, own, none⟩
        rcases List.mem_cons.mp mem with rfl | mem
        · cases found.symm.trans none
        · exact ⟨id, mem, own, none⟩
      · rw [reads final read id]
        by_cases same : id = head
        · subst same
          rw [Function.update_self, found, if_pos List.mem_cons_self]
          split <;> rfl
        · rw [Function.update_of_ne same]
          simp only [List.mem_cons, same, false_or]
    | none =>
      by_cases own : head ∈ inherited
      · simp only [own, if_true, Option.bind_eq_bind, Option.bind_none, true_iff, reduceCtorEq,
          false_implies, implies_true, and_true]
        exact ⟨head, List.mem_cons_self, own, found⟩
      · obtain ⟨rejects, reads⟩ := ih others result
        simp only [own, if_false, Option.bind_eq_bind, Option.bind_some]
        refine ⟨rejects.trans ⟨?_, ?_⟩, fun final read id => ?_⟩
        · rintro ⟨id, mem, inherits, none⟩
          exact ⟨id, List.mem_cons_of_mem head mem, inherits, none⟩
        · rintro ⟨id, mem, inherits, none⟩
          rcases List.mem_cons.mp mem with rfl | mem
          · exact absurd inherits own
          · exact ⟨id, mem, inherits, none⟩
        · rw [reads final read id]
          by_cases same : id = head
          · subst same
            rw [found, if_pos List.mem_cons_self]
            split <;> rfl
          · simp only [List.mem_cons, same, false_or]

/-- `keys.get` reads the map that the rows show. -/
theorem Shows.keysGet (shows : auth.Shows codec map) (lawful : keys.Lawful codec)
    (typed : map.Typed keys) (category : String) (ids : List String) :
    (auth.keysGet keys category ids = none ↔
      ∃ id ∈ ids, id ∈ inherited ∧ map (category, id) = none) ∧
    ∀ result, auth.keysGet keys category ids = some result →
      ∀ id, result id = if id ∈ ids then map (category, id) else none := by
  obtain ⟨rejects, reads⟩ :=
    foldlM_readKey lawful shows typed (fun id mem => mem) (fun _ => none)
  refine ⟨rejects, fun result read id => ?_⟩
  rw [reads result read id, Option.or_none]

end AuthTables

namespace Session

variable {Creds Value : Type} (codec : AuthCodec Creds Value)

/-- What the steps have written to the keys, the newest first. -/
def writing : Monitor (Session Creds) (SessionAction Creds Value) (List (KeyWrite Value)) where
  next writes s
    | .connection a _ _ _ => if s.manager.clears a then .clear :: writes else writes
    | .setKeys _ data stored _ => if stored then .set data :: writes else writes
    | .mutate _ _ | .credsUpdate _ _ _ => writes

def written : System (Session Creds × List (KeyWrite Value)) (SessionAction Creds Value) :=
  writing.observe (system codec)

/-- A socket sets values that their keys can have. -/
def SetsTyped (keys : KeyCodec Value) : SessionAction Creds Value → Prop
  | .setKeys _ data _ _ =>
    ∀ key value, data.lookup key = some (some value) → keys.belongs key value
  | _ => True

/-- The rows and the map that the writes have made of `base`. -/
structure Mirrors (keys : KeyCodec Value) (base : KeyMap Value)
    (p : Session Creds × List (KeyWrite Value)) : Prop where
  shows : p.1.auth.Shows codec (base.after p.2)
  typed : (base.after p.2).Typed keys

variable {codec}

theorem saveCreds_keys (s : Session Creds) (generation : Nat) (stored : Bool) (now : Timestamp) :
    (s.saveCreds codec generation stored now).keys = s.auth.keys := by
  unfold saveCreds
  split
  · split <;> rfl
  · rfl

/-- A turn of the manager empties the keys or leaves them. -/
theorem connectionAuth_keys (s : Session Creds) (a : ConnectionAction) (stored : Bool)
    (now : Timestamp) :
    (s.connectionAuth codec a stored now).keys =
      if s.manager.clears a then fun _ => none else s.auth.keys := by
  unfold connectionAuth
  split
  · rfl
  · split
    · exact saveCreds_keys s _ stored now
    · rfl

theorem Mirrors.same {keys : KeyCodec Value} {base : KeyMap Value}
    {p q : Session Creds × List (KeyWrite Value)} (h : Mirrors codec keys base p)
    (tables : q.1.auth.keys = p.1.auth.keys) (writes : q.2 = p.2) : Mirrors codec keys base q where
  shows key := by
    rw [tables, writes]
    exact h.shows key
  typed := writes ▸ h.typed

theorem Mirrors.preserved (keys : KeyCodec Value) (base : KeyMap Value) :
    (written codec).Preserves (fun _ a => SetsTyped keys a) (Mirrors codec keys base) := by
  intro p a q h typed step
  obtain ⟨performed, writes⟩ := Monitor.observe_step.mp step
  change p.1.perform codec a = some q.1 at performed
  cases a with
  | connection a seed stored now =>
    unfold perform at performed
    dsimp only at performed
    split at performed
    · obtain ⟨manager, -, same⟩ := Option.map_eq_some_iff.mp performed
      have tables : q.1.auth.keys = (p.1.connectionAuth codec a stored now).keys := by rw [← same]
      rw [connectionAuth_keys] at tables
      change q.2 = if p.1.manager.clears a then .clear :: p.2 else p.2 at writes
      cases clears : p.1.manager.clears a with
      | true =>
        rw [clears, if_pos rfl] at tables writes
        constructor
        · rw [writes]
          intro key
          rw [tables]
          rfl
        · rw [writes]
          intro key value found
          cases found
      | false =>
        rw [clears, if_neg Bool.false_ne_true] at tables writes
        exact h.same tables writes
    · cases performed
  | mutate generation creds =>
    exact h.same (by rw [(mutate_spec performed).2]) writes
  | credsUpdate generation stored now =>
    refine h.same ?_ writes
    rw [(credsUpdate_spec performed).2]
    exact saveCreds_keys p.1 generation stored now
  | setKeys generation data stored now =>
    have same := setKeys_spec performed
    change q.2 = if stored then .set data :: p.2 else p.2 at writes
    cases stored with
    | false => exact h.same (by rw [same]; rfl) writes
    | true =>
      rw [if_pos rfl] at same writes
      constructor
      · rw [same, writes]
        exact h.shows.setKeys data now
      · rw [writes]
        exact h.typed.set typed

/-- **To every socket, at every moment, `keys.get` reads what was set last since
the last logout.** It rejects when it is asked for a property that every object
inherits and that is no key. -/
theorem keys_get_last_set (keys : KeyCodec Value) (lawful : keys.Lawful codec) {auth : AuthTables}
    {base : KeyMap Value} (shows : auth.Shows codec base) (typed : base.Typed keys)
    {as : List (SessionAction Creds Value)} {s : Session Creds} {writes : List (KeyWrite Value)}
    (run : (written codec).RunWhere (fun _ a => SetsTyped keys a) (initial auth, []) as
      (s, writes)) (category : String) (ids : List String) :
    (s.auth.keysGet keys category ids = none ↔
      ∃ id ∈ ids, id ∈ AuthTables.inherited ∧ base.after writes (category, id) = none) ∧
    ∀ result, s.auth.keysGet keys category ids = some result →
      ∀ id, result id = if id ∈ ids then base.after writes (category, id) else none := by
  have start : Mirrors codec keys base (initial auth, []) := ⟨shows, typed⟩
  have mirrors := run.invariant (Mirrors.preserved keys base) start
  exact mirrors.shows.keysGet lawful mirrors.typed category ids

/-! ## Two sessions of a contact -/

/-- Values that are texts. -/
def texts : KeyCodec String where
  belongs key _ := key.1 ≠ "__proto__" ∧ key.2 ≠ "__proto__"
  revive text := some (String.ofList (text.toList.drop 1).dropLast)
  fromObject value := value

theorem texts_lawful : texts.Lawful registration where
  named _ _ named := named
  written value empty := by
    have chars := congrArg String.toList empty
    simp [registration] at chars
  revived key value _ := by
    simp [texts, registration, KeyCodec.coerce]

/-- What is set for the two sessions. -/
def sessions (first second : Option String) : AList fun _ : AuthKey => Option String :=
  ((∅ : AList fun _ : AuthKey => Option String).insert ("session", "1.0") first).insert
    ("session", "2.0") second

theorem sessions_typed (first second : Option String) {key : AuthKey} {value : String}
    (found : (sessions first second).lookup key = some (some value)) : texts.belongs key value := by
  by_cases newer : key = ("session", "2.0")
  · rw [newer]
    exact ⟨by decide, by decide⟩
  · rw [sessions, AList.lookup_insert_ne newer] at found
    by_cases older : key = ("session", "1.0")
    · rw [older]
      exact ⟨by decide, by decide⟩
    · rw [AList.lookup_insert_ne older, AList.lookup_empty] at found
      cases found

/-- A socket sets two sessions, and then one anew while it deletes the other. -/
def renewed : List (SessionAction Bool String) :=
  [.setKeys 1 (sessions (some "old") (some "gone")) true "2026-01-01T00:00:02.000Z",
    .setKeys 1 (sessions (some "new") none) true "2026-01-01T00:00:03.000Z"]

theorem renewed_typed : ∀ a ∈ lost ++ renewed, SetsTyped texts a := by
  intro a mem
  simp only [lost, renewed, List.cons_append, List.nil_append, List.mem_cons, List.not_mem_nil,
    or_false] at mem
  rcases mem with rfl | rfl | rfl | rfl | rfl | rfl | rfl | rfl | rfl
  · trivial
  · trivial
  · trivial
  · trivial
  · trivial
  · trivial
  · trivial
  · exact fun key value found => sessions_typed _ _ found
  · exact fun key value found => sessions_typed _ _ found

theorem keys_get_last_set_renewed : ∃ s writes result,
    (written registration).Run (initial .clear, []) (lost ++ renewed) (s, writes) ∧
      s.auth.keysGet texts "session" ["1.0", "2.0"] = some result ∧
      result "1.0" = some "new" ∧ result "2.0" = none := by
  have trace : (((written registration).exec (initial .clear, []) (lost ++ renewed)).any fun p =>
      (p.1.auth.keysGet texts "session" ["1.0", "2.0"]).isSome &&
        decide (KeyMap.after (fun _ => none) p.2 ("session", "1.0") = some "new") &&
        decide (KeyMap.after (fun _ => none) p.2 ("session", "2.0") = none)) = true := by
    decide +kernel
  obtain ⟨⟨s, writes⟩, executed, trace⟩ := (Option.any_eq_true _ _).mp trace
  rw [Bool.and_eq_true, Bool.and_eq_true, decide_eq_true_eq, decide_eq_true_eq] at trace
  obtain ⟨⟨answered, first⟩, second⟩ := trace
  obtain ⟨result, read⟩ := Option.isSome_iff_exists.mp answered
  have run := System.run_of_exec executed
  obtain ⟨-, reads⟩ := keys_get_last_set texts texts_lawful AuthTables.Shows.clear
    (fun _ _ found => by cases found)
    (run.of_forall fun a mem _ _ => renewed_typed a mem) "session" ["1.0", "2.0"]
  refine ⟨s, writes, result, run, read, ?_, ?_⟩
  · rw [reads result read]
    exact first
  · rw [reads result read]
    exact second

end Session

end WhatsappBot
