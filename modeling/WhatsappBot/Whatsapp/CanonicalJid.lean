import WhatsappBot.Domain.Text
import WhatsappBot.Messaging.NormalText
import WhatsappBot.Whatsapp.Jid

/-!
# Spellings of a JID

`normalizeJid` drops the white space around a JID and the device in it, and
what it returns is its own normal form. The server is looked up in lower case
but kept as it came: spellings that differ in the case of the server have
different normal forms.
-/

namespace WhatsappBot

open Lib.Words

namespace JidCodec

/-! ## The parts of a text -/

/-- What stands before the first `@`. -/
def combinedUser (text : String) : List Char := text.toList.takeWhile (· ≠ '@')

/-- What stands after the first `@`. -/
def serverPart (text : String) : String := String.ofList (text.toList.dropWhile (· ≠ '@')).tail

/-- The user with its agent. -/
def withoutDevice (text : String) : List Char := (combinedUser text).takeWhile (· ≠ ':')

def userPart (text : String) : String := String.ofList ((withoutDevice text).takeWhile (· ≠ '_'))

def splitJid (text : String) : Option JidParts :=
  if '@' ∈ text.toList then some { user := userPart text, server := serverPart text } else none

/-- What is documented of the two functions of Baileys. -/
structure Documented (codec : JidCodec) : Prop where
  decodes : ∀ text, codec.jidDecode text = splitJid text
  encodes : ∀ user server, codec.jidEncode user server = user ++ "@" ++ server

/-- `normalizeJid` accepts a text. -/
def Accepts (codec : JidCodec) (value : String) : Prop := ∃ jid, codec.normalizeJid value = .ok jid

/-- Two texts that differ only in the white space around them, in the device of
the user and in the letter case of the server. -/
def Alike (codec : JidCodec) (left right : String) : Prop :=
  withoutDevice (trim left) = withoutDevice (trim right) ∧
    codec.toLowerCase (serverPart (trim left)) = codec.toLowerCase (serverPart (trim right))

/-- A server that `normalizeJid` takes, in lower case. -/
def Supported (server : String) : Prop := server ∈ allowedServers ∨ '.' ∈ server.toList

variable {codec : JidCodec} {value jid left right : String}

instance : Decidable (codec.Alike left right) := inferInstanceAs (Decidable (_ ∧ _))

theorem Documented.normalizeJid_ok_iff (h : codec.Documented) :
    codec.normalizeJid value = .ok jid ↔
      '@' ∈ (trim value).toList ∧ userPart (trim value) ≠ "" ∧ serverPart (trim value) ≠ "" ∧
        Supported (codec.toLowerCase (serverPart (trim value))) ∧
        jid = userPart (trim value) ++ "@" ++ serverPart (trim value) := by
  unfold normalizeJid
  rw [h.decodes, splitJid]
  by_cases marked : '@' ∈ (trim value).toList
  · rw [if_pos marked]
    simp only [h.encodes, marked, true_and]
    by_cases missing : userPart (trim value) = "" ∨ serverPart (trim value) = ""
    · rw [if_pos missing]
      refine ⟨nofun, fun ⟨user, server, _⟩ => ?_⟩
      exact absurd missing (not_or.mpr ⟨user, server⟩)
    · rw [if_neg missing]
      obtain ⟨user, server⟩ := not_or.mp missing
      simp only [ne_eq, user, server, not_false_eq_true, true_and]
      by_cases unsupported : codec.toLowerCase (serverPart (trim value)) ∉ allowedServers ∧
          '.' ∉ (codec.toLowerCase (serverPart (trim value))).toList
      · rw [if_pos unsupported]
        refine ⟨nofun, fun ⟨supported, _⟩ => ?_⟩
        exact absurd supported (not_or.mpr unsupported)
      · rw [if_neg unsupported, Except.ok.injEq, eq_comm]
        have supported : Supported (codec.toLowerCase (serverPart (trim value))) := by
          rcases not_and_or.mp unsupported with listed | dotted
          · exact Or.inl (Classical.not_not.mp listed)
          · exact Or.inr (Classical.not_not.mp dotted)
        exact ⟨fun same => ⟨supported, same⟩, And.right⟩
  · rw [if_neg marked]
    exact ⟨nofun, fun ⟨mem, _⟩ => absurd mem marked⟩

/-! ## Put together and taken apart -/

/-- A text without `@` before one. -/
theorem cut_at {user : List Char} (plain : ∀ c ∈ user, c ≠ '@') (server : List Char) :
    (user ++ '@' :: server).takeWhile (· ≠ '@') = user ∧
      (user ++ '@' :: server).dropWhile (· ≠ '@') = '@' :: server :=
  takeWhile_run (fun c mem => decide_eq_true (plain c mem)) (by rintro c ⟨⟩; decide)

theorem parts_of_joined {user server : List Char} (plain : ∀ c ∈ user, c ≠ '@' ∧ c ≠ ':' ∧ c ≠ '_')
    {text : String} (joined : text.toList = user ++ '@' :: server) :
    '@' ∈ text.toList ∧ userPart text = String.ofList user ∧
      serverPart text = String.ofList server := by
  have cut := cut_at (fun c mem => (plain c mem).1) server
  have whole : combinedUser text = user := by rw [combinedUser, joined, cut.1]
  have device : withoutDevice text = user := by
    rw [withoutDevice, whole]
    exact List.takeWhile_eq_self_iff.mpr fun c mem => decide_eq_true (plain c mem).2.1
  refine ⟨?_, ?_, ?_⟩
  · rw [joined]
    exact List.mem_append_right _ List.mem_cons_self
  · rw [userPart, device]
    exact congrArg _ (List.takeWhile_eq_self_iff.mpr fun c mem => decide_eq_true (plain c mem).2.2)
  · rw [serverPart, joined, cut.2, List.tail_cons]

/-- Nothing that separates the parts is left in the user. -/
theorem userPart_plain (text : String) :
    ∀ c ∈ (userPart text).toList, c ≠ '@' ∧ c ≠ ':' ∧ c ≠ '_' := by
  intro c mem
  rw [userPart, String.toList_ofList] at mem
  have agent := List.mem_takeWhile_imp mem
  have mem := (List.takeWhile_subset _) mem
  have device := List.mem_takeWhile_imp mem
  have combined := List.mem_takeWhile_imp ((List.takeWhile_subset _) mem)
  exact ⟨of_decide_eq_true combined, of_decide_eq_true device, of_decide_eq_true agent⟩

/-- The user begins the text. -/
theorem userPart_prefix (text : String) : (userPart text).toList <+: text.toList := by
  rw [userPart, String.toList_ofList]
  exact (List.takeWhile_prefix _).trans
    ((List.takeWhile_prefix _).trans (List.takeWhile_prefix _))

/-- The server ends it. -/
theorem serverPart_suffix (text : String) : (serverPart text).toList <:+ text.toList := by
  rw [serverPart, String.toList_ofList]
  exact (List.tail_suffix _).trans (List.dropWhile_suffix _)

/-- The normal form of a trimmed text has no white space around it. -/
theorem trim_joined {text : String} (user : userPart (trim text) ≠ "")
    (server : serverPart (trim text) ≠ "") :
    trim (userPart (trim text) ++ "@" ++ serverPart (trim text)) =
      userPart (trim text) ++ "@" ++ serverPart (trim text) := by
  have joined : userPart (trim text) ++ "@" ++ serverPart (trim text) = String.ofList
      ((userPart (trim text)).toList ++ '@' :: (serverPart (trim text)).toList) := by
    rw [← String.toList_inj, String.toList_ofList, String.toList_append, String.toList_append,
      List.append_assoc]
    rfl
  rw [joined]
  apply trim_of_ends
  · intro c mem
    obtain ⟨d, more, eq⟩ := List.exists_cons_of_ne_nil (mt String.toList_eq_nil_iff.mp user)
    obtain ⟨rest, whole⟩ := userPart_prefix (trim text)
    rw [eq] at mem whole
    cases mem
    exact head_trim text _ (by rw [← whole]; rfl)
  · intro c mem
    obtain ⟨before, whole⟩ := serverPart_suffix (trim text)
    have some_last := mt String.toList_eq_nil_iff.mp server
    rw [List.getLast?_append_of_ne_nil _ (List.cons_ne_nil _ _),
      List.getLast?_cons_of_ne_nil some_last] at mem
    refine last_trim text c ?_
    rw [← whole, List.getLast?_append_of_ne_nil _ some_last]
    exact mem

/-! ## Normal forms -/

theorem Documented.normalizeJid_idempotent (h : codec.Documented)
    (normal : codec.normalizeJid value = .ok jid) : codec.normalizeJid jid = .ok jid := by
  obtain ⟨-, user, server, supported, rfl⟩ := h.normalizeJid_ok_iff.mp normal
  have trimmed := trim_joined user server
  have joined : (userPart (trim value) ++ "@" ++ serverPart (trim value)).toList =
      (userPart (trim value)).toList ++ '@' :: (serverPart (trim value)).toList := by
    rw [String.toList_append, String.toList_append, List.append_assoc]
    rfl
  obtain ⟨marked, sameUser, sameServer⟩ := parts_of_joined (userPart_plain (trim value)) joined
  rw [String.ofList_toList] at sameUser sameServer
  refine h.normalizeJid_ok_iff.mpr ?_
  rw [trimmed, sameUser, sameServer]
  exact ⟨marked, user, server, supported, rfl⟩

/-- Normal forms are joined at their first `@`. -/
theorem joined_inj {user user' server server' : String} (plain : ∀ c ∈ user.toList, c ≠ '@')
    (plain' : ∀ c ∈ user'.toList, c ≠ '@') :
    user ++ "@" ++ server = user' ++ "@" ++ server' ↔ user = user' ∧ server = server' := by
  constructor
  · intro same
    have texts := congrArg String.toList same
    simp only [String.toList_append, List.append_assoc] at texts
    have cut := cut_at plain server.toList
    have cut' := cut_at plain' server'.toList
    have users : user.toList = user'.toList := by
      rw [← cut.1, ← cut'.1]
      exact congrArg _ texts
    have servers : '@' :: server.toList = '@' :: server'.toList := by
      rw [← cut.2, ← cut'.2]
      exact congrArg _ texts
    exact ⟨String.toList_inj.mp users, String.toList_inj.mp (List.tail_eq_of_cons_eq servers)⟩
  · rintro ⟨rfl, rfl⟩
    rfl

/-- **Spellings of one JID meet exactly when they write the server alike.** -/
theorem Documented.normalizeJid_eq_iff (h : codec.Documented) (left_ok : codec.Accepts left)
    (right_ok : codec.Accepts right) (alike : codec.Alike left right) :
    codec.normalizeJid left = codec.normalizeJid right ↔
      serverPart (trim left) = serverPart (trim right) := by
  obtain ⟨jid, normal⟩ := left_ok
  obtain ⟨jid', normal'⟩ := right_ok
  obtain ⟨-, -, -, -, joined⟩ := h.normalizeJid_ok_iff.mp normal
  obtain ⟨-, -, -, -, joined'⟩ := h.normalizeJid_ok_iff.mp normal'
  have users : userPart (trim left) = userPart (trim right) := by
    rw [userPart, userPart, alike.1]
  rw [normal, normal', Except.ok.injEq, joined, joined',
    joined_inj (fun c mem => (userPart_plain _ c mem).1) fun c mem => (userPart_plain _ c mem).1]
  exact and_iff_right users

/-! ## Equal JIDs -/

theorem sameJid_iff :
    codec.sameJid left right = true ↔
      left ≠ "" ∧ right ≠ "" ∧ ∃ jid, codec.normalizeJid left = .ok jid ∧
        codec.normalizeJid right = .ok jid := by
  unfold sameJid
  by_cases missing : left = "" ∨ right = ""
  · rw [if_pos missing]
    refine ⟨nofun, fun ⟨hl, hr, _⟩ => ?_⟩
    exact absurd missing (not_or.mpr ⟨hl, hr⟩)
  · rw [if_neg missing]
    obtain ⟨hl, hr⟩ := not_or.mp missing
    cases codec.normalizeJid left with
    | error error =>
      simp only [Bool.false_eq_true, reduceCtorEq, false_and, exists_false, and_false]
    | ok jid =>
      cases codec.normalizeJid right with
      | error error =>
        simp only [Bool.false_eq_true, reduceCtorEq, and_false, exists_false]
      | ok jid' =>
        simp only [decide_eq_true_eq, Except.ok.injEq, exists_eq_left', ne_eq, hl, hr,
          not_false_eq_true, true_and]
        exact eq_comm

/-- No JID is empty. -/
theorem Documented.ne_empty (h : codec.Documented) (accepted : codec.Accepts value) :
    value ≠ "" := by
  rintro rfl
  obtain ⟨jid, normal⟩ := accepted
  have marked := (h.normalizeJid_ok_iff.mp normal).1
  revert marked
  decide

theorem Documented.sameJid_equivalence (h : codec.Documented) :
    Equivalence fun left right : {value // codec.Accepts value} =>
      codec.sameJid left right = true where
  refl value := by
    obtain ⟨jid, normal⟩ := value.2
    exact sameJid_iff.mpr ⟨h.ne_empty value.2, h.ne_empty value.2, jid, normal, normal⟩
  symm same := by
    obtain ⟨left, right, jid, normal, normal'⟩ := sameJid_iff.mp same
    exact sameJid_iff.mpr ⟨right, left, jid, normal', normal⟩
  trans same same' := by
    obtain ⟨left, -, jid, normal, middle⟩ := sameJid_iff.mp same
    obtain ⟨-, right, jid', middle', normal'⟩ := sameJid_iff.mp same'
    cases middle.symm.trans middle'
    exact sameJid_iff.mpr ⟨left, right, jid, normal, normal'⟩

/-- Equal JIDs are of one kind. -/
theorem kind_of_sameJid (same : codec.sameJid left right = true) :
    codec.isGroupJid left = codec.isGroupJid right ∧
      codec.isUserJid left = codec.isUserJid right := by
  obtain ⟨-, -, jid, normal, normal'⟩ := sameJid_iff.mp same
  have servers : codec.serverOf left = codec.serverOf right := by
    rw [serverOf, serverOf, normal, normal']
  exact ⟨by rw [isGroupJid, isGroupJid, servers], by rw [isUserJid, isUserJid, servers]⟩

/-- What makes the normal forms of two spellings canonical. -/
structure Canonical (codec : JidCodec) (left right : String) : Prop where
  idempotent : ∀ value ∈ [left, right], ∀ jid, codec.normalizeJid value = .ok jid →
    codec.normalizeJid jid = .ok jid
  same : codec.normalizeJid left = codec.normalizeJid right
  equal : codec.sameJid left right = true
  group : codec.isGroupJid left = codec.isGroupJid right
  user : codec.isUserJid left = codec.isUserJid right

theorem canonical_spellings_iff (codec : JidCodec) (documented : codec.Documented) :
    (∀ value jid, codec.normalizeJid value = .ok jid → codec.normalizeJid jid = .ok jid) ∧
    (Equivalence fun left right : {value // codec.Accepts value} =>
      codec.sameJid left right = true) ∧
    (∀ left right, codec.sameJid left right = true →
      codec.isGroupJid left = codec.isGroupJid right ∧
        codec.isUserJid left = codec.isUserJid right) ∧
    ∀ left right, codec.Accepts left → codec.Accepts right → codec.Alike left right →
      (codec.Canonical left right ↔ serverPart (trim left) = serverPart (trim right)) := by
  refine ⟨fun _ _ => documented.normalizeJid_idempotent, documented.sameJid_equivalence,
    fun _ _ => kind_of_sameJid, fun left right left_ok right_ok alike => ?_⟩
  rw [← documented.normalizeJid_eq_iff left_ok right_ok alike]
  refine ⟨Canonical.same, fun same => ?_⟩
  obtain ⟨jid, normal⟩ := left_ok
  have equal : codec.sameJid left right = true :=
    sameJid_iff.mpr ⟨documented.ne_empty ⟨jid, normal⟩, documented.ne_empty right_ok, jid, normal,
      same ▸ normal⟩
  exact
    { idempotent := fun _ _ _ => documented.normalizeJid_idempotent
      same := same
      equal := equal
      group := (kind_of_sameJid equal).1
      user := (kind_of_sameJid equal).2 }

/-! ## Two spellings of a group -/

/-- The functions of Baileys. -/
def baileys : JidCodec where
  jidDecode := splitJid
  jidEncode user server := user ++ "@" ++ server
  toLowerCase := WhatsappBot.toLowerCase

theorem baileys_documented : baileys.Documented := ⟨fun _ => rfl, fun _ _ => rfl⟩

/-- A companion device and its account. -/
theorem canonical_spellings_device :
    baileys.Canonical " 989121234567:3@s.whatsapp.net" "989121234567@s.whatsapp.net" :=
  ((canonical_spellings_iff baileys baileys_documented).2.2.2 " 989121234567:3@s.whatsapp.net"
    "989121234567@s.whatsapp.net" ⟨"989121234567@s.whatsapp.net", by decide +kernel⟩
    ⟨"989121234567@s.whatsapp.net", by decide +kernel⟩ (by decide +kernel)).mpr (by decide +kernel)

/-- A group whose server is in capital letters is accepted, but is not the group, nor any group. -/
theorem capital_server_differs :
    ¬∀ left right, baileys.Accepts left → baileys.Accepts right → baileys.Alike left right →
      baileys.Canonical left right := by
  intro canonical
  have same := (canonical "120363049876543210@g.us" "120363049876543210@G.US"
    ⟨"120363049876543210@g.us", by decide +kernel⟩ ⟨"120363049876543210@G.US", by decide +kernel⟩
    (by decide +kernel)).same
  revert same
  decide +kernel

end JidCodec

end WhatsappBot
