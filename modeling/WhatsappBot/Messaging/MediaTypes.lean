import WhatsappBot.Domain.Text
import WhatsappBot.Messaging.KeyIdentity
import WhatsappBot.Messaging.StagedFiles

/-!
# Media types by extension

When the type of a staged file is the one its name had before `sanitizeFilename`.
The extension is read off the sanitized name, from which leading dots and what is
over 120 characters are gone.
-/

namespace WhatsappBot

/-! ## Extensions of raw names -/

/-- `extname` of `node:path`, for any path. -/
def pathExtname (path : String) : String :=
  match (basename path).toList with
  | '.' :: rest => if '.' ∉ rest ∨ rest = ['.'] then "" else extname (basename path)
  | _ => extname (basename path)

example : pathExtname "photos/.hidden" = "" ∧ pathExtname "..jpg" = ".jpg" := by decide +kernel

/-- What `stage` relies on of `normalize('NFKC')`: ASCII stays as it is, the Kelvin
sign becomes a `K`, and no text is changed across a dot. -/
structure Nfkc (normalize : String → String) : Prop where
  ascii : ∀ text : String, (∀ c ∈ text.toList, c.val < 128 ∨ c = kelvinSign) →
    normalize text = String.ofList (text.toList.map foldKelvin)
  dot : ∀ before after : String,
    normalize (before ++ "." ++ after) = normalize before ++ normalize ("." ++ after)

theorem exists_lastDot {text : List Char} (h : '.' ∈ text) :
    ∃ stem rest, text = stem ++ '.' :: rest ∧ '.' ∉ rest := by
  obtain ⟨rest, stem, split, first⟩ := List.eq_append_cons_of_mem (List.mem_reverse.mpr h)
  refine ⟨stem.reverse, rest.reverse, ?_, fun mem => first (List.mem_reverse.mp mem)⟩
  rw [← List.reverse_reverse text, split]
  simp only [List.reverse_append, List.reverse_cons, List.append_assoc, List.singleton_append]

theorem extname_append (stem : List Char) {rest : List Char} (h : '.' ∉ rest) :
    extname (String.ofList (stem ++ '.' :: rest)) = String.ofList ('.' :: rest) := by
  have dots : '.' ∈ (String.ofList (stem ++ '.' :: rest)).toList := by
    rw [String.toList_ofList]
    exact List.mem_append_right _ List.mem_cons_self
  rw [extname, if_pos dots, String.toList_ofList, List.reverse_append, List.reverse_cons,
    List.append_assoc, List.takeWhile_append_of_pos, List.singleton_append,
    List.takeWhile_cons_of_neg, List.append_nil, List.reverse_reverse]
  · decide
  · intro c mem
    rw [decide_eq_true_eq]
    rintro rfl
    exact h (List.mem_reverse.mp mem)

theorem extname_undotted {text : List Char} (h : '.' ∉ text) :
    extname (String.ofList text) = "" := by
  rw [extname, if_neg]
  rwa [String.toList_ofList]

/-- The extension of a name, and a stem before it. -/
theorem pathExtname_split {path : String} (h : pathExtname path ≠ "") :
    ∃ stem rest, (basename path).toList = stem ++ '.' :: rest ∧ stem ≠ [] ∧ '.' ∉ rest ∧
      pathExtname path = String.ofList ('.' :: rest) := by
  have named : pathExtname path = extname (basename path) ∧
      ∀ rest, (basename path).toList = '.' :: rest → '.' ∈ rest := by
    unfold pathExtname at h ⊢
    split at h
    · next rest eq =>
      split at h
      · exact absurd rfl h
      · next dotted =>
        refine ⟨if_neg dotted, fun rest' eq' => ?_⟩
        rw [eq, List.cons.injEq] at eq'
        rw [← eq'.2]
        exact Classical.not_not.mp (not_or.mp dotted).1
    · next other => exact ⟨rfl, fun rest eq => absurd eq (other rest)⟩
  have dot : '.' ∈ (basename path).toList := by
    apply Classical.by_contradiction
    intro absent
    exact h (named.1.trans (if_neg absent))
  obtain ⟨stem, rest, split, last⟩ := exists_lastDot dot
  refine ⟨stem, rest, split, ?_, last, ?_⟩
  · rintro rfl
    exact last (named.2 rest split)
  · rw [named.1, ← extname_append stem last, ← split, String.ofList_toList]

/-! ## Sanitized names -/

theorem replaceRuns_kept {text : List Char} (inRun : Bool)
    (h : ∀ c ∈ text, isFilenameChar c = true) : replaceRuns inRun text = text := by
  induction text generalizing inRun with
  | nil => rfl
  | cons c rest ih =>
    rw [replaceRuns, if_pos (h c List.mem_cons_self),
      ih false fun d mem => h d (List.mem_cons_of_mem _ mem)]

/-- A dot ends the run before it. -/
theorem replaceRuns_dot (before after : List Char) (inRun : Bool) :
    replaceRuns inRun (before ++ '.' :: after) =
      replaceRuns inRun before ++ '.' :: replaceRuns false after := by
  induction before generalizing inRun with
  | nil => rfl
  | cons c rest ih =>
    simp only [List.cons_append, replaceRuns, ih]
    split
    · rfl
    · split <;> rfl

theorem isAlphanum_eq (c : Char) : c.isAlphanum =
    ((decide (c.val ≥ 'A'.val ∧ c.val ≤ 'Z'.val) || (c.val ≥ 'a'.val && c.val ≤ 'z'.val)) ||
      (c.val ≥ '0'.val && c.val ≤ '9'.val)) :=
  rfl

theorem isFilenameChar_lt {c : Char} (h : isFilenameChar c = true) : c.val < 128 := by
  simp only [isFilenameChar, isAlphanum_eq, Bool.or_eq_true, Bool.and_eq_true,
    decide_eq_true_eq] at h
  rcases h with (((((⟨-, high⟩ | ⟨-, high⟩) | ⟨-, high⟩) | rfl) | rfl) | rfl)
  · exact UInt32.lt_of_le_of_lt high (by decide)
  · exact UInt32.lt_of_le_of_lt high (by decide)
  · exact UInt32.lt_of_le_of_lt high (by decide)
  all_goals decide

theorem isFilenameChar_of_toLower {c : Char} (h : isFilenameChar c.toLower = true) :
    isFilenameChar c = true := by
  unfold Char.toLower at h
  split at h
  · next upper =>
    have letter : c.isAlphanum = true := by
      rw [isAlphanum_eq, decide_eq_true upper]
      rfl
    simp only [isFilenameChar, letter, Bool.true_or]
  · exact h

theorem basename_of_noSlash {name : String} (h : '/' ∉ name.toList) : basename name = name := by
  have kept : name.toList.reverse.dropWhile (· = '/') = name.toList.reverse := by
    rw [List.dropWhile_eq_self_iff]
    intro nonempty
    rw [decide_eq_true_eq]
    intro slash
    exact h (List.mem_reverse.mp (slash ▸ List.getElem_mem nonempty))
  have all : name.toList.reverse.takeWhile (· ≠ '/') = name.toList.reverse := by
    rw [List.takeWhile_eq_self_iff]
    intro c mem
    rw [decide_eq_true_eq]
    rintro rfl
    exact h (List.mem_reverse.mp mem)
  rw [basename, kept, List.reverse_reverse, lastComponent, all, List.reverse_reverse,
    String.ofList_toList]

theorem foldKelvin_of_isFilenameChar {c : Char} (h : isFilenameChar c = true) :
    foldKelvin c = c := by
  unfold foldKelvin
  split
  · next kelvin =>
    subst kelvin
    revert h
    decide
  · rfl

theorem map_foldKelvin {text : List Char} (h : ∀ c ∈ text, isFilenameChar c = true) :
    text.map foldKelvin = text := by
  rw [List.map_congr_left fun c mem => foldKelvin_of_isFilenameChar (h c mem), List.map_id']

theorem dropWhile_undotted {text : List Char} (h : ∀ rest, text ≠ '.' :: rest) :
    text.dropWhile (· = '.') = text := by
  cases text with
  | nil => rfl
  | cons c rest =>
    rw [List.dropWhile_cons_of_neg]
    rw [decide_eq_true_eq]
    rintro rfl
    exact h rest rfl

theorem undotted_dropWhile (text rest : List Char) : text.dropWhile (· = '.') ≠ '.' :: rest := by
  intro dotted
  have first := List.head?_dropWhile_not (· = '.') text
  rw [dotted] at first
  cases first

theorem sanitize_mem {value : String} (stager : MediaStager) {kept : List Char}
    (h : (replaceRuns false (stager.normalizeNfkc (basename value)).toList).dropWhile (· = '.') =
      kept) (some_left : kept ≠ []) :
    stager.sanitizeFilename value = String.ofList (kept.take 120) := by
  rw [MediaStager.sanitizeFilename, h]
  apply if_neg
  intro empty
  have none_left := congrArg String.toList empty
  rw [String.toList_ofList, String.toList_empty, List.take_eq_nil_iff] at none_left
  rcases none_left with none | nil
  · cases none
  · exact some_left nil

/-- What `sanitizeFilename` promises of its result. -/
structure Sanitary (stager : MediaStager) (value : String) : Prop where
  nonempty : stager.sanitizeFilename value ≠ ""
  short : (stager.sanitizeFilename value).length ≤ 120
  chars : ∀ c ∈ (stager.sanitizeFilename value).toList, isFilenameChar c = true
  undotted : ∀ rest, (stager.sanitizeFilename value).toList ≠ '.' :: rest
  again : stager.sanitizeFilename (stager.sanitizeFilename value) = stager.sanitizeFilename value

/-- A short name of these characters is left as it is. -/
theorem sanitize_sanitized {stager : MediaStager} (nfkc : Nfkc stager.normalizeNfkc) {name : String}
    (nonempty : name ≠ "") (short : name.length ≤ 120)
    (chars : ∀ c ∈ name.toList, isFilenameChar c = true)
    (undotted : ∀ rest, name.toList ≠ '.' :: rest) : stager.sanitizeFilename name = name := by
  have noSlash : '/' ∉ name.toList := by
    intro slash
    have := chars '/' slash
    revert this
    decide
  have normal : stager.normalizeNfkc name = name := by
    rw [nfkc.ascii name fun c mem => Or.inl (isFilenameChar_lt (chars c mem)),
      map_foldKelvin chars, String.ofList_toList]
  have kept : (replaceRuns false (stager.normalizeNfkc (basename name)).toList).dropWhile
      (· = '.') = name.toList := by
    rw [basename_of_noSlash noSlash, normal, replaceRuns_kept false chars,
      dropWhile_undotted undotted]
  rw [sanitize_mem stager kept, List.take_of_length_le, String.ofList_toList]
  · rwa [String.length_toList]
  · intro nil
    exact nonempty (String.toList_eq_nil_iff.mp nil)

theorem sanitary {stager : MediaStager} (nfkc : Nfkc stager.normalizeNfkc) (value : String) :
    Sanitary stager value := by
  have cleaned : stager.sanitizeFilename value ≠ "" ∧
      (stager.sanitizeFilename value).length ≤ 120 ∧
      ∀ rest, (stager.sanitizeFilename value).toList ≠ '.' :: rest := by
    unfold MediaStager.sanitizeFilename
    dsimp only
    split
    · exact ⟨by decide, by decide, fun rest same => by cases same⟩
    · next nonempty =>
      refine ⟨nonempty, ?_, ?_⟩
      · rw [← String.length_toList, String.toList_ofList]
        exact List.length_take_le _ _
      · rw [String.toList_ofList]
        intro rest same
        obtain ⟨c, others, kept⟩ := List.exists_cons_of_ne_nil fun nil =>
          nonempty (congrArg String.ofList (List.take_eq_nil_of_eq_nil nil))
        rw [kept, List.take_succ_cons] at same
        cases same
        exact undotted_dropWhile _ _ kept
  obtain ⟨nonempty, short, undotted⟩ := cleaned
  have chars := fun c => stager.isFilenameChar_of_mem_sanitize value (c := c)
  exact ⟨nonempty, short, chars, undotted, sanitize_sanitized nfkc nonempty short chars undotted⟩

/-! ## What is left of an extension -/

/-- A name without its extension. -/
def stemOf (path : String) : String :=
  String.ofList ((basename path).toList.take ((basename path).length - (pathExtname path).length))

/-- What `sanitizeFilename` makes of the stem, before the length is cut. -/
def MediaStager.sanitizedStem (stager : MediaStager) (path : String) : List Char :=
  (replaceRuns false (stager.normalizeNfkc (stemOf path)).toList).dropWhile (· = '.')

/-- Something is left of the stem, and either the extension still fits or the cut
stem has an extension of the same type. -/
def MediaStager.Keeps (stager : MediaStager) (name : String) : Prop :=
  stager.sanitizedStem name ≠ [] ∧
    ((stager.sanitizedStem name).length + (pathExtname name).length ≤ 120 ∨
      120 ≤ (stager.sanitizedStem name).length ∧
        detect (MediaStager.extension (String.ofList ((stager.sanitizedStem name).take 120))) =
          detect (toLowerCase (pathExtname name)))

theorem detect_of_lookup {extension : String} {entry : String × PayloadType}
    (h : mimeByExtension.lookup extension = some entry) : detect extension = entry := by
  rw [detect, h, Option.getD_some]

theorem mem_of_lookup {extension : String} {entry : String × PayloadType}
    (h : mimeByExtension.lookup extension = some entry) : (extension, entry) ∈ mimeByExtension := by
  obtain ⟨before, after, split, -⟩ := List.lookup_eq_some_iff.mp h
  rw [split]
  exact List.mem_append_right _ List.mem_cons_self

/-- No type of the table is the one of an unknown extension. -/
theorem detect_empty_ne {extension : String} {entry : String × PayloadType}
    (h : mimeByExtension.lookup extension = some entry) : detect "" ≠ entry := by
  have all : mimeByExtension.all (fun known => detect "" ≠ known.2) = true := by decide
  exact of_decide_eq_true (List.all_eq_true.mp all _ (mem_of_lookup h))

/-- No extension of the table starts another one. -/
theorem detect_take {extension : String} {entry : String × PayloadType}
    (h : mimeByExtension.lookup extension = some entry) {k : Nat} (short : k < extension.length) :
    detect (String.ofList (extension.toList.take k)) = detect "" := by
  have all : (mimeByExtension.all fun known => (List.range known.1.length).all fun k =>
      detect (String.ofList (known.1.toList.take k)) = detect "") = true := by
    decide
  have mine := List.all_eq_true.mp (List.all_eq_true.mp all _ (mem_of_lookup h)) k
  exact of_decide_eq_true (mine (List.mem_range.mpr short))

/-- The characters of an extension after its dot. -/
def isExtensionChar (c : Char) : Bool := isFilenameChar c && c ≠ '.'

theorem entry_chars {rest : List Char} {entry : String × PayloadType}
    (h : mimeByExtension.lookup (String.ofList ('.' :: rest)) = some entry) :
    rest ≠ [] ∧ ∀ c ∈ rest, isExtensionChar c = true := by
  have all : (mimeByExtension.all fun known => known.1.toList.tail ≠ [] ∧
      known.1.toList.tail.all isExtensionChar) = true := by
    decide
  have mine := of_decide_eq_true (List.all_eq_true.mp all _ (mem_of_lookup h))
  rw [String.toList_ofList, List.tail_cons] at mine
  exact ⟨mine.1, List.all_eq_true.mp mine.2⟩

theorem isExtensionChar_of_toLower {c : Char} (h : isExtensionChar c.toLower = true) :
    isExtensionChar c = true := by
  rw [isExtensionChar, Bool.and_eq_true, decide_eq_true_eq] at h ⊢
  refine ⟨isFilenameChar_of_toLower h.1, ?_⟩
  rintro rfl
  exact h.2 rfl

/-- A name with a known extension: its stem, and the extension with the Kelvin sign
folded. -/
structure Named (name : String) (stem rest : List Char) : Prop where
  base : (basename name).toList = stem ++ '.' :: rest
  extension : pathExtname name = String.ofList ('.' :: rest)
  folded : rest.map foldKelvin ≠ []
  chars : ∀ c ∈ rest.map foldKelvin, isExtensionChar c = true

theorem exists_named {name : String} {entry : String × PayloadType}
    (h : mimeByExtension.lookup (toLowerCase (pathExtname name)) = some entry) :
    ∃ stem rest, Named name stem rest := by
  have nonempty : pathExtname name ≠ "" := by
    intro empty
    rw [empty] at h
    cases h
  obtain ⟨stem, rest, base, -, -, extension⟩ := pathExtname_split nonempty
  have lower : toLowerCase (pathExtname name) =
      String.ofList ('.' :: (rest.map foldKelvin).map Char.toLower) := by
    rw [extension, toLowerCase, String.toList_ofList, List.map_cons, List.map_map]
    rfl
  rw [lower] at h
  obtain ⟨some_left, chars⟩ := entry_chars h
  refine ⟨stem, rest, base, extension, fun nil => some_left ?_, fun c mem => ?_⟩
  · rw [nil, List.map_nil]
  · exact isExtensionChar_of_toLower (chars _ (List.mem_map_of_mem mem))

namespace Named

variable {stager : MediaStager} {name : String} {stem rest : List Char}

theorem toLowerCase (h : Named name stem rest) : toLowerCase (pathExtname name) =
    String.ofList ('.' :: (rest.map foldKelvin).map Char.toLower) := by
  rw [h.extension, WhatsappBot.toLowerCase, String.toList_ofList, List.map_cons, List.map_map]
  rfl

theorem stemOf (h : Named name stem rest) : stemOf name = String.ofList stem := by
  have lengths : (basename name).length - (pathExtname name).length = stem.length := by
    rw [← String.length_toList, ← String.length_toList, h.base, h.extension, String.toList_ofList,
      List.length_append]
    omega
  rw [WhatsappBot.stemOf, lengths, h.base, List.take_left]

theorem length (h : Named name stem rest) :
    (pathExtname name).length = (rest.map foldKelvin).length + 1 := by
  rw [h.extension, ← String.length_toList, String.toList_ofList, List.length_cons, List.length_map]

theorem filenameChars (h : Named name stem rest) {c : Char} (mem : c ∈ rest.map foldKelvin) :
    isFilenameChar c = true :=
  (Bool.and_eq_true _ _ ▸ h.chars c mem :).1

theorem undotted (h : Named name stem rest) : '.' ∉ rest.map foldKelvin := by
  intro mem
  have dot := h.chars '.' mem
  revert dot
  decide

/-- The sanitized name, before the leading dots go. -/
theorem replaced (nfkc : Nfkc stager.normalizeNfkc) (h : Named name stem rest) :
    replaceRuns false (stager.normalizeNfkc (basename name)).toList =
      replaceRuns false (stager.normalizeNfkc (WhatsappBot.stemOf name)).toList ++
        '.' :: rest.map foldKelvin := by
  have split : basename name = String.ofList stem ++ "." ++ String.ofList rest := by
    rw [← String.toList_inj, h.base, String.toList_append, String.toList_append,
      String.toList_ofList, String.toList_ofList, String.toList_ofList, List.append_assoc]
    rfl
  have ascii : stager.normalizeNfkc ("." ++ String.ofList rest) =
      String.ofList ('.' :: rest.map foldKelvin) := by
    have text : ("." ++ String.ofList rest).toList = '.' :: rest := by
      rw [String.toList_append, String.toList_ofList, String.toList_ofList]
      rfl
    rw [nfkc.ascii, text, List.map_cons]
    · rfl
    · intro c mem
      rw [text, List.mem_cons] at mem
      rcases mem with rfl | mem
      · exact Or.inl (by decide)
      · have allowed := h.filenameChars (List.mem_map_of_mem mem)
        unfold foldKelvin at allowed
        split at allowed
        · next kelvin => exact Or.inr kelvin
        · exact Or.inl (isFilenameChar_lt allowed)
  rw [split, nfkc.dot, ascii, h.stemOf, String.toList_append, String.toList_ofList,
    replaceRuns_dot, replaceRuns_kept false fun c mem => h.filenameChars mem]

theorem extension_dotted (stem' : List Char) {rest' : List Char} (h : '.' ∉ rest') :
    MediaStager.extension (String.ofList (stem' ++ '.' :: rest')) =
      String.ofList ('.' :: rest'.map Char.toLower) := by
  rw [MediaStager.extension, extname_append stem' h, String.toList_ofList, List.map_cons]
  rfl

/-- **When the sanitized name keeps the type.** -/
theorem keeps_iff (nfkc : Nfkc stager.normalizeNfkc) (h : Named name stem rest)
    {entry : String × PayloadType}
    (known : mimeByExtension.lookup (WhatsappBot.toLowerCase (pathExtname name)) = some entry) :
    detect (MediaStager.extension (stager.sanitizeFilename name)) = entry ↔ stager.Keeps name := by
  have replaced := h.replaced nfkc
  by_cases gone : stager.sanitizedStem name = []
  · -- only the extension is left, without its dot
    have kept : (replaceRuns false (stager.normalizeNfkc (basename name)).toList).dropWhile
        (· = '.') = rest.map foldKelvin := by
      rw [replaced, List.dropWhile_append, ← MediaStager.sanitizedStem, gone, List.isEmpty_nil,
        if_pos rfl, List.dropWhile_cons_of_pos (by decide), dropWhile_undotted]
      intro rest' dotted
      exact h.undotted (dotted ▸ List.mem_cons_self)
    have bare : extname (stager.sanitizeFilename name) = "" := by
      rw [sanitize_mem stager kept h.folded]
      exact extname_undotted fun mem => h.undotted (List.mem_of_mem_take mem)
    rw [MediaStager.extension, bare]
    constructor
    · intro same
      exact absurd same (detect_empty_ne known)
    · intro keeps
      exact absurd gone keeps.1
  · have kept : (replaceRuns false (stager.normalizeNfkc (basename name)).toList).dropWhile
        (· = '.') = stager.sanitizedStem name ++ '.' :: rest.map foldKelvin := by
      have some_left : ¬(stager.sanitizedStem name).isEmpty = true := by
        rwa [List.isEmpty_iff]
      rw [replaced, List.dropWhile_append, ← MediaStager.sanitizedStem, if_neg some_left]
    rw [sanitize_mem stager kept (List.append_ne_nil_of_left_ne_nil gone _), MediaStager.Keeps,
      and_iff_right gone, h.length, detect_of_lookup known]
    rcases Nat.lt_or_ge 120 ((stager.sanitizedStem name).length +
      ((rest.map foldKelvin).length + 1)) with cut | fits
    · rcases Nat.lt_or_ge (stager.sanitizedStem name).length 120 with inside | before
      · -- the cut goes through the extension
        obtain ⟨k, at_cut⟩ := Nat.exists_eq_add_of_lt inside
        have first : (stager.sanitizedStem name ++ '.' :: rest.map foldKelvin).take 120 =
            stager.sanitizedStem name ++ '.' :: (rest.map foldKelvin).take k := by
          rw [List.take_append, List.take_of_length_le inside.le,
            show 120 - (stager.sanitizedStem name).length = k + 1 by omega, List.take_succ_cons]
        have start : MediaStager.extension (String.ofList
            (stager.sanitizedStem name ++ '.' :: (rest.map foldKelvin).take k)) =
              String.ofList ((WhatsappBot.toLowerCase (pathExtname name)).toList.take (k + 1)) := by
          rw [extension_dotted _ fun mem => h.undotted (List.mem_of_mem_take mem), h.toLowerCase,
            String.toList_ofList, List.take_succ_cons, List.map_take]
        have short : k + 1 < (WhatsappBot.toLowerCase (pathExtname name)).length := by
          rw [h.toLowerCase, ← String.length_toList, String.toList_ofList, List.length_cons,
            List.length_map]
          omega
        rw [first, start, detect_take known short]
        constructor
        · intro same
          exact absurd same (detect_empty_ne known)
        · rintro (fits | ⟨before, -⟩) <;> omega
      · rw [List.take_append_of_le_length before]
        constructor
        · intro same
          exact Or.inr ⟨before, same⟩
        · rintro (fits | ⟨-, same⟩)
          · omega
          · exact same
    · rw [List.take_of_length_le (by rw [List.length_append, List.length_cons]; exact fits),
        extension_dotted _ h.undotted, ← h.toLowerCase, detect_of_lookup known]
      exact iff_of_true rfl (Or.inl fits)

end Named

/-! ## Calls of `stage` -/

namespace Staging

variable {stager : MediaStager} {c c' : Staging} {i : StagingInput} {disk disk' : Disk}

/-- A call after some turns; each finds the disk in a state of its own. -/
def after (stager : MediaStager) (c : Staging) (turns : List (StagingInput × Disk)) : Staging :=
  turns.foldl (fun c turn => (c.step stager turn.1 turn.2).1) c

/-- The type that a call returns is the one of its sanitized name. -/
def Typed (stager : MediaStager) (c : Staging) : Prop :=
  ∀ media, c.phase = .returned media →
    (media.mimeType, media.payloadType) = detect (c.extension stager)

theorem extension_goto (c : Staging) (phase : StagingPhase) :
    (c.goto phase).extension stager = c.extension stager := rfl

theorem typed_returned (c : Staging) (size : Nat) (hash : Digest) (created : Bool) :
    (c.goto (.returned (c.media stager size hash created))).Typed stager := by
  intro media returned
  rw [goto_phase, StagingPhase.returned.injEq] at returned
  rw [← returned, extension_goto]
  simp only [Staging.media, Prod.mk.eta]

theorem Turned.typed (h : Turned stager c i disk c' disk') (typed : c.Typed stager) :
    c'.Typed stager ∧ c'.extension stager = c.extension stager := by
  cases h with
  | found | renamed | recovered => exact ⟨c.typed_returned _ _ _, extension_goto ..⟩
  | rested => exact ⟨typed, rfl⟩
  | threw | entered | read | missed | opened | copied | strayed | failed =>
    refine ⟨fun media returned => ?_, extension_goto ..⟩
    rw [goto_phase] at returned
    cases returned

theorem after_typed (turns : List (StagingInput × Disk)) (typed : c.Typed stager) :
    (c.after stager turns).Typed stager ∧
      (c.after stager turns).extension stager = c.extension stager := by
  induction turns generalizing c with
  | nil => exact ⟨typed, rfl⟩
  | cons turn turns ih =>
    have stepped := (step_turned stager c turn.1 turn.2).typed typed
    obtain ⟨typed', same⟩ := ih stepped.1
    exact ⟨typed', same.trans stepped.2⟩

end Staging

namespace MediaStager

variable {stager : MediaStager} {sourcePath : String} {requestedFilename : Option String}
  {media : StagedMedia}

/-- `requestedFilename ?? basename(source)`. -/
def givenFilename (stager : MediaStager) (sourcePath : String) (requestedFilename : Option String) :
    String :=
  requestedFilename.getD (basename (stager.resolve sourcePath))

/-- A call of `stage` can return this. -/
def Yields (stager : MediaStager) (sourcePath : String) (requestedFilename : Option String)
    (media : StagedMedia) : Prop :=
  ∃ turns, (Staging.after stager ⟨sourcePath, requestedFilename, .entering⟩ turns).phase =
    .returned media

theorem Yields.type (h : stager.Yields sourcePath requestedFilename media) :
    (media.mimeType, media.payloadType) = detect
      (extension (stager.sanitizeFilename (stager.givenFilename sourcePath requestedFilename))) := by
  obtain ⟨turns, returned⟩ := h
  have entering : Staging.Typed stager ⟨sourcePath, requestedFilename, .entering⟩ :=
    fun _ same => by cases same
  obtain ⟨typed, same⟩ := Staging.after_typed turns entering
  rw [typed media returned, same]
  rfl

/-- An empty file whose target is there already is staged in two turns. -/
theorem exists_yields (stager : MediaStager) (sourcePath : String)
    (requestedFilename : Option String) :
    ∃ media, stager.Yields sourcePath requestedFilename media := by
  let uuid : Uuid := ⟨"00000000-0000-0000-0000-000000000000", by decide⟩
  let turn : StagingInput × Disk := ({ chunk := 0, uuid := uuid }, fun _ => some [])
  let c : Staging := ⟨sourcePath, requestedFilename, .entering⟩
  have entered : c.step stager turn.1 turn.2 = (c.goto (.hashing 0 .unopened []), turn.2) := rfl
  have found : (c.goto (.hashing 0 .unopened [])).step stager turn.1 turn.2 =
      (c.goto (.returned (c.media stager 0 (stager.sha256 []) false)), turn.2) := rfl
  refine ⟨c.media stager 0 (stager.sha256 []) false, [turn, turn], ?_⟩
  rw [Staging.after, List.foldl_cons, List.foldl_cons, List.foldl_nil, entered, found]
  rfl

/-- What a name with an extension of the table is promised. -/
structure TypesByExtension (stager : MediaStager) (sourcePath : String)
    (requestedFilename : Option String) (entry : String × PayloadType) : Prop where
  type : ∀ media, stager.Yields sourcePath requestedFilename media →
    (media.mimeType, media.payloadType) = entry
  sanitary : Sanitary stager (stager.givenFilename sourcePath requestedFilename)

theorem typesByExtension_iff (nfkc : Nfkc stager.normalizeNfkc)
    {entry : String × PayloadType}
    (known : mimeByExtension.lookup
      (toLowerCase (pathExtname (stager.givenFilename sourcePath requestedFilename))) =
        some entry) :
    stager.TypesByExtension sourcePath requestedFilename entry ↔
      stager.Keeps (stager.givenFilename sourcePath requestedFilename) := by
  obtain ⟨stem, rest, named⟩ := exists_named known
  rw [← named.keeps_iff nfkc known]
  constructor
  · intro promised
    obtain ⟨media, yields⟩ := stager.exists_yields sourcePath requestedFilename
    rw [← yields.type, promised.type media yields]
  · intro same
    exact ⟨fun media yields => yields.type.trans same, sanitary nfkc _⟩

/-! ## A short name and a long one -/

/-- A stager whose `normalize` knows ASCII and the Kelvin sign. -/
def folding : MediaStager :=
  { KeyedCall.stager with
    normalizeNfkc := fun text => String.ofList (text.toList.map foldKelvin) }

theorem folding_nfkc : Nfkc folding.normalizeNfkc where
  ascii _ _ := rfl
  dot before after := by
    rw [← String.toList_inj]
    simp only [folding, String.toList_append, String.toList_ofList, List.map_append,
      List.append_assoc]

theorem typesByExtension_photo :
    folding.TypesByExtension "/tmp/Photo 1.JPG" none ("image/jpeg", .image) :=
  (typesByExtension_iff folding_nfkc (by decide +kernel)).mpr
    ⟨by decide +kernel, Or.inl (by decide +kernel)⟩

/-- A photo whose name has 121 characters. -/
def longName : String := String.ofList (List.replicate 117 'a') ++ ".jpg"

/-- The extension `.jp` that is left makes a document of it. -/
theorem long_photo_is_document :
    mimeByExtension.lookup (toLowerCase (pathExtname longName)) = some ("image/jpeg", .image) ∧
      ¬folding.TypesByExtension "/tmp/photo.jpg" (some longName) ("image/jpeg", .image) := by
  refine ⟨by decide +kernel, fun promised => ?_⟩
  obtain ⟨media, yields⟩ := folding.exists_yields "/tmp/photo.jpg" (some longName)
  have same := yields.type.symm.trans (promised.type media yields)
  revert same
  decide +kernel

end MediaStager

end WhatsappBot
