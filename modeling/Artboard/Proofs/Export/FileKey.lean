import Artboard.Proofs.Export.Course
import Artboard.Proofs.Text.Pieces

/-!
# Keys in addresses of files

An address has segments between its slashes.  A key is documented to follow the first
segment that is one of the key words.  The search for it takes any segment that ends in
such a word, so the address has its documented key exactly when this makes no difference.
-/

namespace Artboard

namespace FileAddress

/-! ## Keys behind segments -/

/-- The words that say what is shared. A key mark is such a word with the slash behind
it. -/
def keyWords : List (List Char) :=
  ["file".toList, "design".toList]

def isKeyWord (segment : List Char) : Bool :=
  keyWords.contains segment

def endsInKeyWord (segment : List Char) : Bool :=
  keyWords.any (·.isSuffixOf segment)

def segments (url : String) : List (List Char) :=
  Text.splitAt '/' url.toList

/-- The letters and figures that each segment of a kind has behind it: those that the next
segment begins with, which may be none. -/
def keysBehind (marks : List Char → Bool) : List (List Char) → List (List Char)
  | segment :: next :: others =>
    if marks segment then next.takeWhile Char.isAlphanum :: keysBehind marks (next :: others)
    else keysBehind marks (next :: others)
  | _ => []

/-- The keys behind the segments that are key words. -/
def documentedKeys (url : String) : List (List Char) :=
  keysBehind isKeyWord (segments url)

/-- What stands where a key is looked for. -/
def seenKeys (url : String) : List (List Char) :=
  keysBehind endsInKeyWord (segments url)

section

variable {marks : List Char → Bool} {segment next : List Char} {others : List (List Char)}

theorem keysBehind_of_marks (isMark : marks segment = true) :
    keysBehind marks (segment :: next :: others) =
      next.takeWhile Char.isAlphanum :: keysBehind marks (next :: others) := by
  rw [keysBehind, if_pos isMark]

theorem keysBehind_of_not_marks (noMark : marks segment = false) :
    keysBehind marks (segment :: next :: others) = keysBehind marks (next :: others) := by
  rw [keysBehind, if_neg (Bool.not_eq_true _ ▸ noMark)]

end

/-- Where more segments count, there are more keys, and the others stay in order. -/
theorem keysBehind_sublist {fewer more : List Char → Bool}
    (included : ∀ segment, fewer segment = true → more segment = true) :
    (texts : List (List Char)) → (keysBehind fewer texts).Sublist (keysBehind more texts)
  | [] => List.Sublist.refl _
  | [_] => List.Sublist.refl _
  | segment :: next :: others => by
      have later := keysBehind_sublist included (next :: others)
      cases marked : fewer segment with
      | true =>
          rw [keysBehind_of_marks marked, keysBehind_of_marks (included segment marked)]
          exact later.cons_cons _
      | false =>
          rw [keysBehind_of_not_marks marked]
          cases counted : more segment with
          | true =>
              rw [keysBehind_of_marks counted]
              exact later.cons _
          | false =>
              rw [keysBehind_of_not_marks counted]
              exact later

theorem endsInKeyWord_of_isKeyWord (segment : List Char) (isWord : isKeyWord segment = true) :
    endsInKeyWord segment = true :=
  List.any_eq_true.mpr
    ⟨segment, List.contains_iff_mem.mp isWord, List.isSuffixOf_iff_suffix.mpr (List.suffix_refl _)⟩

theorem documentedKeys_sublist (url : String) : (documentedKeys url).Sublist (seenKeys url) :=
  keysBehind_sublist endsInKeyWord_of_isKeyWord (segments url)

/-! ## Where the search for a key stops -/

theorem mem_keyMarks_iff {mark : List Char} :
    mark ∈ keyMarks ↔ ∃ word ∈ keyWords, mark = word ++ ['/'] := by
  constructor
  · intro member
    rcases List.mem_cons.mp member with isFile | later
    · exact ⟨"file".toList, by decide, isFile⟩
    · rw [List.mem_singleton] at later
      exact ⟨"design".toList, by decide, later⟩
  · rintro ⟨word, member, rfl⟩
    rcases List.mem_cons.mp member with isFile | later
    · rw [isFile]
      decide
    · rw [List.mem_singleton] at later
      rw [later]
      decide

theorem slash_notMem_of_mem_keyWords {word : List Char} (member : word ∈ keyWords) :
    '/' ∉ word := by
  rcases List.mem_cons.mp member with isFile | later
  · rw [isFile]
    decide
  · rw [List.mem_singleton] at later
    rw [later]
    decide

/-- A key ends in front of the next slash. -/
theorem takeWhile_isAlphanum_takeWhile (text : List Char) :
    (text.takeWhile (· != '/')).takeWhile Char.isAlphanum = text.takeWhile Char.isAlphanum := by
  induction text with
  | nil => rfl
  | cons c rest inductionHypothesis =>
      by_cases isSlash : c = '/'
      · rw [isSlash]
        rfl
      · rw [List.takeWhile_cons_of_pos (by simpa using isSlash), List.takeWhile_cons,
          List.takeWhile_cons, inductionHypothesis]

/-- Behind a key word and its slash, the letters and figures are those of the next
segment. -/
theorem head?_keysBehind_word {word : List Char} (member : word ∈ keyWords)
    (behind : List Char) :
    (keysBehind endsInKeyWord (Text.splitAt '/' (word ++ '/' :: behind))).head? =
      some (behind.takeWhile Char.isAlphanum) := by
  have isWord : isKeyWord word = true := List.contains_iff_mem.mpr member
  rcases Text.exists_splitAt_eq '/' behind with ⟨others, pieces⟩
  rw [Text.splitAt_append_separator,
    Text.splitAt_of_notMem (slash_notMem_of_mem_keyWords member), pieces, List.singleton_append,
    keysBehind_of_marks (endsInKeyWord_of_isKeyWord word isWord), List.head?_cons,
    takeWhile_isAlphanum_takeWhile]

/-- A segment that another segment follows has its slash behind it. -/
theorem exists_eq_append_of_splitAt {text first next : List Char} {others : List (List Char)}
    (pieces : Text.splitAt '/' text = first :: next :: others) :
    ∃ behind, text = first ++ '/' :: behind := by
  induction text generalizing first with
  | nil => cases pieces
  | cons c rest inductionHypothesis =>
      by_cases isSlash : c = '/'
      · rw [isSlash, Text.splitAt_separator, List.cons.injEq] at pieces
        exact ⟨rest, by rw [isSlash, ← pieces.1]; rfl⟩
      · rcases Text.splitAt_cons_of_ne isSlash rest with ⟨piece, more, shorter, longer⟩
        rw [longer, List.cons.injEq] at pieces
        rw [pieces.2] at shorter
        rcases inductionHypothesis shorter with ⟨behind, split⟩
        exact ⟨behind, by rw [← pieces.1, split]; rfl⟩

/-- A character in front of a segment makes it end in a key word only if it makes it one. -/
theorem endsInKeyWord_cons {c : Char} {segment : List Char}
    (noWord : c :: segment ∉ keyWords) :
    endsInKeyWord (c :: segment) = endsInKeyWord segment := by
  rw [Bool.eq_iff_iff, endsInKeyWord, endsInKeyWord, List.any_eq_true, List.any_eq_true]
  constructor
  · rintro ⟨word, member, ends⟩
    rcases List.suffix_cons_iff.mp (List.isSuffixOf_iff_suffix.mp ends) with whole | shorter
    · exact absurd (whole ▸ member) noWord
    · exact ⟨word, member, List.isSuffixOf_iff_suffix.mpr shorter⟩
  · rintro ⟨word, member, ends⟩
    have longer := (List.isSuffixOf_iff_suffix.mp ends).trans (List.suffix_cons c segment)
    exact ⟨word, member, List.isSuffixOf_iff_suffix.mpr longer⟩

/-- Where no mark begins, the search goes on as if the first character were not there. -/
theorem head?_keysBehind_cons {c : Char} {rest : List Char}
    (noMark : ∀ mark ∈ keyMarks, ¬mark <+: c :: rest) :
    keysBehind endsInKeyWord (Text.splitAt '/' (c :: rest)) =
      keysBehind endsInKeyWord (Text.splitAt '/' rest) := by
  by_cases isSlash : c = '/'
  · rcases Text.exists_splitAt_eq '/' rest with ⟨others, pieces⟩
    rw [isSlash, Text.splitAt_separator, pieces, keysBehind_of_not_marks (by decide)]
  · rcases Text.splitAt_cons_of_ne isSlash rest with ⟨piece, others, shorter, longer⟩
    rw [longer, shorter]
    cases others with
    | nil => rfl
    | cons next others =>
        have noWord : c :: piece ∉ keyWords := by
          intro member
          rcases exists_eq_append_of_splitAt longer with ⟨behind, split⟩
          apply noMark _ (mem_keyMarks_iff.mpr ⟨_, member, rfl⟩)
          rw [split]
          exact ⟨behind, by rw [List.append_assoc]; rfl⟩
        have same := endsInKeyWord_cons noWord
        rw [keysBehind, keysBehind, same]

/-- The search stops behind the first segment that ends in a key word. -/
theorem behindKeyMark?_eq (text : List Char) :
    (behindKeyMark? text).map (·.takeWhile Char.isAlphanum) =
      (keysBehind endsInKeyWord (Text.splitAt '/' text)).head? := by
  induction text with
  | nil => rfl
  | cons c rest inductionHypothesis =>
      rw [behindKeyMark?]
      cases found : keyMarks.find? (·.isPrefixOf (c :: rest)) with
      | some mark =>
          rcases mem_keyMarks_iff.mp (List.mem_of_find?_eq_some found) with ⟨word, member, rfl⟩
          have begins : (word ++ ['/']).isPrefixOf (c :: rest) = true :=
            List.find?_some (p := fun mark => List.isPrefixOf mark (c :: rest)) found
          rcases List.isPrefixOf_iff_prefix.mp begins with ⟨behind, split⟩
          dsimp only
          rw [← split, List.drop_left, List.append_assoc, List.singleton_append,
            head?_keysBehind_word member]
          rfl
      | none =>
          rw [head?_keysBehind_cons, inductionHypothesis]
          intro mark member begins
          exact List.find?_eq_none.mp found mark member (List.isPrefixOf_iff_prefix.mpr begins)

/-! ## The key of an address -/

/-- The key of an address is what stands behind the first segment that ends in a key word,
unless nothing stands there. -/
theorem fileKey?_eq_some_iff {url key : String} :
    fileKey? url = some key ↔ key ≠ "" ∧ (seenKeys url).head? = some key.toList := by
  have stops := behindKeyMark?_eq url.toList
  rw [fileKey?, seenKeys, segments, ← stops]
  cases behindKeyMark? url.toList with
  | none => simp
  | some behind =>
      simp only [Option.bind_eq_bind, Option.bind_some, Option.map_some, Option.some.injEq]
      split
      · rename_i isEmpty
        simp only [reduceCtorEq, false_iff, not_and]
        intro named same
        apply named
        rw [← String.toList_inj, ← same]
        exact List.isEmpty_iff.mp isEmpty
      · rename_i notEmpty
        rw [Option.some.injEq]
        constructor
        · rintro rfl
          refine ⟨?_, String.toList_ofList.symm⟩
          intro isEmpty
          apply notEmpty
          rw [← String.toList_inj, String.toList_ofList] at isEmpty
          exact List.isEmpty_iff.mpr isEmpty
        · rintro ⟨-, same⟩
          rw [same, String.ofList_toList]

variable {url : String}

theorem fileKey?_of_seen {key : List Char} (notEmpty : key ≠ [])
    (seen : (seenKeys url).head? = some key) : fileKey? url = some (String.ofList key) := by
  refine fileKey?_eq_some_iff.mpr ⟨?_, by rw [seen, String.toList_ofList]⟩
  intro isEmpty
  apply notEmpty
  rw [← String.toList_ofList (l := key), isEmpty]
  rfl

theorem fileKey?_eq_none_iff :
    fileKey? url = none ↔ ∀ key, (seenKeys url).head? = some key → key = [] := by
  constructor
  · intro keyless key seen
    apply Classical.byContradiction
    intro notEmpty
    have found := fileKey?_of_seen notEmpty seen
    rw [keyless] at found
    cases found
  · intro empty
    cases keyed : fileKey? url with
    | none => rfl
    | some key =>
        rcases fileKey?_eq_some_iff.mp keyed with ⟨named, seen⟩
        have isEmpty := empty key.toList seen
        apply absurd _ named
        rw [← String.toList_inj, isEmpty]
        rfl

/-- Whatever else the settings say, an export of the file with this address ends with the
address as it was given, as one without a key. -/
def Refuses (url : String) : Prop :=
  ∀ settings : Settings, settings.fileUrl = some url →
    Export.order settings = .error (.service (.invalidFileUrl url))

theorem refuses_iff : Refuses url ↔ ∀ key, (seenKeys url).head? = some key → key = [] := by
  rw [← fileKey?_eq_none_iff]
  constructor
  · intro refuses
    cases keyed : fileKey? url with
    | none => rfl
    | some key =>
        have given : ({ Settings.standard with fileUrl := some url }).fileUrl = some url := rfl
        have ends := refuses _ given
        rw [Export.order_of_key given keyed] at ends
        cases ends
  · intro keyless settings given
    exact Export.order_of_firstDefect (.noKey given keyless)

theorem not_refuses {key : List Char} (notEmpty : key ≠ [])
    (seen : (seenKeys url).head? = some key) : ¬Refuses url :=
  fun refuses => notEmpty (refuses_iff.mp refuses key seen)

/-! ## The documented key -/

/-- The key is found as it is documented: behind the first segment that is a key word, if a
key stands there; and an address is refused just when no such segment has a key behind
it. -/
structure FindsDocumentedKey (url : String) : Prop where
  first : ∀ key others, documentedKeys url = key :: others → key ≠ [] →
    fileKey? url = some (String.ofList key)
  refused : Refuses url → ∀ key ∈ documentedKeys url, key = []
  unmarked : (∀ key ∈ documentedKeys url, key = []) → Refuses url

theorem findsDocumentedKey_of_none_seen (seen : (seenKeys url).head? = none) :
    FindsDocumentedKey url := by
  have noKeys : documentedKeys url = [] := by
    have fewer := documentedKeys_sublist url
    rw [List.head?_eq_none_iff.mp seen] at fewer
    exact List.sublist_nil.mp fewer
  refine ⟨?_, ?_, ?_⟩
  · intro key others keys
    rw [noKeys] at keys
    cases keys
  · intro _ key member
    rw [noKeys] at member
    cases member
  · intro _
    apply refuses_iff.mpr
    intro key isSeen
    rw [seen] at isSeen
    cases isSeen

theorem refuses_of_empty_seen (seen : (seenKeys url).head? = some []) : Refuses url := by
  apply refuses_iff.mpr
  intro key isSeen
  rw [seen] at isSeen
  exact (Option.some.inj isSeen).symm

theorem findsDocumentedKey_of_empty_seen (seen : (seenKeys url).head? = some [])
    (documented : ∀ key ∈ documentedKeys url, key = []) : FindsDocumentedKey url where
  first key others keys notEmpty := by
    apply absurd _ notEmpty
    apply documented
    rw [keys]
    exact List.mem_cons_self
  refused _ := documented
  unmarked _ := refuses_of_empty_seen seen

theorem findsDocumentedKey_of_key_seen {key : List Char} (notEmpty : key ≠ [])
    (seen : (seenKeys url).head? = some key) (documented : ∃ key ∈ documentedKeys url, key ≠ [])
    (agrees : (documentedKeys url).head? = some [] ∨ (documentedKeys url).head? = some key) :
    FindsDocumentedKey url where
  first first others keys firstNotEmpty := by
    rw [keys, List.head?_cons, Option.some.injEq, Option.some.injEq] at agrees
    rw [agrees.resolve_left firstNotEmpty]
    exact fileKey?_of_seen notEmpty seen
  refused refuses := absurd refuses (not_refuses notEmpty seen)
  unmarked empty := by
    rcases documented with ⟨other, member, otherNotEmpty⟩
    exact absurd (empty other member) otherNotEmpty

/-- The first documented key is the one that is found, if there is anything in it. -/
theorem FindsDocumentedKey.head_of_key_seen (finds : FindsDocumentedKey url) {key : List Char}
    (notEmpty : key ≠ []) (seen : (seenKeys url).head? = some key) :
    (∃ documented ∈ documentedKeys url, documented ≠ []) ∧
      ((documentedKeys url).head? = some [] ∨ (documentedKeys url).head? = some key) := by
  have documented : ∃ documented ∈ documentedKeys url, documented ≠ [] := by
    apply Classical.byContradiction
    intro none
    apply not_refuses notEmpty seen
    apply finds.unmarked
    intro other member
    exact Classical.byContradiction fun otherNotEmpty => none ⟨other, member, otherNotEmpty⟩
  refine ⟨documented, ?_⟩
  cases keys : documentedKeys url with
  | nil =>
      rcases documented with ⟨other, member, -⟩
      rw [keys] at member
      cases member
  | cons found others =>
      by_cases isEmpty : found = []
      · exact Or.inl (by rw [isEmpty, List.head?_cons])
      · have isFound := fileKey?_eq_some_iff.mp (finds.first found others keys isEmpty)
        exact Or.inr (by rw [List.head?_cons, ← seen, isFound.2, String.toList_ofList])

/-- The key of an address is the documented one exactly in these cases: no segment with
another behind it ends in a key word; or the first that does has no key behind it, and
neither has any key word; or it has a key behind it, some key word has one too, and the
first key word has the same key or none. -/
theorem findsDocumentedKey_iff (url : String) :
    FindsDocumentedKey url ↔
      ∀ key, (seenKeys url).head? = some key →
        (key = [] → ∀ documented ∈ documentedKeys url, documented = []) ∧
          (key ≠ [] → (∃ documented ∈ documentedKeys url, documented ≠ []) ∧
            ((documentedKeys url).head? = some [] ∨ (documentedKeys url).head? = some key)) := by
  constructor
  · intro finds key seen
    constructor
    · intro isEmpty
      exact finds.refused (refuses_of_empty_seen (isEmpty ▸ seen))
    · intro notEmpty
      exact finds.head_of_key_seen notEmpty seen
  · intro decides
    cases seen : (seenKeys url).head? with
    | none => exact findsDocumentedKey_of_none_seen seen
    | some key =>
        rcases decides key seen with ⟨whenEmpty, whenKey⟩
        by_cases isEmpty : key = []
        · exact findsDocumentedKey_of_empty_seen (isEmpty ▸ seen) (whenEmpty isEmpty)
        · rcases whenKey isEmpty with ⟨documented, agrees⟩
          exact findsDocumentedKey_of_key_seen isEmpty seen documented agrees

/-- A profile is no file, though its address has a segment that ends in a key word. -/
theorem not_findsDocumentedKey_profile : ¬FindsDocumentedKey "https://host/profile/abc" := by
  intro finds
  have noKeys : ∀ key ∈ documentedKeys "https://host/profile/abc", key = [] := by decide
  have seen : (seenKeys "https://host/profile/abc").head? = some "abc".toList := by decide
  exact not_refuses (by decide) seen (finds.unmarked noKeys)

end FileAddress

end Artboard
