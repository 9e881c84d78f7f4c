import Artboard.Proofs.Url.Encoding
import Artboard.Url.Basic

/-!
# What an address asks for

The target of an address is a text.  Up to its first question mark it is a path, whose
segments stand between slashes and may name characters by percent signs with digits; behind
it is a query of names with values.  An address is legible if nothing in its parts is taken
for a mark between them.

Names of letters and figures that are put behind a path are read behind the segments that
the path had, and a pair that is added to a query is read behind the pairs that were
there, whatever its name and its value are.
-/

namespace Artboard
namespace Url

variable {url : Url}

/-! ## Reading an address -/

/-- The name that a written segment stands for. -/
def decodeSegment (written : List Char) : String :=
  String.ofList (Text.ofBytes (percentDecode written))

/-- The names in the path of an address. In front of the first slash there is none. -/
def segments (url : Url) : List String :=
  ((Text.splitAt '/' (Text.cut '?' url.target.toList).1).drop 1).map decodeSegment

/-- The names with values in the query of an address. -/
def pairs (url : Url) : List (String × String) :=
  parameters url.target.toList

/-- A segment in which nothing ends the segment or the path. -/
def IsSegment (written : String) : Prop :=
  ∀ mark ∈ ['/', '?', '#'], mark ∉ written.toList

/-- An address whose parts can be told apart where they are written. -/
structure IsLegible (url : Url) : Prop where
  path : ∀ segment ∈ url.path, IsSegment segment
  query : ∀ query ∈ url.query, '#' ∉ query.toList

/-- The characters that end a segment are not written for bytes, and a slash is the only one
that is not encoded in a path. -/
theorem special_of_mem {mark : Char} (isMark : mark ∈ ['/', '?', '#']) :
    mark ≠ '%' ∧ mark.isAlphanum = false ∧ (inPathSet mark = false → mark = '/') := by
  simp only [List.mem_cons, List.not_mem_nil, or_false] at isMark
  rcases isMark with rfl | rfl | rfl
  · decide
  · decide
  · decide

theorem isSegment_empty : IsSegment "" := by
  intro mark _
  exact List.not_mem_nil

theorem toList_pathText (url : Url) :
    url.pathText.toList = (url.path.map String.toList).flatMap fun text => '/' :: text := by
  rw [pathText, String.toList_join, List.flatMap_map, List.flatMap_map]
  apply congrArg (url.path.flatMap ·)
  funext segment
  rw [String.toList_append]
  rfl

theorem notMem_pathText (legible : url.IsLegible) {mark : Char} (isMark : mark ∈ ['/', '?', '#'])
    (notSlash : mark ≠ '/') : mark ∉ url.pathText.toList := by
  rw [toList_pathText]
  intro member
  rcases List.mem_flatMap.mp member with ⟨text, isText, inText⟩
  rcases List.mem_map.mp isText with ⟨segment, inPath, rfl⟩
  rcases List.mem_cons.mp inText with isSlash | inSegment
  · exact notSlash isSlash
  · exact legible.path segment inPath mark isMark inSegment

theorem splitAt_pathText (legible : url.IsLegible) :
    Text.splitAt '/' url.pathText.toList = [] :: url.path.map String.toList := by
  have absent : ∀ text ∈ url.path.map String.toList, '/' ∉ text := by
    intro text isText
    rcases List.mem_map.mp isText with ⟨segment, inPath, rfl⟩
    exact legible.path segment inPath '/' (by decide)
  rw [toList_pathText]
  exact Text.splitAt_append_flatMap List.not_mem_nil absent

theorem toList_target (url : Url) :
    url.target.toList = url.pathText.toList ++ (marked "?" url.query).toList :=
  String.toList_append

theorem takeWhile_marked (query : Option String) :
    (marked "?" query).toList.takeWhile (· != '?') = [] := by
  cases query with
  | none => rfl
  | some query =>
      rw [marked, String.toList_append]
      rfl

/-- The segments of a legible address are read one by one. -/
theorem segments_eq (legible : url.IsLegible) :
    url.segments = url.path.map fun segment => decodeSegment segment.toList := by
  have noMark : '?' ∉ url.pathText.toList := notMem_pathText legible (by decide) (by decide)
  rw [segments, toList_target, Text.cut_fst, Text.takeWhile_append_of_notMem noMark,
    takeWhile_marked, List.append_nil, splitAt_pathText legible, List.drop_one, List.tail_cons,
    List.map_map]
  rfl

/-- The pairs of a legible address are those of its query. -/
theorem pairs_eq (legible : url.IsLegible) :
    url.pairs = (url.query.map fun query => formPairs query.toList).getD [] := by
  have noMark : '?' ∉ url.pathText.toList := notMem_pathText legible (by decide) (by decide)
  have noSign : '#' ∉ url.pathText.toList := notMem_pathText legible (by decide) (by decide)
  rw [pairs, toList_target]
  cases asked : url.query with
  | none =>
      rw [marked, String.toList_empty, List.append_nil]
      exact parameters_of_notMem noMark noSign
  | some query =>
      have written : (marked "?" (some query)).toList = '?' :: query.toList := by
        rw [marked, String.toList_append]
        rfl
      have whole := Text.takeWhile_of_notMem (legible.query query asked)
      rw [written, parameters_append noMark noSign, whole]
      rfl

/-! ## Empty segments -/

theorem decodeFrom_ne_nil_of_some (pending : Text.PartialChar) (bytes : List UInt8) :
    Text.decodeFrom (some pending) bytes ≠ [] := by
  induction bytes generalizing pending with
  | nil => exact List.cons_ne_nil _ _
  | cons byte rest inductionHypothesis =>
      by_cases continues : pending.lowest ≤ byte.toNat ∧ byte.toNat ≤ pending.highest
      · rw [Text.decodeFrom_continued continues]
        split
        · exact List.cons_ne_nil _ _
        · exact inductionHypothesis _
      · rw [Text.decodeFrom_refused continues]
        exact List.cons_ne_nil _ _

/-- Bytes are never read as nothing. -/
theorem ofBytes_ne_nil {bytes : List UInt8} (notEmpty : bytes ≠ []) : Text.ofBytes bytes ≠ [] := by
  rcases List.exists_cons_of_ne_nil notEmpty with ⟨byte, rest, rfl⟩
  rw [Text.ofBytes, Text.decodeFrom_none]
  split
  · exact List.cons_ne_nil _ _
  · exact decodeFrom_ne_nil_of_some _ _
  · exact List.cons_ne_nil _ _

theorem percentDecode_ne_nil {text : List Char} (notEmpty : text ≠ []) : percentDecode text ≠ [] := by
  rcases List.exists_cons_of_ne_nil notEmpty with ⟨c, rest, rfl⟩
  cases begins : beginsEscape (c :: rest) with
  | true =>
      rcases exists_of_beginsEscape begins with ⟨a, b, high, low, others, written, first, second⟩
      rw [written, percentDecode_escape first second]
      exact List.cons_ne_nil _ _
  | false =>
      rcases Text.exists_head_utf8EncodeChar c with ⟨byte, others, bytes, -⟩
      rw [percentDecode_plain begins, bytes]
      exact List.cons_ne_nil _ _

/-- Only the empty segment names nothing. -/
theorem decodeSegment_eq_empty_iff {segment : String} :
    decodeSegment segment.toList = "" ↔ segment = "" := by
  constructor
  · intro decoded
    cases letters : segment.toList with
    | nil => exact String.toList_eq_nil_iff.mp letters
    | cons c rest =>
        rw [letters] at decoded
        have isNil := congrArg String.toList decoded
        rw [decodeSegment, String.toList_ofList] at isNil
        exact absurd isNil (ofBytes_ne_nil (percentDecode_ne_nil (List.cons_ne_nil c rest)))
  · rintro rfl
    rfl

/-! ## Names of letters and figures -/

/-- A name that means nothing but itself in a path. -/
def IsName (name : String) : Prop :=
  name ≠ "" ∧ ∀ c ∈ name.toList, c.isAlphanum = true

theorem isName_of_all {name : String} (notEmpty : name ≠ "")
    (all : name.toList.all Char.isAlphanum = true) : IsName name :=
  ⟨notEmpty, List.all_eq_true.mp all⟩

theorem isAscii_of_isAlphanum {c : Char} (alphanum : c.isAlphanum = true) : c.toNat < 128 := by
  have below : ∀ last : Char, last.toNat < 128 → c.val ≤ last.val → c.toNat < 128 :=
    fun last ascii high => Nat.lt_of_le_of_lt (UInt32.le_iff_toNat_le.mp high) ascii
  rcases Bool.or_eq_true_iff.mp alphanum with isLetter | isFigure
  · rcases Bool.or_eq_true_iff.mp isLetter with isUpper | isLower
    · have range : 'A'.val ≤ c.val ∧ c.val ≤ 'Z'.val := of_decide_eq_true isUpper
      exact below 'Z' (by decide) range.2
    · have range : decide ('a'.val ≤ c.val) = true ∧ decide (c.val ≤ 'z'.val) = true :=
        Bool.and_eq_true_iff.mp isLower
      exact below 'z' (by decide) (of_decide_eq_true range.2)
  · have range : decide ('0'.val ≤ c.val) = true ∧ decide (c.val ≤ '9'.val) = true :=
      Bool.and_eq_true_iff.mp isFigure
    exact below '9' (by decide) (of_decide_eq_true range.2)

theorem inSpecialSegmentSet_of_isAlphanum {c : Char} (alphanum : c.isAlphanum = true) :
    inSpecialSegmentSet c = false := by
  have ascii : ∀ n < 128, (Char.ofNat n).isAlphanum = true →
      inSpecialSegmentSet (Char.ofNat n) = false := by decide
  have written := Char.ofNat_toNat c
  rw [← written] at alphanum ⊢
  exact ascii c.toNat (isAscii_of_isAlphanum (written ▸ alphanum)) alphanum

theorem inSegmentSet_of_isAlphanum {c : Char} (alphanum : c.isAlphanum = true) :
    inSegmentSet c = false :=
  (Bool.or_eq_false_iff.mp (inSpecialSegmentSet_of_isAlphanum alphanum)).1

theorem isLost_of_isAlphanum {c : Char} (alphanum : c.isAlphanum = true) : isLost c = false := by
  have apart : ∀ mark, mark.isAlphanum = false → (c == mark) = false := by
    rintro mark notAlphanum
    apply beq_eq_false_iff_ne.mpr
    rintro rfl
    rw [alphanum] at notAlphanum
    cases notAlphanum
  rw [isLost, apart _ (by decide), apart _ (by decide), apart _ (by decide)]
  rfl

variable {name : String}

theorem IsName.isSegment (plain : IsName name) : IsSegment name := by
  intro mark isMark member
  have alphanum := plain.2 mark member
  rw [(special_of_mem isMark).2.1] at alphanum
  cases alphanum

/-- A name is written as it is. -/
theorem encodeSegment_of_isName (plain : IsName name) (scheme : String) :
    encodeSegment scheme name = name := by
  have kept : name.toList.filter (!isLost ·) = name.toList := by
    apply List.filter_eq_self.mpr
    intro c member
    rw [isLost_of_isAlphanum (plain.2 c member)]
    rfl
  rw [encodeSegment, kept]
  split
  · have whole := percentEncode_of_forall fun c member =>
      inSpecialSegmentSet_of_isAlphanum (plain.2 c member)
    rw [whole, String.ofList_toList]
  · have whole := percentEncode_of_forall fun c member =>
      inSegmentSet_of_isAlphanum (plain.2 c member)
    rw [whole, String.ofList_toList]

/-- A name is read as it is. -/
theorem decodeSegment_of_isName (plain : IsName name) : decodeSegment name.toList = name := by
  have noPercent : '%' ∉ name.toList := fun member => absurd (plain.2 '%' member) (by decide)
  rw [decodeSegment, percentDecode_of_notMem noPercent, Text.ofBytes_toBytes,
    String.ofList_toList]

theorem ne_dots_of_isName (plain : IsName name) : name ≠ "." ∧ name ≠ ".." := by
  constructor
  · rintro rfl
    exact absurd (plain.2 '.' (by decide)) (by decide)
  · rintro rfl
    exact absurd (plain.2 '.' (by decide)) (by decide)

theorem pushSegment_of_isName (plain : IsName name) (scheme : String) (path : List String) :
    pushSegment scheme path name = (if path = [""] then [] else path) ++ [name] := by
  rcases ne_dots_of_isName plain with ⟨notDot, notDots⟩
  simp only [pushSegment, encodeSegment_of_isName plain, beq_iff_eq, notDot, notDots,
    Bool.or_eq_true, or_self, if_false]

/-! ## Longer paths -/

/-- A list of names without an empty one at its end. -/
def withoutLastEmpty (names : List String) : List String :=
  if names.getLast? = some "" then names.dropLast else names

theorem foldl_pushSegment {names : List String} (plain : ∀ name ∈ names, IsName name)
    (scheme : String) {path : List String} (filled : path ≠ [""]) :
    names.foldl (pushSegment scheme) path = path ++ names := by
  induction names generalizing path with
  | nil => exact (List.append_nil path).symm
  | cons name names inductionHypothesis =>
      rcases List.forall_mem_cons.mp plain with ⟨first, others⟩
      have filledLater : path ++ [name] ≠ [""] := by
        intro isEmpty
        have last := congrArg List.getLast? isEmpty
        rw [List.getLast?_concat] at last
        exact first.1 (Option.some.inj last)
      rw [List.foldl_cons, pushSegment_of_isName first, if_neg filled,
        inductionHypothesis others filledLater, List.append_assoc, List.singleton_append]

/-- The path that is nothing but one empty segment is replaced by the first name. -/
theorem foldl_pushSegment_cons {names : List String} (plain : ∀ name ∈ names, IsName name)
    (notEmpty : names ≠ []) (scheme : String) (path : List String) :
    names.foldl (pushSegment scheme) path = (if path = [""] then [] else path) ++ names := by
  by_cases isEmpty : path = [""]
  · rcases List.exists_cons_of_ne_nil notEmpty with ⟨name, others, rfl⟩
    have fresh : (name :: others).foldl (pushSegment scheme) [] = [] ++ name :: others :=
      foldl_pushSegment plain scheme (List.cons_ne_nil "" []).symm
    rw [List.foldl_cons, pushSegment_of_isName (plain name List.mem_cons_self)] at fresh ⊢
    rw [if_pos isEmpty]
    exact fresh
  · rw [if_neg isEmpty]
    exact foldl_pushSegment plain scheme isEmpty

theorem dropTrailingSlash_of_length {path : List String} (long : 1 < path.length) :
    dropTrailingSlash path = withoutLastEmpty path := by
  simp only [dropTrailingSlash, withoutLastEmpty, long, decide_true, Bool.true_and, beq_iff_eq]

theorem dropTrailingSlash_eq {path : List String} (roomy : path ≠ ["", ""]) :
    (if dropTrailingSlash path = [""] then [] else dropTrailingSlash path) =
      withoutLastEmpty path := by
  rcases path with _ | ⟨first, _ | ⟨second, others⟩⟩
  · rfl
  · by_cases isEmpty : first = ""
    · rw [isEmpty]
      rfl
    · simp [dropTrailingSlash, withoutLastEmpty, isEmpty]
  · have kept : withoutLastEmpty (first :: second :: others) ≠ [""] := by
      intro isEmpty
      unfold withoutLastEmpty at isEmpty
      split at isEmpty
      · next last =>
          rcases List.getLast?_eq_some_iff.mp last with ⟨front, whole⟩
          rw [whole, List.dropLast_concat] at isEmpty
          rw [isEmpty] at whole
          exact roomy whole
      · exact List.cons_ne_nil _ _ (List.cons.inj isEmpty).2
    rw [dropTrailingSlash_of_length (by simp), if_neg kept]

/-- Names take the place of an empty last segment or follow what is there, unless the path is
nothing but two slashes. -/
theorem path_extend {names : List String} (plain : ∀ name ∈ names, IsName name)
    (notEmpty : names ≠ []) (roomy : url.path ≠ ["", ""]) :
    (url.extend names).path = withoutLastEmpty url.path ++ names := by
  rw [extend, foldl_pushSegment_cons plain notEmpty, dropTrailingSlash_eq roomy]

/-- An address without a path, if its path is nothing but two slashes. -/
def opened (url : Url) : Url :=
  if url.path = ["", ""] then { url with path := [] } else url

theorem path_opened_ne (url : Url) : url.opened.path ≠ ["", ""] := by
  unfold opened
  split_ifs with slashes
  · exact (List.cons_ne_nil _ _).symm
  · exact slashes

theorem opened_of_ne (roomy : url.path ≠ ["", ""]) : url.opened = url := if_neg roomy

/-- Names are put behind two slashes as if nothing was there. -/
theorem extend_opened {names : List String} (plain : ∀ name ∈ names, IsName name)
    (notEmpty : names ≠ []) : url.opened.extend names = url.extend names := by
  by_cases slashes : url.path = ["", ""]
  · have alone : dropTrailingSlash ["", ""] = [""] := rfl
    have nothing : dropTrailingSlash [] = [] := rfl
    rw [opened, if_pos slashes, extend, extend, foldl_pushSegment_cons plain notEmpty,
      foldl_pushSegment_cons plain notEmpty, slashes, alone, nothing, if_pos rfl,
      if_neg (List.cons_ne_nil _ _).symm]
  · rw [opened_of_ne slashes]

theorem mem_withoutLastEmpty {names : List String} {name : String}
    (member : name ∈ withoutLastEmpty names) : name ∈ names := by
  unfold withoutLastEmpty at member
  split at member
  · exact List.dropLast_subset names member
  · exact member

/-- An empty name stands for an empty segment, so it is dropped on both sides. -/
theorem map_withoutLastEmpty (path : List String) :
    (withoutLastEmpty path).map (fun segment => decodeSegment segment.toList) =
      withoutLastEmpty (path.map fun segment => decodeSegment segment.toList) := by
  have same : (path.map fun segment => decodeSegment segment.toList).getLast? = some "" ↔
      path.getLast? = some "" := by
    rw [List.getLast?_map, Option.map_eq_some_iff]
    simp only [decodeSegment_eq_empty_iff, exists_eq_right]
  by_cases last : path.getLast? = some ""
  · rw [withoutLastEmpty, if_pos last, withoutLastEmpty, if_pos (same.mpr last), List.map_dropLast]
  · rw [withoutLastEmpty, if_neg last, withoutLastEmpty, if_neg (mt same.mp last)]

/-! ## Extended addresses -/

variable {names : List String}

theorem path_ne_of_filled (legible : url.IsLegible)
    (filled : ∀ segment ∈ url.segments.dropLast, segment ≠ "") : url.path ≠ ["", ""] := by
  intro slashes
  rw [segments_eq legible, slashes] at filled
  exact filled _ List.mem_cons_self (decodeSegment_eq_empty_iff.mpr rfl)

theorem isLegible_opened (legible : url.IsLegible) : url.opened.IsLegible := by
  unfold opened
  split_ifs with slashes
  · exact ⟨fun _ member => absurd member List.not_mem_nil, legible.query⟩
  · exact legible

theorem isLegible_extend (legible : url.IsLegible) (plain : ∀ name ∈ names, IsName name)
    (notEmpty : names ≠ []) (roomy : url.path ≠ ["", ""]) : (url.extend names).IsLegible := by
  constructor
  · intro segment member
    rw [path_extend plain notEmpty roomy] at member
    rcases List.mem_append.mp member with inPath | isName
    · exact legible.path segment (mem_withoutLastEmpty inPath)
    · exact (plain segment isName).isSegment
  · exact legible.query

theorem segments_extend (legible : url.IsLegible) (plain : ∀ name ∈ names, IsName name)
    (notEmpty : names ≠ []) (roomy : url.path ≠ ["", ""]) :
    (url.extend names).segments = withoutLastEmpty url.segments ++ names := by
  have same : names.map (fun name => decodeSegment name.toList) = names := by
    rw [List.map_congr_left fun name member => decodeSegment_of_isName (plain name member),
      List.map_id']
  rw [segments_eq (isLegible_extend legible plain notEmpty roomy),
    path_extend plain notEmpty roomy, List.map_append, map_withoutLastEmpty, same,
    segments_eq legible]

theorem pairs_extend (legible : url.IsLegible) (plain : ∀ name ∈ names, IsName name)
    (notEmpty : names ≠ []) (roomy : url.path ≠ ["", ""]) :
    (url.extend names).pairs = url.pairs := by
  rw [pairs_eq (isLegible_extend legible plain notEmpty roomy), pairs_eq legible]
  rfl

/-- A pair makes up the query or follows an ampersand in it. -/
theorem exists_query_addPair (url : Url) (name value : String) :
    ∃ query, (url.addPair name value).query = some query ∧
      ((url.query.getD "" = "" ∧ query.toList = formPair name value) ∨
        ∃ before, url.query = some before ∧
          query.toList = before.toList ++ '&' :: formPair name value) := by
  have pair : (String.ofList (formPair name value)).toList = formPair name value :=
    String.toList_ofList
  rw [addPair]
  cases url.query with
  | none => exact ⟨_, rfl, Or.inl ⟨rfl, pair⟩⟩
  | some before =>
      refine ⟨_, rfl, ?_⟩
      by_cases isEmpty : before.isEmpty = true
      · rw [if_pos isEmpty]
        exact Or.inl ⟨String.isEmpty_iff.mp isEmpty, pair⟩
      · rw [if_neg isEmpty, String.toList_append, String.toList_append, pair, List.append_assoc]
        exact Or.inr ⟨before, rfl, rfl⟩

theorem isLegible_addPair (legible : url.IsLegible) (name value : String) :
    (url.addPair name value).IsLegible := by
  have noSign : '#' ∉ formPair name value :=
    notMem_formPair (by decide) (by decide) (by decide) (by decide) name value
  rcases exists_query_addPair url name value with ⟨query, asked, ⟨-, alone⟩ | ⟨before, was, behind⟩⟩
  · refine ⟨legible.path, ?_⟩
    rw [asked]
    rintro _ ⟨⟩
    rwa [alone]
  · refine ⟨legible.path, ?_⟩
    rw [asked]
    rintro _ ⟨⟩
    rw [behind, List.mem_append, List.mem_cons]
    rintro (inBefore | isAmpersand | inPair)
    · exact legible.query before was inBefore
    · cases isAmpersand
    · exact noSign inPair

/-- The segments of an address do not depend on its query. -/
theorem segments_addPair (legible : url.IsLegible) (name value : String) :
    (url.addPair name value).segments = url.segments := by
  rw [segments_eq (isLegible_addPair legible name value), segments_eq legible]
  rfl

theorem pairs_addPair (legible : url.IsLegible) (name value : String) :
    (url.addPair name value).pairs = url.pairs ++ [(name, value)] := by
  rw [pairs_eq (isLegible_addPair legible name value), pairs_eq legible]
  rcases exists_query_addPair url name value with
    ⟨query, asked, ⟨isEmpty, alone⟩ | ⟨before, was, behind⟩⟩
  · have noPairs : (url.query.map fun query => formPairs query.toList).getD [] = [] := by
      cases was : url.query with
      | none => rfl
      | some before =>
          rw [was, Option.getD_some] at isEmpty
          rw [isEmpty]
          rfl
    rw [asked, noPairs, Option.map_some, Option.getD_some, alone, formPairs_formPair,
      List.nil_append]
  · rw [asked, was, Option.map_some, Option.getD_some, Option.map_some, Option.getD_some, behind,
      formPairs_append_ampersand, formPairs_formPair]

end Url
end Artboard
