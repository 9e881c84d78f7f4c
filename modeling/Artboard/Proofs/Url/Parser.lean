import Artboard.Proofs.Url.Segments
import Artboard.Url.Parser

/-!
# Addresses that were read are legible

A path is split at its slashes before anything else happens to it, and question marks and
number signs are encoded in its segments.  What is done to the segments afterwards leaves
some of them out and puts empty ones in, and a drive gets its colon.  A query ends before
the number sign, or that sign is encoded in it.
-/

namespace Artboard
namespace Url

theorem exists_of_bind_eq_ok {first : Except ε α} {next : α → Except ε β} {value : β}
    (done : (first >>= next) = .ok value) :
    ∃ between, first = .ok between ∧ next between = .ok value := by
  cases first with
  | error error => cases done
  | ok between => exact ⟨between, rfl, done⟩

/-! ## Segments -/

theorem slash_notMem_splitSlashes {special : Bool} {text piece : List Char}
    (member : piece ∈ splitSlashes special text) : '/' ∉ piece := by
  induction text generalizing piece with
  | nil =>
      rw [splitSlashes, List.mem_singleton] at member
      rw [member]
      exact List.not_mem_nil
  | cons c rest inductionHypothesis =>
      rw [splitSlashes] at member
      split at member
      · rcases List.mem_cons.mp member with isNil | later
        · rw [isNil]
          exact List.not_mem_nil
        · exact inductionHypothesis later
      · rename_i notSlash
        have different : '/' ≠ c := by
          rintro rfl
          exact notSlash rfl
        split at member
        · rename_i first others pieces
          have absent : '/' ∉ first := by
            apply inductionHypothesis
            rw [pieces]
            exact List.mem_cons_self
          rcases List.mem_cons.mp member with isFirst | later
          · rw [isFirst, List.mem_cons]
            exact not_or.mpr ⟨different, absent⟩
          · apply inductionHypothesis
            rw [pieces]
            exact List.mem_cons_of_mem first later
        · rw [List.mem_singleton.mp member, List.mem_singleton]
          exact different

theorem isSegment_percentEncode {piece : List Char} (noSlash : '/' ∉ piece) :
    IsSegment (String.ofList (percentEncode inPathSet piece)) := by
  intro mark isMark member
  rcases special_of_mem isMark with ⟨notPercent, notAlphanum, onlySlash⟩
  rw [String.toList_ofList] at member
  rcases mem_percentEncode member with isPercent | alphanum | ⟨inPiece, plain⟩
  · exact notPercent isPercent
  · rw [notAlphanum] at alphanum
    cases alphanum
  · rw [onlySlash plain] at inPiece
    exact noSlash inPiece

theorem leaveSegment_subset {path : List String} {segment : String}
    (member : segment ∈ leaveSegment path) : segment ∈ path := by
  unfold leaveSegment at member
  split at member
  · exact member
  · exact List.dropLast_subset path member

/-- Following segments adds them and empty ones. -/
theorem isSegment_followSegments {path segments : List String}
    (before : ∀ segment ∈ path, IsSegment segment)
    (added : ∀ segment ∈ segments, IsSegment segment) :
    ∀ segment ∈ followSegments path segments, IsSegment segment := by
  induction segments generalizing path with
  | nil => exact before
  | cons next others inductionHypothesis =>
      rcases List.forall_mem_cons.mp added with ⟨first, later⟩
      have withEmpty : ∀ path : List String, (∀ segment ∈ path, IsSegment segment) →
          ∀ segment ∈ path ++ [""], IsSegment segment := by
        intro path all
        exact List.forall_mem_append.mpr ⟨all, List.forall_mem_singleton.mpr isSegment_empty⟩
      have left : ∀ segment ∈ leaveSegment path, IsSegment segment := fun segment member =>
        before segment (leaveSegment_subset member)
      rw [followSegments]
      dsimp only
      split
      · split
        · exact withEmpty _ left
        · exact inductionHypothesis left later
      · split
        · split
          · exact withEmpty _ before
          · exact inductionHypothesis before later
        · apply inductionHypothesis _ later
          exact List.forall_mem_append.mpr ⟨before, List.forall_mem_singleton.mpr first⟩

theorem isSegment_readPath (special : Bool) (text : List Char) :
    ∀ segment ∈ readPath special text, IsSegment segment := by
  apply isSegment_followSegments
  · exact List.forall_mem_nil _
  · intro segment member
    rcases List.mem_map.mp member with ⟨piece, isPiece, rfl⟩
    exact isSegment_percentEncode (slash_notMem_splitSlashes isPiece)

theorem isSegment_readOtherPath (text : List Char) :
    ∀ segment ∈ readOtherPath text, IsSegment segment := by
  unfold readOtherPath
  split
  · exact List.forall_mem_nil _
  · exact isSegment_readPath false _
  · exact isSegment_readPath false _

theorem isSegment_dropLeadingSlashes {path : List String}
    (all : ∀ segment ∈ path, IsSegment segment) :
    ∀ segment ∈ dropLeadingSlashes path, IsSegment segment := by
  unfold dropLeadingSlashes
  dsimp only
  split
  · exact List.forall_mem_singleton.mpr isSegment_empty
  · intro segment member
    exact all segment (List.dropWhile_subset _ member)

/-! ## Local files -/

theorem isSegment_localFile (host : Host) {path : List String}
    (all : ∀ segment ∈ path, IsSegment segment) :
    ∀ segment ∈ (localFile host path).path, IsSegment segment := by
  unfold localFile
  split
  · exact isSegment_dropLeadingSlashes all
  · rename_i letter mark _ begins
    split
    · rcases Option.map_eq_some_iff.mp begins with ⟨drive, isHead, letters⟩
      have isSegment := all drive (List.mem_of_mem_head? isHead)
      refine List.forall_mem_cons.mpr ⟨?_, ?_⟩
      · intro mark isMark member
        rw [String.toList_ofList] at member
        rcases List.mem_cons.mp member with isLetter | member
        · apply isSegment mark isMark
          rw [letters, isLetter]
          exact List.mem_cons_self
        · rw [List.mem_singleton.mp member] at isMark
          exact absurd isMark (by decide)
      · intro segment member
        exact all segment (List.mem_of_mem_tail member)
    · exact isSegment_dropLeadingSlashes all
  · exact isSegment_dropLeadingSlashes all

theorem isSegment_readFile {text : List Char} {url : Url} (read : readFile text = .ok url) :
    ∀ segment ∈ url.path, IsSegment segment := by
  have ofPath : ∀ host text, localFile host (readPath true text) = url →
      ∀ segment ∈ url.path, IsSegment segment := by
    rintro host text rfl
    exact isSegment_localFile host (isSegment_readPath true text)
  unfold readFile at read
  split at read
  · rename_i a b rest
    dsimp only at read
    split at read
    · split at read
      · exact ofPath _ _ (Except.ok.inj read)
      · rcases exists_of_bind_eq_ok read with ⟨host, -, located⟩
        exact ofPath _ _ (Except.ok.inj located)
    · split at read
      · exact ofPath _ _ (Except.ok.inj read)
      · exact ofPath _ _ (Except.ok.inj read)
  · exact ofPath _ _ (Except.ok.inj read)
  · rw [← Except.ok.inj read]
    exact isSegment_localFile _ (List.forall_mem_singleton.mpr isSegment_empty)

/-! ## Whole addresses -/

theorem path_assemble (scheme : String) (authority : Option Authority) (path : List String) :
    (assemble scheme authority path).path = path :=
  rfl

theorem isSegment_readHierarchy {scheme : String} {isLast : Bool} {text : List Char} {url : Url}
    (read : readHierarchy scheme isLast text = .ok url) :
    ∀ segment ∈ url.path, IsSegment segment := by
  unfold readHierarchy at read
  split at read
  · exact isSegment_readFile read
  · split at read
    · rcases exists_of_bind_eq_ok read with ⟨⟨authority, left⟩, -, located⟩
      rw [← Except.ok.inj located, path_assemble]
      exact isSegment_readPath true _
    · split at read
      · rcases exists_of_bind_eq_ok read with ⟨⟨authority, left⟩, -, located⟩
        rw [← Except.ok.inj located, path_assemble]
        exact isSegment_readOtherPath _
      · rw [← Except.ok.inj read, path_assemble]
        exact isSegment_readOtherPath _
      · cases read

theorem sign_notMem_query {scheme : String} (text : List Char) :
    '#' ∉ percentEncode (if isSpecial scheme then inSpecialQuerySet else inQuerySet) text := by
  intro member
  rcases mem_percentEncode member with isPercent | alphanum | ⟨-, plain⟩
  · exact absurd isPercent (by decide)
  · exact absurd alphanum (by decide)
  · split at plain
    · exact absurd plain (by decide)
    · exact absurd plain (by decide)

theorem isLegible_of_parse {text : String} {url : Url} (parsed : parse text = .ok url) :
    url.IsLegible := by
  unfold parse at parsed
  split at parsed
  · cases parsed
  · rcases exists_of_bind_eq_ok parsed with ⟨located, read, completed⟩
    have path := isSegment_readHierarchy read
    rw [← Except.ok.inj completed]
    refine ⟨path, ?_⟩
    intro query asked
    rcases Option.map_eq_some_iff.mp asked with ⟨written, -, rfl⟩
    rw [String.toList_ofList]
    exact sign_notMem_query written

end Url
end Artboard
