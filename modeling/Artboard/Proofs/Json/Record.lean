import Artboard.Json.Choice
import Artboard.Json.Record
import Artboard.Proofs.Json.Skip

/-!
# Reading choices and records

Choices are read exactly, and so are records when their fields are.  A record in object
form means what its members come to, one after the other.
-/

namespace Artboard
namespace Json

/-! ## Choices -/

namespace Choice

/-- The value that a source names, as a text or as the only key of an object. -/
def named? (choice : Choice α) : Nat → Source → Option α
  | _, .text pieces => (said? pieces).bind choice.find?
  | _ + 1, .object _ [(label, .null)] => (said? label.key).bind choice.find?
  | _, _ => none

theorem attempt_readName (choice : Choice α) (pieces : List Piece) (rest : List Char) :
    attempt choice.readName (renderQuoted pieces ++ rest) =
      ((said? pieces).bind choice.find?).map fun value => (value, rest) := by
  rw [readName, attempt_bind, attempt_quotedText]
  cases said? pieces with
  | none => rfl
  | some name =>
      simp only [Option.map_some, Option.bind_some]
      cases choice.find? name <;> rfl

/-- An object is read for its only member. -/
theorem attempt_readObject (choice : Choice α) (budget : Nat) (blank : Gap)
    (members : List (Label × Source)) (rest : List Char) :
    attempt choice.readObject (blank.chars ++ (Source.renderMembers true members ++ rest)) =
      (choice.named? (budget + 1) (.object blank members)).map fun value => (value, rest) := by
  match members with
  | [] => simp [readObject, Source.renderMembers, attempt_moreMembers_nil, named?]
  | (label, value) :: members =>
      have null := reads_readNull value label.frame.before
        (label.frame.after.chars ++ (Source.renderMembers false members ++ rest))
        (label.frame.after.delimits (Source.delimits_renderMembers members rest))
      simp only [readObject, Source.renderMembers, List.append_assoc, List.cons_append,
        attempt_bind, attempt_moreMembers_cons, Option.bind_some, Bool.not_true,
        Bool.false_eq_true, if_false, attempt_readName]
      cases found : (said? label.key).bind choice.find? with
      | none => cases value <;> cases members <;> simp [named?, found]
      | some choice =>
          simp only [Option.map_some, Option.bind_some, attempt_readColon, null]
          cases value with
          | null =>
              cases members <;>
                simp [Source.unit?, named?, found, Source.renderMembers, isGap]
          | _ => simp [Source.unit?, named?]

theorem reads_read (choice : Choice α) (budget : Nat) (source : Source) :
    Reads (choice.read budget) source (choice.named? budget source) := by
  intro gap rest delimits
  rw [Choice.read, attempt_peekToken_bind]
  cases source with
  | bool value => cases value <;> simp [named?]
  | number written =>
      obtain ⟨c, text, parts, leads⟩ := exists_lead_number written
      simp [named?, parts, leads]
  | text pieces => exact choice.attempt_readName pieces rest
  | object blank members =>
      cases budget with
      | zero => simp [named?, inside]
      | succ budget =>
          simpa [inside] using choice.attempt_readObject budget blank members rest
  | _ => simp [named?]

end Choice

/-! ## Records -/

namespace Record

variable {α : Type} (fields : List (RecordField α)) (budget : Nat)

/-- Continue the fields found with those of one more member. A field may not be found
twice. -/
def stepFound (key : String) (found : Found α) (value : Source) : Option (Found α) :=
  match fields.find? (·.name == key) with
  | none => some found
  | some field =>
    if (found.lookup key).isSome then none
    else (meaning? (field.read budget) value).map fun change => found ++ [(key, change)]

@[simp] theorem attempt_failClosingObject (cause : Cause) (text : List Char) :
    attempt (failClosingObject cause : Reader α) text = none := by
  simp only [failClosingObject, attempt_bind, attempt_peekToken, Option.bind_some]
  split <;> rfl

theorem readsMembers_readMember (exact : ∀ field ∈ fields, IsExact (field.read budget)) :
    ReadsMembers (readMember fields budget) (stepFound fields budget) := by
  intro key found behind before value rest delimits
  rw [readMember, stepFound]
  cases search : fields.find? (·.name == key) with
  | none =>
      simp [attempt_readColon, attempt_skipValue value before rest delimits]
  | some field =>
      by_cases again : (found.lookup key).isSome = true
      · simp [again]
      · have here := exact field (List.mem_of_find?_eq_some search) value before rest delimits
        simp only [again, Bool.false_eq_true, if_false, attempt_bind, attempt_readColon,
          Option.bind_some, here]
        cases meaning? (field.read budget) value <;> rfl

/-- A record in object form means what its members come to. -/
theorem attempt_readObject (kind : Record α)
    (exact : ∀ field ∈ kind.fields, IsExact (field.read budget)) (blank : Gap)
    (members : List (Label × Source)) (rest : List Char) :
    attempt (kind.readObject budget)
        (blank.chars ++ (Source.renderMembers true members ++ rest)) =
      ((members.foldlM (stepMember (stepFound kind.fields budget)) []).bind fun found =>
        (assemble found kind.fields kind.blank).toOption).map fun value => (value, rest) := by
  have inner := attempt_readMembers (readsMembers_readMember kind.fields budget exact) members
    true [] blank rest (' ' :: (blank.chars ++ (Source.renderMembers true members ++ rest)))
    (by
      have := length_renderMembers true members
      simp only [List.length_cons, List.length_append]
      omega)
  rw [readObject, attempt_bind, attempt_get, Option.bind_some, attempt_bind, inner]
  cases members.foldlM (stepMember (stepFound kind.fields budget)) [] with
  | none => rfl
  | some found =>
      simp only [Option.map_some, Option.bind_some]
      cases assemble found kind.fields kind.blank <;> rfl

theorem attempt_closeList (items : List (Frame × Source)) (isFirst : Bool) (gap : Gap)
    (rest : List Char) :
    attempt closeList (gap.chars ++ (Source.renderItems isFirst items ++ rest)) =
      if items = [] then some ((), rest) else none := by
  rcases items with _ | ⟨⟨frame, value⟩, items⟩
  · simp [closeList, Source.renderItems, isGap]
  · obtain ⟨c, text, parts, notGap, notComma, notCloser, -⟩ := value.exists_lead
    cases isFirst with
    | true => simp [closeList, Source.renderItems, parts, notGap]
    | false =>
        simp only [closeList, Source.renderItems, separator_false, List.cons_append,
          List.nil_append, attempt_bind, attempt_peekToken, dropWhile_gap, Option.bind_some]
        simp [isGap.eq_1 ',', parts, notGap, notCloser]

/-- What a record in list form comes to depends on the items alone. -/
theorem exists_readFields (kind : Record α) (fields : List (RecordField α))
    (exact : ∀ field ∈ fields, IsExact (field.read budget)) (index : Nat)
    (items : List (Frame × Source)) (isFirst : Bool) (record : α) :
    ∃ meaning : Option α, ∀ (gap : Gap) (rest : List Char),
      attempt (kind.readFields budget index fields isFirst record)
          (gap.chars ++ (Source.renderItems isFirst items ++ rest)) =
        meaning.map fun value => (value, rest) := by
  induction fields generalizing index items isFirst record with
  | nil =>
      refine ⟨if items = [] then some record else none, fun gap rest => ?_⟩
      rw [readFields, attempt_bind, attempt_closeList]
      split <;> rfl
  | cons field fields inductionHypothesis =>
      have exactFields := fun other member => exact other (List.mem_cons_of_mem field member)
      rcases items with _ | ⟨⟨frame, value⟩, items⟩
      · obtain ⟨meaning, further⟩ :=
          inductionHypothesis exactFields (index + 1) [] isFirst record
        refine ⟨if field.required then none else meaning, fun gap rest => ?_⟩
        have behind := further noGap rest
        rw [chars_noGap, List.nil_append] at behind
        rw [readFields, attempt_bind, Source.renderItems, List.singleton_append,
          attempt_moreItems_nil, Option.bind_some]
        cases field.required with
        | true => rfl
        | false => exact behind
      · have here := fun rest => exact field List.mem_cons_self value noGap
          (frame.after.chars ++ (Source.renderItems false items ++ rest))
          (frame.after.delimits (Source.delimits_renderItems items rest))
        cases read : meaning? (field.read budget) value with
        | none =>
            refine ⟨none, fun gap rest => ?_⟩
            simp only [chars_noGap, List.nil_append, read] at here
            simp [readFields, Source.renderItems, attempt_moreItems_cons, here]
        | some change =>
            obtain ⟨meaning, further⟩ :=
              inductionHypothesis exactFields (index + 1) items false (change record)
            refine ⟨meaning, fun gap rest => ?_⟩
            simp only [chars_noGap, List.nil_append, read] at here
            simp [readFields, Source.renderItems, attempt_moreItems_cons, here, further]

/-- What a record in object form means. -/
def objectMeaning? (kind : Record α) (budget : Nat) (members : List (Label × Source)) :
    Option α :=
  (members.foldlM (stepMember (stepFound kind.fields budget)) []).bind fun found =>
    (assemble found kind.fields kind.blank).toOption

theorem reads_object (kind : Record α)
    (exact : ∀ field ∈ kind.fields, IsExact (field.read budget)) (blank : Gap)
    (members : List (Label × Source)) :
    Reads (kind.readWithin (some budget)) (.object blank members)
      (kind.objectMeaning? budget members) := by
  intro gap rest delimits
  have inner := attempt_readObject budget kind exact blank members rest
  unfold readWithin
  rw [attempt_peekToken_bind]
  simpa [objectMeaning?] using inner

/-- A record is read from an object or from a list, and from nothing else. -/
theorem reads_none (kind : Record α) (inner : Option Nat) (source : Source)
    (noObject : ∀ blank members, source ≠ .object blank members)
    (noList : ∀ blank items, source ≠ .list blank items) :
    Reads (kind.readWithin inner) source none := by
  intro gap rest delimits
  unfold readWithin
  rw [attempt_peekToken_bind]
  cases source with
  | object blank members => exact absurd rfl (noObject blank members)
  | list blank items => exact absurd rfl (noList blank items)
  | number written =>
      obtain ⟨c, text, parts, leads⟩ := exists_lead_number written
      simp [parts, leads]
  | bool value => cases value <;> simp
  | _ => simp [renderQuoted]

/-- Records are read exactly when their fields are. -/
theorem isExact_readWithin (kind : Record α) (inner : Option Nat)
    (exact : ∀ budget ∈ inner, ∀ field ∈ kind.fields, IsExact (field.read budget)) :
    IsExact (kind.readWithin inner) := by
  apply isExact_of_reads
  intro source
  cases inner with
  | none =>
      refine ⟨none, fun gap rest delimits => ?_⟩
      unfold readWithin
      rw [attempt_peekToken_bind]
      split <;> simp
  | some budget =>
      have exactFields := exact budget rfl
      cases source with
      | object blank members => exact ⟨_, reads_object budget kind exactFields blank members⟩
      | list blank items =>
          obtain ⟨meaning, read⟩ :=
            exists_readFields budget kind kind.fields exactFields 0 items true kind.blank
          refine ⟨meaning, fun gap rest delimits => ?_⟩
          unfold readWithin
          rw [attempt_peekToken_bind]
          simpa using read blank rest
      | _ => exact ⟨none, reads_none kind _ _ nofun nofun⟩

end Record

/-! ## Records at one budget -/

/-- A field that is read at one budget only. -/
def RecordField.frozen (budget : Nat) (field : RecordField α) : RecordField α :=
  { field with read := fun _ => field.read budget, write := fun _ => .null }

namespace Record

/-- A record whose fields are read at one budget only. -/
def frozen (budget : Nat) (kind : Record α) : Record α :=
  { kind with fields := kind.fields.map (RecordField.frozen budget) }

theorem readMember_frozen (fields : List (RecordField α)) (budget : Nat) :
    readMember (fields.map (RecordField.frozen budget)) budget = readMember fields budget := by
  funext key found
  have search : (fields.map (RecordField.frozen budget)).find? (·.name == key) =
      (fields.find? (·.name == key)).map (RecordField.frozen budget) := by
    rw [List.find?_map]
    rfl
  rw [readMember, readMember, search]
  cases fields.find? (·.name == key) <;> rfl

theorem assemble_frozen (found : Found α) (fields : List (RecordField α)) (budget : Nat)
    (record : α) :
    assemble found (fields.map (RecordField.frozen budget)) record =
      assemble found fields record := by
  induction fields generalizing record with
  | nil => rfl
  | cons field fields inductionHypothesis =>
      simp only [List.map_cons, assemble, RecordField.frozen, inductionHypothesis]

theorem readFields_frozen (kind : Record α) (budget index : Nat)
    (fields : List (RecordField α)) (isFirst : Bool) (record : α) :
    (kind.frozen budget).readFields budget index (fields.map (RecordField.frozen budget)) isFirst
        record =
      kind.readFields budget index fields isFirst record := by
  induction fields generalizing index isFirst record with
  | nil => rfl
  | cons field fields inductionHypothesis =>
      simp only [List.map_cons, readFields, inductionHypothesis]
      simp only [RecordField.frozen, frozen, List.length_map]

/-- Only what the fields are at the budget of the record makes a difference. -/
theorem readWithin_frozen (kind : Record α) (budget : Nat) :
    (kind.frozen budget).readWithin (some budget) = kind.readWithin (some budget) := by
  have object : (kind.frozen budget).readObject budget = kind.readObject budget := by
    simp only [readObject, frozen, readMember_frozen, assemble_frozen]
  have list : (kind.frozen budget).readFields budget 0 (kind.frozen budget).fields true
      (kind.frozen budget).blank = kind.readFields budget 0 kind.fields true kind.blank :=
    readFields_frozen kind budget 0 kind.fields true kind.blank
  unfold readWithin
  simp only [object, list]
  rfl

end Record

end Json
end Artboard
