import Mathlib.Data.List.Forall2
import Artboard.Json.Record

/-!
# Readers that go alike

Two readers go alike if on every text either both stop with the same fault, or both leave
the same part of the text and what they read is related.  What is made alike of readers that
go alike goes alike.  So a record is read like another one if its fields are: then what is
read as the one is what the other is seen as.
-/

namespace Artboard
namespace Json

variable {α β γ δ : Type}

/-- Both readings stopped in the same way, or they came to related values at the same
place. -/
inductive SameOutcome (related : α → β → Prop) :
    Except Fault (α × List Char) → Except Fault (β × List Char) → Prop where
  | came {value : α} {other : β} (here : related value other) (rest : List Char) :
      SameOutcome related (.ok (value, rest)) (.ok (other, rest))
  | stopped (fault : Fault) : SameOutcome related (.error fault) (.error fault)

def Alike (related : α → β → Prop) (reader : Reader α) (other : Reader β) : Prop :=
  ∀ text, SameOutcome related (reader text) (other text)

variable {related : α → β → Prop}

theorem alike_refl (reader : Reader α) : Alike Eq reader reader := by
  intro text
  cases reader text with
  | error fault => exact .stopped fault
  | ok read => exact .came rfl read.2

theorem alike_pure {value : α} {other : β} (here : related value other) :
    Alike related (pure value) (pure other) :=
  fun text => .came here text

theorem alike_failHere (cause : Cause) : Alike related (failHere cause) (failHere cause) :=
  fun _ => .stopped _

theorem alike_failAhead (cause : Cause) : Alike related (failAhead cause) (failAhead cause) :=
  fun _ => .stopped _

theorem Alike.bind {before : γ → δ → Prop} {first : Reader γ} {otherFirst : Reader δ}
    {next : γ → Reader α} {otherNext : δ → Reader β} (alike : Alike before first otherFirst)
    (further : ∀ value other, before value other → Alike related (next value) (otherNext other)) :
    Alike related (first >>= next) (otherFirst >>= otherNext) := by
  intro text
  have step := alike text
  change SameOutcome related (first text >>= fun read => next read.1 read.2)
    (otherFirst text >>= fun read => otherNext read.1 read.2)
  generalize first text = outcome, otherFirst text = otherOutcome at step
  cases step with
  | came here rest => exact further _ _ here rest
  | stopped fault => exact .stopped fault

/-- Readers go alike behind the same reader. -/
theorem alike_behind (first : Reader γ) {next : γ → Reader α} {otherNext : γ → Reader β}
    (further : ∀ value, Alike related (next value) (otherNext value)) :
    Alike related (first >>= next) (first >>= otherNext) := by
  apply (alike_refl first).bind
  rintro value _ rfl
  exact further value

theorem Alike.map {before : γ → δ → Prop} {first : Reader γ} {otherFirst : Reader δ}
    {change : γ → α} {otherChange : δ → β} (alike : Alike before first otherFirst)
    (keeps : ∀ value other, before value other → related (change value) (otherChange other)) :
    Alike related (change <$> first) (otherChange <$> otherFirst) := by
  rw [← bind_pure_comp, ← bind_pure_comp]
  exact alike.bind fun value other here => alike_pure (keeps value other here)

theorem alike_refuse (expected : String) :
    Alike related (refuse expected) (refuse expected) := by
  apply alike_behind
  intro next
  split
  · exact alike_failAhead _
  · exact alike_failHere _
  · exact alike_failHere _
  · exact alike_behind _ fun value => alike_failHere _
  · exact alike_behind _ fun _ => alike_behind _ fun _ => alike_failHere _
  · exact alike_behind _ fun _ => alike_behind _ fun _ => alike_failHere _
  · exact alike_behind _ fun _ => alike_behind _ fun _ => alike_failHere _
  · split
    · exact alike_behind _ fun value => alike_failHere _
    · exact alike_failAhead _

/-- A whole text is read alike. -/
theorem readAll_eq {view : β → α} {reader : Reader α} {other : Reader β}
    (alike : Alike (fun value other => value = view other) reader other) (text : List Char) :
    readAll reader text = (readAll other text).map view := by
  have whole : Alike (fun value other => value = view other)
      (do let value ← reader; endOfInput; return value)
      (do let value ← other; endOfInput; return value) := by
    apply alike.bind
    intro value other here
    exact alike_behind endOfInput fun _ => alike_pure here
  have step := whole text
  change Prod.fst <$> (do let value ← reader; endOfInput; return value : Reader α) text =
    (Prod.fst <$> (do let value ← other; endOfInput; return value : Reader β) text).map view
  generalize (do let value ← reader; endOfInput; return value : Reader α) text = outcome,
    (do let value ← other; endOfInput; return value : Reader β) text = otherOutcome at step
  cases step with
  | came here rest => exact congrArg Except.ok here
  | stopped fault => rfl

/-! ## Members -/

/-- Members are gone through alike if each of them is. -/
theorem alike_readMembers {σ τ : Type} {related : σ → τ → Prop}
    {member : String → σ → Reader σ} {otherMember : String → τ → Reader τ}
    (alike : ∀ key made other, related made other →
      Alike related (member key made) (otherMember key other))
    (fuel : List Char) (isFirst : Bool) {made : σ} {other : τ} (here : related made other) :
    Alike related (readMembers member fuel isFirst made)
      (readMembers otherMember fuel isFirst other) := by
  induction fuel generalizing isFirst made other with
  | nil => exact alike_failAhead _
  | cons _ fuel inductionHypothesis =>
      apply alike_behind
      intro more
      cases more with
      | true =>
          apply alike_behind
          intro key
          exact (alike key made other here).bind fun made other here =>
            inductionHypothesis false here
      | false =>
          apply alike_behind
          intro _
          exact alike_pure here

/-! ## Records -/

namespace Record

variable {view : β → α} {budget : Nat}

/-- Seen as a record of the one kind, a record of the other kind is changed in the same
way. -/
def SameChange (view : β → α) (change : α → α) (other : β → β) : Prop :=
  ∀ record, change (view record) = view (other record)

/-- The same has been found in both objects. -/
def SameFound (view : β → α) : Found α → Found β → Prop :=
  List.Forall₂ fun entry other => entry.1 = other.1 ∧ SameChange view entry.2 other.2

structure SameField (view : β → α) (budget : Nat) (field : RecordField α)
    (other : RecordField β) : Prop where
  name : field.name = other.name
  required : field.required = other.required
  read : Alike (SameChange view) (field.read budget) (other.read budget)

structure SameKind (view : β → α) (budget : Nat) (kind : Record α) (other : Record β) :
    Prop where
  name : kind.name = other.name
  blank : kind.blank = view other.blank
  fields : List.Forall₂ (SameField view budget) kind.fields other.fields

theorem SameFound.lookup {found : Found α} {other : Found β} (same : SameFound view found other)
    (key : String) : Option.Rel (SameChange view) (found.lookup key) (other.lookup key) := by
  induction same with
  | nil => exact .none
  | @cons entry otherEntry _ _ here _ inductionHypothesis =>
      rcases entry with ⟨name, change⟩
      rcases otherEntry with ⟨otherName, otherChange⟩
      rcases here with ⟨rfl, sameChange⟩
      rw [List.lookup_cons, List.lookup_cons]
      dsimp only
      split
      · exact .some sameChange
      · exact inductionHypothesis

theorem find?_same {fields : List (RecordField α)} {others : List (RecordField β)}
    (same : List.Forall₂ (SameField view budget) fields others) (key : String) :
    Option.Rel (SameField view budget) (fields.find? (·.name == key))
      (others.find? (·.name == key)) := by
  induction same with
  | nil => exact .none
  | @cons field other _ _ here _ inductionHypothesis =>
      rw [List.find?_cons, List.find?_cons, here.name]
      split
      · exact .some here
      · exact inductionHypothesis

theorem alike_failClosingObject {γ δ : Type} {related : γ → δ → Prop} (cause : Cause) :
    Alike related (failClosingObject cause) (failClosingObject cause) := by
  apply alike_behind
  intro next
  split
  · exact alike_behind _ fun _ => alike_failHere _
  · exact alike_failHere _

theorem alike_readMember {fields : List (RecordField α)} {others : List (RecordField β)}
    (same : List.Forall₂ (SameField view budget) fields others) (key : String)
    {found : Found α} {other : Found β} (here : SameFound view found other) :
    Alike (SameFound view) (readMember fields budget key found)
      (readMember others budget key other) := by
  have search := find?_same same key
  have before := here.lookup key
  unfold readMember
  generalize fields.find? (·.name == key) = field, others.find? (·.name == key) = otherField
    at search
  generalize found.lookup key = earlier, other.lookup key = otherEarlier at before
  cases search with
  | none => exact alike_behind _ fun _ => alike_behind _ fun _ => alike_pure here
  | some sameField =>
      cases before with
      | some _ => exact alike_failClosingObject _
      | none =>
          apply alike_behind
          intro _
          apply sameField.read.bind
          intro change otherChange sameChange
          apply alike_pure
          exact List.rel_append here (.cons ⟨rfl, sameChange⟩ .nil)

theorem assemble_same {fields : List (RecordField α)} {others : List (RecordField β)}
    (same : List.Forall₂ (SameField view budget) fields others) {found : Found α}
    {other : Found β} (here : SameFound view found other) (record : β) :
    assemble found fields (view record) = (assemble other others record).map view := by
  induction same generalizing record with
  | nil => rfl
  | @cons field otherField _ _ sameField _ inductionHypothesis =>
      have looked := here.lookup field.name
      rw [assemble, assemble, ← sameField.name, ← sameField.required]
      generalize found.lookup field.name = change, other.lookup field.name = otherChange at looked
      cases looked with
      | some sameChange =>
          dsimp only
          rw [sameChange, inductionHypothesis]
      | none =>
          dsimp only
          split
          · rfl
          · exact inductionHypothesis record

variable {kind : Record α} {other : Record β}

theorem alike_readObject (same : SameKind view budget kind other) :
    Alike (fun record other => record = view other) (kind.readObject budget)
      (other.readObject budget) := by
  apply alike_behind
  intro text
  apply (alike_readMembers (fun key _ _ here => alike_readMember same.fields key here) _ true
    (List.Forall₂.nil : SameFound view [] [])).bind
  intro found otherFound here
  rw [same.blank, assemble_same same.fields here]
  cases assemble otherFound other.fields other.blank with
  | ok record => exact alike_pure rfl
  | error name => exact alike_failHere _

theorem alike_readFields (same : SameKind view budget kind other)
    {fields : List (RecordField α)} {others : List (RecordField β)}
    (sameFields : List.Forall₂ (SameField view budget) fields others) (index : Nat)
    (isFirst : Bool) (record : β) :
    Alike (fun record other => record = view other)
      (kind.readFields budget index fields isFirst (view record))
      (other.readFields budget index others isFirst record) := by
  induction sameFields generalizing index isFirst record with
  | nil => exact alike_behind _ fun _ => alike_pure rfl
  | @cons field otherField _ _ sameField _ inductionHypothesis =>
      unfold readFields
      apply alike_behind
      intro more
      cases more with
      | true =>
          apply sameField.read.bind
          intro change otherChange sameChange
          rw [sameChange]
          exact inductionHypothesis (index + 1) false (otherChange record)
      | false =>
          rw [sameField.required, same.name, same.fields.length_eq, if_neg Bool.false_ne_true,
            if_neg Bool.false_ne_true]
          split
          · exact alike_behind _ fun _ => alike_failHere _
          · exact inductionHypothesis (index + 1) isFirst record

theorem alike_readWithin (same : SameKind view budget kind other) :
    Alike (fun record other => record = view other) (kind.readWithin (some budget))
      (other.readWithin (some budget)) := by
  unfold readWithin
  apply alike_behind
  intro next
  split
  · exact alike_behind _ fun _ => alike_readObject same
  · rw [same.blank]
    exact alike_behind _ fun _ => alike_readFields same same.fields 0 true other.blank
  · rw [same.name]
    exact alike_refuse _

/-- As many brackets as may still be open inside a record that is read on its own. -/
def depthInside : Nat := maxDepth - 1

/-- A text says of the one kind what it says of the other kind, or is refused with the same
fault. -/
theorem parse_same (same : SameKind view depthInside kind other) (text : String) :
    kind.codec.parse text = (other.codec.parse text).map view :=
  readAll_eq (alike_readWithin same) text.toList

/-- Fields that a codec reads are the same if they set the same. -/
theorem sameField_of_alike {codec : Codec γ} {otherCodec : Codec δ} {seen : δ → γ}
    (alike : Alike (fun value other => value = seen other) (codec.read budget)
      (otherCodec.read budget))
    (name : String) (required : Bool) (get : α → γ) (otherGet : β → δ) {set : γ → α → α}
    {otherSet : δ → β → β}
    (sets : ∀ value record, set (seen value) (view record) = view (otherSet value record)) :
    SameField view budget (codec.field name required get set)
      (otherCodec.field name required otherGet otherSet) where
  name := rfl
  required := rfl
  read := by
    apply alike.map
    rintro _ value rfl record
    exact sets value record

end Record

end Json
end Artboard
