import Mathlib.Data.List.DropRight
import Mathlib.Data.List.Induction
import Mathlib.Data.List.Nodup
import Artboard.Json.Value
import Artboard.Proofs.Json.Alike
import Artboard.Proofs.Json.Attempt

/-!
# Members as they are written

An object may have several members with one key.  They are read here one after the other,
all of them; the entries that an object is otherwise read as come from these pairs, and an
entry has the value that was written last for its key.
-/

namespace Artboard
namespace Json

variable {α : Type}

/-- Read all members of an object, those with equal keys too. -/
def readPairs (value : Option (Reader α)) : Reader (List (String × α)) := do
  if (← peekToken) = some '\x7b' then
    match value with
    | none => failAhead .nestedTooDeep
    | some value => do
      advance
      let member := fun key pairs => do
        readColon
        return pairs ++ [(key, ← value)]
      readMembers member (' ' :: (← get)) true []
  else refuse "a map"

/-- Objects with keys of any name, as a list of all their members. -/
def Codec.pairs (codec : Codec α) : Codec (List (String × α)) where
  read budget := readPairs ((inside budget).map codec.read)
  write := codec.entries.write

/-! ## The last of equal keys -/

/-- The value that is written last for a key. -/
def lastWritten (key : String) (pairs : List (String × α)) : Option α :=
  pairs.reverse.lookup key

/-- Pairs entered one after the other. -/
def entriesOf (pairs : List (String × α)) : List (String × α) :=
  pairs.foldl (fun entries pair => enter pair.1 pair.2 entries) []

theorem lastWritten_append (key : String) (pairs : List (String × α)) (pair : String × α) :
    lastWritten key (pairs ++ [pair]) =
      if key = pair.1 then some pair.2 else lastWritten key pairs := by
  rw [lastWritten, List.reverse_append, List.reverse_singleton, List.singleton_append,
    List.lookup_cons]
  by_cases same : key = pair.1
  · rw [if_pos same, beq_iff_eq.mpr same]
  · rw [if_neg same, beq_eq_false_iff_ne.mpr same]
    rfl

theorem entriesOf_append (pairs : List (String × α)) (pair : String × α) :
    entriesOf (pairs ++ [pair]) = enter pair.1 pair.2 (entriesOf pairs) := by
  rw [entriesOf, List.foldl_append]
  rfl

/-- Entering a value leaves the entries with other keys. -/
theorem mem_enter_iff {key name : String} {value entered : α} {entries : List (String × α)} :
    (key, value) ∈ enter name entered entries ↔
      if key = name then value = entered else (key, value) ∈ entries := by
  rw [enter, List.mem_append, List.mem_filter, List.mem_singleton, Prod.mk.injEq, bne_iff_ne]
  by_cases same : key = name
  · simp [same]
  · simp [same]

/-- An object has an entry for each key in it, with the value written last. -/
theorem mem_entriesOf_iff {pairs : List (String × α)} {key : String} {value : α} :
    (key, value) ∈ entriesOf pairs ↔ lastWritten key pairs = some value := by
  induction pairs using List.reverseRecOn with
  | nil =>
      constructor
      · intro member
        cases member
      · intro written
        cases written
  | append_singleton pairs pair inductionHypothesis =>
      rw [entriesOf_append, mem_enter_iff, lastWritten_append]
      split
      · rw [Option.some.injEq, eq_comm]
      · exact inductionHypothesis

theorem nodup_entriesOf (pairs : List (String × α)) :
    ((entriesOf pairs).map Prod.fst).Nodup := by
  induction pairs using List.reverseRecOn with
  | nil => exact List.nodup_nil
  | append_singleton pairs pair inductionHypothesis =>
      have others := inductionHypothesis.sublist
        ((List.filter_sublist (p := fun entry => entry.1 != pair.1)).map Prod.fst)
      rw [entriesOf_append, enter, List.map_append, List.nodup_append]
      refine ⟨others, List.nodup_singleton _, ?_⟩
      intro key isOther name isNew same
      rcases List.mem_map.mp isOther with ⟨entry, kept, rfl⟩
      have apart := (List.mem_filter.mp kept).2
      rw [same, List.mem_singleton.mp isNew, bne_self_eq_false] at apart
      cases apart

/-! ## Members and entries -/

theorem alike_readEntries (value : Option (Reader α)) :
    Alike (fun entries pairs => entries = entriesOf pairs) (readEntries value)
      (readPairs value) := by
  apply alike_behind
  intro next
  by_cases opens : next = some '\x7b'
  · rw [if_pos opens, opens]
    cases value with
    | none => exact alike_failAhead _
    | some value =>
        apply alike_behind
        intro _
        apply alike_behind
        intro text
        apply alike_readMembers
        · rintro key _ pairs rfl
          apply alike_behind
          intro _
          apply alike_behind
          intro read
          exact alike_pure (entriesOf_append pairs (key, read)).symm
        · rfl
  · rw [if_neg opens]
    split
    · exact absurd rfl opens
    · exact alike_refuse _

theorem alike_entries (codec : Codec α) (budget : Nat) :
    Alike (fun entries pairs => entries = entriesOf pairs) (codec.entries.read budget)
      (codec.pairs.read budget) :=
  alike_readEntries _

/-- Entries are read where all members are, as what they come to. -/
theorem parse_entries (codec : Codec α) (text : String) :
    codec.entries.parse text = (codec.pairs.parse text).map entriesOf :=
  readAll_eq (alike_entries codec maxDepth) text.toList

/-! ## Any value -/

/-- The members of an object. -/
def members? : Json → Option (List (String × Json))
  | .object members => some members
  | _ => none

/-- Blanks in front of an object make no difference. -/
theorem attempt_readEntries_dropWhile (value : Option (Reader α)) (text : List Char) :
    attempt (readEntries value) (text.dropWhile isGap) = attempt (readEntries value) text := by
  unfold readEntries
  rw [attempt_bind, attempt_bind, attempt_peekToken, attempt_peekToken,
    List.dropWhile_idempotent]

theorem attempt_readEntries_of_ne (value : Option (Reader α)) {text : List Char}
    (noObject : (text.dropWhile isGap).head? ≠ some '\x7b') :
    attempt (readEntries value) text = none := by
  unfold readEntries
  rw [attempt_bind, attempt_peekToken, Option.bind_some]
  dsimp only
  split
  · exact absurd (by assumption) noObject
  · exact attempt_refuse _ _

theorem attempt_readValueWith_of_eq (inner : Option (Reader Json)) {text : List Char}
    (isObject : (text.dropWhile isGap).head? = some '\x7b') :
    attempt (readValueWith inner) text =
      (attempt (readEntries inner) text).map fun read => (.object read.1, read.2) := by
  unfold readValueWith
  rw [attempt_bind, attempt_peekToken, Option.bind_some, isObject,
    ← attempt_readEntries_dropWhile]
  exact attempt_map Json.object (readEntries inner) (text.dropWhile isGap)

/-- A reader that gives no objects. -/
def GivesNoObject (reader : Reader Json) : Prop :=
  ∀ text read, attempt reader text = some read → members? read.1 = none

theorem givesNoObject_pure {value : Json} (plain : members? value = none) :
    GivesNoObject (pure value) := by
  intro text read came
  rw [attempt_pure] at came
  rw [← Option.some.inj came]
  exact plain

theorem givesNoObject_failAhead (cause : Cause) : GivesNoObject (failAhead cause) := by
  intro text read came
  cases came

theorem givesNoObject_behind (first : Reader α) {next : α → Reader Json}
    (further : ∀ value, GivesNoObject (next value)) : GivesNoObject (first >>= next) := by
  intro text read came
  rw [attempt_bind] at came
  rcases Option.bind_eq_some_iff.mp came with ⟨between, -, behind⟩
  exact further between.1 between.2 read behind

/-- Where no bracket opens an object, none is read. -/
theorem members?_eq_none_of_attempt {inner : Option (Reader Json)} {text : List Char}
    {read : Json × List Char} (noObject : (text.dropWhile isGap).head? ≠ some '\x7b')
    (came : attempt (readValueWith inner) text = some read) : members? read.1 = none := by
  unfold readValueWith at came
  rw [attempt_bind, attempt_peekToken, Option.bind_some] at came
  revert came
  apply (_ : GivesNoObject _)
  dsimp only
  split
  · exact givesNoObject_failAhead _
  · exact givesNoObject_behind _ fun _ => givesNoObject_behind _ fun _ => givesNoObject_pure rfl
  · exact givesNoObject_behind _ fun _ => givesNoObject_behind _ fun _ => givesNoObject_pure rfl
  · exact givesNoObject_behind _ fun _ => givesNoObject_behind _ fun _ => givesNoObject_pure rfl
  · exact givesNoObject_behind _ fun _ => givesNoObject_pure rfl
  · exact givesNoObject_behind _ fun _ => givesNoObject_pure rfl
  · exact absurd (by assumption) noObject
  · split
    · apply givesNoObject_behind
      intro number
      cases number with
      | whole value => exact givesNoObject_pure rfl
      | real value => exact givesNoObject_pure rfl
    · exact givesNoObject_failAhead _

/-- An object is read as its entries, and no other value is. -/
theorem attempt_readEntries (inner : Option (Reader Json)) (text : List Char) :
    attempt (readEntries inner) text =
      (attempt (readValueWith inner) text).bind fun read =>
        (members? read.1).map fun members => (members, read.2) := by
  by_cases opens : (text.dropWhile isGap).head? = some '\x7b'
  · rw [attempt_readValueWith_of_eq inner opens]
    cases attempt (readEntries inner) text <;> rfl
  · rw [attempt_readEntries_of_ne inner opens]
    symm
    apply Option.bind_eq_none_iff.mpr
    intro read came
    rw [members?_eq_none_of_attempt opens came]
    rfl

/-- The entries of a text that is an object come from all its members. -/
theorem toOption_parse_bind_members? (text : String) :
    (parse text).toOption.bind members? =
      (Codec.any.pairs.parse text).toOption.map entriesOf := by
  have entries : (Codec.any.entries.parse text).toOption = (parse text).toOption.bind members? := by
    rw [parse, Codec.parse, Codec.parse, toOption_readAll, toOption_readAll]
    have object := attempt_readEntries (some (readValue 126)) text.toList
    change (attempt (readEntries (some (readValue 126))) text.toList).bind _ =
      ((attempt (readValueWith (some (readValue 126))) text.toList).bind _).bind _
    rw [object]
    cases attempt (readValueWith (some (readValue 126))) text.toList with
    | none => rfl
    | some read =>
        cases found : members? read.1 with
        | none =>
            rw [Option.bind_some, Option.bind_some, found]
            split
            · exact found.symm
            · rfl
        | some members =>
            rw [Option.bind_some, Option.bind_some, found, Option.map_some, Option.bind_some]
            split
            · exact found.symm
            · rfl
  rw [← entries, parse_entries]
  cases Codec.any.pairs.parse text <;> rfl

/-- The member of an object with a name is the one that is written last. -/
theorem member?_object (name : String) (pairs : List (String × Json)) :
    member? name (.object (entriesOf pairs)) = lastWritten name pairs := by
  ext value
  rw [← mem_entriesOf_iff, member?, Option.map_eq_some_iff]
  constructor
  · rintro ⟨⟨key, found⟩, search, rfl⟩
    have member := List.mem_reverse.mp (List.mem_of_find?_eq_some search)
    have same := List.find?_some search
    rw [← beq_iff_eq.mp same]
    exact member
  · intro member
    cases search : (entriesOf pairs).reverse.find? fun entry => entry.1 == name with
    | none =>
        have apart := List.find?_eq_none.mp search (name, value) (List.mem_reverse.mpr member)
        exact absurd (beq_self_eq_true name) apart
    | some entry =>
        -- Two entries with one key would both be what is written last for it.
        have found := List.mem_reverse.mp (List.mem_of_find?_eq_some search)
        have same : entry.1 = name := by simpa using List.find?_some search
        have last := mem_entriesOf_iff.mp found
        rw [same, mem_entriesOf_iff.mp member] at last
        exact ⟨entry, rfl, (Option.some.inj last).symm⟩

end Json
end Artboard
