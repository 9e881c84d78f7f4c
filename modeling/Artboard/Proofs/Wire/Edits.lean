import Mathlib.Logic.Relation
import Artboard.Proofs.Json.Printed
import Artboard.Proofs.Wire.Schema

/-!
# Edits that change nothing

A design written by a newer service, or by another writer, differs from the one that is
expected in ways that must not matter: the order of the members, members of names that are
not known, defaults that are spelled out, names of kinds that are not known.  An edit makes
one such change at any depth of a text.  No edit changes what is read.
-/

namespace Artboard
namespace Wire

open Json (Choice Codec Frame Gap Label Piece RecordField Record Source meaning? said?)

/-! ## Defaults -/

/-- A source spells a value that may stand for a missing one. Null, an empty list and an
empty map have one spelling up to blanks; a number, a text or a name has as many as the
grammar gives it. Minus zero is a number of its own and does not spell zero. -/
inductive Spells : (kind : Kind) → kind.Value → Source → Prop
  | null {kind : PlainKind} : Spells (.nullable kind) (none : Option kind.Value) .null
  | empty {kind : RecordKind} (blank : Gap) :
      Spells (.list kind) ([] : List kind.Value) (.list blank [])
  | noEntries {kind : RecordKind} (blank : Gap) :
      Spells (.entries kind) ([] : List (String × kind.Value)) (.object blank [])
  | flag (value : Bool) : Spells (.plain .flag) value (.bool value)
  | number {written : Json.NumberText} {value : Float}
      (reads : written.value?.map Json.Numeral.toFloat = some value) :
      Spells (.plain .number) value (.number written)
  | text {pieces : List Piece} {value : String} (reads : said? pieces = some value) :
      Spells (.plain .text) value (.text pieces)
  | name {kind : ChoiceKind} {pieces : List Piece} {name : String} {value : kind.Value}
      (reads : said? pieces = some name) (names : kind.choice.find? name = some value) :
      Spells (.plain (.choice kind)) value (.text pieces)
  | key {kind : ChoiceKind} (blank : Gap) {label : Label} {name : String} {value : kind.Value}
      (reads : said? label.key = some name) (names : kind.choice.find? name = some value) :
      Spells (.plain (.choice kind)) value (.object blank [(label, .null)])

/-- What a value is spelled by reads as nothing else. -/
theorem Spells.eq_of_meaning? {kind : Kind} {value : kind.Value} {source : Source}
    (spells : Spells kind value source) {budget : Nat} {other : kind.Value}
    (read : meaning? (kind.codec.read budget) source = some other) : other = value := by
  cases spells with
  | null =>
      rw [meaning?_nullable] at read
      exact (Option.some.inj read).symm
  | empty blank =>
      rw [meaning?_list] at read
      cases budget with
      | zero => cases read
      | succ budget => exact (Option.some.inj read).symm
  | noEntries blank =>
      rw [meaning?_entries] at read
      cases budget with
      | zero => cases read
      | succ budget => exact (Option.some.inj read).symm
  | flag value =>
      rw [meaning?_flag] at read
      exact (Option.some.inj read).symm
  | number reads =>
      rw [meaning?_number, Source.double?, reads] at read
      exact (Option.some.inj read).symm
  | text reads =>
      rw [meaning?_text, Source.text?, reads] at read
      exact (Option.some.inj read).symm
  | name reads names =>
      rw [meaning?_choice, Choice.named?, reads, Option.bind_some, names] at read
      exact (Option.some.inj read).symm
  | key blank reads names =>
      rw [meaning?_choice] at read
      cases budget with
      | zero => cases read
      | succ budget =>
          rw [Choice.named?, reads, Option.bind_some, names] at read
          exact (Option.some.inj read).symm

/-! ## Edits -/

/-- A name that a choice does not list. -/
def Unlisted (kind : ChoiceKind) (pieces : List Piece) : Prop :=
  ∃ name, said? pieces = some name ∧ kind.choice.names.lookup name = none

/-- One edit somewhere in a value of a kind. -/
inductive Edit : Kind → Source → Source → Prop
  /-- Put the members of a record in another order, with other blanks around them. -/
  | reorder {kind : RecordKind} {blank newBlank : Gap} {members others : List (Label × Source)}
      (permuted : (members.map Record.bare).Perm (others.map Record.bare)) :
      Edit (.plain (.record kind)) (.object blank members) (.object newBlank others)
  /-- Insert a member with any value under a name that no field has. -/
  | insert {kind : RecordKind} {blank : Gap} {front back : List (Label × Source)} {label : Label}
      {value : Source} {name : String} (key : said? label.key = some name)
      (unknown : name ∉ kind.entries.map (·.name)) :
      Edit (.plain (.record kind)) (.object blank (front ++ back))
        (.object blank (front ++ (label, value) :: back))
  /-- Delete a member that spells the default of its field. -/
  | delete {kind : RecordKind} {blank : Gap} {front back : List (Label × Source)} {label : Label}
      {value : Source} {entry : Entry} {default : entry.kind.Value}
      (field : entry ∈ kind.entries) (key : said? label.key = some entry.name)
      (missing : entry.default = some default) (spells : Spells entry.kind default value) :
      Edit (.plain (.record kind)) (.object blank (front ++ (label, value) :: back))
        (.object blank (front ++ back))
  /-- Replace a name that is not known by another one. -/
  | rename {kind : ChoiceKind} {pieces others : List Piece} (old : Unlisted kind pieces)
      (new : Unlisted kind others) : Edit (.plain (.choice kind)) (.text pieces) (.text others)
  /-- Replace a name that is not known where it is the only key of an object. -/
  | renameKey {kind : ChoiceKind} {blank newBlank : Gap} {label other : Label}
      (old : Unlisted kind label.key) (new : Unlisted kind other.key) :
      Edit (.plain (.choice kind)) (.object blank [(label, .null)])
        (.object newBlank [(other, .null)])
  /-- Edit the value of a field. -/
  | member {kind : RecordKind} {blank : Gap} {front back : List (Label × Source)} {label : Label}
      {value edited : Source} {entry : Entry} (field : entry ∈ kind.entries)
      (key : said? label.key = some entry.name) (edit : Edit entry.kind value edited) :
      Edit (.plain (.record kind)) (.object blank (front ++ (label, value) :: back))
        (.object blank (front ++ (label, edited) :: back))
  /-- Edit an item of a list. -/
  | item {kind : RecordKind} {blank : Gap} {front back : List (Frame × Source)} {frame : Frame}
      {value edited : Source} (edit : Edit (.plain (.record kind)) value edited) :
      Edit (.list kind) (.list blank (front ++ (frame, value) :: back))
        (.list blank (front ++ (frame, edited) :: back))
  /-- Edit a value that could have been null. -/
  | present {kind : PlainKind} {value edited : Source}
      (edit : Edit (.plain kind) value edited) : Edit (.nullable kind) value edited

/-! ## Fields of records -/

section

variable {α : Type} {blank : α} {entries : List Entry} {fields : List (RecordField α)}
  {parts : α → List Part} {copy : α → α → α}

/-- Every entry of the schema has a field, which sets what the codec of its kind reads. -/
theorem Follows.exists_field (follows : Follows blank entries fields parts copy) {entry : Entry}
    (member : entry ∈ entries) :
    ∃ field ∈ fields, field.name = entry.name ∧
      ∃ set : entry.kind.Value → α → α,
        ∀ budget, field.read budget = set <$> entry.kind.codec.read budget := by
  induction follows with
  | nil => cases member
  | @cons name kind default required get set entries fields parts copy isRequired getBlank setGet
      rest partsSet inductionHypothesis =>
      rcases List.mem_cons.mp member with rfl | member
      · exact ⟨_, List.mem_cons_self, rfl, set, fun _ => rfl⟩
      · obtain ⟨field, here, named⟩ := inductionHypothesis member
        exact ⟨field, List.mem_cons_of_mem _ here, named⟩

/-- A field that was found with its default may as well not have been found. -/
theorem Follows.assemble_drop (follows : Follows blank entries fields parts copy)
    {budget : Nat} {found other : Record.Found α} {name : String} {change : α → α}
    {source : Source} {base : α}
    (genuine : ∀ field ∈ fields, ∀ change, found.lookup field.name = some change →
      ∃ value, meaning? (field.read budget) value = some change)
    (drops : Record.Drops found name change other)
    (reads : ∀ field ∈ fields, field.name = name →
      meaning? (field.read budget) source = some change)
    (stands : ∀ entry ∈ entries, entry.name = name → ∃ default, entry.default = some default ∧
      ∀ value, meaning? (entry.kind.codec.read budget) source = some value → value = default)
    (untouched : parts base = parts blank) :
    Record.assemble found fields base = Record.assemble other fields base := by
  induction follows generalizing base with
  | nil => rfl
  | @cons fieldName kind default required get set entries fields parts copy isRequired getBlank
      setGet rest partsSet inductionHypothesis =>
      simp only [List.forall_mem_cons] at genuine reads stands
      have further := fun {base} => @inductionHypothesis base genuine.2 reads.2 stands.2
      have parted : get base = get blank ∧ parts base = parts blank := by
        simpa using untouched
      have setting : ∀ {value change},
          meaning? ((kind.codec.field fieldName required get set).read budget) value = some change →
          ∃ read, meaning? (kind.codec.read budget) value = some read ∧ set read = change := by
        intro value change read
        change meaning? (set <$> kind.codec.read budget) value = some change at read
        rw [((isExact_read budget kind).reads_map set value).meaning?_eq] at read
        exact Option.map_eq_some_iff.mp read
      by_cases here : fieldName = name
      · -- Reading the default sets the field to what it holds already.
        obtain ⟨read, meaning, rfl⟩ := setting (reads.1 here)
        obtain ⟨value, rfl, unique⟩ := stands.1 here
        have held : read = get base := by
          rw [unique read meaning, parted.1]
          exact getBlank
        have idle : set read base = base := by rw [held, setGet]
        have optional : required = false := isRequired
        simp only [Record.assemble, Codec.field, here, drops.present, drops.absent, idle, optional]
        exact further parted.2
      · have lookup := drops.same fieldName here
        cases search : found.lookup fieldName with
        | none =>
            simp only [Record.assemble, Codec.field, lookup, search, further parted.2]
            rfl
        | some change =>
            -- An earlier field leaves the later ones as they are in the blank record.
            obtain ⟨value, meaning⟩ := genuine.1 change search
            obtain ⟨read, -, rfl⟩ := setting meaning
            have kept : parts (set read base) = parts blank := by rw [partsSet, parted.2]
            simp only [Record.assemble, Codec.field, lookup, search, further kept]

end

/-- A member under the name of a field contributes what the codec of the field reads. -/
theorem exists_offered? (kind : RecordKind) {entry : Entry} (field : entry ∈ kind.entries)
    {pieces : List Piece} (key : said? pieces = some entry.name) :
    ∃ set : entry.kind.Value → kind.Value → kind.Value, ∀ budget value,
      Record.offered? kind.record.fields budget (pieces, value) =
        (meaning? (entry.kind.codec.read budget) value).map fun read =>
          some (entry.name, set read) := by
  obtain ⟨parts, copy, follows, -⟩ := follows kind
  obtain ⟨field, member, named, set, reads⟩ := follows.exists_field field
  refine ⟨set, fun budget value => ?_⟩
  have search := find?_field kind member
  rw [named] at search
  rw [Record.offered?, key, Option.bind_some, Record.contribution?, search]
  simp only [reads]
  rw [((isExact_read budget entry.kind).reads_map set value).meaning?_eq, Option.map_map]
  rfl

theorem offered?_unknown (kind : RecordKind) (budget : Nat) {pieces : List Piece} {name : String}
    (key : said? pieces = some name) (unknown : name ∉ kind.entries.map (·.name))
    (value : Source) :
    Record.offered? kind.record.fields budget (pieces, value) = some none := by
  obtain ⟨parts, copy, follows, -⟩ := follows kind
  have search : kind.record.fields.find? (·.name == name) = none := by
    rw [List.find?_eq_none]
    intro field member same
    rw [← follows.names] at unknown
    exact unknown (List.mem_map.mpr ⟨field, member, by simpa using same⟩)
  rw [Record.offered?, key, Option.bind_some, Record.contribution?, search]

/-- What a member contributes under the name of a field is what the field reads. -/
theorem meaning?_of_offered? {kind : RecordKind} {budget : Nat}
    {field : RecordField kind.Value} (member : field ∈ kind.record.fields) {pieces : List Piece}
    {value : Source} {change : kind.Value → kind.Value}
    (offered : Record.offered? kind.record.fields budget (pieces, value) =
      some (some (field.name, change))) :
    meaning? (field.read budget) value = some change := by
  obtain ⟨key, -, contributed⟩ := Option.bind_eq_some_iff.mp offered
  rw [Record.contribution?] at contributed
  cases search : kind.record.fields.find? (·.name == key) with
  | none =>
      rw [search] at contributed
      cases contributed
  | some other =>
      rw [search] at contributed
      obtain ⟨read, meaning, same⟩ := Option.map_eq_some_iff.mp contributed
      obtain ⟨rfl, rfl⟩ := Prod.mk.inj (Option.some.inj same)
      rw [find?_field kind member] at search
      rwa [Option.some.inj search]

/-- What is found for a field is what the field reads from some value. -/
theorem genuine_offers (kind : RecordKind) (budget : Nat) (members : List (List Piece × Source))
    (once : ((Record.offers kind.record.fields budget members).map Prod.fst).Nodup) :
    ∀ field ∈ kind.record.fields, ∀ change,
      (Record.offers kind.record.fields budget members).lookup field.name = some change →
        ∃ value, meaning? (field.read budget) value = some change := by
  intro field member change found
  rw [Record.lookup_eq_some_iff_mem once, Record.offers, List.mem_filterMap] at found
  obtain ⟨⟨pieces, value⟩, -, offered⟩ := found
  rw [Option.join_eq_some_iff] at offered
  exact ⟨value, meaning?_of_offered? member offered⟩

/-- A member that spells the default of its field may as well be missing. -/
theorem objectMeaning?_delete (kind : RecordKind) {budget : Nat}
    {front back : List (Label × Source)} {label : Label} {value : Source} {entry : Entry}
    {default : entry.kind.Value} {record : kind.Value} (field : entry ∈ kind.entries)
    (key : said? label.key = some entry.name) (missing : entry.default = some default)
    (spells : Spells entry.kind default value)
    (read : kind.record.objectMeaning? budget (front ++ (label, value) :: back) = some record) :
    kind.record.objectMeaning? budget (front ++ back) = some record := by
  rw [Record.objectMeaning?_eq_some_iff] at read ⊢
  obtain ⟨admits, assembled⟩ := read
  have genuine := genuine_offers kind budget _ admits.once
  obtain ⟨set, offered⟩ := exists_offered? kind field key
  have readable := admits.readable (label.key, value)
    (List.mem_map_of_mem (List.mem_append_right front List.mem_cons_self))
  rw [offered, Option.isSome_map] at readable
  obtain ⟨meaning, here⟩ := Option.isSome_iff_exists.mp readable
  have contributed : Record.offered? kind.record.fields budget (label.key, value) =
      some (some (entry.name, set meaning)) := by rw [offered, here]; rfl
  obtain ⟨admitted, drops⟩ := admits.drop contributed
  refine ⟨admitted, ?_⟩
  obtain ⟨parts, copy, follows, -⟩ := follows kind
  have reads : ∀ field ∈ kind.record.fields, field.name = entry.name →
      meaning? (field.read budget) value = some (set meaning) := by
    intro field member named
    rw [← named] at contributed
    exact meaning?_of_offered? member contributed
  have stands : ∀ other ∈ kind.entries, other.name = entry.name →
      ∃ default, other.default = some default ∧ ∀ read,
        meaning? (other.kind.codec.read budget) value = some read → read = default := by
    intro other member named
    obtain rfl := List.inj_on_of_nodup_map (names_nodup kind) member field named
    exact ⟨default, missing, fun read reads => spells.eq_of_meaning? reads⟩
  rw [← assembled]
  exact (follows.assemble_drop genuine drops reads stands rfl).symm

/-! ## Edits change nothing -/

theorem Edit.ne_null {kind : Kind} {source edited : Source} (edit : Edit kind source edited) :
    source ≠ .null ∧ edited ≠ .null := by
  induction edit with
  | present edit inductionHypothesis => exact inductionHypothesis
  | _ => exact ⟨nofun, nofun⟩

theorem named?_unlisted {kind : ChoiceKind} {pieces : List Piece}
    (unlisted : Unlisted kind pieces) :
    (said? pieces).bind kind.choice.find? = kind.choice.other := by
  obtain ⟨name, spelled, notListed⟩ := unlisted
  rw [spelled, Option.bind_some, Choice.find?, notListed, Option.none_or]

/-- An edited value reads as before at every depth. -/
theorem Edit.meaning?_eq {kind : Kind} {source edited : Source} (edit : Edit kind source edited)
    (budget : Nat) {value : kind.Value}
    (read : meaning? (kind.codec.read budget) source = some value) :
    meaning? (kind.codec.read budget) edited = some value := by
  induction edit generalizing budget with
  | reorder permuted =>
      obtain ⟨inner, rfl, members⟩ := exists_objectMeaning? read
      rw [meaning?_record]
      exact Record.objectMeaning?_perm permuted members
  | @insert kind blank front back label inserted name key unknown =>
      obtain ⟨inner, rfl, members⟩ := exists_objectMeaning? read
      rw [meaning?_record]
      exact Record.objectMeaning?_insert (offered?_unknown kind inner key unknown inserted) members
  | delete field key missing spells =>
      obtain ⟨inner, rfl, members⟩ := exists_objectMeaning? read
      rw [meaning?_record]
      exact objectMeaning?_delete _ field key missing spells members
  | rename old new =>
      rw [meaning?_choice] at read ⊢
      rw [Choice.named?, named?_unlisted old] at read
      rw [Choice.named?, named?_unlisted new, read]
  | renameKey old new =>
      rw [meaning?_choice] at read ⊢
      cases budget with
      | zero => cases read
      | succ budget =>
          rw [Choice.named?, named?_unlisted old] at read
          rw [Choice.named?, named?_unlisted new, read]
  | @member kind blank front back label value edited entry field key edit inductionHypothesis =>
      obtain ⟨inner, rfl, members⟩ := exists_objectMeaning? read
      obtain ⟨set, offered⟩ := exists_offered? kind field key
      rw [meaning?_record]
      refine Record.objectMeaning?_replace (fun readable => ?_) members
      rw [Record.bare, offered, Option.isSome_map] at readable
      obtain ⟨meaning, here⟩ := Option.isSome_iff_exists.mp readable
      rw [Record.bare, Record.bare, offered, offered, here, inductionHypothesis inner here]
  | item edit inductionHypothesis =>
      rw [meaning?_list] at read ⊢
      cases budget with
      | zero => cases read
      | succ inner =>
          exact Json.listMeaning?_replace (fun meaning here => inductionHypothesis inner here) read
  | present edit inductionHypothesis =>
      rw [meaning?_nullable, Json.nullableMeaning?_of_ne_null edit.ne_null.1] at read
      rw [meaning?_nullable, Json.nullableMeaning?_of_ne_null edit.ne_null.2]
      obtain ⟨meaning, here, same⟩ := Option.map_eq_some_iff.mp read
      exact Option.map_eq_some_iff.mpr ⟨meaning, inductionHypothesis budget here, same⟩

/-- However often a value is edited, it reads as before. -/
theorem meaning?_eq_of_edits {kind : Kind} {source edited : Source}
    (edits : Relation.ReflTransGen (Edit kind) source edited) (budget : Nat) {value : kind.Value}
    (read : meaning? (kind.codec.read budget) source = some value) :
    meaning? (kind.codec.read budget) edited = some value := by
  induction edits with
  | refl => exact read
  | tail earlier edit inductionHypothesis => exact edit.meaning?_eq budget inductionHypothesis

/-- A text that is read as a node is read as the same node after any number of edits at
any depth, whatever blanks stand around it. -/
theorem parse_edited {source edited : Source} {frame newFrame : Frame} {node : Node}
    (read : Wire.node.parse (frame.text source) = .ok node)
    (edits : Relation.ReflTransGen (Edit (.plain (.record .node))) source edited) :
    Wire.node.parse (newFrame.text edited) = .ok node := by
  have exact := isExact_read Json.maxDepth (.plain (.record .node))
  change Codec.parse (Kind.plain (.record .node)).codec _ = _ at read ⊢
  rw [Json.parse_eq_ok_iff exact] at read ⊢
  exact meaning?_eq_of_edits edits Json.maxDepth read

/-- A text with no blanks and no more escapes than it needs. -/
def quoted (text : String) : Source :=
  .text (Json.printedPieces text)

def labelled (name : String) (value : Source) : Label × Source :=
  (Json.printedLabel name Json.noFrame, value)

def listOf (item : Source) : Source :=
  .list Json.noGap [(Json.noFrame, item)]

/-- A node of no known type, with a fill of no known kind. -/
def sticker : Source :=
  .object Json.noGap [
    labelled "id" (quoted "1"), labelled "name" (quoted "Sticker"),
    labelled "type" (quoted "WIDGET"),
    labelled "fills" (listOf (.object Json.noGap [
      labelled "type" (quoted "EMOJI"), labelled "visible" (.bool true)]))]

/-- The node with its members turned round and more members in front of them. -/
def turnedSticker (more fill : List (Label × Source)) (type : String) : Source :=
  .object Json.noGap (more ++ [
    labelled "fills" (listOf (.object Json.noGap fill)), labelled "type" (quoted type),
    labelled "name" (quoted "Sticker"), labelled "id" (quoted "1")])

/-- A member that no node has, with lists inside lists. -/
def stuckTo : Label × Source :=
  labelled "stuckTo" (listOf (listOf (.object Json.noGap [])))

theorem parse_edited_sticker :
    ∃ node, Wire.node.parse (Json.noFrame.text sticker) = .ok node ∧
      Wire.node.parse (Json.noFrame.text
        (turnedSticker [stuckTo] [labelled "type" (quoted "VIDEO")] "STICKY")) = .ok node := by
  have accepted : (Wire.node.parse (Json.noFrame.text sticker)).isOk = true := by
    decide +kernel
  have unlisted : ∀ {kind name}, kind.choice.names.lookup name = none →
      Unlisted kind (Json.printedPieces name) :=
    fun absent => ⟨_, Json.said?_printedPieces _, absent⟩
  have turned : Edit (.plain (.record .node)) sticker
      (turnedSticker [] [labelled "type" (quoted "EMOJI"), labelled "visible" (.bool true)]
        "WIDGET") :=
    .reorder ((List.reverse_perm _).symm.map Record.bare)
  have inserted : ∀ fill, Edit (.plain (.record .node)) (turnedSticker [] fill "WIDGET")
      (turnedSticker [stuckTo] fill "WIDGET") :=
    fun fill => @Edit.insert .node _ [] _ stuckTo.1 stuckTo.2 "stuckTo"
      (Json.said?_printedPieces _) (by decide)
  have filled : ∀ {fill other : List (Label × Source)},
      Edit (.plain (.record .paint)) (.object Json.noGap fill) (.object Json.noGap other) →
        Edit (.plain (.record .node)) (turnedSticker [stuckTo] fill "WIDGET")
          (turnedSticker [stuckTo] other "WIDGET") :=
    fun edit => @Edit.member .node _ [stuckTo] _ _ _ _ (.list "fills" .paint)
      (by simp [RecordKind.entries]) (Json.said?_printedPieces _)
      (@Edit.item .paint _ [] [] _ _ _ edit)
  have shown : Edit (.plain (.record .paint))
      (.object Json.noGap [labelled "type" (quoted "EMOJI"), labelled "visible" (.bool true)])
      (.object Json.noGap [labelled "type" (quoted "EMOJI")]) :=
    @Edit.delete .paint _ [labelled "type" (quoted "EMOJI")] [] _ _
      (.optional "visible" .flag true) true (by simp [RecordKind.entries])
      (Json.said?_printedPieces _) rfl (.flag true)
  have renamed : Edit (.plain (.record .paint))
      (.object Json.noGap [labelled "type" (quoted "EMOJI")])
      (.object Json.noGap [labelled "type" (quoted "VIDEO")]) :=
    @Edit.member .paint _ [] [] _ _ _ (.required "type" (.choice .paintKind))
      (by simp [RecordKind.entries]) (Json.said?_printedPieces _)
      (.rename (unlisted (by decide)) (unlisted (by decide)))
  have typed : ∀ fill, Edit (.plain (.record .node)) (turnedSticker [stuckTo] fill "WIDGET")
      (turnedSticker [stuckTo] fill "STICKY") :=
    fun fill => @Edit.member .node _ [stuckTo, _] _ _ _ _ (.required "type" (.choice .shape))
      (by simp [RecordKind.entries]) (Json.said?_printedPieces _)
      (.rename (unlisted (by decide)) (unlisted (by decide)))
  cases read : Wire.node.parse (Json.noFrame.text sticker) with
  | error fault =>
      rw [read] at accepted
      cases accepted
  | ok node =>
      refine ⟨node, rfl, parse_edited read ?_⟩
      exact .head turned (.head (inserted _) (.head (filled shown)
        (.head (filled renamed) (.single (typed _)))))

end Wire
end Artboard
