import Artboard.Proofs.Json.Printed
import Artboard.Proofs.Wire.Schema

/-!
# Writing and reading back

What a codec writes is read back as the value it was written from.
-/

namespace Artboard
namespace Wire

open Json (Choice Codec Fits Frame Label RecordField Record Source Written meaning? said?)

/-- The value is written as a source that means the value. -/
def Returns (budget : Nat) (kind : Kind) (value : kind.Value) : Prop :=
  ∃ frame source, Written (kind.codec.write value) frame source ∧
    meaning? (kind.codec.read budget) source = some value

/-! ## Names -/

/-- Every name that is written stands for the value it was written from, that of a value
for all other names included. -/
theorem find?_nameOf (kind : ChoiceKind) (value : kind.Value) :
    kind.choice.find? (kind.choice.nameOf value) = some value := by
  cases kind <;> cases value <;> rfl

theorem returns_choice (budget : Nat) (kind : ChoiceKind) (value : kind.Value) :
    Returns budget (.plain (.choice kind)) value := by
  refine ⟨Json.noFrame, .text (Json.printedPieces (kind.choice.nameOf value)), ?_, ?_⟩
  · exact Json.written_noFrame (Json.renderQuoted_printedPieces _).symm
  · rw [meaning?_choice, Choice.named?, Json.said?_printedPieces, Option.bind_some,
      find?_nameOf]

/-! ## Scalars -/

theorem returns_text (budget : Nat) (value : String) : Returns budget (.plain .text) value := by
  refine ⟨Json.noFrame, .text (Json.printedPieces value), ?_, ?_⟩
  · exact Json.written_noFrame (Json.renderQuoted_printedPieces value).symm
  · rw [meaning?_text, Source.text?, Json.said?_printedPieces]

theorem returns_flag (budget : Nat) (value : Bool) : Returns budget (.plain .flag) value := by
  refine ⟨Json.noFrame, .bool value, ?_, ?_⟩
  · cases value <;> exact Json.written_noFrame rfl
  · rw [meaning?_flag, Source.flag?]

theorem returns_number (budget : Nat) {value : Float} (readsBack : Json.ReadsBack value) :
    Returns budget (.plain .number) value := by
  obtain ⟨frame, number, printed, reads⟩ := Json.exists_number_of_parse readsBack
  refine ⟨frame, .number number, printed, ?_⟩
  rw [meaning?_number, Source.double?, reads]

/-! ## Lists and maps -/

theorem exists_items (kind : RecordKind) (budget : Nat) (values : List kind.Value)
    (returns : ∀ value ∈ values, Returns budget (.plain (.record kind)) value) :
    ∃ items : List (Frame × Source),
      List.Forall₂ (fun json item => Written json item.1 item.2) (values.map kind.codec.write)
        items ∧
      (items.mapM fun item => meaning? (kind.codec.read budget) item.2) = some values := by
  induction values with
  | nil => exact ⟨[], .nil, rfl⟩
  | cons value values inductionHypothesis =>
      rw [List.forall_mem_cons] at returns
      obtain ⟨frame, source, written, read⟩ := returns.1
      obtain ⟨items, writtenItems, readItems⟩ := inductionHypothesis returns.2
      refine ⟨(frame, source) :: items, .cons written writtenItems, ?_⟩
      change meaning? (kind.codec.read budget) source = some value at read
      rw [List.mapM_cons, readItems, read]
      rfl

theorem returns_list (kind : RecordKind) (budget : Nat) (values : List kind.Value)
    (returns : ∀ value ∈ values, Returns budget (.plain (.record kind)) value) :
    Returns (budget + 1) (.list kind) values := by
  obtain ⟨items, written, read⟩ := exists_items kind budget values returns
  refine ⟨Json.noFrame, .list Json.noGap items, Json.written_list written, ?_⟩
  rw [meaning?_list]
  exact read

theorem enter_append {key : String} {value : α} {entries : List (String × α)}
    (new : key ∉ entries.map Prod.fst) :
    Json.enter key value entries = entries ++ [(key, value)] := by
  have kept : entries.filter (fun entry => entry.1 != key) = entries := by
    rw [List.filter_eq_self]
    intro entry member
    rw [bne_iff_ne]
    rintro rfl
    exact new (List.mem_map_of_mem member)
  rw [Json.enter, kept]

theorem exists_entries (kind : RecordKind) (budget : Nat)
    (made values : List (String × kind.Value))
    (distinct : ((made ++ values).map Prod.fst).Nodup)
    (returns : ∀ value ∈ values, Returns budget (.plain (.record kind)) value.2) :
    ∃ members : List (Label × Source),
      List.Forall₂ (fun (json : String × Json) member => ∃ frame,
          member.1 = Json.printedLabel json.1 frame ∧ Written json.2 frame member.2)
        (values.map fun value => (value.1, kind.codec.write value.2)) members ∧
      members.foldlM (Json.stepMember (Json.enterMeaning? (kind.codec.read budget))) made =
        some (made ++ values) := by
  induction values generalizing made with
  | nil => exact ⟨[], .nil, by simp⟩
  | cons value values inductionHypothesis =>
      rcases value with ⟨key, value⟩
      rw [List.forall_mem_cons] at returns
      obtain ⟨frame, source, written, read⟩ := returns.1
      have new : key ∉ made.map Prod.fst := by
        rw [List.map_append, List.nodup_append] at distinct
        intro member
        exact distinct.2.2 key member key List.mem_cons_self rfl
      have step : Json.stepMember (Json.enterMeaning? (kind.codec.read budget)) made
          (Json.printedLabel key frame, source) = some (made ++ [(key, value)]) := by
        change meaning? (kind.codec.read budget) source = some value at read
        rw [Json.stepMember, Json.printedLabel, Json.said?_printedPieces, Option.bind_some,
          Json.enterMeaning?, read, Option.map_some, enter_append new]
      obtain ⟨members, writtenMembers, readMembers⟩ :=
        inductionHypothesis (made ++ [(key, value)])
          (by rwa [List.append_assoc, List.singleton_append]) returns.2
      refine ⟨(Json.printedLabel key frame, source) :: members,
        .cons ⟨frame, rfl, written⟩ writtenMembers, ?_⟩
      rw [List.foldlM_cons, step]
      change List.foldlM _ (made ++ [(key, value)]) members = _
      rw [readMembers, List.append_assoc, List.singleton_append]

theorem returns_entries (kind : RecordKind) (budget : Nat)
    (values : List (String × kind.Value)) (distinct : (values.map Prod.fst).Nodup)
    (returns : ∀ value ∈ values, Returns budget (.plain (.record kind)) value.2) :
    Returns (budget + 1) (.entries kind) values := by
  obtain ⟨members, written, read⟩ := exists_entries kind budget [] values distinct returns
  refine ⟨Json.noFrame, .object Json.noGap members, Json.written_object written, ?_⟩
  rw [meaning?_entries]
  exact read

/-! ## Records -/

/-- A field of a record with the source it is written as and the change it is read as. -/
structure Row (α : Type) where
  field : RecordField α
  frame : Frame
  source : Source
  change : α → α

namespace Row

variable {α : Type}

/-- The source is that of the field in a record, and it is read as the change. -/
structure Fits (budget : Nat) (record : α) (row : Row α) : Prop where
  written : Written (row.field.write record) row.frame row.source
  read : meaning? (row.field.read budget) row.source = some row.change

/-- The member under the name of the field. -/
def member (row : Row α) : Label × Source :=
  (Json.printedLabel row.field.name row.frame, row.source)

/-- What is found under the name of the field. -/
def found (row : Row α) : String × (α → α) :=
  (row.field.name, row.change)

end Row

/-- When every part of a record returns, its fields have rows that copy the record. -/
theorem Follows.exists_rows {blank : α} {entries : List Entry} {fields : List (RecordField α)}
    {parts : α → List Part} {copy : α → α → α} (follows : Follows blank entries fields parts copy)
    (budget : Nat) (record : α)
    (returns : ∀ part ∈ parts record, Returns budget part.kind part.value) :
    ∃ rows : List (Row α), rows.map Row.field = fields ∧
      (∀ row ∈ rows, row.Fits budget record) ∧
      ∀ base, rows.foldl (fun base row => row.change base) base = copy record base := by
  induction follows with
  | nil => exact ⟨[], rfl, nofun, fun _ => rfl⟩
  | @cons name kind default required get set entries fields parts copy isRequired getBlank setGet
      rest partsSet inductionHypothesis =>
      rw [List.forall_mem_cons] at returns
      obtain ⟨frame, source, written, read⟩ := returns.1
      obtain ⟨rows, fields, fit, copies⟩ := inductionHypothesis returns.2
      refine ⟨⟨kind.codec.field name required get set, frame, source, set (get record)⟩ :: rows,
        by rw [List.map_cons, fields], ?_, fun base => copies _⟩
      rw [List.forall_mem_cons]
      refine ⟨⟨written, ?_⟩, fit⟩
      change meaning? (set <$> kind.codec.read budget) source = _
      rw [((isExact_read budget kind).reads_map set source).meaning?_eq, read]
      rfl

/-- Rows whose changes are found under the names of their fields are all applied. -/
theorem assemble_rows {found : Record.Found α} (rows : List (Row α))
    (all : ∀ row ∈ rows, found.lookup row.field.name = some row.change) (base : α) :
    Record.assemble found (rows.map Row.field) base =
      .ok (rows.foldl (fun base row => row.change base) base) := by
  induction rows generalizing base with
  | nil => rfl
  | cons row rows inductionHypothesis =>
      rw [List.forall_mem_cons] at all
      rw [List.map_cons, Record.assemble, all.1]
      exact inductionHypothesis all.2 (row.change base)

/-- A row contributes its change under the name of its field. -/
theorem Row.Fits.offered? {kind : RecordKind} {budget : Nat} {record : kind.Value}
    {row : Row kind.Value} (fits : row.Fits budget record)
    (member : row.field ∈ kind.record.fields) :
    Record.offered? kind.record.fields budget (Record.bare row.member) =
      some (some row.found) := by
  rw [Record.bare, Row.member, Record.offered?, Json.printedLabel, Json.said?_printedPieces,
    Option.bind_some, Record.contribution?, find?_field kind member]
  simp only [fits.read]
  rfl

theorem returns_record (kind : RecordKind) (budget : Nat) (record : kind.Value)
    {parts : kind.Value → List Part} {copy : kind.Value → kind.Value → kind.Value}
    (follows : Follows kind.record.blank kind.entries kind.record.fields parts copy)
    (copied : copy record kind.record.blank = record)
    (returns : ∀ part ∈ parts record, Returns budget part.kind part.value) :
    Returns (budget + 1) (.plain (.record kind)) record := by
  obtain ⟨rows, fields, fit, copies⟩ := follows.exists_rows budget record returns
  refine ⟨Json.noFrame, .object Json.noGap (rows.map Row.member), ?_, ?_⟩
  · change Written (kind.codec.write record) _ _
    rw [codec_eq]
    apply Json.written_object
    rw [← fields, List.map_map, List.forall₂_map_left_iff, List.forall₂_map_right_iff,
      List.forall₂_same]
    exact fun row member => ⟨row.frame, rfl, (fit row member).written⟩
  · have offered : ∀ row ∈ rows, Record.offered? kind.record.fields budget
        (Record.bare row.member) = some (some row.found) := by
      intro row member
      apply (fit row member).offered?
      rw [← fields]
      exact List.mem_map_of_mem member
    have found : Record.offers kind.record.fields budget
        ((rows.map Row.member).map Record.bare) = rows.map Row.found := by
      rw [List.map_map]
      exact Record.offers_map _ _ offered
    have once : ((rows.map Row.found).map Prod.fst).Nodup := by
      have names : (rows.map Row.found).map Prod.fst = kind.record.fields.map (·.name) := by
        rw [← fields, List.map_map, List.map_map]
        rfl
      rw [names, follows.names]
      exact names_nodup kind
    have all : ∀ row ∈ rows,
        (rows.map Row.found).lookup row.field.name = some row.change := by
      intro row member
      exact (Record.lookup_eq_some_iff_mem once).mpr (List.mem_map_of_mem member)
    rw [meaning?_record, Record.objectMeaning?_eq_some_iff, found]
    refine ⟨⟨?_, by rw [found]; exact once⟩, ?_⟩
    · intro member here
      rw [List.map_map, List.mem_map] at here
      obtain ⟨row, member, rfl⟩ := here
      rw [Function.comp_apply, offered row member]
      rfl
    · rw [← fields, assemble_rows rows all, copies, copied]

/-! ## Everything -/

/-- Null stands for no plain value. -/
theorem meaning?_plain_null (budget : Nat) (kind : PlainKind) :
    meaning? ((Kind.plain kind).codec.read budget) .null = none := by
  cases kind with
  | text => exact meaning?_text budget .null
  | number => exact meaning?_number budget .null
  | flag => exact meaning?_flag budget .null
  | choice kind =>
      rw [meaning?_choice]
      cases budget <;> rfl
  | record kind =>
      change meaning? (kind.codec.read budget) .null = none
      rw [codec_eq]
      exact (kind.record.reads_none (Json.inside budget) .null nofun nofun).meaning?_eq

/-- Every part of a record is written by a field. -/
theorem Follows.exists_write {blank : α} {entries : List Entry} {fields : List (RecordField α)}
    {parts : α → List Part} {copy : α → α → α} (follows : Follows blank entries fields parts copy)
    {record : α} {part : Part} (member : part ∈ parts record) :
    ∃ field ∈ fields, field.write record = part.kind.codec.write part.value := by
  induction follows with
  | nil => cases member
  | @cons name kind default required get set entries fields parts copy isRequired getBlank setGet
      rest partsSet inductionHypothesis =>
      rcases List.mem_cons.mp member with rfl | member
      · exact ⟨_, List.mem_cons_self, rfl⟩
      · obtain ⟨field, here, write⟩ := inductionHypothesis member
        exact ⟨field, List.mem_cons_of_mem _ here, write⟩

/-- Whatever can be read within a budget returns. -/
theorem returns (budget : Nat) (kind : Kind) (value : kind.Value)
    (fits : Fits budget (kind.codec.write value)) (distinct : kind.Distinct value) :
    Returns budget kind value := by
  induction budget using Nat.strong_induction_on generalizing kind with
  | _ budget shallower =>
      have plain : ∀ (kind : PlainKind) (value : kind.Value),
          Fits budget (kind.codec.write value) → kind.Distinct value →
            Returns budget (.plain kind) value := by
        intro kind value fits distinct
        cases kind with
        | text => exact returns_text budget value
        | number => exact returns_number budget (fits.readBack value List.mem_cons_self)
        | flag => exact returns_flag budget value
        | choice kind => exact returns_choice budget kind value
        | record kind =>
            obtain ⟨parts, copy, follows, copied, distinctParts⟩ := follows kind
            rw [PlainKind.codec, codec_eq] at fits
            obtain ⟨inner, rfl, fitFields⟩ := Fits.exists_members fits
            apply returns_record kind inner value follows (copied value)
            intro part member
            obtain ⟨field, fieldMember, write⟩ := follows.exists_write member
            apply shallower inner (Nat.lt_succ_self inner) part.kind part.value
            · rw [← write]
              exact fitFields _ (List.mem_map_of_mem fieldMember)
            · exact distinctParts value distinct part member
      cases kind with
      | plain kind => exact plain kind value fits distinct
      | nullable kind =>
          cases value with
          | none =>
              refine ⟨Json.noFrame, .null, Json.written_noFrame rfl, ?_⟩
              rw [meaning?_nullable, Json.nullableMeaning?]
          | some value =>
              obtain ⟨frame, source, written, read⟩ := plain kind value fits (distinct value rfl)
              have present : source ≠ .null := by
                rintro rfl
                rw [meaning?_plain_null] at read
                cases read
              refine ⟨frame, source, written, ?_⟩
              change meaning? (kind.codec.read budget) source = some value at read
              rw [meaning?_nullable, Json.nullableMeaning?_of_ne_null present, read]
              rfl
      | list kind =>
          obtain ⟨inner, rfl, fitItems⟩ := fits.exists_items
          apply returns_list
          intro value member
          exact shallower inner (Nat.lt_succ_self inner) (.plain (.record kind)) value
            (fitItems _ (List.mem_map_of_mem member)) (distinct value member)
      | entries kind =>
          obtain ⟨inner, rfl, fitMembers⟩ := fits.exists_members
          apply returns_entries kind inner value distinct.1
          intro value member
          exact shallower inner (Nat.lt_succ_self inner) (.plain (.record kind)) value.2
            (fitMembers _ (List.mem_map_of_mem member)) (distinct.2 value member)

/-- What fits into the brackets of a reader is read back from its compact form. -/
theorem parse_compact_of_fits (kind : Kind) (value : kind.Value)
    (fits : Fits Json.maxDepth (kind.codec.write value)) (distinct : kind.Distinct value) :
    kind.codec.parse (Json.compact (kind.codec.write value)) = .ok value := by
  obtain ⟨frame, source, written, read⟩ := returns Json.maxDepth kind value fits distinct
  have text : Json.compact (kind.codec.write value) = frame.text source := by
    rw [Json.compact, Json.Frame.text, written]
  rw [text, Json.parse_eq_ok_iff (isExact_read Json.maxDepth kind)]
  exact read

/-- Every node and every file comes back from the text it is written as, provided that the
text opens no more brackets than the reader enters and that its numbers read back.  The
maps of a file may list their entries in any order. -/
theorem parse_compact :
    (∀ node : Node,
      (Wire.node.write node).depth ≤ 127 →
      (∀ x ∈ (Wire.node.write node).numbers, Json.ReadsBack x) →
        Wire.node.parse (Json.compact (Wire.node.write node)) = .ok node) ∧
    (∀ file : DesignFile,
      (Wire.file.write file).depth ≤ 127 →
      (∀ x ∈ (Wire.file.write file).numbers, Json.ReadsBack x) →
      (file.components.map Prod.fst).Nodup → (file.styles.map Prod.fst).Nodup →
        Wire.file.parse (Json.compact (Wire.file.write file)) = .ok file) := by
  constructor
  · intro node deep readBack
    exact parse_compact_of_fits (.plain (.record .node)) node ⟨deep, readBack⟩ trivial
  · intro file deep readBack components styles
    exact parse_compact_of_fits (.plain (.record .file)) file ⟨deep, readBack⟩
      ⟨components, styles⟩

/-- A file with a text that needs escapes, values of no known kind, and two components. -/
def notice : DesignFile where
  name := "Notice"
  lastModified := "2024-05-01T10:00:00Z"
  thumbnailUrl := ""
  version := "7"
  document := {
    layer := { Layer.ofShape "1:1" "" .unknown with
      bounds := some ⟨-8.0, 0.0, 320.0, 1e21⟩
      fills := [
        { Paint.linearGradient [⟨0.0, 0.5⟩] [⟨1.0, ⟨1.0, 0.25, 0.0, 1.0⟩⟩] with visible := false },
        Paint.ofKind .other]
      effects := [⟨.other, true, 4.0, none, some ⟨0.0, 2.0⟩, none⟩]
      layoutMode := some .vertical
      primaryAlign := some .other }
    children := [{
      layer := { Layer.ofShape "1:2" "\"New\"\t<b>" .text with
        characters := some "50 % \\ \x01 é 漢 🎈"
        textStyle := some { TypeStyle.ofFamily "Inter" 12.5 with letterSpacing := some (-0.25) } }
      children := [] }] }
  components := [("1:2", ⟨"k2", "Label", ""⟩), ("1:1", ⟨"k1", "Card", "A card"⟩)]
  styles := [("S:1", ⟨"s1", "Shadow", "", .effect⟩)]

theorem parse_compact_notice :
    Wire.node.parse (Json.compact (Wire.node.write notice.document)) = .ok notice.document ∧
      Wire.file.parse (Json.compact (Wire.file.write notice)) = .ok notice :=
  ⟨parse_compact.1 notice.document (by decide +kernel) (by decide +kernel),
    parse_compact.2 notice (by decide +kernel) (by decide +kernel) (by decide) (by decide)⟩

end Wire
end Artboard
