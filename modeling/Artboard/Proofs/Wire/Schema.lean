import Mathlib.Data.List.Nodup
import Artboard.Proofs.Json.Members
import Artboard.Wire.File

/-!
# The wire schema

The kinds of values in the wire form, and for every record the names of its fields, what
stands behind them and what a missing one stands for.  The codecs follow this schema: the
fields of a record are read and written by the codecs of their kinds, and each one is kept
in a place of its own, which holds the default in the blank record.

Everything said about all records is then said once, by induction on the schema.
-/

namespace Artboard
namespace Wire

open Json (Choice Codec IsExact Reader RecordField Record Source meaning?)

/-! ## Kinds of values -/

/-- The kinds of names, each of which is written as a text. -/
inductive ChoiceKind where
  | shape
  | layoutMode
  | axisAlign
  | positioning
  | paintKind
  | effectKind
  | textAlign
  | styleKind

/-- The records of a design, a node among them. -/
inductive RecordKind where
  | point
  | rect
  | color
  | colorStop
  | paint
  | effect
  | typeStyle
  | node
  | componentMeta
  | styleMeta
  | file

/-- A single value, which is never written as null. -/
inductive PlainKind where
  | text
  | number
  | flag
  | choice (kind : ChoiceKind)
  | record (kind : RecordKind)

/-- What stands behind a name in the wire form. -/
inductive Kind where
  | plain (kind : PlainKind)
  | nullable (kind : PlainKind)
  | list (kind : RecordKind)
  | entries (kind : RecordKind)

abbrev ChoiceKind.Value : ChoiceKind → Type
  | shape => Shape
  | layoutMode => LayoutMode
  | axisAlign => AxisAlign
  | positioning => Positioning
  | paintKind => PaintKind
  | effectKind => EffectKind
  | textAlign => TextAlign
  | styleKind => StyleKind

def ChoiceKind.choice : (kind : ChoiceKind) → Choice kind.Value
  | shape => Wire.shape
  | layoutMode => Wire.layoutMode
  | axisAlign => Wire.axisAlign
  | positioning => Wire.positioning
  | paintKind => Wire.paintKind
  | effectKind => Wire.effectKind
  | textAlign => Wire.textAlign
  | styleKind => Wire.styleKind

abbrev RecordKind.Value : RecordKind → Type
  | point => Point
  | rect => Rect
  | color => Color
  | colorStop => ColorStop
  | paint => Paint
  | effect => Effect
  | typeStyle => TypeStyle
  | node => Node
  | componentMeta => ComponentMeta
  | styleMeta => StyleMeta
  | file => DesignFile

/-- A node as a record whose children are read and written as nodes. -/
def nodeKind : Record Node :=
  nodeRecord (node.list.field "children" false (·.children) fun children node =>
    node.withChildren children)

def RecordKind.record : (kind : RecordKind) → Record kind.Value
  | point => Wire.point
  | rect => Wire.rect
  | color => Wire.color
  | colorStop => Wire.colorStop
  | paint => Wire.paint
  | effect => Wire.effect
  | typeStyle => Wire.typeStyle
  | node => nodeKind
  | componentMeta => Wire.componentMeta
  | styleMeta => Wire.styleMeta
  | file => Wire.fileRecord

/-- The codecs as they run. That of a node does not go through its record. -/
def RecordKind.codec : (kind : RecordKind) → Codec kind.Value
  | node => Wire.node
  | point => Wire.point.codec
  | rect => Wire.rect.codec
  | color => Wire.color.codec
  | colorStop => Wire.colorStop.codec
  | paint => Wire.paint.codec
  | effect => Wire.effect.codec
  | typeStyle => Wire.typeStyle.codec
  | componentMeta => Wire.componentMeta.codec
  | styleMeta => Wire.styleMeta.codec
  | file => Wire.fileRecord.codec

abbrev PlainKind.Value : PlainKind → Type
  | text => String
  | number => Float
  | flag => Bool
  | choice kind => kind.Value
  | record kind => kind.Value

def PlainKind.codec : (kind : PlainKind) → Codec kind.Value
  | text => Codec.text
  | number => Codec.number
  | flag => Codec.bool
  | choice kind => kind.choice.codec
  | record kind => kind.codec

abbrev Kind.Value : Kind → Type
  | plain kind => kind.Value
  | nullable kind => Option kind.Value
  | list kind => List kind.Value
  | entries kind => List (String × kind.Value)

def Kind.codec : (kind : Kind) → Codec kind.Value
  | plain kind => kind.codec
  | nullable kind => kind.codec.nullable
  | list kind => kind.codec.list
  | entries kind => kind.codec.entries

/-- One field in the wire form of a record: its name, what stands behind it, and the value
that a missing one stands for, if it may be missing. -/
structure Entry where
  name : String
  kind : Kind
  default : Option kind.Value

namespace Entry

def required (name : String) (kind : PlainKind) : Entry := ⟨name, .plain kind, none⟩

def optional (name : String) (kind : PlainKind) (default : kind.Value) : Entry :=
  ⟨name, .plain kind, some default⟩

/-- A field that may be null and is null when it is missing. -/
def nullable (name : String) (kind : PlainKind) : Entry := ⟨name, .nullable kind, some none⟩

/-- A list that is empty when it is missing. -/
def list (name : String) (kind : RecordKind) : Entry := ⟨name, .list kind, some []⟩

/-- A map that is empty when it is missing. -/
def entries (name : String) (kind : RecordKind) : Entry := ⟨name, .entries kind, some []⟩

end Entry

/-- The fields of each record, in order. -/
def RecordKind.entries : RecordKind → List Entry
  | point => [.required "x" .number, .required "y" .number]
  | rect => [.required "x" .number, .required "y" .number, .required "width" .number,
      .required "height" .number]
  | color => [.required "r" .number, .required "g" .number, .required "b" .number,
      .optional "a" .number (1.0 : Float)]
  | colorStop => [.required "position" .number, .required "color" (.record .color)]
  | paint => [.required "type" (.choice .paintKind), .optional "visible" .flag true,
      .nullable "opacity" .number, .nullable "color" (.record .color),
      .list "gradientHandlePositions" .point, .list "gradientStops" .colorStop,
      .nullable "scaleMode" .text, .nullable "imageRef" .text]
  | effect => [.required "type" (.choice .effectKind), .optional "visible" .flag true,
      .optional "radius" .number (0.0 : Float), .nullable "color" (.record .color),
      .nullable "offset" (.record .point), .nullable "spread" .number]
  | typeStyle => [.required "fontFamily" .text, .nullable "fontPostScriptName" .text,
      .optional "fontWeight" .number (400.0 : Float), .required "fontSize" .number,
      .optional "textAlignHorizontal" (.choice .textAlign) TextAlign.left,
      .nullable "textAlignVertical" .text, .nullable "letterSpacing" .number,
      .nullable "lineHeightPx" .number, .nullable "lineHeightPercent" .number,
      .nullable "lineHeightUnit" .text, .nullable "italic" .flag]
  | node => [.required "id" .text, .required "name" .text, .required "type" (.choice .shape),
      .list "children" .node, .nullable "absoluteBoundingBox" (.record .rect),
      .list "fills" .paint, .list "strokes" .paint, .nullable "strokeWeight" .number,
      .list "effects" .effect, .nullable "characters" .text,
      .nullable "style" (.record .typeStyle), .nullable "layoutMode" (.choice .layoutMode),
      .nullable "primaryAxisAlignItems" (.choice .axisAlign),
      .nullable "counterAxisAlignItems" (.choice .axisAlign),
      .nullable "paddingTop" .number, .nullable "paddingRight" .number,
      .nullable "paddingBottom" .number, .nullable "paddingLeft" .number,
      .nullable "itemSpacing" .number, .nullable "layoutPositioning" (.choice .positioning),
      .nullable "cornerRadius" .number, .nullable "opacity" .number,
      .optional "visible" .flag true]
  | componentMeta => [.required "key" .text, .required "name" .text,
      .optional "description" .text ""]
  | styleMeta => [.required "key" .text, .required "name" .text,
      .optional "description" .text "", .required "styleType" (.choice .styleKind)]
  | file => [.required "name" .text, .optional "lastModified" .text "",
      .optional "thumbnailUrl" .text "", .optional "version" .text "",
      .required "document" (.record .node), .entries "components" .componentMeta,
      .entries "styles" .styleMeta]

/-! ## Nodes as records -/

theorem readNode_eq (budget : Nat) :
    readNode budget = nodeKind.readWithin (Json.inside budget) := by
  match budget with
  | 0 => rfl
  | 1 =>
      have children : (nodeReader (Json.readList none)).frozen 0 = nodeKind.frozen 0 := rfl
      change (nodeReader (Json.readList none)).readWithin (some 0) = nodeKind.readWithin (some 0)
      rw [← Record.readWithin_frozen, children, Record.readWithin_frozen]
  | budget + 2 =>
      have children : (nodeReader (Json.readList (some (readNode budget)))).frozen (budget + 1) =
          nodeKind.frozen (budget + 1) := rfl
      change (nodeReader (Json.readList (some (readNode budget)))).readWithin (some (budget + 1)) =
        nodeKind.readWithin (some (budget + 1))
      rw [← Record.readWithin_frozen, children, Record.readWithin_frozen]

theorem writeNodes_eq (nodes : List Node) : writeNodes nodes = nodes.map writeNode := by
  induction nodes with
  | nil => rfl
  | cons node nodes inductionHypothesis => rw [writeNodes, inductionHypothesis, List.map_cons]

theorem writeNode_eq (node : Node) : writeNode node = nodeKind.write node := by
  rcases node with ⟨layer, children⟩
  rw [writeNode, writeNodes_eq]
  rfl

theorem codec_eq (kind : RecordKind) : kind.codec = kind.record.codec := by
  cases kind with
  | node =>
      have read : readNode = nodeKind.codec.read := funext readNode_eq
      have write : writeNode = nodeKind.codec.write := funext writeNode_eq
      change (⟨readNode, writeNode⟩ : Codec Node) = nodeKind.codec
      rw [read, write]
  | _ => rfl

/-! ## Codecs follow the schema -/

/-- A value of some kind. -/
structure Part where
  kind : Kind
  value : kind.Value

/-- The fields are those of the schema, one after the other.  `parts` are the values they
hold in a record, and `copy` copies these values from one record into another.  Setting a
field to the value it holds changes nothing, and setting it leaves the later ones alone. -/
inductive Follows {α : Type} (blank : α) :
    List Entry → List (RecordField α) → (α → List Part) → (α → α → α) → Prop
  | nil : Follows blank [] [] (fun _ => []) (fun _ base => base)
  | cons {name : String} {kind : Kind} {default : Option kind.Value} {required : Bool}
      {get : α → kind.Value} {set : kind.Value → α → α} {entries : List Entry}
      {fields : List (RecordField α)} {parts : α → List Part} {copy : α → α → α}
      (isRequired : required = default.isNone)
      (getBlank : default.getD (get blank) = get blank)
      (setGet : ∀ record, set (get record) record = record)
      (rest : Follows blank entries fields parts copy)
      (partsSet : ∀ value record, parts (set value record) = parts record) :
      Follows blank (⟨name, kind, default⟩ :: entries)
        (kind.codec.field name required get set :: fields)
        (fun record => ⟨kind, get record⟩ :: parts record)
        (fun record base => copy record (set (get record) base))

/-- No map holds a key twice. -/
def RecordKind.Distinct : (kind : RecordKind) → kind.Value → Prop
  | .file, (whole : DesignFile) =>
    (whole.components.map Prod.fst).Nodup ∧ (whole.styles.map Prod.fst).Nodup
  | _, _ => True

def PlainKind.Distinct : (kind : PlainKind) → kind.Value → Prop
  | .record kind, value => kind.Distinct value
  | _, _ => True

def Kind.Distinct : (kind : Kind) → kind.Value → Prop
  | .plain kind, value => kind.Distinct value
  | .nullable kind, (value : Option kind.Value) => ∀ present ∈ value, kind.Distinct present
  | .list kind, (values : List kind.Value) => ∀ value ∈ values, kind.Distinct value
  | .entries kind, (values : List (String × kind.Value)) =>
    (values.map Prod.fst).Nodup ∧ ∀ value ∈ values, kind.Distinct value.2

/-- Every record follows the schema, and its fields are all there is to it. -/
theorem follows (kind : RecordKind) : ∃ parts copy,
    Follows kind.record.blank kind.entries kind.record.fields parts copy ∧
      (∀ record, copy record kind.record.blank = record) ∧
      ∀ record, kind.Distinct record → ∀ part ∈ parts record, part.kind.Distinct part.value := by
  cases kind <;>
    · apply Exists.intro
      apply Exists.intro
      refine ⟨?follows, ?copied, ?distinct⟩
      case follows =>
        repeat' first | apply Follows.nil | apply Follows.cons
        all_goals
          intros
          first
          | rfl
          | rename Node => record
            cases record
            rfl
      case copied =>
        intro record
        cases record
        rfl
      case distinct =>
        intro record distinct
        simp only [List.forall_mem_cons, Kind.Distinct, PlainKind.Distinct, RecordKind.Distinct,
          implies_true, and_true, true_and]
        first | exact List.forall_mem_nil _ | exact ⟨distinct.1, distinct.2, List.forall_mem_nil _⟩

section

variable {α : Type} {blank : α} {entries : List Entry} {fields : List (RecordField α)}
  {parts : α → List Part} {copy : α → α → α}

theorem Follows.names (follows : Follows blank entries fields parts copy) :
    fields.map (·.name) = entries.map (·.name) := by
  induction follows with
  | nil => rfl
  | cons isRequired getBlank setGet rest partsSet inductionHypothesis =>
      rw [List.map_cons, List.map_cons, inductionHypothesis]
      rfl

theorem Follows.isExact (follows : Follows blank entries fields parts copy) {budget : Nat}
    (exact : ∀ kind : Kind, IsExact (kind.codec.read budget)) :
    ∀ field ∈ fields, IsExact (field.read budget) := by
  induction follows with
  | nil => exact nofun
  | @cons name kind default required get set entries fields parts copy isRequired getBlank setGet
      rest partsSet inductionHypothesis =>
      rw [List.forall_mem_cons]
      exact ⟨(exact kind).map set, inductionHypothesis⟩

end

theorem names_nodup (kind : RecordKind) : (kind.entries.map (·.name)).Nodup := by
  cases kind <;> decide

/-- A field is found by its name. -/
theorem find?_field (kind : RecordKind) {field : RecordField kind.Value}
    (member : field ∈ kind.record.fields) :
    kind.record.fields.find? (·.name == field.name) = some field := by
  obtain ⟨parts, copy, follows, -⟩ := follows kind
  have distinct : (kind.record.fields.map (·.name)).Nodup := by
    rw [follows.names]
    exact names_nodup kind
  cases search : kind.record.fields.find? (·.name == field.name) with
  | none => simpa using List.find?_eq_none.mp search field member
  | some other =>
      have named : other.name = field.name := by simpa using List.find?_some search
      rw [List.inj_on_of_nodup_map distinct (List.mem_of_find?_eq_some search) member named]

theorem lt_of_mem_inside {budget inner : Nat} (member : inner ∈ Json.inside budget) :
    inner < budget := by
  cases budget with
  | zero => cases member
  | succ budget =>
      cases member
      exact Nat.lt_succ_self _

/-- Every value of the wire form is read exactly, however deep it nests. -/
theorem isExact_read (budget : Nat) (kind : Kind) : IsExact (kind.codec.read budget) := by
  induction budget using Nat.strong_induction_on generalizing kind with
  | _ budget shallower =>
      have within : ∀ inner ∈ Json.inside budget, ∀ kind : Kind,
          IsExact (kind.codec.read inner) :=
        fun inner member => shallower inner (lt_of_mem_inside member)
      have readers : ∀ kind : RecordKind,
          ∀ reader ∈ (Json.inside budget).map kind.codec.read, IsExact reader := by
        intro kind reader member
        obtain ⟨inner, here, rfl⟩ := Option.map_eq_some_iff.mp member
        exact within inner here (.plain (.record kind))
      have plain : ∀ kind : PlainKind, IsExact (kind.codec.read budget) := by
        intro kind
        cases kind with
        | text => exact Json.isExact_of_reads fun source => ⟨_, Json.reads_readText source⟩
        | number => exact Json.isExact_of_reads fun source => ⟨_, Json.reads_readFloat source⟩
        | flag => exact Json.isExact_of_reads fun source => ⟨_, Json.reads_readBool source⟩
        | choice kind =>
            exact Json.isExact_of_reads fun source => ⟨_, kind.choice.reads_read budget source⟩
        | record kind =>
            obtain ⟨parts, copy, follows, -⟩ := follows kind
            rw [PlainKind.codec, codec_eq]
            exact Record.isExact_readWithin kind.record _ fun inner member =>
              follows.isExact (within inner member)
      cases kind with
      | plain kind => exact plain kind
      | nullable kind =>
          exact Json.isExact_of_reads fun source => ⟨_, Json.reads_nullable (plain kind) source⟩
      | list kind =>
          exact Json.isExact_of_reads fun source => ⟨_, Json.reads_readList (readers kind) source⟩
      | entries kind =>
          exact Json.isExact_of_reads fun source =>
            ⟨_, Json.reads_readEntries (readers kind) source⟩

/-! ## What values mean -/

section

variable (budget : Nat) (source : Source)

theorem meaning?_text :
    meaning? ((Kind.plain .text).codec.read budget) source = source.text? :=
  (Json.reads_readText source).meaning?_eq

theorem meaning?_number :
    meaning? ((Kind.plain .number).codec.read budget) source = source.double? :=
  (Json.reads_readFloat source).meaning?_eq

theorem meaning?_flag :
    meaning? ((Kind.plain .flag).codec.read budget) source = source.flag? :=
  (Json.reads_readBool source).meaning?_eq

theorem meaning?_choice (kind : ChoiceKind) :
    meaning? ((Kind.plain (.choice kind)).codec.read budget) source =
      kind.choice.named? budget source :=
  (kind.choice.reads_read budget source).meaning?_eq

theorem meaning?_nullable (kind : PlainKind) :
    meaning? ((Kind.nullable kind).codec.read budget) source =
      Json.nullableMeaning? (kind.codec.read budget) source :=
  (Json.reads_nullable (isExact_read budget (.plain kind)) source).meaning?_eq

theorem isExact_inside (kind : RecordKind) :
    ∀ reader ∈ (Json.inside budget).map kind.codec.read, IsExact reader := by
  intro reader member
  obtain ⟨inner, -, rfl⟩ := Option.map_eq_some_iff.mp member
  exact isExact_read inner (.plain (.record kind))

theorem meaning?_list (kind : RecordKind) :
    meaning? ((Kind.list kind).codec.read budget) source =
      Json.listMeaning? ((Json.inside budget).map kind.codec.read) source :=
  (Json.reads_readList (isExact_inside budget kind) source).meaning?_eq

theorem meaning?_entries (kind : RecordKind) :
    meaning? ((Kind.entries kind).codec.read budget) source =
      Json.entriesMeaning? ((Json.inside budget).map kind.codec.read) source :=
  (Json.reads_readEntries (isExact_inside budget kind) source).meaning?_eq

end

theorem isExact_fields (kind : RecordKind) (budget : Nat) :
    ∀ field ∈ kind.record.fields, IsExact (field.read budget) := by
  obtain ⟨parts, copy, follows, -⟩ := follows kind
  exact follows.isExact (isExact_read budget)

/-- No bracket may be entered when nothing is left for it. -/
theorem meaning?_record_zero (kind : RecordKind) (blank : Json.Gap)
    (members : List (Json.Label × Source)) :
    meaning? ((Kind.plain (.record kind)).codec.read 0) (.object blank members) = none := by
  have read : Json.Reads (kind.codec.read 0) (.object blank members) none := by
    intro gap rest delimits
    rw [codec_eq]
    change Json.attempt (kind.record.readWithin none) _ = _
    unfold Record.readWithin
    rw [Json.attempt_peekToken_bind]
    simp
  exact read.meaning?_eq

theorem meaning?_record (kind : RecordKind) (budget : Nat) (blank : Json.Gap)
    (members : List (Json.Label × Source)) :
    meaning? ((Kind.plain (.record kind)).codec.read (budget + 1)) (.object blank members) =
      kind.record.objectMeaning? budget members := by
  rw [Kind.codec, PlainKind.codec, codec_eq]
  exact (Record.reads_object budget kind.record (isExact_fields kind budget) blank
    members).meaning?_eq

/-- A record that is read from an object has entered a bracket. -/
theorem exists_objectMeaning? {kind : RecordKind} {budget : Nat} {blank : Json.Gap}
    {members : List (Json.Label × Source)} {record : kind.Value}
    (read : meaning? ((Kind.plain (.record kind)).codec.read budget) (.object blank members) =
      some record) :
    ∃ inner, budget = inner + 1 ∧ kind.record.objectMeaning? inner members = some record := by
  cases budget with
  | zero =>
      rw [meaning?_record_zero] at read
      cases read
  | succ inner =>
      rw [meaning?_record] at read
      exact ⟨inner, rfl, read⟩

end Wire
end Artboard
