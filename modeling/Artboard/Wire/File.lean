import Artboard.Design.File
import Artboard.Wire.Node

/-!
# Wire form of files
-/

namespace Artboard
namespace Wire

open Json (Choice Codec Record)

/-- A component is written by its key, its name and what its author says. -/
def componentMeta : Record ComponentMeta where
  name := "ComponentMeta"
  blank := ⟨"", "", ""⟩
  fields := [
    Codec.text.field "key" true (·.key) fun v c => { c with key := v },
    Codec.text.field "name" true (·.name) fun v c => { c with name := v },
    Codec.text.field "description" false (·.description) fun v c => { c with description := v }]

def styleKindName : StyleKind → String
  | .fill => "FILL"
  | .text => "TEXT"
  | .effect => "EFFECT"
  | .grid => "GRID"

/-- Styles apply to nothing but these. -/
def styleKind : Choice StyleKind where
  names := [.fill, .text, .effect, .grid].map fun kind => (styleKindName kind, kind)
  other := none
  nameOf := styleKindName

/-- A style is written by its key, its name, what its author says and what it
applies to. -/
def styleMeta : Record StyleMeta where
  name := "StyleMeta"
  blank := ⟨"", "", "", .fill⟩
  fields := [
    Codec.text.field "key" true (·.key) fun v s => { s with key := v },
    Codec.text.field "name" true (·.name) fun v s => { s with name := v },
    Codec.text.field "description" false (·.description) fun v s => { s with description := v },
    styleKind.codec.field "styleType" true (·.kind) fun v s => { s with kind := v }]

/-- A file must have a name and a document. -/
def fileRecord : Record DesignFile where
  name := "DesignFile"
  blank := ⟨"", "", "", "", Node.ofShape "" "" .unknown, [], []⟩
  fields := [
    Codec.text.field "name" true (·.name) fun v f => { f with name := v },
    Codec.text.field "lastModified" false (·.lastModified)
      fun v f => { f with lastModified := v },
    Codec.text.field "thumbnailUrl" false (·.thumbnailUrl)
      fun v f => { f with thumbnailUrl := v },
    Codec.text.field "version" false (·.version) fun v f => { f with version := v },
    node.field "document" true (·.document) fun v f => { f with document := v },
    componentMeta.codec.entries.field "components" false (·.components)
      fun v f => { f with components := v },
    styleMeta.codec.entries.field "styles" false (·.styles) fun v f => { f with styles := v }]

def file : Codec DesignFile := fileRecord.codec

end Wire
end Artboard
