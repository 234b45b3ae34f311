import Pgml.Configuration.Integer
import Pgml.Table
import Pgml.Value

/-! The settings of a reader, and which data is accepted for them. Texts have to be texts and
mappings have to map texts to texts; an integer may also be written as a truth value, a
fraction without a fractional part, or a text. -/
namespace Pgml

structure Configuration where
  /-- The name of a document's root element. -/
  rootElement : String
  /-- The attribute that holds the type hint. -/
  hintAttribute : String
  /-- Names of types that stand for other types. -/
  translations : Table String
  /-- Extra names of colours. -/
  colors : Table String
  /-- Used where a line colour is not understood. -/
  strokeColor : String
  /-- Used where a fill colour is not understood. -/
  fillColor : String
  /-- The radius of an ellipse that gives none. -/
  ellipseRadius : Int
  /-- The count of bytes in a block that a document is read in. -/
  blockSize : Int
  deriving DecidableEq, Repr

namespace Configuration

/-- The names that older editors write for the built-in types. -/
def editorNames : List (String × String) := [
  ("org.tigris.gef.presentation.FigGroup", "group"),
  ("org.tigris.gef.presentation.FigText", "text"),
  ("org.tigris.gef.presentation.FigLine", "line"),
  ("org.tigris.gef.presentation.FigPoly", "polygon"),
  ("org.tigris.gef.presentation.FigRect", "rectangle"),
  ("org.tigris.gef.presentation.FigRRect", "rounded_rectangle"),
  ("org.tigris.gef.presentation.FigCircle", "ellipse"),
  ("org.tigris.gef.presentation.FigEdgeLine", "edge"),
  ("org.tigris.gef.presentation.FigEdgePoly", "edge"),
  ("org.tigris.gef.presentation.FigEdgeRectiline", "edge")]

def initial : Configuration where
  rootElement := "pgml"
  hintAttribute := "description"
  translations := ⟨editorNames⟩
  colors := .empty
  strokeColor := "blue"
  fillColor := "white"
  ellipseRadius := 10
  blockSize := 16384

instance : Inhabited Configuration := ⟨initial⟩

def text? : Value → Option String
  | .scalar (.text s) => some s
  | _ => none

def textEntry? : Scalar × Value → Option (String × String)
  | (.text key, .scalar (.text value)) => some (key, value)
  | _ => none

def texts? : Value → Option (Table String)
  | .mapping entries => (entries.mapM textEntry?).map Table.ofList
  | _ => none

/-- The integer of a fraction without a fractional part, within 64 bits. -/
def floatInt? (x : Number.Binary64) : Option Int := do
  let n ← x.toInt?
  if Int64.minValue.toInt < n ∧ n ≤ Int64.maxValue.toInt then some n else none

def int? : Value → Option Int
  | .scalar (.int i) => some i
  | .scalar (.bool b) => some (if b then 1 else 0)
  | .scalar (.float x) => floatInt? x
  | .scalar (.text s) => textInt? s
  | _ => none

/-- Blocks hold at least one byte. -/
def blockSize? (v : Value) : Option Int := (int? v).filter (0 < ·)

/-- The configuration with one field set, if there is such a field and it accepts the value. -/
def set? (c : Configuration) (field : String) (v : Value) : Option Configuration :=
  match field with
  | "root_element" => (text? v).map ({ c with rootElement := · })
  | "type_hint_attribute" => (text? v).map ({ c with hintAttribute := · })
  | "translations" => (texts? v).map ({ c with translations := · })
  | "colors" => (texts? v).map ({ c with colors := · })
  | "default_stroke_color" => (text? v).map ({ c with strokeColor := · })
  | "default_fill_color" => (text? v).map ({ c with fillColor := · })
  | "ellipse_radius" => (int? v).map ({ c with ellipseRadius := · })
  | "chunk_size" => (blockSize? v).map ({ c with blockSize := · })
  | _ => none

def setAll? (c : Configuration) : List (Scalar × Value) → Option Configuration
  | [] => some c
  | (.text field, v) :: rest => (c.set? field v).bind (·.setAll? rest)
  | _ => none

/-- The configuration that a mapping describes: its fields as given, all others as usual. -/
def ofValue? : Value → Option Configuration
  | .mapping entries => initial.setAll? entries
  | _ => none

def ofTable (t : Table String) : Value :=
  .mapping (t.entries.map fun e => (.text e.1, .text e.2))

/-- The fields of a configuration with their values, in a fixed order. -/
def fields (c : Configuration) : List (String × Value) := [
  ("root_element", .text c.rootElement),
  ("type_hint_attribute", .text c.hintAttribute),
  ("translations", ofTable c.translations),
  ("colors", ofTable c.colors),
  ("default_stroke_color", .text c.strokeColor),
  ("default_fill_color", .text c.fillColor),
  ("ellipse_radius", .int c.ellipseRadius),
  ("chunk_size", .int c.blockSize)]

/-- The mapping that describes a configuration. -/
def value (c : Configuration) : Value := .mapping (c.fields.map fun e => (.text e.1, e.2))

end Configuration

end Pgml
