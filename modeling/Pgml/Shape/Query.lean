import Pgml.Shape

/-! Looking for a shape by the values of its fields. A field that an object lacks counts as
null. Colours, boxes, points, other shapes and what a shape can do are equal to no value. -/
namespace Pgml

/-- The value that a field equals, or none if it equals no value. -/
abbrev FieldValue := Option Value

namespace FieldValue

def ofText? : Option String → FieldValue
  | some s => some (.text s)
  | none => some .null

def ofTexts (t : Table String) : FieldValue :=
  some (.mapping (t.entries.map fun e => (.text e.1, .text e.2)))

/-- A list of things that are no values: only the empty one equals a value. -/
def ofList {α : Type} : List α → FieldValue
  | [] => some (.list [])
  | _ :: _ => none

/-- A shape that may be missing. -/
def ofId? : Option ItemId → FieldValue
  | some _ => none
  | none => some .null

def int (n : Int) : FieldValue := some (.int n)

end FieldValue

namespace Variant

/-- What only some shapes can do. -/
def abilities : Variant → List String
  | group _ none => ["add_object", "calc_bounds"]
  | group _ (some _) => ["add_object", "calc_bounds", "get_handler"]
  | polygon _ => ["add_point", "calc_bounds"]
  | line .. => ["set_start", "set_end", "calc_bounds"]
  | _ => []

def field (v : Variant) (name : String) : FieldValue :=
  match v, name with
  | .group children _, "children" => .ofList children
  | .text content _ _, "text" => .ofText? (some content)
  | .text _ family _, "font_family" => .ofText? (some family)
  | .text _ _ size, "font_size" => .int size
  | .roundedRectangle radius, "corner_radius" => .int radius
  | .polygon points, "points" => .ofList points
  | .line x1 _ _ _, "x1" => .int x1
  | .line _ y1 _ _, "y1" => .int y1
  | .line _ _ x2 _, "x2" => .int x2
  | .line _ _ _ y2, "y2" => .int y2
  | .edge path _, "path" => .ofId? path
  | .edge _ connections, "source_port" => .ofId? connections.sourcePort
  | .edge _ connections, "dest_port" => .ofId? connections.destPort
  | .edge _ connections, "source_node" => .ofId? connections.sourceNode
  | .edge _ connections, "dest_node" => .ofId? connections.destNode
  | _, _ => if v.abilities.contains name then none else some .null

end Variant

namespace Shape

def field (s : Shape) (name : String) : FieldValue :=
  match name with
  | "kind" => .ofText? (some s.kind)
  | "name" => .ofText? s.name
  | "owner" => some (s.owner.getD .null)
  | "private" => .ofTexts s.privateData
  | "bounds" | "line_color" | "fill_color" | "set_bounds" => none
  | "x" => .int s.bounds.x
  | "y" => .int s.bounds.y
  | "width" => .int s.bounds.width
  | "height" => .int s.bounds.height
  | "line_width" => .int s.style.lineWidth
  | "filled" => some (.bool s.style.filled)
  | "dashed" => some (.bool s.style.dashed)
  | "visible" => some (.bool s.style.visible)
  | "context" => .ofText? (some s.style.context)
  | "single" => .ofText? (some s.style.single)
  | _ => s.variant.field name

end Shape

namespace Item

/-- An object that is no shape has no fields. -/
def field (item : Item) (name : String) : FieldValue :=
  match item with
  | .shape s => s.field name
  | .thing _ => some .null

/-- Whether every field of a query has the value that the query gives it. -/
def fits (item : Item) (query : List (String × Value)) : Bool :=
  query.all fun (name, v) => (item.field name).any (·.same v)

end Item

end Pgml
