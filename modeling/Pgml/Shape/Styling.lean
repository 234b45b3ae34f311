import Pgml.Attributes
import Pgml.Color.Resolver
import Pgml.Shape
import Pgml.Work

/-! The attributes that all shapes have in common: geometry, line, fill, dashes, context,
visibility and the single mark. They are applied one after the other, so an attribute that
cannot be read leaves the ones before it applied. -/
namespace Pgml

/-- A shape while its attributes are applied, with the resolver of its colours and what
there was to report, the newest notice first. -/
structure Styling where
  shape : Shape
  colors : Resolver
  journal : List Notice
  deriving DecidableEq, Repr

/-- The colours used where a description is not understood. -/
structure ColorDefaults where
  stroke : Color
  fill : Color
  deriving DecidableEq, Repr

namespace Styling

def updateShape (f : Shape → Shape) : Work Styling Unit :=
  .update fun s => { s with shape := f s.shape }

def updateStyle (f : Style → Style) : Work Styling Unit :=
  updateShape fun s => { s with style := f s.style }

def resolve (value : String) (default : Color) : Work Styling Color := fun s =>
  let (color, colors, notices) := s.colors.resolve value default
  (.ok color, { s with colors := colors, journal := notices ++ s.journal })

/-- Geometry is applied only if there is an `x`; the rest of it has defaults. -/
def setGeometry (as : Attributes) : Work Styling Unit := do
  match ← .settle (as.int? "x") with
  | none => return ()
  | some x =>
    let y ← .settle (as.int "y" 0)
    let width ← .settle (as.int "width" 20)
    let height ← .settle (as.int "height" 20)
    updateShape (·.withBounds ⟨x, y, width, height⟩)

def setLineWidth (as : Attributes) : Work Styling Unit := do
  match ← .settle (as.int? "stroke") with
  | none => return ()
  | some width => updateStyle ({ · with lineWidth := width })

def setLineColor (default : Color) (as : Attributes) : Work Styling Unit :=
  match as.value? "strokecolor" with
  | none => return ()
  | some value => do
    let color ← resolve value default
    updateStyle ({ · with lineColor := color })

/-- A fill is meant by `1` and by every word that begins with `t`. -/
def setFilled (as : Attributes) : Work Styling Unit :=
  match as.value? "fill" with
  | none => return ()
  | some fill => updateStyle ({ · with filled := fill == "1" || fill.toList.head? == some 't' })

def setFillColor (default : Color) (as : Attributes) : Work Styling Unit :=
  match as.value? "fillcolor" with
  | none => return ()
  | some value => do
    let color ← resolve value default
    updateStyle ({ · with fillColor := color })

/-- Dashes can be switched on but not off. -/
def setDashed (as : Attributes) : Work Styling Unit :=
  match as.value? "dasharray" with
  | none => return ()
  | some dashes => if dashes == "solid" then return () else updateStyle ({ · with dashed := true })

def setContext (as : Attributes) : Work Styling Unit :=
  match as.value? "context" with
  | none => return ()
  | some context => updateStyle ({ · with context := context })

def setVisible (as : Attributes) : Work Styling Unit := do
  match ← .settle (as.int? "shown") with
  | none => return ()
  | some shown => updateStyle ({ · with visible := shown != 0 })

def setSingle (as : Attributes) : Work Styling Unit :=
  match as.value? "single" with
  | none => return ()
  | some single => updateStyle ({ · with single := single })

/-- All common attributes, in this order. -/
def setCommon (defaults : ColorDefaults) (as : Attributes) : Work Styling Unit := do
  setGeometry as
  setLineWidth as
  setLineColor defaults.stroke as
  setFilled as
  setFillColor defaults.fill as
  setDashed as
  setContext as
  setVisible as
  setSingle as

end Styling

end Pgml
