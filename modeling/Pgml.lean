import Pgml.Attributes
import Pgml.Bounds
import Pgml.Color
import Pgml.Color.Notation
import Pgml.Color.Palette
import Pgml.Color.Resolver
import Pgml.CommandLine
import Pgml.CommandLine.Arguments
import Pgml.CommandLine.Log
import Pgml.CommandLine.Usage
import Pgml.Configuration
import Pgml.Configuration.Integer
import Pgml.Desk
import Pgml.Diagram
import Pgml.Fault
import Pgml.Handler
import Pgml.Machine
import Pgml.Main
import Pgml.Markup.Alphabet
import Pgml.Markup.Assignment
import Pgml.Markup.Byte
import Pgml.Markup.Delivery
import Pgml.Markup.Encoding
import Pgml.Markup.Intake
import Pgml.Markup.Piece
import Pgml.Markup.Progress
import Pgml.Markup.Prolog
import Pgml.Markup.Reference
import Pgml.Markup.Scope
import Pgml.Markup.Tag
import Pgml.Markup.Utf8
import Pgml.Notice
import Pgml.Number.Binary64
import Pgml.Number.Floating
import Pgml.Number.Numeral
import Pgml.Number.Shortest
import Pgml.Outline
import Pgml.PrivateData
import Pgml.Reader
import Pgml.Settings
import Pgml.Shape
import Pgml.Shape.Query
import Pgml.Shape.Styling
import Pgml.Table
import Pgml.Text.Blank
import Pgml.Text.Digit
import Pgml.Text.Drop
import Pgml.Text.Hex
import Pgml.Text.Lower
import Pgml.Text.Printable
import Pgml.Text.Quoted
import Pgml.Text.Range
import Pgml.Text.Word
import Pgml.Types
import Pgml.Value
import Pgml.Value.Json
import Pgml.Value.Json.Printer
import Pgml.Value.Yaml
import Pgml.Value.Yaml.Layout
import Pgml.Value.Yaml.Node
import Pgml.Value.Yaml.Resolution
import Pgml.Value.Yaml.Token
import Pgml.Value.Yaml.TokenStream
import Pgml.Vocabulary
import Pgml.Work
import Pgml.Proofs.FrameDiscipline
import Pgml.Proofs.RecursiveReading
import Pgml.Proofs.AcceptedWords
import Pgml.Proofs.SimilarDesks
import Pgml.Proofs.SimilarRules
import Pgml.Proofs.HistoryIndependence
import Pgml.Proofs.Ledger
import Pgml.Proofs.DeskViews
import Pgml.Proofs.SketchGrowth
import Pgml.Proofs.SketchEffects
import Pgml.Proofs.ElementEffects
import Pgml.Proofs.DrawnContent
import Pgml.Proofs.LedgerReading
import Pgml.Proofs.SkippedContent
import Pgml.Proofs.NumberFaults
import Pgml.Proofs.DeskStock
import Pgml.Proofs.ObjectNames
import Pgml.Proofs.StockHolding
import Pgml.Proofs.ElementShapes
import Pgml.Proofs.ShapeFilling
import Pgml.Proofs.ArrivingObjects
import Pgml.Proofs.ContentReading
import Pgml.Proofs.ReadingCourse
import Pgml.Proofs.EdgePrivateData
import Pgml.Proofs.EdgeConnections
import Pgml.Proofs.ContentFigures
import Pgml.Proofs.FiguresRead
import Pgml.Proofs.SameShapes
import Pgml.Proofs.DeliveredEvents
import Pgml.Proofs.ReadingFaults
import Pgml.Proofs.ShapeOrigins
import Pgml.Proofs.GroupBoxes
import Pgml.Proofs.ScriptedHandlers
import Pgml.Proofs.RootForests
import Pgml.Proofs.TextWords
import Pgml.Proofs.CharacterCuts
import Pgml.Proofs.InertAttributes
import Pgml.Proofs.TextsWithoutPairs
import Pgml.Proofs.PrivateWrappers
import Pgml.Proofs.RegisteredNames
import Pgml.Proofs.ShapeOwners
import Pgml.Proofs.InertLinks
import Pgml.Proofs.ResolverMemory
import Pgml.Proofs.UselessHints
import Pgml.Proofs.ControllerSafety
import Pgml.Proofs.NumericAttributes
import Pgml.Proofs.AttributeChanges
import Pgml.Proofs.PrivateWriting
import Pgml.Proofs.PrivateParcels
import Pgml.Proofs.ColorNotations
import Pgml.Proofs.BoxUnions
import Pgml.Proofs.TypeConstructions
import Pgml.Proofs.HintTokens
import Pgml.Proofs.StartTagPlaces
import Pgml.Proofs.HintGeometry
import Pgml.Proofs.PathPoints
import Pgml.Proofs.ConfigurationFields
import Pgml.Proofs.DocumentChecks
import Pgml.Proofs.PairedDesks
import Pgml.Proofs.PairedWorks
import Pgml.Proofs.PairedElements
import Pgml.Proofs.PairedReading
import Pgml.Proofs.SelfDispatch
