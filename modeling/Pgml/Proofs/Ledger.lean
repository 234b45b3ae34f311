import Pgml.Proofs.Nesting
import Pgml.Vocabulary

/-! The ledger of a document: which shapes its elements make and what becomes of each of them, read
off its content without a desk. A shape has an entry in the place of its element's start tag, so its
place in the ledger is its place among all objects. -/
namespace Pgml

inductive Fate where
  | drawn
  | refused (edge : Option String)
  /-- It would be drawn but for a group or an edge around it that was refused. -/
  | hidden
  /-- It was made for a private element. -/
  | lost
  deriving DecidableEq, Repr

/-- A shape as it was made, the attributes of its element, and how many elements around it are
groups or edges. -/
structure Entry where
  shape : Shape
  attributes : Attributes
  depth : Nat
  fate : Fate
  deriving DecidableEq, Repr

def Fate.tops (id : ItemId) : Fate → List ItemId
  | drawn => [id]
  | _ => []

def Fate.warnings (kind : String) : Fate → List Notice
  | refused edge => [.edgeCannotTake edge kind]
  | lost => [.privateInstance kind]
  | drawn | hidden => []

namespace Entry

def isDrawn (e : Entry) : Bool := e.fate = .drawn

def hide (e : Entry) : Entry := if e.fate = .drawn then { e with fate := .hidden } else e

def warnings (e : Entry) : List Notice := e.fate.warnings e.shape.kind

end Entry

/-- What the fate of a shape makes of the shapes inside it. -/
def Fate.veil (fate : Fate) (within : List Entry) : List Entry :=
  if fate = .drawn then within else within.map Entry.hide

/-- What shapes are added to: the diagram or a group, or an edge, which may have its path. -/
inductive Surroundings where
  | free
  | edge (name : Option String) (taken : Bool)
  deriving DecidableEq, Repr

/-- An edge takes a path, and only one. -/
def Surroundings.offer (s : Shape) : Surroundings → Fate × Surroundings
  | free => (.drawn, free)
  | edge name taken =>
    if (Item.shape s).isPath && !taken then (.drawn, edge name true) else (.refused name, edge name taken)

/-- What the content of an element can be to shapes inside it. -/
inductive Interior where
  | closed
  | group
  | edge
  deriving DecidableEq, Repr

inductive Role where
  | nothing
  /-- Content goes to the container around the element; a shape made for it is lost. -/
  | relay (lost : Option Shape)
  | shape (s : Shape) (interior : Interior)
  deriving DecidableEq, Repr

namespace Setup

variable (setup : Setup) (name : String) (as : Attributes)

/-- What a type makes if that is a single shape, as it is for all built-in types. -/
def made? (type : String) : Option Shape :=
  match setup.types.create (setup.translate type) with
  | .ok ⟨[.shape s]⟩ => some s
  | _ => none

def hinted? : Option Shape :=
  match as.value? setup.config.hintAttribute with
  | none => none
  | some hint =>
    match Attributes.hintTokens hint with
    | [] => none
    | type :: _ => setup.made? type

def usual? : Option Shape :=
  match name with
  | "text" => some (.sized .emptyText 100 100)
  | "path" | "line" => some (.ofVariant .emptyPolygon)
  | "ellipse" => some (.sized .ellipse 50 50)
  | "rectangle" =>
    match as.int "rounding" (-1) with
    | .ok rounding =>
      some (.sized (if 0 ≤ rounding then .roundedRectangle rounding else .rectangle) 80 80)
    | .error _ => none
  | _ => none

def interior (v : Variant) : Interior :=
  if name = "group" then
    match v with
    | .group .. => .group
    | .edge .. => .edge
    | _ => .closed
  else .closed

def role : Role :=
  if name = "private" then .relay (setup.hinted? as)
  else
    match (setup.hinted? as).or (usual? name as) with
    | some s => .shape s (interior name s.variant)
    | none => .nothing

end Setup

abbrev Account := List Entry × Surroundings

def Interior.within (as : Attributes) (depth : Nat) (inner : Nat → Surroundings → Account) :
    Interior → List Entry
  | closed => []
  | group => (inner (depth + 1) .free).1
  | edge => (inner (depth + 1) (.edge (as.value? "name") false)).1

/-- What an element adds to a ledger, given the ledgers of its content. -/
def Role.account (as : Attributes) (depth : Nat) (around : Surroundings)
    (inner : Nat → Surroundings → Account) : Role → Account
  | nothing => ([], around)
  | relay lost =>
    let (within, after) := inner depth around
    ((lost.map (⟨·, as, depth, .lost⟩)).toList ++ within, after)
  | shape s interior =>
    let (fate, after) := around.offer s
    (⟨s, as, depth, fate⟩ :: fate.veil (interior.within as depth inner), after)

def ledger (setup : Setup) : Content → Nat → Surroundings → Account
  | .empty, _, around => ([], around)
  | .text _ rest, depth, around => ledger setup rest depth around
  | .element name as inner rest, depth, around =>
    let (first, middle) := (setup.role name as).account as depth around (ledger setup inner)
    let (more, last) := ledger setup rest depth middle
    (first ++ more, last)

namespace Entry

/-- The drawn shapes of a ledger, each with its depth and its place. -/
def visible (place : Nat) (entries : List Entry) : List (Nat × ItemId) :=
  ((entries.zipIdx place).filter (·.1.isDrawn)).map fun e => (e.1.depth, ⟨e.2⟩)

open Vocabulary in
/-- The shape put on a desk and given its attributes, unless it is lost. -/
def dress (setup : Setup) (e : Entry) : Work Desk Unit := do
  let id ← Desk.placeShape e.shape
  if e.fate = .lost then return () else setAttributes setup id e.attributes

def dressAll (setup : Setup) : List Entry → Work Desk Unit
  | [] => return ()
  | e :: rest => do
    e.dress setup
    dressAll setup rest

/-! ## Hidden entries and entries in a row -/

@[simp] theorem shape_hide (e : Entry) : e.hide.shape = e.shape := by
  unfold hide
  split <;> rfl

@[simp] theorem isDrawn_hide (e : Entry) : e.hide.isDrawn = false := by
  unfold hide
  split
  · rfl
  next other => simpa [isDrawn] using other

@[simp] theorem warnings_hide (e : Entry) : e.hide.warnings = e.warnings := by
  unfold hide
  split
  next drawn => simp [warnings, Fate.warnings, drawn]
  · rfl

@[simp] theorem dress_hide (setup : Setup) (e : Entry) : e.hide.dress setup = e.dress setup := by
  unfold hide
  split
  next drawn => simp [dress, drawn]
  · rfl

variable (fate : Fate) (within : List Entry)

theorem kinds_veil : (fate.veil within).map (·.shape.kind) = within.map (·.shape.kind) := by
  unfold Fate.veil
  split <;> simp

theorem warnings_veil : (fate.veil within).flatMap warnings = within.flatMap warnings := by
  unfold Fate.veil
  split <;> simp [List.flatMap_map]

theorem dressAll_veil (setup : Setup) : dressAll setup (fate.veil within) = dressAll setup within := by
  unfold Fate.veil
  split
  · rfl
  · induction within with
    | nil => rfl
    | cons e rest ih => simp [dressAll, ih]

theorem dressAll_append (setup : Setup) (first second : List Entry) :
    dressAll setup (first ++ second) = (dressAll setup first >>= fun _ => dressAll setup second) := by
  induction first with
  | nil => rfl
  | cons e rest ih => simp only [List.cons_append, dressAll, ih, bind_assoc]

theorem visible_append (place : Nat) (first second : List Entry) :
    visible place (first ++ second) = visible place first ++ visible (place + first.length) second := by
  simp [visible, List.zipIdx_append]

theorem visible_cons (place : Nat) (e : Entry) (rest : List Entry) :
    visible place (e :: rest) =
      (if e.isDrawn then [(e.depth, ⟨place⟩)] else []) ++ visible (place + 1) rest := by
  cases drawn : e.isDrawn <;> simp [visible, drawn]

theorem visible_veil {fate : Fate} (lost : fate ≠ .drawn) (place : Nat) (within : List Entry) :
    visible place (fate.veil within) = [] := by
  simp only [Fate.veil, if_neg lost]
  induction within generalizing place with
  | nil => rfl
  | cons e rest ih => simp [visible_cons, ih]

theorem visible_ascends (place : Nat) (entries : List Entry) :
    ((visible place entries).map (·.2.index)).Pairwise (· < ·) ∧
    ∀ p ∈ visible place entries, place ≤ p.2.index := by
  induction entries generalizing place with
  | nil => simp [visible]
  | cons e rest ih =>
    obtain ⟨ascends, above⟩ := ih (place + 1)
    rw [visible_cons]
    constructor
    · split
      · simp only [List.singleton_append, List.map_cons, List.pairwise_cons, List.mem_map]
        refine ⟨?_, ascends⟩
        rintro _ ⟨p, member, rfl⟩
        exact above p member
      · exact ascends
    · intro p member
      rcases List.mem_append.mp member with first | later
      · split at first
        · simp_all
        · simp at first
      · exact Nat.le_of_succ_le (above p later)

theorem length_visible (place : Nat) (entries : List Entry) :
    (visible place entries).length ≤ entries.length := by
  have filtered := List.length_filter_le (·.1.isDrawn) (entries.zipIdx place)
  simpa [visible] using filtered

end Entry

end Pgml
