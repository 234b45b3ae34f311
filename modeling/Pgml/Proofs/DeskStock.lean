import Pgml.Proofs.SketchEffects
import Pgml.Proofs.ResolverMemory

/-! The stock of a desk: its shapes, their names, the diagram and the reports on unknown ends of edges.
All works of handlers can be told by what they do to a stock. Colours are left out, for a resolver
that remembers nothing but what its palette says answers what the palette says; so are notices of any
other kind, which nobody reads. -/
namespace Pgml

def Notice.isUnknown : Notice → Bool
  | edgeUnknown .. => true
  | _ => false

structure Stock where
  shapes : List Shape
  names : Table ItemId
  diagram : Option Diagram
  unknowns : List Notice

/-- A shape that is offered an object: a group takes all, an edge takes one path. -/
def Variant.adopt (child : ItemId) (isPath : Bool) : Variant → Variant
  | group children plan => group (children ++ [child]) plan
  | edge path connections => edge (path.or (if isPath then some child else none)) connections
  | v => v

def Shape.adopt (child : ItemId) (isPath : Bool) (s : Shape) : Shape :=
  { s with variant := s.variant.adopt child isPath }

theorem Shape.adopt_eq_self {child : ItemId} {isPath : Bool} {s : Shape}
    (same : s.variant.adopt child isPath = s.variant) : s.adopt child isPath = s := by
  simp [adopt, same]

/-- Whether a shape can be drawn as the path of an edge. -/
abbrev Shape.isPath (s : Shape) : Bool := (Item.shape s).isPath

namespace Stock

open Desk (withBounds_same connect_same)

variable (k : Stock)

/-- The place of the next shape. -/
def next : ItemId := ⟨k.shapes.length⟩

def make (s : Shape) : Stock := { k with shapes := k.shapes ++ [s] }

def modify (id : ItemId) (f : Shape → Shape) : Stock := { k with shapes := k.shapes.modify id.index f }

def call (name : Option String) (id : ItemId) : Stock :=
  { k with names := (name.map fun name => k.names.insert name id).getD k.names }

def offer (c : Container) (child : ItemId) (isPath : Bool) : Stock :=
  match c with
  | .diagram => { k with diagram := k.diagram.map fun g => { g with shapes := g.shapes ++ [child] } }
  | .group id | .edge id => k.modify id (Shape.adopt child isPath)
  | .tray _ => k

def report (n : Notice) : Stock := { k with unknowns := k.unknowns ++ [n] }

/-- A box that follows from the boxes of a group's children. -/
def derive (id : ItemId) : Stock :=
  k.modify id fun s =>
    match s.variant with
    | .group children _ =>
      match Bounds.union? (children.filterMap fun child => k.shapes[child.index]?.map (·.bounds)) with
      | some b => s.withBounds b
      | none => s
    | _ => s

/-- One entry of an edge's private data. -/
def setEntry (edge : ItemId) (key value : String) : Stock :=
  match Desk.Joint.ofKey? key with
  | none => k.modify edge (Desk.addPrivate [(key, value)])
  | some joint =>
    let target := k.names.get? value
    let told := if target.isNone then
        k.report (.edgeUnknown (k.shapes[edge.index]?.bind (·.name)) key value)
      else k
    told.modify edge (Desk.connect joint target)

def setEntries (edge : ItemId) (entries : List (String × String)) : Stock :=
  entries.foldl (fun k entry => k.setEntry edge entry.1 entry.2) k

def deliver (data : Table String) : Container → Stock
  | .diagram => { k with diagram := k.diagram.map fun g =>
      { g with privateData := g.privateData.insertAll data.entries } }
  | .group id => k.modify id (Desk.addPrivate data.entries)
  | .edge id => k.setEntries id data.entries
  | .tray _ => k

/-- A shape of the stock that is of a kind. -/
def Has (id : ItemId) (kind : String) : Prop := k.shapes[id.index]?.map Shape.kind = some kind

/-- A container in the stock: the diagram, or a group or an edge of it. -/
def Fits : Container → Prop
  | .diagram => True
  | .group id => k.Has id "Group"
  | .edge id => k.Has id "Edge"
  | .tray _ => False

/-- Groups and edges consist of shapes of the stock. -/
def Sound : Prop := ∀ s ∈ k.shapes, ∀ part ∈ s.variant.parts, part.index < k.shapes.length

/-! ### The newest shape -/

variable {k} {c : Container}

@[simp] theorem next_offer (child : ItemId) (isPath : Bool) : (k.offer c child isPath).next = k.next := by
  cases c <;> simp [next, offer, modify]

@[simp] theorem next_call (name : Option String) (id : ItemId) : (k.call name id).next = k.next := rfl

theorem make_next (s : Shape) : (k.make s).shapes[k.next.index]? = some s := by simp [make, next]

theorem make_modify (s : Shape) (f : Shape → Shape) : (k.make s).modify k.next f = k.make (f s) := by
  simp [make, modify, next, Sketch.modify_append_length]

theorem modify_congr {id : ItemId} {s : Shape} {f g : Shape → Shape}
    (found : k.shapes[id.index]? = some s) (same : f s = g s) : k.modify id f = k.modify id g := by
  simp only [modify]
  rw [Desk.modify_of_getElem? f found, Desk.modify_of_getElem? g found, same]

theorem modify_self {id : ItemId} {s : Shape} {f : Shape → Shape}
    (found : k.shapes[id.index]? = some s) (same : f s = s) : k.modify id f = k := by
  simp only [modify]
  rw [Desk.modify_of_getElem? f found, same, Desk.set_of_getElem? found]

theorem make_call (s : Shape) (name : Option String) (id : ItemId) :
    (k.make s).call name id = (k.call name id).make s := rfl

theorem has_iff {id : ItemId} {kind : String} :
    k.Has id kind ↔ ∃ s, k.shapes[id.index]? = some s ∧ s.kind = kind := Option.map_eq_some_iff

theorem has_bound {id : ItemId} {kind : String} (has : k.Has id kind) : id.index < k.shapes.length := by
  obtain ⟨s, found, _⟩ := has_iff.mp has
  exact (List.getElem?_eq_some_iff.mp found).1

theorem has_make {id : ItemId} {kind : String} (has : k.Has id kind) (s : Shape) :
    (k.make s).Has id kind := by
  simpa [Has, make, List.getElem?_append_left (has_bound has)] using has

/-- A container stays where all shapes stay what they are. -/
theorem fits_of_has {l : Stock} (kept : ∀ id kind, k.Has id kind → l.Has id kind) (fits : k.Fits c) :
    l.Fits c := by
  cases c with
  | diagram => trivial
  | tray => exact fits.elim
  | group id | edge id => exact kept id _ fits

theorem fits_make (fits : k.Fits c) (s : Shape) : (k.make s).Fits c :=
  fits_of_has (fun _ _ has => has_make has s) fits

/-- A container lies before the newest shape. -/
theorem make_offer (fits : k.Fits c) (s : Shape) (child : ItemId) (isPath : Bool) :
    (k.make s).offer c child isPath = (k.offer c child isPath).make s := by
  cases c with
  | diagram => rfl
  | tray => exact fits.elim
  | group id =>
    simp only [offer, modify, make]
    rw [Sketch.modify_append _ _ (has_bound fits)]
  | edge id =>
    simp only [offer, modify, make]
    rw [Sketch.modify_append _ _ (has_bound fits)]

theorem offer_call (child id : ItemId) (isPath : Bool) (name : Option String) :
    (k.offer c child isPath).call name id = (k.call name id).offer c child isPath := by
  cases c <;> rfl

/-! ### What shows -/

/-- What shows of each shape: its kind, its name, its parts, its looks and its owner. -/
def skeleton (k : Stock) : List (Node × Option Look) :=
  k.shapes.map fun s => ((Item.shape s).node, (Item.shape s).look)

theorem skeleton_modify_at {id : ItemId} {f : Shape → Shape}
    (kept : ∀ s, k.shapes[id.index]? = some s → (f s).Same s) : (k.modify id f).skeleton = k.skeleton := by
  refine List.ext_getElem? fun i => ?_
  simp only [skeleton, modify, List.getElem?_map, List.getElem?_modify]
  cases found : k.shapes[i]? with
  | none => rfl
  | some s =>
    by_cases here : id.index = i
    · subst here
      obtain ⟨node, look⟩ := kept s found
      simp [node, look]
    · simp [here]

theorem skeleton_modify (id : ItemId) {f : Shape → Shape} (same : ∀ s, (f s).Same s) :
    (k.modify id f).skeleton = k.skeleton :=
  skeleton_modify_at fun s _ => same s

theorem skeleton_derive (id : ItemId) : (k.derive id).skeleton = k.skeleton := by
  refine skeleton_modify id fun s => ?_
  split
  · split
    · exact withBounds_same s _
    · exact ⟨rfl, rfl⟩
  · exact ⟨rfl, rfl⟩

theorem skeleton_setEntry (edge : ItemId) (key value : String) :
    (k.setEntry edge key value).skeleton = k.skeleton := by
  unfold setEntry
  split
  · exact skeleton_modify edge fun _ => ⟨rfl, rfl⟩
  · dsimp only
    rw [skeleton_modify edge (connect_same _ _)]
    split <;> rfl

theorem skeleton_deliver (data : Table String) (c : Container) : (k.deliver data c).skeleton = k.skeleton := by
  cases c with
  | diagram | tray => rfl
  | group id => exact skeleton_modify id fun _ => ⟨rfl, rfl⟩
  | edge id =>
    simp only [deliver, setEntries]
    induction data.entries generalizing k with
    | nil => rfl
    | cons entry rest ih => exact ih.trans (skeleton_setEntry ..)

variable {l : Stock}

theorem length_of_skeleton (same : l.skeleton = k.skeleton) : l.shapes.length = k.shapes.length := by
  simpa [skeleton] using congrArg List.length same

theorem has_of_skeleton (same : l.skeleton = k.skeleton) {id : ItemId} {kind : String}
    (has : k.Has id kind) : l.Has id kind := by
  have entry := congrArg (fun entries => entries[id.index]?.map (·.1.kind)) same
  have kinds : l.shapes[id.index]?.map Shape.kind = k.shapes[id.index]?.map Shape.kind := by
    simpa [skeleton, Item.node, Item.kind, Function.comp_def] using entry
  exact kinds.trans has

theorem sound_iff :
    k.Sound ↔ ∀ entry ∈ k.skeleton, ∀ part ∈ entry.1.parts, part.index < k.skeleton.length := by
  simp [Sound, skeleton, Item.node, Item.parts]

theorem sound_of_skeleton (same : l.skeleton = k.skeleton) (sound : k.Sound) : l.Sound := by
  rw [sound_iff] at sound ⊢
  rwa [same]

theorem sound_make {s : Shape} (sound : k.Sound) (leaf : s.variant.parts = []) : (k.make s).Sound := by
  intro t member part here
  have length : (k.make s).shapes.length = k.shapes.length + 1 := by simp [make]
  rcases List.mem_append.mp member with old | new
  · have bound := sound t old part here
    omega
  · obtain rfl := List.mem_singleton.mp new
    rw [leaf] at here
    contradiction

theorem kind_adopt (child : ItemId) (isPath : Bool) (s : Shape) : (s.adopt child isPath).kind = s.kind := by
  obtain ⟨bounds, style, name, owner, data, variant⟩ := s
  cases variant with
  | group children plan => cases plan <;> rfl
  | _ => rfl

theorem has_offer {id : ItemId} {kind : String} (has : k.Has id kind) (c : Container) (child : ItemId)
    (isPath : Bool) : (k.offer c child isPath).Has id kind := by
  have adopted (around : ItemId) : (k.modify around (Shape.adopt child isPath)).Has id kind := by
    obtain ⟨s, found, same⟩ := has_iff.mp has
    simp only [Has, modify, List.getElem?_modify, found]
    by_cases here : around.index = id.index <;> simp [here, kind_adopt, same]
  cases c with
  | diagram | tray => exact has
  | group around | edge around => exact adopted around

theorem mem_adopt {child part : ItemId} {isPath : Bool} {s : Shape}
    (member : part ∈ (s.adopt child isPath).variant.parts) : part = child ∨ part ∈ s.variant.parts := by
  obtain ⟨bounds, style, name, owner, data, variant⟩ := s
  cases variant with
  | group children plan =>
    rcases List.mem_append.mp member with old | new
    · exact .inr old
    · exact .inl (List.mem_singleton.mp new)
  | edge path connections =>
    cases path with
    | some other => exact .inr member
    | none =>
      cases isPath with
      | false => exact .inr member
      | true => exact .inl (List.mem_singleton.mp member)
  | _ => exact .inr member

/-- A container may have the newest shape as a part before the shape is there. -/
theorem sound_offer_make {s : Shape} (sound : k.Sound) (leaf : s.variant.parts = []) (c : Container)
    (isPath : Bool) : ((k.offer c k.next isPath).make s).Sound := by
  have adopted (id : ItemId) : ((k.modify id (Shape.adopt k.next isPath)).make s).Sound := by
    intro t member part here
    have length : ((k.modify id (Shape.adopt k.next isPath)).make s).shapes.length =
        k.shapes.length + 1 := by simp [make, modify]
    rcases List.mem_append.mp member with old | new
    · obtain ⟨i, there⟩ := List.mem_iff_getElem?.mp old
      simp only [modify, List.getElem?_modify] at there
      obtain ⟨u, found, rfl⟩ := Option.map_eq_some_iff.mp there
      have bound : ∀ part ∈ u.variant.parts, part.index < k.shapes.length :=
        sound u (List.mem_of_getElem? found)
      split at here
      · rcases mem_adopt here with rfl | old
        · rw [length]
          exact Nat.lt_succ_self _
        · have := bound part old
          omega
      · have := bound part here
        omega
    · obtain rfl := List.mem_singleton.mp new
      rw [leaf] at here
      contradiction
  cases c with
  | diagram | tray => exact sound_make sound leaf
  | group id => exact adopted id
  | edge id => exact adopted id

end Stock

/-! ## Colours -/

namespace Resolver

variable {p : Palette} {r : Resolver}

theorem Honest.resolve (honest : r.Honest p) (value : String) (default : Color) :
    (r.resolve value default).1 = (p.describe? value).getD default ∧
    (r.resolve value default).2.1.Honest p ∧
    ∀ n ∈ (r.resolve value default).2.2, n.isUnknown = false := by
  obtain ⟨next, resolved, palette, _, used⟩ := honest.answers value default
  rw [resolved]
  refine ⟨?_, honest.next palette used, ?_⟩
  · cases p.describe? value <;> rfl
  · cases p.describe? value <;> simp [answer, Notice.isUnknown]

end Resolver

/-! ## Shapes and their attributes -/

namespace Shape

variable (setup : Setup) (p : Palette) (as : Attributes)

/-- The shape with the common attributes, its colours as the palette says. -/
def styled (defaults : ColorDefaults) (s : Shape) : Except Fault Shape :=
  match Styling.setCommon defaults as ⟨s, .ofPalette p, []⟩ with
  | (.ok (), styling) => .ok styling.shape
  | (.error e, _) => .error e

/-- The shape with the common attributes as far as they can be applied. -/
def begun (defaults : ColorDefaults) (s : Shape) : Shape :=
  (Styling.setCommon defaults as ⟨s, .ofPalette p, []⟩).2.shape

def owned (s : Shape) : Except Fault Shape :=
  match as.value? "href" with
  | none => .ok s
  | some href =>
    match setup.owner? href with
    | none => .error (.noOwner href)
    | some owner => .ok { s with owner := some owner }

def attributed (s : Shape) : Except Fault Shape := do
  let t ← { s with name := (as.value? "name").or s.name }.styled p as setup.defaults
  t.owned setup as

/-! ### What attributes leave alone -/

variable {p as}

/-- Two shapes that differ in what attributes set at most. -/
structure Frame (s t : Shape) : Prop where
  variant : t.variant = s.variant
  privateData : t.privateData = s.privateData

def frameLink (s : Shape) : Styling.Link where
  shapes t _ := s.Frame t ∧ t.name = s.name ∧ t.owner = s.owner
  journals _ _ := True
  style _ _ _ := fun ⟨⟨variant, privateData⟩, same⟩ => ⟨⟨variant, privateData⟩, same⟩
  bounds _ _ _ := fun ⟨⟨variant, privateData⟩, same⟩ => ⟨⟨variant, privateData⟩, same⟩
  unknown _ _ _ _ _ := trivial

theorem begun_frame (p : Palette) (as : Attributes) (defaults : ColorDefaults) (s : Shape) :
    s.Frame (s.begun p as defaults) ∧ (s.begun p as defaults).name = s.name ∧
      (s.begun p as defaults).owner = s.owner := by
  have alike : Work.Alike (Styling.Linked (frameLink s) p) Work.Any (Styling.setCommon defaults as)
      (Styling.setCommon defaults as) := Styling.setCommon_linked as defaults
  obtain ⟨_, linked, _⟩ :=
    alike ⟨s, .ofPalette p, []⟩ ⟨s, .ofPalette p, []⟩ ⟨⟨⟨rfl, rfl⟩, rfl, rfl⟩, trivial, rfl, rfl⟩
  exact linked.shapes

theorem styled_eq_ok {s t : Shape} {defaults : ColorDefaults} (styled : s.styled p as defaults = .ok t) :
    t = s.begun p as defaults := by
  unfold Shape.styled at styled
  unfold Shape.begun
  rcases ran : Styling.setCommon defaults as ⟨s, .ofPalette p, []⟩ with ⟨_ | ⟨⟨⟩⟩, styling⟩
  · simp [ran] at styled
  · simpa [ran] using styled.symm

theorem styled_frame {s t : Shape} {defaults : ColorDefaults} (styled : s.styled p as defaults = .ok t) :
    s.Frame t ∧ t.name = s.name ∧ t.owner = s.owner := by
  rw [styled_eq_ok styled]
  exact begun_frame p as defaults s

end Shape

namespace Styling

open Work (Any)

/-- Stylings of one shape whose colours are those of one palette. -/
structure Agree (p : Palette) (unknowns : List Notice) (s t : Styling) : Prop where
  shape : s.shape = t.shape
  left : s.colors.Honest p
  right : t.colors.Honest p
  unknowns : s.journal.reverse.filter Notice.isUnknown = unknowns

theorem agree_stable (p : Palette) (unknowns : List Notice) : Stable (Agree p unknowns) where
  bounds b s t agree := { agree with shape := by rw [agree.shape] }
  style f s t agree := { agree with shape := by rw [agree.shape] }
  resolve value default := by
    rintro s t ⟨shape, left, right, unknowns⟩
    obtain ⟨color, honest, silent⟩ := left.resolve value default
    obtain ⟨other, honest', _⟩ := right.resolve value default
    refine ⟨by simp [resolve, color, other], ⟨shape, honest, honest', ?_⟩, fun _ _ => trivial⟩
    have nothing : (s.colors.resolve value default).2.2.reverse.filter Notice.isUnknown = [] := by
      simpa [List.filter_eq_nil_iff] using silent
    simp [resolve, nothing, unknowns]

end Styling

end Pgml
