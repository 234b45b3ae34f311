import Pgml.Proofs.ContentReading

/-! What elements look like. The shapes that content draws, with their parts, and the private data that
it leaves to the container around it follow from the content alone; a stock in which the content was
read has these shapes in it, behind those that were there before. -/
namespace Pgml

open Desk Vocabulary

/-- A shape without its parts and without the shapes it is joined to. -/
def Shape.loose (s : Shape) : Shape :=
  { s with variant :=
      match s.variant with
      | .group _ plan => .group [] plan
      | .edge _ _ => .edge none .none
      | v => v }

/-- Shapes side by side, each with its parts. -/
inductive Forest where
  | nil
  | cons (s : Shape) (parts rest : Forest)

namespace Forest

def append : Forest → Forest → Forest
  | nil, others => others
  | cons s parts rest, others => cons s parts (rest.append others)

instance : Append Forest := ⟨append⟩

def boxes : Forest → List Bounds
  | nil => []
  | cons s _ rest => s.bounds :: rest.boxes

/-- The shapes that can be drawn as paths. -/
def paths : Forest → Forest
  | nil => nil
  | cons s parts rest => if s.isPath then cons s parts rest.paths else rest.paths

def first : Forest → Forest
  | nil => nil
  | cons s parts _ => cons s parts nil

theorem nil_append (f : Forest) : nil ++ f = f := rfl

theorem cons_append (s : Shape) (parts rest others : Forest) :
    cons s parts rest ++ others = cons s parts (rest ++ others) := rfl

theorem paths_append (f g : Forest) : (f ++ g).paths = f.paths ++ g.paths := by
  induction f with
  | nil => rfl
  | cons s parts rest _ ih =>
    rw [cons_append, paths, paths, ih]
    split
    · rw [cons_append]
    · rfl

end Forest

/-! ## Figures of content -/

/-- The shapes that content draws, and the private data it leaves to the container around it. -/
structure Figures where
  shapes : Forest
  data : List (String × String)

namespace Shape

/-- A shape with private data that its content leaves to it. An edge keeps what names no end of it. -/
def supply (data : List (String × String)) (s : Shape) : Shape :=
  match s.variant with
  | .edge .. => addPrivate (data.filter fun entry => (Joint.ofKey? entry.1).isNone) s
  | _ => addPrivate data s

/-- A group whose box follows from those of its parts. -/
def around (boxes : List Bounds) (s : Shape) : Shape :=
  match Bounds.union? boxes with
  | some b => s.withBounds b
  | none => s

/-- A shape when its element closes, with its parts. -/
def close (handler : Option Handler) (content : Content) (inner : Except Fault Figures) (s : Shape) :
    Except Fault Forest :=
  match handler with
  | some (.group _ derive) => do
    let figures ← inner
    let t := s.supply figures.data
    return .cons (if derive then t.around figures.shapes.boxes else t) figures.shapes .nil
  | some (.edge _) => do
    let figures ← inner
    return .cons (s.supply figures.data) figures.shapes.paths.first .nil
  | handler => do
    return .cons (← s.fill handler content) .nil .nil

end Shape

namespace Setup

variable (setup : Setup) (p : Palette)

/-- What an element draws, by its role and by what its content draws. -/
def portray (name : String) (as : Attributes) (content : Content) (inner : Except Fault Figures) :
    Except Fault Figures :=
  match setup.role name as with
  | .nothing => return ⟨.nil, []⟩
  | .relay _ => do
    let figures ← inner
    return { figures with data := figures.data ++ (PrivateData.parse content.ownString).entries }
  | .shape s _ => do
    let t ← s.finish setup p as name
    return ⟨← t.close (s.content? setup as name ⟨0⟩) content inner, []⟩

def figures : Content → Except Fault Figures
  | .empty => return ⟨.nil, []⟩
  | .text _ rest => figures rest
  | .element name as inner rest => do
    let here ← setup.portray p name as inner (figures inner)
    let others ← figures rest
    return ⟨here.shapes ++ others.shapes, here.data ++ others.data⟩

end Setup

/-! ## Figures in a stock -/

/-- Objects in a list of shapes, none of them before a place, that make up a forest. -/
inductive Depicts (low : Nat) (shapes : List Shape) : List ItemId → Forest → Prop where
  | nil : Depicts low shapes [] .nil
  | cons {id : ItemId} {ids : List ItemId} {s : Shape} {parts rest : Forest} :
      low ≤ id.index → shapes[id.index]? = some s → Depicts low shapes s.variant.parts parts →
      Depicts low shapes ids rest → Depicts low shapes (id :: ids) (.cons s.loose parts rest)

namespace Depicts

variable {low : Nat} {shapes later : List Shape} {ids others : List ItemId} {f g : Forest}

theorem append (first : Depicts low shapes ids f) (second : Depicts low shapes others g) :
    Depicts low shapes (ids ++ others) (f ++ g) := by
  induction first with
  | nil => exact second
  | cons bound found parts _ _ ih => exact .cons bound found parts ih

/-- What is depicted stays so as long as the shapes from the place on stay. -/
theorem keep (depicts : Depicts low shapes ids f)
    (kept : ∀ i s, low ≤ i → shapes[i]? = some s → later[i]? = some s) : Depicts low later ids f := by
  induction depicts with
  | nil => exact .nil
  | cons bound found _ _ inside ih => exact .cons bound (kept _ _ bound found) inside ih

theorem lower (depicts : Depicts low shapes ids f) {lower : Nat} (less : lower ≤ low) :
    Depicts lower shapes ids f := by
  induction depicts with
  | nil => exact .nil
  | cons bound found _ _ inside ih => exact .cons (Nat.le_trans less bound) found inside ih

theorem boxes_map (depicts : Depicts low shapes ids f) :
    ids.map (fun id => shapes[id.index]?.map (·.bounds)) = f.boxes.map some := by
  induction depicts with
  | nil => rfl
  | cons bound found _ _ _ ih => simp [found, ih, Forest.boxes, Shape.loose]

theorem boxes (depicts : Depicts low shapes ids f) :
    ids.filterMap (fun id => shapes[id.index]?.map (·.bounds)) = f.boxes := by
  have present := congrArg (List.filterMap id) depicts.boxes_map
  simpa [List.filterMap_map, Function.comp_def] using present

theorem first (depicts : Depicts low shapes ids f) : Depicts low shapes (ids.take 1) f.first := by
  cases depicts with
  | nil => exact .nil
  | cons bound found parts _ => exact .cons bound found parts .nil

theorem single {id : ItemId} {s : Shape} (found : shapes[id.index]? = some s)
    (parts : Depicts id.index shapes s.variant.parts f) :
    Depicts id.index shapes [id] (.cons s.loose f .nil) :=
  .cons (Nat.le_refl _) found parts .nil

end Depicts

/-! ## What a container gets -/

namespace Shape

theorem kind_loose (s : Shape) : s.loose.kind = s.kind := by
  obtain ⟨bounds, style, name, owner, data, variant⟩ := s
  cases variant with
  | group children plan => cases plan <;> rfl
  | _ => rfl

theorem kind_supply (data : List (String × String)) (s : Shape) : (s.supply data).kind = s.kind := by
  obtain ⟨bounds, style, name, owner, given, variant⟩ := s
  cases variant <;> rfl

theorem supply_nil (s : Shape) : s.supply [] = s := by
  obtain ⟨bounds, style, name, owner, data, variant⟩ := s
  cases variant <;> rfl

theorem supply_append (data more : List (String × String)) (s : Shape) :
    s.supply (data ++ more) = (s.supply data).supply more := by
  obtain ⟨bounds, style, name, owner, given, variant⟩ := s
  cases variant <;> simp [supply, addPrivate, Table.insertAll]

/-- The parts of a shape that some objects are offered to, of which some are paths. -/
def gain (ids paths : List ItemId) (s : Shape) : List ItemId :=
  match s.variant with
  | .group .. => s.variant.parts ++ ids
  | .edge .. => (s.variant.parts ++ paths).take 1
  | _ => s.variant.parts

end Shape

def Container.place? : Container → Option ItemId
  | .group id | .edge id => some id
  | _ => none

/-- A stock after some objects were offered to a container, some of them paths, and after it was given
private data. All other shapes are as they were. -/
structure Stock.Fed (k : Stock) (c : Container) (ids paths : List ItemId) (data : List (String × String))
    (l : Stock) : Prop where
  frame : ∀ i s, c.place? ≠ some ⟨i⟩ → k.shapes[i]? = some s → l.shapes[i]? = some s
  fed : ∀ id s, c.place? = some id → k.shapes[id.index]? = some s → ∃ t, l.shapes[id.index]? = some t ∧
    t.loose = s.loose.supply data ∧ t.variant.parts = s.gain ids paths

namespace Stock.Fed

variable {k l m : Stock} {c : Container} {ids paths others routes : List ItemId}
  {data more : List (String × String)}

theorem gain_nil (s : Shape) : s.gain [] [] = s.variant.parts := by
  obtain ⟨bounds, style, name, owner, given, variant⟩ := s
  cases variant with
  | edge path connections => cases path <;> rfl
  | _ => simp [Shape.gain]

theorem take_first {α : Type} (l others : List α) : (l.take 1 ++ others).take 1 = (l ++ others).take 1 := by
  cases l <;> rfl

/-- What a shape gains depends on what it has and on whether it is a group or an edge. -/
theorem gain_trans {s t : Shape} (loose : t.loose = s.loose.supply data)
    (parts : t.variant.parts = s.gain ids paths) :
    t.gain others routes = s.gain (ids ++ others) (paths ++ routes) := by
  obtain ⟨bounds, style, name, owner, given, variant⟩ := s
  obtain ⟨bounds', style', name', owner', given', variant'⟩ := t
  cases variant with
  | edge path connections =>
    cases variant' with
    | edge path' connections' =>
      replace parts : path'.toList = (path.toList ++ paths).take 1 := parts
      simp only [Shape.gain, Variant.parts]
      rw [parts, take_first, List.append_assoc]
    | _ => simp [Shape.loose, Shape.supply, addPrivate] at loose
  | _ => cases variant' <;> simp_all [Shape.gain, Shape.loose, Shape.supply, addPrivate, Variant.parts]

theorem refl (k : Stock) (c : Container) : k.Fed c [] [] [] k where
  frame _ _ _ found := found
  fed _ s _ found := ⟨s, found, (Shape.supply_nil _).symm, (gain_nil s).symm⟩

theorem trans (first : k.Fed c ids paths data l) (second : l.Fed c others routes more m) :
    k.Fed c (ids ++ others) (paths ++ routes) (data ++ more) m where
  frame i s apart found := second.frame i s apart (first.frame i s apart found)
  fed id s here found := by
    obtain ⟨t, there, loose, parts⟩ := first.fed id s here found
    obtain ⟨u, last, loose', parts'⟩ := second.fed id t here there
    refine ⟨u, last, ?_, ?_⟩
    · rw [loose', loose, Shape.supply_append]
    · rw [parts', gain_trans loose parts]

/-- What is done behind all shapes of before makes no difference. -/
theorem keep (fed : k.Fed c ids paths data l)
    (kept : ∀ i, i < k.shapes.length → m.shapes[i]? = l.shapes[i]?) : k.Fed c ids paths data m where
  frame i s apart found := by
    rw [kept i (List.getElem?_eq_some_iff.mp found).1]
    exact fed.frame i s apart found
  fed id s here found := by
    rw [kept id.index (List.getElem?_eq_some_iff.mp found).1]
    exact fed.fed id s here found

theorem make (s : Shape) : k.Fed c [] [] [] (k.make s) := by
  refine (refl k c).keep fun i bound => ?_
  simp [Stock.make, List.getElem?_append_left bound]

/-- One change of the container's shape. -/
theorem modify {id : ItemId} {f : Shape → Shape} (here : c.place? = some id)
    (loose : ∀ s, k.shapes[id.index]? = some s → (f s).loose = s.loose.supply data)
    (parts : ∀ s, k.shapes[id.index]? = some s → (f s).variant.parts = s.gain ids paths) :
    k.Fed c ids paths data (k.modify id f) where
  frame i s apart found := by
    have other : id.index ≠ i := by
      rintro rfl
      exact apart here
    simp [Stock.modify, other, found]
  fed other s there found := by
    obtain rfl : id = other := Option.some.inj (here.symm.trans there)
    exact ⟨f s, by simp [Stock.modify, found], loose s found, parts s found⟩

theorem offer {child : ItemId} {isPath : Bool} :
    k.Fed c [child] (if isPath then [child] else []) [] (k.offer c child isPath) := by
  have adopted (s : Shape) : (s.adopt child isPath).loose = s.loose.supply [] ∧
      (s.adopt child isPath).variant.parts = s.gain [child] (if isPath then [child] else []) := by
    obtain ⟨bounds, style, name, owner, given, variant⟩ := s
    cases variant with
    | edge path connections => cases path <;> cases isPath <;> exact ⟨rfl, rfl⟩
    | _ => exact ⟨rfl, rfl⟩
  cases c with
  | diagram => exact ⟨fun _ _ _ found => found, fun _ _ absurd => by simp [Container.place?] at absurd⟩
  | tray => exact ⟨fun _ _ _ found => found, fun _ _ absurd => by simp [Container.place?] at absurd⟩
  | group id => exact modify rfl (fun s _ => (adopted s).1) fun s _ => (adopted s).2
  | edge id => exact modify rfl (fun s _ => (adopted s).1) fun s _ => (adopted s).2

theorem receive {as : Attributes} {t : Shape} :
    k.Fed c [k.next] (if t.isPath then [k.next] else []) [] (k.receive c as t) := by
  have offered : k.Fed c [k.next] (if t.isPath then [k.next] else []) [] (k.offer c k.next t.isPath) := offer
  refine offered.keep fun i bound => ?_
  have shapes : ((k.call (as.value? "name") k.next).offer c k.next t.isPath).shapes =
      (k.offer c k.next t.isPath).shapes := by cases c <;> rfl
  have length : (k.offer c k.next t.isPath).shapes.length = k.shapes.length :=
    congrArg ItemId.index (Stock.next_offer k.next t.isPath)
  rw [Stock.receive, Stock.make, shapes, List.getElem?_append_left (by omega)]

/-- An edge keeps what names no end of it. -/
theorem entries {id : ItemId} (data : List (String × String)) (fits : k.Fits (.edge id)) :
    k.Fed (.edge id) [] [] data (k.setEntries id data) := by
  induction data generalizing k with
  | nil => exact refl k _
  | cons entry rest ih =>
    have edge (s : Shape) (found : k.shapes[id.index]? = some s) :
        ∃ path connections, s.variant = .edge path connections := by
      obtain ⟨t, there, kind⟩ := Option.map_eq_some_iff.mp fits
      obtain rfl : t = s := Option.some.inj (there.symm.trans found)
      exact kind_edge kind
    have first : k.Fed (.edge id) [] [] [entry] (k.setEntry id entry.1 entry.2) := by
      unfold Stock.setEntry
      cases known : Joint.ofKey? entry.1 with
      | none =>
        refine modify rfl (fun s found => ?_) fun s _ => (gain_nil s).symm
        obtain ⟨path, connections, variant⟩ := edge s found
        simp [Shape.loose, Shape.supply, addPrivate, variant, known]
      | some joint =>
        have joined (target : Option ItemId) :
            k.Fed (.edge id) [] [] [entry] (k.modify id (connect joint target)) := by
          refine modify rfl (fun s found => ?_) fun s found => ?_
          · obtain ⟨path, connections, variant⟩ := edge s found
            simp [Shape.loose, Shape.supply, addPrivate, connect, variant, known, Table.insertAll]
          · rw [gain_nil]
            exact congrArg Node.parts (connect_same joint target s).node
        dsimp only
        split <;> exact ⟨(joined _).frame, (joined _).fed⟩
    have there : (k.setEntry id entry.1 entry.2).Fits (.edge id) :=
      Stock.has_of_skeleton (Stock.skeleton_setEntry ..) fits
    exact first.trans (ih there)

theorem deliver (data : Table String) (fits : k.Fits c) : k.Fed c [] [] data.entries (k.deliver data c) := by
  cases c with
  | diagram => exact ⟨fun _ _ _ found => found, fun _ _ absurd => by simp [Container.place?] at absurd⟩
  | tray => exact fits.elim
  | edge id => exact entries data.entries fits
  | group id =>
    refine modify rfl (fun s found => ?_) fun s _ => (gain_nil s).symm
    obtain ⟨t, there, kind⟩ := Option.map_eq_some_iff.mp fits
    obtain rfl : t = s := Option.some.inj (there.symm.trans found)
    obtain ⟨children, variant⟩ := kind_group kind
    simp [Shape.loose, Shape.supply, addPrivate, variant]

end Stock.Fed

theorem Stock.fits_place {k : Stock} {c : Container} (fits : k.Fits c) {id : ItemId}
    (here : c.place? = some id) : id.index < k.shapes.length := by
  cases c with
  | diagram => contradiction
  | tray => exact fits.elim
  | group other =>
    obtain rfl := Option.some.inj here
    exact has_bound fits
  | edge other =>
    obtain rfl := Option.some.inj here
    exact has_bound fits

end Pgml
