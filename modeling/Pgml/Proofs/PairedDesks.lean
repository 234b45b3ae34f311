import Mathlib.Data.List.Forall2
import Mathlib.Logic.Relator
import Mathlib.Order.Basic
import Pgml.Proofs.LinkedStyling
import Pgml.Vocabulary

/-! Desks with the same objects in other places. A pairing tells which object of one desk is which of the
other. Paired objects are equal but for their parts and connections, which are paired again, and so are the
named objects and the shapes of the diagram. On the second desk there may be relays besides, objects that were
made for an element and left it to the usual dispatch. What handlers do to an object does the same to its
counterpart, and what they put on both desks is paired from then on. -/
namespace Pgml

open Work (Any)

/-- Which object of one desk is which of another. -/
abbrev Pairing := ItemId → ItemId → Prop

/-- An object that does nothing for its element but to leave it to the usual dispatch. -/
def Plan.relay : Plan := ⟨false, false, .redispatch⟩

def Shape.relay : Shape := .ofVariant (.group [] (some .relay))

section

variable (p : Pairing)

structure Connections.Paired (c e : Connections) : Prop where
  sourcePort : Option.Rel p c.sourcePort e.sourcePort
  destPort : Option.Rel p c.destPort e.destPort
  sourceNode : Option.Rel p c.sourceNode e.sourceNode
  destNode : Option.Rel p c.destNode e.destNode

inductive Variant.Paired : Variant → Variant → Prop where
  | bare : Paired .bare .bare
  | group {children others : List ItemId} (plan : Option Plan) :
      List.Forall₂ p children others → Paired (.group children plan) (.group others plan)
  | text (content family : String) (size : Int) : Paired (.text content family size) (.text content family size)
  | rectangle : Paired .rectangle .rectangle
  | roundedRectangle (radius : Int) : Paired (.roundedRectangle radius) (.roundedRectangle radius)
  | ellipse : Paired .ellipse .ellipse
  | polygon (points : List (Int × Int)) : Paired (.polygon points) (.polygon points)
  | line (x1 y1 x2 y2 : Int) : Paired (.line x1 y1 x2 y2) (.line x1 y1 x2 y2)
  | edge {path other : Option ItemId} {c e : Connections} :
      Option.Rel p path other → c.Paired p e → Paired (.edge path c) (.edge other e)

/-- Shapes that differ in what they are made of at most. -/
inductive Shape.Paired : Shape → Shape → Prop where
  | mk {bounds : Bounds} {style : Style} {name : Option String} {owner : Option Value} {privateData : Table String}
      {v w : Variant} : v.Paired p w →
      Paired ⟨bounds, style, name, owner, privateData, v⟩ ⟨bounds, style, name, owner, privateData, w⟩

inductive Item.Paired : Item → Item → Prop where
  | shape {s t : Shape} : s.Paired p t → Paired (.shape s) (.shape t)
  | thing (kind : String) : Paired (.thing kind) (.thing kind)

def Diagram.Paired (g h : Diagram) : Prop :=
  ∃ shapes, List.Forall₂ p g.shapes shapes ∧ h = { g with shapes := shapes }

def Table.Paired (t u : Table ItemId) : Prop :=
  List.Forall₂ (fun a b => b.1 = a.1 ∧ p a.2 b.2) t.entries u.entries

namespace Desk

/-- Two desks with the same objects, but for relays on the second one. The trays are no matter. -/
structure Paired (d e : Desk) : Prop where
  unique : Relator.BiUnique p
  items : ∀ i j, p i j → ∃ a b, d.item? i = some a ∧ e.item? j = some b ∧ a.Paired p b
  total : ∀ i a, d.item? i = some a → ∃ j, p i j
  spare : ∀ j b, e.item? j = some b → (∃ i, p i j) ∨ b = .shape .relay
  names : d.names.Paired p e.names
  colors : e.colors = d.colors
  diagram : Option.Rel (Diagram.Paired p) d.diagram e.diagram
  journal : e.journal = d.journal

/-- Works that do the same to paired desks. -/
abbrev Abreast {α : Type} (v w : Work Desk α) : Prop := Work.Alike (Paired p) Any v w

end Desk

end

section

variable {p q : Pairing}

theorem rel_mono {α β : Type} {r s : α → β → Prop} (le : r ≤ s) {a : Option α} {b : Option β}
    (rel : Option.Rel r a b) : Option.Rel s a b := by
  cases rel with
  | some related => exact .some (le _ _ related)
  | none => exact .none

theorem Connections.Paired.mono {c e : Connections} (le : p ≤ q) (paired : c.Paired p e) : c.Paired q e :=
  ⟨rel_mono le paired.sourcePort, rel_mono le paired.destPort, rel_mono le paired.sourceNode,
    rel_mono le paired.destNode⟩

theorem Variant.Paired.mono {v w : Variant} (le : p ≤ q) (paired : v.Paired p w) : v.Paired q w := by
  cases paired with
  | group plan children => exact .group plan (children.imp le)
  | edge path connections => exact .edge (rel_mono le path) (connections.mono le)
  | _ => constructor

theorem Shape.Paired.mono {s t : Shape} (le : p ≤ q) : s.Paired p t → s.Paired q t := by
  rintro ⟨variants⟩
  exact ⟨variants.mono le⟩

theorem Item.Paired.mono {a b : Item} (le : p ≤ q) (paired : a.Paired p b) : a.Paired q b := by
  cases paired with
  | shape shapes => exact .shape (shapes.mono le)
  | thing kind => exact .thing kind

theorem Diagram.Paired.mono {g h : Diagram} (le : p ≤ q) : g.Paired p h → g.Paired q h := by
  rintro ⟨shapes, objects, rfl⟩
  exact ⟨shapes, objects.imp le, rfl⟩

theorem Table.Paired.mono {t u : Table ItemId} (le : p ≤ q) (paired : t.Paired p u) : t.Paired q u :=
  List.Forall₂.imp (fun _ _ pair => ⟨pair.1, le _ _ pair.2⟩) paired

theorem Variant.Paired.kind {v w : Variant} (paired : v.Paired p w) : w.kind = v.kind := by
  cases paired with
  | group plan => cases plan <;> rfl
  | _ => rfl

theorem Item.Paired.kind {a b : Item} (paired : a.Paired p b) : b.kind = a.kind := by
  cases paired with
  | thing => rfl
  | shape shapes =>
    obtain ⟨variants⟩ := shapes
    exact variants.kind

theorem Item.Paired.isPath {a b : Item} (paired : a.Paired p b) : b.isPath = a.isPath := by
  cases paired with
  | thing => rfl
  | shape shapes =>
    obtain ⟨variants⟩ := shapes
    cases variants <;> rfl

/-! ## Tables of objects -/

theorem Table.Paired.get? {t u : Table ItemId} (paired : t.Paired p u) (name : String) :
    Option.Rel p (t.get? name) (u.get? name) := by
  obtain ⟨entries⟩ := t
  obtain ⟨others⟩ := u
  change List.Forall₂ _ entries others at paired
  change Option.Rel p (lookup name entries) (lookup name others)
  induction paired with
  | nil => exact .none
  | @cons a b _ _ pair _ ih =>
    obtain ⟨key, i⟩ := a
    obtain ⟨_, j⟩ := b
    obtain ⟨rfl, pair⟩ := pair
    simp only [lookup]
    split
    · exact .some pair
    · exact ih

theorem Table.Paired.names {t u : Table ItemId} (paired : t.Paired p u) : u.names = t.names := by
  obtain ⟨entries⟩ := t
  obtain ⟨others⟩ := u
  change List.Forall₂ _ entries others at paired
  change others.map Prod.fst = entries.map Prod.fst
  induction paired with
  | nil => rfl
  | cons pair _ ih => rw [List.map_cons, List.map_cons, ih, pair.1]

theorem Table.Paired.insert {t u : Table ItemId} (paired : t.Paired p u) (name : String) {i j : ItemId}
    (pair : p i j) : (t.insert name i).Paired p (u.insert name j) := by
  obtain ⟨entries⟩ := t
  obtain ⟨others⟩ := u
  change List.Forall₂ _ entries others at paired
  change List.Forall₂ _ (put name i entries) (put name j others)
  induction paired with
  | nil => exact .cons ⟨rfl, pair⟩ .nil
  | @cons a b _ _ old rest ih =>
    obtain ⟨key, x⟩ := a
    obtain ⟨_, y⟩ := b
    obtain ⟨rfl, old⟩ := old
    simp only [put]
    split
    · exact .cons ⟨rfl, pair⟩ rest
    · exact .cons ⟨rfl, old⟩ ih

end

/-! ## Objects on desks -/

namespace Desk

variable {p : Pairing} {d e : Desk} {i j : ItemId}

theorem item?_setShape (d : Desk) (i j : ItemId) (s : Shape) :
    (d.setShape i s).item? j = if j = i then (d.item? i).map fun _ => .shape s else d.item? j := by
  obtain ⟨i⟩ := i
  obtain ⟨j⟩ := j
  by_cases same : j = i
  · subst same
    by_cases bound : j < d.items.size <;> simp [item?, setShape, bound]
  · have other : i ≠ j := fun there => same there.symm
    simp [item?, setShape, same, other]

namespace Paired

theorem shape? (paired : d.Paired p e) (pair : p i j) : Option.Rel (Shape.Paired p) (d.shape? i) (e.shape? j) := by
  obtain ⟨a, b, left, right, both⟩ := paired.items i j pair
  simp only [Desk.shape?, left, right]
  cases both with
  | shape shapes => exact .some shapes
  | thing => exact .none

theorem kindOf (paired : d.Paired p e) (pair : p i j) : e.kindOf j = d.kindOf i := by
  obtain ⟨a, b, left, right, both⟩ := paired.items i j pair
  simp only [Desk.kindOf, left, right, both.kind]

theorem isPath (paired : d.Paired p e) (pair : p i j) :
    (e.item? j).any Item.isPath = (d.item? i).any Item.isPath := by
  obtain ⟨a, b, left, right, both⟩ := paired.items i j pair
  simp only [left, right, Option.any_some, both.isPath]

/-- A shape in the place of an object, and its counterpart in the place of the other. -/
theorem setShape (paired : d.Paired p e) (pair : p i j) {s t : Shape} (shapes : s.Paired p t) :
    (d.setShape i s).Paired p (e.setShape j t) := by
  obtain ⟨a, b, left, right, _⟩ := paired.items i j pair
  refine { paired with items := ?_, total := ?_, spare := ?_ }
  · intro x y other
    rw [item?_setShape, item?_setShape]
    by_cases same : x = i
    · subst same
      obtain rfl : y = j := paired.unique.2 other pair
      exact ⟨.shape s, .shape t, by simp [left], by simp [right], .shape shapes⟩
    · have apart : y ≠ j := by
        rintro rfl
        exact same (paired.unique.1 other pair)
      rw [if_neg same, if_neg apart]
      exact paired.items x y other
  · intro x c there
    rw [item?_setShape] at there
    split at there
    · rename_i same
      exact ⟨j, same ▸ pair⟩
    · exact paired.total x c there
  · intro y c there
    rw [item?_setShape] at there
    split at there
    · rename_i same
      exact .inl ⟨i, same ▸ pair⟩
    · exact paired.spare y c there

theorem journalled (paired : d.Paired p e) (notices : List Notice) :
    Desk.Paired p (d.addNotices notices) (e.addNotices notices) :=
  { paired with journal := congrArg (notices.reverse ++ ·) paired.journal }

end Paired

end Desk

/-! ## Objects put on both desks -/

/-- The objects that an object refers to. -/
def Connections.refs (c : Connections) : List ItemId :=
  [c.sourcePort, c.destPort, c.sourceNode, c.destNode].filterMap id

def Variant.refs : Variant → List ItemId
  | .group children _ => children
  | .edge path c => path.toList ++ c.refs
  | _ => []

def Item.refs : Item → List ItemId
  | .shape s => s.variant.refs
  | .thing _ => []

/-- A drawing whose objects refer to one another only. -/
def Drawing.Closed (d : Drawing) : Prop := ∀ item ∈ d.items, ∀ id ∈ item.refs, id.index < d.items.length

instance (d : Drawing) : Decidable d.Closed :=
  inferInstanceAs (Decidable (∀ item ∈ d.items, ∀ id ∈ item.refs, id.index < d.items.length))

/-- The pairing with some more objects behind those that there are. -/
def Pairing.grow (p : Pairing) (m n size : Nat) : Pairing := fun i j =>
  p i j ∨ ∃ id : ItemId, id.index < size ∧ i = id.shift m ∧ j = id.shift n

section

variable {p : Pairing} {m n : Nat}

theorem Pairing.le_grow (p : Pairing) (m n size : Nat) : p ≤ p.grow m n size := fun _ _ pair => .inl pair

theorem rel_shift {o : Option ItemId} (pairs : ∀ id ∈ o, p (id.shift m) (id.shift n)) :
    Option.Rel p (o.map (·.shift m)) (o.map (·.shift n)) := by
  cases o with
  | none => exact .none
  | some id => exact .some (pairs id rfl)

theorem Connections.paired_shift {c : Connections} (pairs : ∀ id ∈ c.refs, p (id.shift m) (id.shift n)) :
    (c.shift m).Paired p (c.shift n) := by
  have each : ∀ o ∈ [c.sourcePort, c.destPort, c.sourceNode, c.destNode], ∀ id ∈ o,
      p (id.shift m) (id.shift n) :=
    fun o member id there => pairs id (List.mem_filterMap.mpr ⟨o, member, there⟩)
  exact ⟨rel_shift (each _ (by simp)), rel_shift (each _ (by simp)), rel_shift (each _ (by simp)),
    rel_shift (each _ (by simp))⟩

/-- An object in two places, if what it refers to is paired there. -/
theorem Item.paired_shift {item : Item} (pairs : ∀ id ∈ item.refs, p (id.shift m) (id.shift n)) :
    (item.shift m).Paired p (item.shift n) := by
  cases item with
  | thing kind => exact .thing kind
  | shape s =>
    obtain ⟨bounds, style, name, owner, privateData, variant⟩ := s
    refine .shape ⟨?_⟩
    change ∀ id ∈ variant.refs, _ at pairs
    cases variant with
    | group children plan =>
      refine .group plan ?_
      rw [List.forall₂_map_left_iff, List.forall₂_map_right_iff, List.forall₂_same]
      exact pairs
    | edge path c =>
      simp only [Variant.refs, List.mem_append, Option.mem_toList] at pairs
      exact .edge (rel_shift fun id there => pairs id (.inl there))
        (Connections.paired_shift fun id there => pairs id (.inr there))
    | _ => constructor

end

namespace Desk

variable {p : Pairing} {d e : Desk}

theorem item?_place (drawing : Drawing) (d : Desk) (i : ItemId) :
    (place drawing d).2.item? i = if i.index < d.items.size then d.item? i else
      (drawing.items[i.index - d.items.size]?).map (·.shift d.items.size) := by
  simp only [item?, place, Array.getElem?_append, List.getElem?_toArray, List.getElem?_map]

theorem item?_bound {i : ItemId} {a : Item} (there : d.item? i = some a) : i.index < d.items.size :=
  (Array.getElem?_eq_some_iff.mp there).1

theorem item?_place_old {i : ItemId} {a : Item} (there : d.item? i = some a) (drawing : Drawing) :
    (place drawing d).2.item? i = some a := by
  rw [item?_place, if_pos (item?_bound there), there]

theorem item?_place_new (d : Desk) {drawing : Drawing} {id : ItemId} {a : Item}
    (there : drawing.items[id.index]? = some a) :
    (place drawing d).2.item? (id.shift d.items.size) = some (a.shift d.items.size) := by
  have behind : ¬ id.index + d.items.size < d.items.size := by omega
  simp [item?_place, ItemId.shift, behind, there]

/-- What is on the desk with a drawing was there before or is of the drawing. -/
theorem item?_place_cases {drawing : Drawing} {i : ItemId} {a : Item}
    (there : (place drawing d).2.item? i = some a) :
    d.item? i = some a ∨
      ∃ (id : ItemId) (b : Item), i = id.shift d.items.size ∧ drawing.items[id.index]? = some b ∧ a = b.shift d.items.size := by
  rw [item?_place] at there
  split at there
  · exact .inl there
  · rename_i behind
    obtain ⟨b, found, same⟩ := Option.map_eq_some_iff.mp there
    refine .inr ⟨⟨i.index - d.items.size⟩, b, ?_, found, same.symm⟩
    have index : i.index - d.items.size + d.items.size = i.index := by omega
    simp [ItemId.shift, index]

namespace Paired

/-- The objects of a drawing are one another's counterparts from the moment that they are put on both desks. -/
theorem place (paired : d.Paired p e) {drawing : Drawing} (closed : drawing.Closed) :
    Desk.Paired (p.grow d.items.size e.items.size drawing.items.length)
      (Desk.place drawing d).2 (Desk.place drawing e).2 := by
  have le := p.le_grow d.items.size e.items.size drawing.items.length
  have inside {i j : ItemId} (pair : p i j) : i.index < d.items.size ∧ j.index < e.items.size := by
    obtain ⟨a, b, left, right, _⟩ := paired.items i j pair
    exact ⟨item?_bound left, item?_bound right⟩
  have shift {x y : ItemId} {m : Nat} (same : x.shift m = y.shift m) : x = y := by
    cases x
    cases y
    simpa [ItemId.shift] using same
  -- Old places lie in front of the new ones, on both desks, so no object gets a second counterpart.
  refine ⟨⟨?_, ?_⟩, ?_, ?_, ?_, paired.names.mono le, paired.colors, rel_mono (fun _ _ => .mono le) paired.diagram,
    paired.journal⟩
  · rintro i x j (pair | ⟨id, _, rfl, rfl⟩) (other | ⟨id', _, rfl, behind⟩)
    · exact paired.unique.1 pair other
    · have := (inside pair).2
      simp only [behind, ItemId.shift] at this
      omega
    · have := (inside other).2
      simp only [ItemId.shift] at this
      omega
    · rw [shift behind]
  · rintro i j x (pair | ⟨id, _, rfl, rfl⟩) (other | ⟨id', _, behind, rfl⟩)
    · exact paired.unique.2 pair other
    · have := (inside pair).1
      simp only [behind, ItemId.shift] at this
      omega
    · have := (inside other).1
      simp only [ItemId.shift] at this
      omega
    · rw [shift behind]
  · rintro i j (pair | ⟨id, bound, rfl, rfl⟩)
    · obtain ⟨a, b, left, right, both⟩ := paired.items i j pair
      exact ⟨a, b, item?_place_old left drawing, item?_place_old right drawing, both.mono le⟩
    · have here := List.getElem?_eq_getElem bound
      refine ⟨_, _, item?_place_new d here, item?_place_new e here, Item.paired_shift fun ref member => ?_⟩
      exact .inr ⟨ref, closed _ (List.getElem_mem bound) ref member, rfl, rfl⟩
  · intro i a there
    rcases item?_place_cases there with old | ⟨id, b, rfl, found, _⟩
    · obtain ⟨j, pair⟩ := paired.total i a old
      exact ⟨j, .inl pair⟩
    · exact ⟨id.shift e.items.size, .inr ⟨id, (List.getElem?_eq_some_iff.mp found).1, rfl, rfl⟩⟩
  · intro j b there
    rcases item?_place_cases there with old | ⟨id, _, rfl, found, _⟩
    · exact (paired.spare j b old).imp_left fun ⟨i, pair⟩ => ⟨i, .inl pair⟩
    · exact .inl ⟨id.shift d.items.size, .inr ⟨id, (List.getElem?_eq_some_iff.mp found).1, rfl, rfl⟩⟩

/-- A relay on the second desk alone is no matter. -/
theorem relay (paired : d.Paired p e) : d.Paired p (Desk.place (.ofShape .relay) e).2 := by
  refine { paired with items := ?_, spare := ?_ }
  · intro i j pair
    obtain ⟨a, b, left, right, both⟩ := paired.items i j pair
    exact ⟨a, b, left, item?_place_old right _, both⟩
  · intro j b there
    rcases item?_place_cases there with old | ⟨⟨index⟩, c, rfl, found, rfl⟩
    · exact paired.spare j b old
    · obtain rfl : Item.shape .relay = c := List.mem_singleton.mp (List.mem_of_getElem? found) |>.symm
      exact .inr rfl

end Paired

/-! ## Work at the desk -/

section

variable {i j : ItemId}

theorem note_abreast (n : Notice) : Abreast p (note n) (note n) :=
  .update fun _ _ paired => paired.journalled [n]

theorem needShape_abreast (pair : p i j) {α : Type} {f g : Shape → Work Desk α}
    (next : ∀ s t, s.Paired p t → Abreast p (f s) (g t)) :
    Abreast p (needShape i >>= f) (needShape j >>= g) := by
  intro d e paired
  have shapes := paired.shape? pair
  rw [Work.bind_apply, Work.bind_apply]
  unfold needShape
  generalize d.shape? i = left, e.shape? j = right at shapes
  cases shapes with
  | none => exact ⟨rfl, paired, by simp⟩
  | some both => exact next _ _ both d e paired

theorem setShape_abreast (pair : p i j) {s t : Shape} (shapes : s.Paired p t) :
    Abreast p (.update (·.setShape i s)) (.update (·.setShape j t)) :=
  .update fun _ _ paired => paired.setShape pair shapes

theorem updateShape_abreast (pair : p i j) {f g : Shape → Shape}
    (shapes : ∀ s t, s.Paired p t → (f s).Paired p (g t)) : Abreast p (updateShape i f) (updateShape j g) :=
  needShape_abreast pair fun s t both => setShape_abreast pair (shapes s t both)

theorem tryShape_abreast (pair : p i j) {f g : Shape → Option Shape}
    (shapes : ∀ s t, s.Paired p t → Option.Rel (Shape.Paired p) (f s) (g t)) :
    Abreast p (tryShape i f) (tryShape j g) := by
  refine needShape_abreast pair fun s t both => ?_
  have changes := shapes s t both
  generalize f s = left, g t = right at changes
  cases changes with
  | none => exact .fail _
  | some changed => exact setShape_abreast pair changed

end

end Desk

end Pgml
