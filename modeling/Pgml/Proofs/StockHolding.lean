import Pgml.Proofs.NumberFaults
import Pgml.Proofs.ObjectNames

/-! Desks that hold a stock. Whatever handlers do at a desk they do to its stock, with an answer and
faults that the stock and the element tell, and the colours stay what the palette says. -/
namespace Pgml

structure Desk.Holds (p : Palette) (k : Stock) (d : Desk) : Prop where
  items : d.items.toList = k.shapes.map .shape
  names : d.names = k.names
  diagram : d.diagram = k.diagram
  unknowns : d.notices.filter Notice.isUnknown = k.unknowns
  colors : d.colors.Honest p

namespace Desk

open Work (Ends Any)

variable {p : Palette} {k : Stock} {d : Desk} {id : ItemId} {s : Shape}
  {blame : Fault → Desk → Prop}

theorem modify_const {α : Type} (a : α) (l : List α) (i : Nat) : (l.modify i fun _ => a) = l.set i a :=
  @List.modify_eq_set α ⟨a⟩ (fun _ => a) i l

namespace Holds

theorem item (holds : Holds p k d) (id : ItemId) : d.items[id.index]? = k.shapes[id.index]?.map .shape := by
  rw [← Array.getElem?_toList, holds.items, List.getElem?_map]

theorem shape? (holds : Holds p k d) (id : ItemId) : d.shape? id = k.shapes[id.index]? := by
  cases found : k.shapes[id.index]? with
  | some s => exact shape?_eq_some.mpr (by rw [holds.item, found]; rfl)
  | none =>
    have absent : d.items[id.index]? = none := by rw [holds.item, found]; rfl
    simp [Desk.shape?, item?, absent]

theorem roll (holds : Holds p k d) : d.roll = k.roll := by
  simp [Desk.roll, Stock.roll, holds.items, holds.names, Item.kind, Item.name?, Function.comp_def]

theorem set (holds : Holds p k d) (id : ItemId) (t : Shape) :
    Holds p (k.modify id fun _ => t) (d.setShape id t) where
  items := by
    have replaced : d.items.toList.set id.index (.shape t) =
        (k.shapes.modify id.index fun _ => t).map .shape := by
      rw [holds.items, modify_const, List.map_set]
    simpa [setShape, Stock.modify] using replaced
  names := holds.names
  diagram := holds.diagram
  unknowns := holds.unknowns
  colors := holds.colors

theorem update (holds : Holds p k d) {f : Shape → Shape} (found : k.shapes[id.index]? = some s) :
    Holds p (k.modify id f) (d.setShape id (f s)) := by
  have same : k.modify id f = k.modify id fun _ => f s := by
    simp only [Stock.modify]
    rw [modify_of_getElem? f found, modify_const]
  rw [same]
  exact holds.set id (f s)

end Holds

theorem note_ends {n : Notice} (known : n.isUnknown = false) :
    Ends (Holds p k) blame (note n) fun _ => Holds p k := by
  refine .update fun d holds => ?_
  refine ⟨holds.items, holds.names, holds.diagram, ?_, holds.colors⟩
  simp [notices_addNotices, known, holds.unknowns]

theorem report_ends {n : Notice} (unknown : n.isUnknown = true) :
    Ends (Holds p k) blame (note n) fun _ => Holds p (k.report n) := by
  refine .update fun d holds => ?_
  refine ⟨holds.items, holds.names, holds.diagram, ?_, holds.colors⟩
  simp [notices_addNotices, unknown, holds.unknowns, Stock.report]

theorem placeShape_ends (plain : s.Plain) :
    Ends (Holds p k) blame (placeShape s) fun id d => id = k.next ∧ Holds p (k.make s) d := by
  intro d holds
  rw [placeShape_apply plain]
  have size : d.items.size = k.shapes.length := by
    rw [← Array.length_toList, holds.items, List.length_map]
  refine ⟨by rw [size]; rfl, ?_, holds.names, holds.diagram, holds.unknowns, holds.colors⟩
  simp [Stock.make, holds.items]

theorem needShape_ends (found : k.shapes[id.index]? = some s) :
    Ends (Holds p k) blame (needShape id) fun t d => t = s ∧ Holds p k d := by
  intro d holds
  simp [needShape, holds.shape?, found, holds]

theorem updateShape_ends (bound : id.index < k.shapes.length) (f : Shape → Shape) :
    Ends (Holds p k) blame (updateShape id f) fun _ => Holds p (k.modify id f) := by
  have found : k.shapes[id.index]? = some k.shapes[id.index] := List.getElem?_eq_getElem bound
  refine (needShape_ends found).bind ?_
  intro t
  refine .given ?_
  rintro rfl
  exact .update fun d holds => holds.update found

theorem tryShape_ends {t : Shape} {f : Shape → Option Shape} (found : k.shapes[id.index]? = some s)
    (made : f s = some t) :
    Ends (Holds p k) blame (tryShape id f) fun _ => Holds p (k.modify id fun _ => t) := by
  refine (needShape_ends found).bind ?_
  intro u
  refine .given ?_
  rintro rfl
  rw [made]
  exact .update fun d holds => holds.set id t

theorem registerName_ends (name : String) (id : ItemId) :
    Ends (Holds p k) blame (registerName name id) fun _ => Holds p (k.call (some name) id) := by
  refine .update fun d holds => ?_
  exact { holds with names := by simp [Stock.call, holds.names] }

/-- Common attributes do the same to a shape whatever colours are in use. -/
theorem style_ends {as : Attributes} (defaults : ColorDefaults) (found : k.shapes[id.index]? = some s)
    (refused : ∀ e d, s.styled p as defaults = .error e →
      Holds p (k.modify id fun _ => s.begun p as defaults) d → blame e d) :
    Ends (Holds p k) blame (style id (Styling.setCommon defaults as)) fun _ d =>
      ∃ t, s.styled p as defaults = .ok t ∧ Holds p (k.modify id fun _ => t) d := by
  intro d holds
  have twins : Work.Twins (Styling.Agree p k.unknowns) (fun _ => True) Any (Styling.setCommon defaults as)
      (Styling.setCommon defaults as) :=
    Styling.setCommon_twins (fun _ _ _ => trivial) (Styling.agree_stable p k.unknowns) defaults
  have start : Styling.Agree p k.unknowns ⟨s, d.colors, d.journal⟩ ⟨s, .ofPalette p, []⟩ :=
    ⟨rfl, holds.colors, Resolver.honest_ofPalette p, holds.unknowns⟩
  obtain ⟨same, agree, _⟩ := twins.alike _ _ start
  simp only [style, holds.shape?, found]
  rcases left : Styling.setCommon defaults as ⟨s, d.colors, d.journal⟩ with ⟨result, styling⟩
  rcases right : Styling.setCommon defaults as ⟨s, .ofPalette p, []⟩ with ⟨result', other⟩
  rw [left, right] at same agree
  obtain rfl : result = result' := same
  have begun : s.begun p as defaults = styling.shape := by
    have shape : styling.shape = other.shape := agree.shape
    simp [Shape.begun, right, shape]
  have after : Holds p (k.modify id fun _ => s.begun p as defaults)
      { d.setShape id styling.shape with colors := styling.colors, journal := styling.journal } := by
    rw [begun]
    exact { holds.set id styling.shape with unknowns := agree.unknowns, colors := agree.left }
  cases result with
  | error e => exact refused e _ (by simp [Shape.styled, right]) after
  | ok =>
    refine ⟨_, ?_, after⟩
    simp [Shape.styled, Shape.begun, right]

/-! ### Containers -/

theorem kind_group {v : Variant} (kind : v.kind = "Group") : ∃ children, v = .group children none := by
  cases v with
  | group children plan =>
    cases plan with
    | none => exact ⟨children, rfl⟩
    | some plan => simp [Variant.kind] at kind
  | _ => simp [Variant.kind] at kind

theorem addChild_ends {group : ItemId} (fits : k.Fits (.group group)) (child : ItemId) (isPath : Bool) :
    Ends (Holds p k) blame (addChild group child) fun _ => Holds p (k.offer (.group group) child isPath) := by
  obtain ⟨s, found, kind⟩ := Option.map_eq_some_iff.mp fits
  obtain ⟨children, variant⟩ := kind_group kind
  have made : addChild? child s = some (s.adopt child isPath) := by
    simp [addChild?, Shape.adopt, Variant.adopt, variant]
  refine (tryShape_ends found made).mono fun _ d holds => ?_
  have same : (k.modify group fun _ => s.adopt child isPath) = k.offer (.group group) child isPath :=
    Stock.modify_congr found rfl
  exact same ▸ holds

theorem addToEdge_ends {edge child : ItemId} {t : Shape} (fits : k.Fits (.edge edge))
    (there : k.shapes[child.index]? = some t) :
    Ends (Holds p k) blame (addToEdge edge child) fun _ =>
      Holds p (k.offer (.edge edge) child t.isPath) := by
  obtain ⟨s, found, kind⟩ := Option.map_eq_some_iff.mp fits
  obtain ⟨path, connections, variant⟩ := kind_edge kind
  have refused (n : Notice) (known : n.isUnknown = false) (same : s.adopt child t.isPath = s) :
      Ends (Holds p k) blame (note n) fun _ => Holds p (k.offer (.edge edge) child t.isPath) := by
    have unchanged : k.offer (.edge edge) child t.isPath = k := Stock.modify_self found same
    rw [unchanged]
    exact note_ends known
  refine (needShape_ends found).bind ?_
  intro u
  refine .given ?_
  rintro rfl
  refine .current fun d holds => ?_
  have suits : (d.item? child).any Item.isPath = t.isPath := by
    simp [item?, holds.item, there]
  dsimp only
  rw [variant, suits]
  cases path with
  | some other => exact refused _ rfl (Shape.adopt_eq_self (by simp [variant, Variant.adopt]))
  | none =>
    dsimp only
    split
    next drawn =>
      refine (updateShape_ends (List.getElem?_eq_some_iff.mp found).1 _).mono fun _ d holds => ?_
      have same : k.modify edge (fun s => { s with variant := .edge (some child) connections }) =
          k.offer (.edge edge) child t.isPath :=
        Stock.modify_congr found (by simp [Shape.adopt, Variant.adopt, variant, drawn])
      exact same ▸ holds
    next unsuited => exact refused _ rfl (Shape.adopt_eq_self (by simp [variant, Variant.adopt, unsuited]))

theorem addObject_ends {c : Container} {child : ItemId} {t : Shape} (fits : k.Fits c)
    (there : k.shapes[child.index]? = some t) :
    Ends (Holds p k) blame (addObject c child) fun _ => Holds p (k.offer c child t.isPath) := by
  cases c with
  | diagram =>
    refine .update fun d holds => ?_
    exact { holds with diagram := congrArg (Option.map _) holds.diagram }
  | group group => exact addChild_ends fits child t.isPath
  | edge edge => exact addToEdge_ends fits there
  | tray => exact fits.elim

theorem boundsOf_ends {ids : List ItemId} (there : ∀ id ∈ ids, id.index < k.shapes.length) :
    Ends (Holds p k) blame (boundsOf ids) fun boxes d =>
      boxes = ids.filterMap (fun id => k.shapes[id.index]?.map (·.bounds)) ∧ Holds p k d := by
  unfold boundsOf
  induction ids with
  | nil => exact .pure fun d holds => ⟨rfl, holds⟩
  | cons id ids ih =>
    have bound : id.index < k.shapes.length := there id (by simp)
    have found : k.shapes[id.index]? = some k.shapes[id.index] := List.getElem?_eq_getElem bound
    have first : Ends (Holds p k) blame (do return (← needShape id).bounds) fun box d =>
        box = k.shapes[id.index].bounds ∧ Holds p k d := by
      refine (needShape_ends found).bind fun s => .given ?_
      rintro rfl
      exact .pure fun d holds => ⟨rfl, holds⟩
    rw [List.mapM_cons]
    refine first.bind fun box => .given ?_
    rintro rfl
    refine (ih fun other member => there other (by simp [member])).bind fun boxes => .given ?_
    rintro rfl
    exact .pure fun d holds => ⟨by simp [found], holds⟩

/-- The box of a group follows from those of its children, all of which are there. -/
theorem calcBounds_ends {group : ItemId} (fits : k.Fits (.group group)) (sound : k.Sound) :
    Ends (Holds p k) blame (calcBounds group) fun _ => Holds p (k.derive group) := by
  obtain ⟨s, found, kind⟩ := Option.map_eq_some_iff.mp fits
  obtain ⟨children, variant⟩ := kind_group kind
  have there : ∀ id ∈ children, id.index < k.shapes.length := by
    intro id member
    exact sound s (List.mem_of_getElem? found) id (by simpa [variant, Variant.parts] using member)
  refine (needShape_ends found).bind fun t => .given ?_
  rintro rfl
  rw [variant]
  refine (boundsOf_ends there).bind fun boxes => .given ?_
  rintro rfl
  split
  next box union =>
    refine (updateShape_ends (List.getElem?_eq_some_iff.mp found).1 _).mono fun _ d holds => ?_
    have same : k.modify group (·.withBounds box) = k.derive group :=
      Stock.modify_congr found (by simp [variant, union])
    exact same ▸ holds
  next nothing =>
    have same : k.derive group = k := Stock.modify_self found (by simp [variant, nothing])
    rw [same]
    exact .pure fun d holds => holds

/-! ### Private data -/

theorem setEdgeEntry_ends {edge : ItemId} (bound : edge.index < k.shapes.length) (key value : String) :
    Ends (Holds p k) blame (setEdgeEntry edge key value) fun _ => Holds p (k.setEntry edge key value) := by
  unfold setEdgeEntry Stock.setEntry
  cases Joint.ofKey? key with
  | none => exact updateShape_ends bound _
  | some joint =>
    have found : k.shapes[edge.index]? = some k.shapes[edge.index] := List.getElem?_eq_getElem bound
    refine .current fun d holds => ?_
    dsimp only
    rw [holds.names]
    cases k.names.get? value with
    | some target => exact updateShape_ends bound _
    | none =>
      refine (needShape_ends found).bind fun s => .given ?_
      rintro rfl
      refine (report_ends rfl).bind fun _ => ?_
      have name : k.shapes[edge.index].name = k.shapes[edge.index]?.bind (·.name) := by simp [found]
      rw [name]
      exact updateShape_ends (k := k.report _) bound _

theorem setEdgeData_ends {edge : ItemId} (bound : edge.index < k.shapes.length)
    (entries : List (String × String)) :
    Ends (Holds p k) blame (setEdgeData edge entries) fun _ => Holds p (k.setEntries edge entries) := by
  induction entries generalizing k with
  | nil => exact .pure fun d holds => holds
  | cons entry rest ih =>
    refine (setEdgeEntry_ends bound entry.1 entry.2).bind fun _ => ?_
    exact ih (by rwa [Stock.length_of_skeleton (Stock.skeleton_setEntry ..)])

theorem setPrivateData_ends {c : Container} (fits : k.Fits c) (data : Table String) :
    Ends (Holds p k) blame (setPrivateData data c) fun _ => Holds p (k.deliver data c) := by
  cases c with
  | diagram =>
    refine .update fun d holds => ?_
    exact { holds with diagram := congrArg (Option.map _) holds.diagram }
  | group group => exact updateShape_ends (Stock.has_bound fits) _
  | edge edge => exact setEdgeData_ends (Stock.has_bound fits) _
  | tray => exact fits.elim

end Desk

namespace Vocabulary

open Desk
open Work (Ends)

variable {setup : Setup} {p : Palette} {k : Stock} {s : Shape} {c : Container}
  {blame : Fault → Desk → Prop} {as : Attributes}

theorem deliver_empty (fits : k.Fits c) {data : Table String} (empty : data.isEmpty = true) :
    k.deliver data c = k := by
  have none : data.entries = [] := by simpa [Table.isEmpty] using empty
  have nothing (s : Shape) : addPrivate [] s = s := rfl
  cases c with
  | diagram =>
    obtain ⟨_, _, _ | g, _⟩ := k <;> simp [Stock.deliver, none, Table.insertAll]
  | group id =>
    obtain ⟨s, found, _⟩ := Option.map_eq_some_iff.mp fits
    exact Stock.modify_self found (by rw [none, nothing])
  | edge id => simp [Stock.deliver, none, Stock.setEntries]
  | tray => exact fits.elim

/-- What an element's private data does to the container around it. -/
theorem endWrapper_ends (fits : k.Fits c) (buffer : String) :
    Ends (Holds p k) blame (endWrapper c buffer) fun _ =>
      Holds p (k.deliver (PrivateData.parse buffer) c) := by
  unfold endWrapper
  dsimp only
  split
  next empty =>
    rw [deliver_empty fits empty]
    exact .pure fun d holds => holds
  next =>
    have takes : c.takesData = true := by
      cases c with
      | tray => exact fits.elim
      | _ => rfl
    rw [if_pos takes]
    exact setPrivateData_ends fits _

/-! ### The newest shape -/

theorem updateNewest_ends (f : Shape → Shape) :
    Ends (Holds p (k.make s)) blame (updateShape k.next f) fun _ => Holds p (k.make (f s)) := by
  have bound : k.next.index < (k.make s).shapes.length := by simp [Stock.next, Stock.make]
  rw [← Stock.make_modify]
  exact updateShape_ends bound f

theorem setName_ends :
    Ends (Holds p (k.make s)) blame (setName k.next as) fun _ =>
      Holds p ((k.call (as.value? "name") k.next).make { s with name := (as.value? "name").or s.name }) := by
  unfold setName
  cases as.value? "name" with
  | none => exact .pure fun d holds => holds
  | some name =>
    refine (updateNewest_ends _).bind fun _ => ?_
    rw [← Stock.make_call]
    exact registerName_ends name k.next

theorem setOwner_ends
    (refused : ∀ e d, s.owned setup as = .error e → Holds p (k.make s) d → blame e d) :
    Ends (Holds p (k.make s)) blame (setOwner setup k.next as) fun _ d =>
      ∃ t, s.owned setup as = .ok t ∧ Holds p (k.make t) d := by
  unfold setOwner
  unfold Shape.owned at refused ⊢
  cases present : as.value? "href" with
  | none => exact .pure fun d holds => ⟨s, rfl, holds⟩
  | some href =>
    simp only [present] at refused
    cases owner : setup.owner? href with
    | none =>
      simp only [owner] at refused ⊢
      exact .fail fun d holds => refused _ d rfl holds
    | some value =>
      simp only [owner]
      exact (updateNewest_ends _).mono fun _ d holds => ⟨_, rfl, holds⟩

/-- A shape without a name is called by the name that it gets, whether its other attributes can be
applied or not. -/
theorem setAttributes_ends (nameless : s.name = none)
    (refused : ∀ e d, s.attributed setup p as = .error e →
      d.roll = k.roll.enter s.kind (as.value? "name") → blame e d) :
    Ends (Holds p (k.make s)) blame (setAttributes setup k.next as) fun _ d =>
      ∃ t, s.attributed setup p as = .ok t ∧ Holds p ((k.call (as.value? "name") k.next).make t) d := by
  refine setName_ends.bind fun _ => ?_
  let called := k.call (as.value? "name") k.next
  let named : Shape := { s with name := (as.value? "name").or s.name }
  have enters {t : Shape} {d : Desk} (variant : t.variant = s.variant) (name : t.name = named.name)
      (holds : Holds p (called.make t) d) : d.roll = k.roll.enter s.kind (as.value? "name") := by
    have same : t.name = as.value? "name" := by simp [name, named, nameless]
    have kind : t.kind = s.kind := by simp [Shape.kind, variant]
    rw [holds.roll, ← kind, ← same]
    simp only [called, ← same]
    exact Stock.roll_call
  refine (style_ends setup.defaults (Stock.make_next (k := called) named) ?_).bind fun _ => ?_
  · intro e d styled holds
    obtain ⟨frame, name, _⟩ := Shape.begun_frame p as setup.defaults named
    rw [Stock.make_modify] at holds
    refine refused e d ?_ (enters frame.variant name holds)
    simp [Shape.attributed, named, styled]
  refine .exists_pre fun t => .given fun styled => ?_
  rw [Stock.make_modify]
  refine (setOwner_ends fun e d owned holds => ?_).mono fun _ d ended => ?_
  · obtain ⟨frame, name, _⟩ := Shape.styled_frame styled
    refine refused e d ?_ (enters frame.variant name holds)
    simp [Shape.attributed, named, styled, owned]
  · obtain ⟨u, owned, holds⟩ := ended
    exact ⟨u, by simp [Shape.attributed, named, styled, owned], holds⟩

theorem attach_ends (fits : k.Fits c) :
    Ends (Holds p (k.make s)) blame (attach c k.next) fun _ =>
      Holds p ((k.offer c k.next s.isPath).make s) := by
  have takes : c.takesObjects = true := by
    cases c with
    | tray => exact fits.elim
    | _ => rfl
  rw [← Stock.make_offer fits]
  unfold attach
  rw [if_pos takes]
  exact addObject_ends (Stock.fits_make fits s) (Stock.make_next s)

end Vocabulary

end Pgml
