import Pgml.Proofs.SketchGrowth

/-! What shows of the three things done to a shape: it is put on the desk, it is given its
attributes, and it is offered to a container. Attributes give the sketch no more than a name, and
desks of one dress are dressed alike by them; an offer does not touch the dress. -/
namespace Pgml

open Desk
open Work (Any)

/-! ## Putting a shape on the desk -/

/-- A shape without name, parts and connections, as types and rules make them. -/
structure Shape.Plain (s : Shape) : Prop where
  name : s.name = none
  parts : s.variant.parts = []
  shift : ∀ offset, s.variant.shift offset = s.variant

def Shape.node (s : Shape) (name : Option String) : Node := ⟨s.kind, name, (Item.shape s).isPath, []⟩

namespace Desk

variable {d e after : Desk} {s : Shape}

theorem placeShape_apply (plain : s.Plain) (d : Desk) :
    placeShape s d = (.ok ⟨d.items.size⟩, { d with items := d.items.push (.shape s) }) := by
  simp [placeShape, place, Drawing.ofShape, Drawing.ofItem, Item.shift, plain.shift]

theorem length_nodes (d : Desk) : d.sketch.nodes.length = d.items.size := by simp [sketch]

theorem length_looks (d : Desk) : d.dress.looks.length = d.items.size := by simp [dress]

theorem size_of_dress (same : e.dress = d.dress) : e.items.size = d.items.size := by
  rw [← length_looks e, ← length_looks d, same]

theorem sketch_push (plain : s.Plain) (c : Container) (d : Desk) :
    ({ d with items := d.items.push (.shape s) } : Desk).sketch =
      d.sketch.extend c [] [s.node none] [] := by
  have node : (Item.shape s).node = s.node none := by
    simp [Item.node, Shape.node, Item.kind, Item.name?, Item.parts, plain.name, plain.parts]
  simp [sketch, Sketch.extend, Sketch.grow_nil, Sketch.crown_nil, notices, node]

theorem dress_push (same : e.dress = d.dress) :
    ({ e with items := e.items.push (.shape s) } : Desk).dress =
      ({ d with items := d.items.push (.shape s) } : Desk).dress := by
  simp only [dress, Dress.mk.injEq] at same ⊢
  obtain ⟨looks, names, colors, notices⟩ := same
  exact ⟨by simp [looks], names, colors, notices⟩

end Desk

/-! ## Attributes -/

def Dressed (d e : Desk) : Prop := d.dress = e.dress

/-- Shapes of one look, and journals that agree on colours. -/
def dressLink : Styling.Link where
  shapes s t := (Item.shape s).look = (Item.shape t).look
  journals j k := j.reverse.filter Notice.isColor = k.reverse.filter Notice.isColor
  style f s t same := by simp_all [Item.look]
  bounds b s t same := same
  unknown value used j k same := by simp [same]

/-- A shape in the sketch, and a journal with nothing new on where shapes went. -/
def nodeLink (node : Node) (warnings : List Notice) : Styling.Link where
  shapes s _ := (Item.shape s).node = node
  journals j _ := j.reverse.filter Notice.isPlacing = warnings
  style f s t same := same
  bounds b s t same := same
  unknown value used j k same := by simp [same, Notice.isPlacing]

theorem look_of_shape?_none {d : Desk} {id : ItemId} (absent : d.shape? id = none) :
    d.dress.looks[id.index]?.join = none := by
  cases found : d.items[id.index]? with
  | none => simp [dress, found]
  | some item =>
    cases item with
    | shape s => simp [shape?_eq_some.mpr found] at absent
    | thing kind => simp [dress, found, Item.look]

/-- Desks of one dress have shapes in the same places, and these have the same looks. -/
theorem shape?_dressed {d e : Desk} (dressed : Dressed d e) (id : ItemId) :
    (d.shape? id = none ∧ e.shape? id = none) ∨
    ∃ s t, d.shape? id = some s ∧ e.shape? id = some t ∧ (Item.shape s).look = (Item.shape t).look := by
  have looks : d.dress.looks[id.index]? = e.dress.looks[id.index]? := by rw [dressed]
  cases left : d.shape? id with
  | none =>
    cases right : e.shape? id with
    | none => exact .inl ⟨rfl, rfl⟩
    | some t =>
      have absent := look_of_shape?_none left
      rw [looks, look_of_shape? right] at absent
      simp [Item.look] at absent
  | some s =>
    cases right : e.shape? id with
    | none =>
      have absent := look_of_shape?_none right
      rw [← looks, look_of_shape? left] at absent
      simp [Item.look] at absent
    | some t =>
      rw [look_of_shape? left, look_of_shape? right] at looks
      exact .inr ⟨s, t, rfl, rfl, Option.some.inj looks⟩

theorem setShape_dressed {d e : Desk} (dressed : Dressed d e) (id : ItemId) {s t : Shape}
    (same : (Item.shape s).look = (Item.shape t).look) :
    Dressed (d.setShape id s) (e.setShape id t) := by
  unfold Dressed at dressed ⊢
  rw [dress_setShape, dress_setShape, dressed, same]

theorem updateShape_dressed (id : ItemId) {f : Shape → Shape}
    (looks : ∀ s t, (Item.shape s).look = (Item.shape t).look →
      (Item.shape (f s)).look = (Item.shape (f t)).look) :
    Work.Alike Dressed Any (updateShape id f) (updateShape id f) := by
  intro d e dressed
  simp only [updateShape, Work.bind_apply, needShape]
  rcases shape?_dressed dressed id with ⟨left, right⟩ | ⟨s, t, left, right, same⟩
  · simp [left, right, dressed]
  · simp only [left, right]
    exact ⟨rfl, setShape_dressed dressed id (looks s t same), fun _ _ => trivial⟩

theorem style_dressed (id : ItemId) {w : Work Styling Unit}
    (alike : ∀ p, Work.Alike (Styling.Linked dressLink p) Any w w) :
    Work.Alike Dressed Any (style id w) (style id w) := by
  intro d e dressed
  simp only [style]
  rcases shape?_dressed dressed id with ⟨left, right⟩ | ⟨s, t, left, right, same⟩
  · simp [left, right, dressed]
  · simp only [left, right]
    have colors : e.colors = d.colors := (congrArg Dress.colors dressed).symm
    obtain ⟨answer, linked, _⟩ := alike d.colors.palette ⟨s, d.colors, d.journal⟩
      ⟨t, e.colors, e.journal⟩ ⟨same, congrArg Dress.notices dressed, colors, rfl⟩
    refine ⟨answer, ?_, fun _ _ => trivial⟩
    have shaped := setShape_dressed dressed id linked.shapes
    unfold Dressed at shaped ⊢
    simp only [dress, Dress.mk.injEq] at shaped ⊢
    exact ⟨shaped.1, shaped.2.1, linked.colors.symm, linked.journals⟩

namespace Vocabulary

variable (setup : Setup) (as : Attributes)

theorem setAttributes_dressed (id : ItemId) :
    Work.Alike Dressed Any (setAttributes setup id as) (setAttributes setup id as) := by
  have named : Work.Alike Dressed Any (setName id as) (setName id as) := by
    unfold setName
    split
    · exact .pure trivial
    · refine (updateShape_dressed id ?_).bind fun _ _ => .update ?_
      · intro s t same
        simp_all [Item.look]
      · intro d e dressed
        simp_all [Dressed, dress, notices]
  have owned : Work.Alike Dressed Any (setOwner setup id as) (setOwner setup id as) := by
    unfold setOwner
    split
    · exact .pure trivial
    · split
      · exact .fail _
      · refine updateShape_dressed id ?_
        intro s t same
        simp_all [Item.look]
  exact named.bind fun _ _ =>
    (style_dressed id fun _ => Styling.setCommon_linked as setup.defaults).bind fun _ _ => owned

/-! The sketch of a desk after attributes. -/

theorem sketch_of_node {d : Desk} {sk : Sketch} {id : ItemId} {s t : Shape} (same : d.sketch = sk)
    (found : d.shape? id = some s) (node : (Item.shape t).node = (Item.shape s).node) :
    (d.setShape id t).sketch = sk := by
  rw [sketch_setShape, node, set_of_getElem? (node_of_shape? found)]
  exact same

theorem setName_sketch (id : ItemId) (sk : Sketch) :
    Work.Ensures (·.sketch = sk) (setName id as) fun _ d => d.sketch = sk.rename id (as.value? "name") := by
  unfold setName
  split
  next absent => exact .pure fun d same => by simp [absent, Sketch.rename, same]
  next name value =>
    intro d _ after same ran
    obtain ⟨_, named, updated, registered⟩ := Work.bind_eq_ok ran
    obtain ⟨s, found, rfl⟩ := updateShape_ok updated
    obtain rfl := congrArg Prod.snd registered
    have renamed : sk.nodes.modify id.index ({ · with name := some name }) =
        sk.nodes.set id.index (Item.shape { s with name := some name }).node :=
      modify_of_getElem? _ (same ▸ node_of_shape? found)
    have shaped := sketch_setShape d id { s with name := some name }
    rw [same] at shaped
    simp only [value, Sketch.rename, renamed]
    exact shaped

theorem style_sketch (defaults : ColorDefaults) (id : ItemId) (sk : Sketch) :
    Work.Ensures (·.sketch = sk) (style id (Styling.setCommon defaults as)) fun _ d => d.sketch = sk := by
  intro d _ after same ran
  unfold style at ran
  cases found : d.shape? id with
  | none => simp [found] at ran
  | some s =>
    have alike : Work.Alike (Styling.Linked (nodeLink (Item.shape s).node sk.warnings) d.colors.palette)
        Any (Styling.setCommon defaults as) (Styling.setCommon defaults as) :=
      Styling.setCommon_linked as defaults
    obtain ⟨_, linked, _⟩ := alike ⟨s, d.colors, d.journal⟩ ⟨s, d.colors, d.journal⟩
      ⟨rfl, same ▸ rfl, rfl, rfl⟩
    simp only [found, Prod.mk.injEq] at ran
    obtain ⟨_, rfl⟩ := ran
    have shaped := sketch_of_node same found linked.shapes
    simp only [sketch, Sketch.ext_iff, notices] at shaped ⊢
    exact ⟨shaped.1, shaped.2.1, linked.journals⟩

theorem setOwner_sketch (id : ItemId) (sk : Sketch) :
    Work.Ensures (·.sketch = sk) (setOwner setup id as) fun _ d => d.sketch = sk := by
  unfold setOwner
  split
  · exact .pure fun _ same => same
  · split
    · exact .fail _
    · intro d _ after same ran
      obtain ⟨s, found, rfl⟩ := updateShape_ok ran
      exact sketch_of_node same found rfl

theorem setAttributes_sketch (id : ItemId) (sk : Sketch) :
    Work.Ensures (·.sketch = sk) (setAttributes setup id as) fun _ d =>
      d.sketch = sk.rename id (as.value? "name") :=
  (setName_sketch as id sk).bind fun _ => (style_sketch as setup.defaults id _).bind fun _ =>
    setOwner_sketch setup as id _

end Vocabulary

/-! ## Offers -/

namespace Desk

variable {c : Container} {around : Surroundings} {sk : Sketch} {id : ItemId} {node : Node} {s : Shape}

theorem sketch_more {d : Desk} {part : ItemId} {group t : Shape} (same : d.sketch = sk)
    (found : d.shape? id = some group) (more : (Item.shape t).node = (Item.shape group).node.more [part]) :
    (d.setShape id t).sketch = { sk with nodes := sk.nodes.modify id.index (Node.more [part]) } := by
  have grown : sk.nodes.modify id.index (Node.more [part]) = sk.nodes.set id.index (Item.shape t).node := by
    rw [more]
    exact modify_of_getElem? _ (same ▸ node_of_shape? found)
  rw [sketch_setShape, same, grown]

theorem addChild_sketch (group : ItemId) :
    Work.Ensures (·.sketch = sk) (addChild group id) fun _ d => d.sketch = sk.extend (.group group) [id] [] [] := by
  intro d _ after same ran
  obtain ⟨s, t, found, made, rfl⟩ := tryShape_ok ran
  have more : (Item.shape t).node = (Item.shape s).node.more [id] := by
    cases variant : s.variant with
    | group children plan =>
      simp only [addChild?, variant, Option.some.injEq] at made
      subst made
      cases plan <;>
        simp [Item.node, Item.kind, Shape.kind, Variant.kind, Item.name?, Item.isPath, Item.parts,
          Variant.parts, Node.more, variant]
    | _ => simp [addChild?, variant] at made
  rw [sketch_more same found more]
  simp [Sketch.extend, Sketch.grow, Sketch.crown]

theorem addChild_dress (group : ItemId) (o : Dress) :
    Work.Ensures (·.dress = o) (addChild group id) fun _ d => d.dress = o := by
  intro d _ after same ran
  obtain ⟨s, t, found, made, rfl⟩ := tryShape_ok ran
  have look : (Item.shape t).look = (Item.shape s).look := by
    unfold addChild? at made
    split at made
    · obtain rfl := Option.some.inj made
      rfl
    · contradiction
  rw [dress_setShape, look, set_of_getElem? (look_of_shape? found)]
  exact same

theorem kind_edge {v : Variant} (kind : v.kind = "Edge") : ∃ path connections, v = .edge path connections := by
  cases v with
  | edge path connections => exact ⟨path, connections, rfl⟩
  | group children plan => cases plan <;> simp [Variant.kind] at kind
  | _ => simp [Variant.kind] at kind

theorem isPath_of_node {d : Desk} (found : d.sketch.nodes[id.index]? = some node) :
    (d.item? id).any Item.isPath = node.isPath ∧ d.kindOf id = node.kind := by
  simp only [sketch, List.getElem?_map, Option.map_eq_some_iff, Array.getElem?_toList] at found
  obtain ⟨item, there, rfl⟩ := found
  have here : d.item? id = some item := there
  simp [here, kindOf, Item.node]

theorem note_sketch {n : Notice} (placing : n.isPlacing = true) (c : Container) (sk : Sketch) :
    Work.Ensures (·.sketch = sk) (note n) fun _ d => d.sketch = sk.extend c [] [] [n] := by
  rintro d _ _ rfl ⟨⟩
  simp [sketch, Sketch.extend, Sketch.grow_nil, Sketch.crown_nil, notices_addNotices, placing]
  simp [addNotices]

theorem note_dress {n : Notice} (color : n.isColor = false) (o : Dress) :
    Work.Ensures (·.dress = o) (note n) fun _ d => d.dress = o := by
  rintro d _ _ rfl ⟨⟩
  simp [dress, notices_addNotices, color]
  simp [addNotices]

/-- An edge that is offered an object takes it as its path or reports that it cannot. -/
theorem addToEdge_ok {edge : ItemId} {d after : Desk} (ran : addToEdge edge id d = (.ok (), after)) :
    ∃ e, d.shape? edge = some e ∧
      ((∃ connections, e.variant = .edge none connections ∧ (d.item? id).any Item.isPath = true ∧
        after = d.setShape edge { e with variant := .edge (some id) connections }) ∨
      ((∀ connections, e.variant = .edge none connections → (d.item? id).any Item.isPath = false) ∧
        note (.edgeCannotTake e.name (d.kindOf id)) d = (.ok (), after))) := by
  obtain ⟨e, _, needed, rest⟩ := Work.bind_eq_ok ran
  obtain ⟨found, rfl⟩ := needShape_ok needed
  obtain ⟨_, _, here, rest⟩ := Work.bind_eq_ok rest
  obtain ⟨rfl, rfl⟩ : d = _ ∧ d = _ := by simpa using here
  refine ⟨e, found, ?_⟩
  split at rest
  next connections variant =>
    split at rest
    next suits =>
      obtain ⟨t, again, rfl⟩ := updateShape_ok rest
      obtain rfl : e = t := Option.some.inj (found.symm.trans again)
      exact .inl ⟨connections, variant, suits, rfl⟩
    next unsuited => exact .inr ⟨fun _ _ => by simpa using unsuited, rest⟩
  next full => exact .inr ⟨fun connections variant => absurd variant (full connections), rest⟩

theorem addToEdge_sketch {edge : ItemId} (takes : sk.Takes (.edge edge) around)
    (child : sk.nodes[id.index]? = some node) (kind : node.kind = s.kind)
    (path : node.isPath = (Item.shape s).isPath) :
    Work.Ensures (·.sketch = sk) (addToEdge edge id) fun _ d =>
      d.sketch = sk.extend (.edge edge) ((around.offer s).1.tops id) []
        ((around.offer s).1.warnings s.kind) := by
  intro d _ after same ran
  obtain ⟨isPath, kindOf⟩ := isPath_of_node (same ▸ child)
  obtain ⟨e, found, outcome⟩ := addToEdge_ok ran
  cases around with
  | free => exact takes.elim
  | edge name taken =>
    obtain ⟨there, place, isEdge, named, parts⟩ := takes
    obtain rfl : (Item.shape e).node = there :=
      Option.some.inj ((node_of_shape? found).symm.trans (same ▸ place))
    rcases outcome with ⟨connections, variant, suits, rfl⟩ | ⟨unsuited, noted⟩
    · have free : taken = false := by simpa [Item.node, Item.parts, Variant.parts, variant] using parts
      have suits : (Item.shape s).isPath = true := by rw [← path, ← isPath, suits]
      have more : (Item.shape { e with variant := .edge (some id) connections }).node =
          (Item.shape e).node.more [id] := by
        simp [Item.node, Item.kind, Shape.kind, Variant.kind, Item.name?, Item.isPath, Item.parts,
          Variant.parts, Node.more, variant]
      rw [sketch_more same found more]
      simp [Surroundings.offer, suits, free, Fate.tops, Fate.warnings, Sketch.extend, Sketch.grow,
        Sketch.crown]
    · have refused : ((Item.shape s).isPath && !taken) = false := by
        obtain ⟨drawn, connections, variant⟩ := kind_edge isEdge
        cases drawn with
        | some other =>
          have full : taken = true := by
            simpa [Item.node, Item.parts, Variant.parts, variant] using parts
          simp [full]
        | none => rw [← path, ← isPath, unsuited connections variant, Bool.false_and]
      have names : e.name = name := named
      rw [names, kindOf, kind] at noted
      simpa [Surroundings.offer, refused, Fate.tops, Fate.warnings] using
        note_sketch rfl (.edge edge) sk d () after same noted

theorem addToEdge_dress (edge : ItemId) (o : Dress) :
    Work.Ensures (·.dress = o) (addToEdge edge id) fun _ d => d.dress = o := by
  intro d _ after same ran
  obtain ⟨e, found, outcome⟩ := addToEdge_ok ran
  rcases outcome with ⟨connections, _, _, rfl⟩ | ⟨_, noted⟩
  · have look (v : Variant) : (Item.shape { e with variant := v }).look = (Item.shape e).look := rfl
    rw [dress_setShape, look, set_of_getElem? (look_of_shape? found)]
    exact same
  · exact note_dress rfl o d () after same noted

end Desk

namespace Vocabulary

variable {c : Container} {around : Surroundings} {sk : Sketch} {id : ItemId} {node : Node} {s : Shape}

theorem attach_eq (takes : sk.Takes c around) : attach c id = addObject c id := by
  cases c with
  | tray => cases around <;> exact takes.elim
  | _ => rfl

/-- A container that is offered an object gets it, or an edge refuses it and reports that. -/
theorem attach_sketch (takes : sk.Takes c around) (child : sk.nodes[id.index]? = some node)
    (kind : node.kind = s.kind) (path : node.isPath = (Item.shape s).isPath) :
    Work.Ensures (·.sketch = sk) (attach c id) fun _ d =>
      d.sketch = sk.extend c ((around.offer s).1.tops id) [] ((around.offer s).1.warnings s.kind) := by
  rw [attach_eq takes]
  cases c with
  | tray => cases around <;> exact takes.elim
  | edge edge => exact addToEdge_sketch takes child kind path
  | group group =>
    cases around with
    | edge => exact takes.elim
    | free => exact addChild_sketch group
  | diagram =>
    cases around with
    | edge => exact takes.elim
    | free =>
      rintro d _ _ rfl ⟨⟩
      cases set : d.diagram <;>
        simp [sketch, Sketch.extend, Sketch.grow, Sketch.crown, updateDiagram, set, Surroundings.offer,
          Fate.tops, Fate.warnings, notices]

theorem attach_dress (takes : sk.Takes c around) (o : Dress) :
    Work.Ensures (·.dress = o) (attach c id) fun _ d => d.dress = o := by
  rw [attach_eq takes]
  cases c with
  | tray => cases around <;> exact takes.elim
  | edge edge => exact addToEdge_dress edge o
  | group group => exact addChild_dress group o
  | diagram =>
    rintro d _ _ rfl ⟨⟩
    rfl

end Vocabulary

end Pgml
