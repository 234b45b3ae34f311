import Mathlib.Data.List.Basic
import Mathlib.Data.List.Induction
import Pgml.Proofs.DeskViews

/-! The smallest box around some boxes, and the boxes of groups within groups. A union is the least
upper bound in the order "no side lies beyond the other's side", which decides it: nothing else is needed
of minima and maxima. Groups whose boxes are derived from the inside out get the union of all that is
reached through them. -/
namespace Pgml

namespace Bounds

/-- No side of the first box lies beyond the same side of the second. Sizes may be negative. -/
structure Inside (b c : Bounds) : Prop where
  left : c.x ≤ b.x
  top : c.y ≤ b.y
  right : b.x + b.width ≤ c.x + c.width
  bottom : b.y + b.height ≤ c.y + c.height

variable {a b c u v : Bounds} {xs ys : List Bounds}

theorem Inside.refl (b : Bounds) : b.Inside b := ⟨Int.le_refl _, Int.le_refl _, Int.le_refl _, Int.le_refl _⟩

theorem Inside.antisymm (there : a.Inside b) (back : b.Inside a) : a = b := by
  obtain ⟨x, y, width, height⟩ := a
  obtain ⟨x', y', width', height'⟩ := b
  obtain ⟨left, top, right, bottom⟩ := there
  obtain ⟨left', top', right', bottom'⟩ := back
  simp only [mk.injEq]
  dsimp only at *
  omega

theorem union_inside_iff : (a.union b).Inside v ↔ a.Inside v ∧ b.Inside v := by
  constructor
  · rintro ⟨left, top, right, bottom⟩
    simp only [union, ofCorners, Bounds.right, Bounds.bottom] at left top right bottom
    constructor
    · constructor <;> omega
    · constructor <;> omega
  · rintro ⟨⟨left, top, right, bottom⟩, ⟨left', top', right', bottom'⟩⟩
    constructor <;> simp only [union, ofCorners, Bounds.right, Bounds.bottom] <;> omega

theorem foldl_union_inside_iff : (xs.foldl union a).Inside v ↔ a.Inside v ∧ ∀ b ∈ xs, b.Inside v := by
  induction xs generalizing a with
  | nil => simp
  | cons b xs ih => rw [List.foldl_cons, ih, union_inside_iff, List.forall_mem_cons, and_assoc]

/-- What a union is, without minima and maxima: the box that lies inside just those boxes inside which all
the given ones lie. -/
theorem union?_eq_some_iff : union? xs = some u ↔ xs ≠ [] ∧ ∀ v, u.Inside v ↔ ∀ b ∈ xs, b.Inside v := by
  cases xs with
  | nil => simp [union?]
  | cons first rest =>
    have least : ∀ v, (rest.foldl union first).Inside v ↔ ∀ b ∈ first :: rest, b.Inside v := by
      intro v
      rw [foldl_union_inside_iff, List.forall_mem_cons]
    simp only [union?, Option.some.injEq, ne_eq, reduceCtorEq, not_false_eq_true, true_and]
    constructor
    · rintro rfl
      exact least
    · intro inside
      have there : (rest.foldl union first).Inside u := (least u).mpr ((inside u).mp (.refl u))
      have back : u.Inside (rest.foldl union first) := (inside _).mpr ((least _).mp (.refl _))
      exact there.antisymm back

theorem union?_eq_none_iff : union? xs = none ↔ xs = [] := by
  cases xs <;> simp [union?]

theorem exists_union? (some' : xs ≠ []) : ∃ u, union? xs = some u :=
  Option.ne_none_iff_exists'.mp (mt union?_eq_none_iff.mp some')

/-- Boxes with the same upper bounds have the same union. -/
theorem union?_ext (empty : xs = [] ↔ ys = []) (upper : ∀ v, (∀ b ∈ xs, b.Inside v) ↔ ∀ b ∈ ys, b.Inside v) :
    union? xs = union? ys := by
  refine Option.ext fun u => ?_
  rw [union?_eq_some_iff, union?_eq_some_iff, ne_eq, ne_eq, empty]
  exact and_congr_right fun _ => forall_congr' fun v => iff_congr .rfl (upper v)

/-- Neither the order of boxes nor their repetition matters. -/
theorem union?_congr (same : ∀ b, b ∈ xs ↔ b ∈ ys) : union? xs = union? ys := by
  have empty : xs = [] ↔ ys = [] := by simp [List.eq_nil_iff_forall_not_mem, same]
  exact union?_ext empty fun v => by simp [same]

theorem forall_mem_union? : (∀ b ∈ (union? xs).toList, b.Inside v) ↔ ∀ b ∈ xs, b.Inside v := by
  cases union : union? xs with
  | none => simp [union?_eq_none_iff.mp union]
  | some u => simp [(union?_eq_some_iff.mp union).2 v]

theorem union?_append : union? (xs ++ ys) = union? ((union? xs).toList ++ (union? ys).toList) := by
  refine union?_ext ?_ fun v => ?_
  · simp [union?_eq_none_iff]
  · simp only [List.forall_mem_append, forall_mem_union?]

end Bounds

/-! ## Groups within groups -/

/-- Shapes side by side: members, which are no groups, and groups with what is inside them. -/
inductive Cluster where
  | nil
  | member (id : ItemId) (rest : Cluster)
  | group (id : ItemId) (inside rest : Cluster)

namespace Cluster

/-- The shapes side by side, without what is inside of groups. -/
def tops : Cluster → List ItemId
  | nil => []
  | member id rest => id :: rest.tops
  | group id _ rest => id :: rest.tops

/-- All members reached through groups. -/
def members : Cluster → List ItemId
  | nil => []
  | member id rest => id :: rest.members
  | group _ inside rest => inside.members ++ rest.members

/-- All groups with what is inside them. -/
def groups : Cluster → List (ItemId × Cluster)
  | nil => []
  | member _ rest => rest.groups
  | group id inside rest => (id, inside) :: (inside.groups ++ rest.groups)

/-- All groups in the order in which they are closed. -/
def closing : Cluster → List ItemId
  | nil => []
  | member _ rest => rest.closing
  | group id inside rest => inside.closing ++ id :: rest.closing

/-- All groups in an order in which each comes after those inside it. A group may come more than once. -/
structure Upward (c : Cluster) (order : List ItemId) : Prop where
  all : ∀ g ∈ c.groups, g.1 ∈ order
  only : ∀ id ∈ order, ∃ inside, (id, inside) ∈ c.groups
  after : ∀ before id later, order = before ++ id :: later → ∀ inside, (id, inside) ∈ c.groups →
    ∀ g ∈ inside.groups, g.1 ∈ before

variable {c inside : Cluster} {id : ItemId}

theorem mem_tops (top : id ∈ c.tops) : id ∈ c.members ∨ ∃ inside, (id, inside) ∈ c.groups := by
  induction c with
  | nil => simp [tops] at top
  | member other rest ih =>
    rcases List.mem_cons.mp top with rfl | later
    · exact .inl (by simp [members])
    · exact (ih later).imp_left fun member => by simp [members, member]
  | group other inside rest _ ih =>
    rcases List.mem_cons.mp top with rfl | later
    · exact .inr ⟨inside, by simp [groups]⟩
    · rcases ih later with member | ⟨within, group⟩
      · exact .inl (by simp [members, member])
      · exact .inr ⟨within, by simp [groups, group]⟩

/-- What is inside a group of a cluster is in the cluster. -/
theorem sub_of_mem_groups (group : (id, inside) ∈ c.groups) :
    inside.members ⊆ c.members ∧ inside.groups ⊆ c.groups := by
  induction c with
  | nil => simp [groups] at group
  | member other rest ih =>
    obtain ⟨members, groups⟩ := ih group
    exact ⟨List.Subset.trans members (List.subset_cons_self ..), groups⟩
  | group other within rest inner outer =>
    simp only [groups, List.mem_cons, List.mem_append, Prod.mk.injEq] at group
    rcases group with ⟨rfl, rfl⟩ | deeper | later
    · exact ⟨List.subset_append_left ..,
        List.Subset.trans (List.subset_append_left ..) (List.subset_cons_self ..)⟩
    · obtain ⟨members, groups⟩ := inner deeper
      exact ⟨List.Subset.trans members (List.subset_append_left ..),
        List.Subset.trans groups (List.Subset.trans (List.subset_append_left ..) (List.subset_cons_self ..))⟩
    · obtain ⟨members, groups⟩ := outer later
      exact ⟨List.Subset.trans members (List.subset_append_right ..),
        List.Subset.trans groups (List.Subset.trans (List.subset_append_right ..) (List.subset_cons_self ..))⟩

theorem closing_perm (c : Cluster) : c.closing.Perm (c.groups.map (·.1)) := by
  induction c with
  | nil => exact .nil
  | member other rest ih => exact ih
  | group other within rest inner outer =>
    simp only [closing, groups, List.map_cons, List.map_append]
    exact List.perm_middle.trans ((inner.append outer).cons other)

theorem infix_closing (group : (id, inside) ∈ c.groups) : inside.closing ++ [id] <:+: c.closing := by
  induction c with
  | nil => simp [groups] at group
  | member other rest ih => exact ih group
  | group other within rest inner outer =>
    simp only [groups, List.mem_cons, List.mem_append, Prod.mk.injEq] at group
    rcases group with ⟨rfl, rfl⟩ | deeper | later
    · exact ⟨[], rest.closing, by simp [closing]⟩
    · exact (inner deeper).trans (List.prefix_append ..).isInfix
    · exact (outer later).trans ⟨within.closing ++ [other], [], by simp [closing]⟩

/-- Groups that are all different are closed from the inside out. -/
theorem upward_closing (distinct : (c.groups.map (·.1)).Nodup) : c.Upward c.closing where
  all g group := (closing_perm c).mem_iff.mpr (List.mem_map_of_mem group)
  only id closed := by
    obtain ⟨⟨_, inside⟩, group, rfl⟩ := List.mem_map.mp ((closing_perm c).mem_iff.mp closed)
    exact ⟨inside, group⟩
  after := by
    intro before id later split inside group g deeper
    obtain ⟨first, last, run⟩ := infix_closing group
    have once : (before ++ id :: later).Nodup := split ▸ (closing_perm c).nodup_iff.mpr distinct
    obtain ⟨_, rest, apart⟩ := List.nodup_append.mp once
    have notBefore : id ∉ before := fun early => apart id early id List.mem_cons_self rfl
    have notLater : id ∉ later := (List.nodup_cons.mp rest).1
    have same : before ++ id :: later = (first ++ inside.closing) ++ id :: last := by
      rw [← split, ← run]
      simp
    obtain ⟨rfl, _⟩ := (List.append_cons_inj_of_notMem notBefore notLater).mp same
    exact List.mem_append_right _ ((closing_perm inside).mem_iff.mpr (List.mem_map_of_mem deeper))

end Cluster

namespace Desk

def box? (d : Desk) (id : ItemId) : Option Bounds := (d.shape? id).map (·.bounds)

def form? (d : Desk) (id : ItemId) : Option Variant := (d.shape? id).map (·.variant)

/-- The cluster is on the desk: its members are shapes and no groups, and each of its groups has just what
is inside it as children, at least one. -/
structure Lies (d : Desk) (c : Cluster) : Prop where
  members : ∀ id ∈ c.members, ∃ v, d.form? id = some v ∧ ∀ children plan, v ≠ .group children plan
  groups : ∀ g ∈ c.groups, g.2.tops ≠ [] ∧ ∃ plan, d.form? g.1 = some (.group g.2.tops plan)

variable {d : Desk} {c : Cluster} {id other : ItemId} {s t : Shape}

theorem shape?_setShape (found : d.shape? id = some s) :
    (d.setShape id t).shape? other = if other = id then some t else d.shape? other := by
  have bound : id.index < d.items.size := (Array.getElem?_eq_some_iff.mp (shape?_eq_some.mp found)).1
  unfold shape? item? setShape
  by_cases same : other = id
  · simp [same, bound]
  · have apart : id.index ≠ other.index := fun index => same (by cases id; cases other; simp_all)
    simp [same, apart]

theorem boundsOf_of_shapes {ids : List ItemId} (there : ∀ id ∈ ids, ∃ v, d.form? id = some v) :
    boundsOf ids d = (.ok (ids.filterMap d.box?), d) := by
  unfold boundsOf
  induction ids with
  | nil => rfl
  | cons id ids ih =>
    obtain ⟨v, form⟩ := there id (by simp)
    obtain ⟨s, found, rfl⟩ := Option.map_eq_some_iff.mp form
    have first : (do return (← needShape id).bounds : Work Desk Bounds) d = (.ok s.bounds, d) := by
      simp [needShape, Work.bind_apply, found]
    have rest := ih fun other member => there other (by simp [member])
    rw [List.mapM_cons, Work.bind_ok first, Work.bind_ok rest]
    simp [box?, found]

/-- Deriving a group's box changes nothing else. -/
theorem calcBounds_of_union {children : List ItemId} {plan : Option Plan} {box : Bounds}
    (group : d.form? id = some (.group children plan)) (there : ∀ child ∈ children, ∃ v, d.form? child = some v)
    (union : Bounds.union? (children.filterMap d.box?) = some box) :
    ∃ after, calcBounds id d = (.ok (), after) ∧ after.form? = d.form? ∧ after.box? id = some box ∧
      ∀ other ≠ id, after.shape? other = d.shape? other := by
  obtain ⟨s, found, variant⟩ := Option.map_eq_some_iff.mp group
  have shapes : ∀ other, (d.setShape id (s.withBounds box)).shape? other =
      if other = id then some (s.withBounds box) else d.shape? other := fun other => shape?_setShape found
  refine ⟨d.setShape id (s.withBounds box), ?_, ?_, ?_, ?_⟩
  · have need : needShape id d = (.ok s, d) := by simp [needShape, found]
    unfold calcBounds
    rw [Work.bind_ok need, variant]
    refine (Work.bind_ok (boundsOf_of_shapes there)).trans ?_
    rw [union]
    exact Work.bind_ok need
  · funext other
    by_cases same : other = id
    · rw [form?, form?, shapes, same, if_pos rfl, found]
      rfl
    · rw [form?, form?, shapes, if_neg same]
  · rw [box?, shapes, if_pos rfl]
    rfl
  · intro other apart
    simp [shapes, apart]

/-- Where each group has the box of its members, side by side things have the box of all that is reached
through them. -/
theorem union?_tops (settled : ∀ g ∈ c.groups, d.box? g.1 = Bounds.union? (g.2.members.filterMap d.box?)) :
    Bounds.union? (c.tops.filterMap d.box?) = Bounds.union? (c.members.filterMap d.box?) := by
  induction c with
  | nil => rfl
  | member id rest ih =>
    rw [Cluster.tops, Cluster.members, ← List.singleton_append, ← List.singleton_append (l := rest.members),
      List.filterMap_append, List.filterMap_append, Bounds.union?_append, ih settled, ← Bounds.union?_append]
  | group id inside rest _ ih =>
    obtain ⟨own, others⟩ := List.forall_mem_cons.mp settled
    have later := ih fun g member => others g (List.mem_append_right _ member)
    have first : (id :: rest.tops).filterMap d.box? = (d.box? id).toList ++ rest.tops.filterMap d.box? := by
      cases found : d.box? id <;> simp [found]
    rw [Cluster.tops, Cluster.members, List.filterMap_append, first, own, Bounds.union?_append, later,
      @Bounds.union?_append (inside.members.filterMap d.box?)]
    cases Bounds.union? (inside.members.filterMap d.box?) <;> rfl

theorem Lies.exists_form (lies : d.Lies c) (top : id ∈ c.tops) : ∃ v, d.form? id = some v := by
  rcases Cluster.mem_tops top with member | ⟨inside, group⟩
  · obtain ⟨v, form, _⟩ := lies.members id member
    exact ⟨v, form⟩
  · obtain ⟨_, plan, form⟩ := lies.groups _ group
    exact ⟨_, form⟩

theorem Lies.of_mem_groups {inside : Cluster} (lies : d.Lies c) (group : (id, inside) ∈ c.groups) :
    d.Lies inside := by
  obtain ⟨members, groups⟩ := Cluster.sub_of_mem_groups group
  exact ⟨fun m member => lies.members m (members member), fun g member => lies.groups g (groups member)⟩

theorem Lies.congr {e : Desk} (lies : d.Lies c) (form : e.form? = d.form?) : e.Lies c := by
  constructor
  · rw [form]
    exact lies.members
  · rw [form]
    exact lies.groups

theorem box?_congr {e : Desk} (same : e.shape? id = d.shape? id) : e.box? id = d.box? id := by
  rw [box?, box?, same]

/-- What deriving the boxes of some groups has come to: those groups have the boxes of their members, and
nothing else is changed. -/
structure Derived (d : Desk) (c : Cluster) (order : List ItemId) (after : Desk) : Prop where
  form : after.form? = d.form?
  rest : ∀ id, id ∉ order → after.shape? id = d.shape? id
  boxes : ∀ g ∈ c.groups, g.1 ∈ order → after.box? g.1 = Bounds.union? (g.2.members.filterMap d.box?)

/-- One more group, after all groups inside it. -/
theorem Derived.step {order : List ItemId} {inside : Cluster} {e : Desk} (derived : Derived d c order e)
    (lies : d.Lies c) (only : ∀ other ∈ order, ∃ within, (other, within) ∈ c.groups)
    (group : (id, inside) ∈ c.groups)
    (ready : ∀ within, (id, within) ∈ c.groups → ∀ g ∈ within.groups, g.1 ∈ order) :
    ∃ after, calcBounds id e = (.ok (), after) ∧ Derived d c (order ++ [id]) after := by
  have there := lies.congr derived.form
  have members : ∀ m ∈ c.members, e.box? m = d.box? m := by
    intro m member
    obtain ⟨v, form, noGroup⟩ := lies.members m member
    refine box?_congr (derived.rest m fun ordered => ?_)
    obtain ⟨within, isGroup⟩ := only m ordered
    obtain ⟨_, plan, form'⟩ := lies.groups _ isGroup
    exact noGroup _ _ (Option.some.inj (form.symm.trans form'))
  -- whichever way the cluster shows the group, its children have the box of what is reached through them
  have union : ∀ within, (id, within) ∈ c.groups → Bounds.union? (within.tops.filterMap e.box?) =
      Bounds.union? (within.members.filterMap d.box?) := by
    intro within isGroup
    obtain ⟨reached, groups⟩ := Cluster.sub_of_mem_groups isGroup
    have same : ∀ ids ⊆ c.members, ids.filterMap e.box? = ids.filterMap d.box? := fun ids sub =>
      List.filterMap_congr fun m member => members m (sub member)
    rw [union?_tops, same _ reached]
    intro g deeper
    rw [derived.boxes g (groups deeper) (ready within isGroup g deeper),
      same _ ((Cluster.sub_of_mem_groups (groups deeper)).1)]
  obtain ⟨some', plan, form⟩ := there.groups _ group
  have shapes : ∀ child ∈ inside.tops, ∃ v, e.form? child = some v :=
    fun child top => (there.of_mem_groups group).exists_form top
  have boxes : inside.tops.filterMap e.box? ≠ [] := by
    obtain ⟨top, member⟩ := List.exists_mem_of_ne_nil _ some'
    obtain ⟨v, form⟩ := shapes top member
    obtain ⟨s, found, _⟩ := Option.map_eq_some_iff.mp form
    exact List.ne_nil_of_mem (List.mem_filterMap.mpr ⟨top, member, by rw [box?, found]; rfl⟩)
  obtain ⟨box, is⟩ := Bounds.exists_union? boxes
  obtain ⟨after, ran, form', own, rest⟩ := calcBounds_of_union form shapes is
  refine ⟨after, ran, form'.trans derived.form, ?_, ?_⟩
  · intro other new
    simp only [List.mem_append, List.mem_singleton, not_or] at new
    rw [rest other new.2, derived.rest other new.1]
  · rintro ⟨other, within⟩ isGroup ordered
    by_cases same : other = id
    · subst same
      obtain ⟨_, plan', form''⟩ := there.groups _ isGroup
      have tops : inside.tops = within.tops := by
        have variants := Option.some.inj (form.symm.trans form'')
        exact (Variant.group.inj variants).1
      rw [own, ← is, tops, union within isGroup]
    · have early : other ∈ order := by simpa [same] using ordered
      rw [box?_congr (rest other same), derived.boxes _ isGroup early]

/-- Boxes derived upward: the induction is on the order, from its end, so that what comes before a group
in the order is what has been derived. -/
theorem derived_of_forM {order : List ItemId} (lies : d.Lies c)
    (only : ∀ id ∈ order, ∃ inside, (id, inside) ∈ c.groups)
    (after : ∀ before id later, order = before ++ id :: later → ∀ inside, (id, inside) ∈ c.groups →
      ∀ g ∈ inside.groups, g.1 ∈ before) :
    ∃ e, (forM order calcBounds : Work Desk Unit) d = (.ok (), e) ∧ Derived d c order e := by
  induction order using List.reverseRecOn with
  | nil => exact ⟨d, rfl, rfl, fun _ _ => rfl, fun _ _ absurd => by simp at absurd⟩
  | append_singleton order id ih =>
    have early : ∀ other ∈ order, ∃ inside, (other, inside) ∈ c.groups :=
      fun other member => only other (List.mem_append_left _ member)
    have split : ∀ before other later, order = before ++ other :: later → ∀ inside, (other, inside) ∈ c.groups →
        ∀ g ∈ inside.groups, g.1 ∈ before := by
      intro before other later same
      exact after before other (later ++ [id]) (by simp [same])
    obtain ⟨e, ran, derived⟩ := ih early split
    obtain ⟨inside, group⟩ := only id (by simp)
    obtain ⟨e', step, derived'⟩ := derived.step lies early group (after order id [] rfl)
    refine ⟨e', ?_, derived'⟩
    rw [List.forM_append, Work.bind_ok ran, List.forM_cons]
    exact Work.bind_ok step

end Desk

open Bounds in
/-- A union of boxes is the least box in which all of them lie, whatever their order and however often they
come, and unions of unions are unions. So where groups in groups, none of them without children, have
their boxes derived upward, every group gets the box of all members reached through it, and nothing else is
touched. -/
theorem union_least_through_groups :
    (∀ boxes : List Bounds, boxes ≠ [] → ∃ u, union? boxes = some u ∧ (∀ b ∈ boxes, b.Inside u) ∧
      ∀ v, (∀ b ∈ boxes, b.Inside v) → u.Inside v) ∧
    (∀ xs ys : List Bounds, (∀ b, b ∈ xs ↔ b ∈ ys) → union? xs = union? ys) ∧
    (∀ xs ys : List Bounds, union? (xs ++ ys) = union? ((union? xs).toList ++ (union? ys).toList)) ∧
    (∀ c : Cluster, (c.groups.map (·.1)).Nodup → c.Upward c.closing) ∧
    ∀ (d : Desk) (c : Cluster) (order : List ItemId), d.Lies c → c.Upward order →
      ∃ e, (forM order Desk.calcBounds : Work Desk Unit) d = (.ok (), e) ∧
        (∀ g ∈ c.groups, e.box? g.1 = union? (g.2.members.filterMap d.box?)) ∧
        e.form? = d.form? ∧ ∀ id, id ∉ order → e.shape? id = d.shape? id := by
  refine ⟨?_, fun xs ys same => union?_congr same, fun xs ys => union?_append,
    fun c distinct => Cluster.upward_closing distinct, ?_⟩
  · intro boxes some'
    obtain ⟨u, union⟩ := exists_union? some'
    have least := (union?_eq_some_iff.mp union).2
    exact ⟨u, union, (least u).mp (.refl u), fun v inside => (least v).mpr inside⟩
  · intro d c order lies up
    obtain ⟨e, ran, derived⟩ := Desk.derived_of_forM lies up.only up.after
    exact ⟨e, ran, fun g group => derived.boxes g group (up.all g group), derived.form, derived.rest⟩

/-- A group with a group and an ellipse in it: the inner group's rectangle, whose width is negative, and the
ellipse give the outer group its left and its right side. -/
theorem union_least_through_groups_of_two :
    let shape (v : Variant) (b : Bounds) : Item := .shape ((Shape.ofVariant v).withBounds b)
    let d : Desk := { Desk.fresh .builtin with items := #[shape (.group [⟨1⟩, ⟨3⟩] none) .zero,
      shape (.group [⟨2⟩] none) .zero, shape .rectangle ⟨4, -2, -9, 5⟩, shape .ellipse ⟨1, 1, 6, 1⟩] }
    let c : Cluster := .group ⟨0⟩ (.group ⟨1⟩ (.member ⟨2⟩ .nil) (.member ⟨3⟩ .nil)) .nil
    d.Lies c ∧ c.Upward [⟨1⟩, ⟨0⟩] ∧ (∃ e, (forM [⟨1⟩, ⟨0⟩] Desk.calcBounds : Work Desk Unit) d = (.ok (), e) ∧
      e.box? ⟨1⟩ = some ⟨4, -2, -9, 5⟩ ∧ e.box? ⟨0⟩ = some ⟨1, -2, 6, 5⟩) ∧
      ∃ u, Bounds.union? [⟨4, -2, -9, 5⟩, ⟨1, 1, 6, 1⟩] = some u ∧ (⟨4, -2, -9, 5⟩ : Bounds).Inside u := by
  intro shape d c
  obtain ⟨least, _, _, closing, through⟩ := union_least_through_groups
  have lies : d.Lies c := by
    constructor
    · refine List.forall_mem_cons.mpr ⟨⟨.rectangle, rfl, by simp⟩, ?_⟩
      exact List.forall_mem_cons.mpr ⟨⟨.ellipse, rfl, by simp⟩, List.forall_mem_nil _⟩
    · refine List.forall_mem_cons.mpr ⟨⟨by simp [Cluster.tops], none, rfl⟩, ?_⟩
      exact List.forall_mem_cons.mpr ⟨⟨by simp [Cluster.tops], none, rfl⟩, List.forall_mem_nil _⟩
  have up : c.Upward [⟨1⟩, ⟨0⟩] := closing c (by decide)
  obtain ⟨e, ran, boxes, _⟩ := through d c _ lies up
  obtain ⟨u, union, inside, _⟩ := least [⟨4, -2, -9, 5⟩, ⟨1, 1, 6, 1⟩] (by simp)
  have outer := boxes _ List.mem_cons_self
  have inner := boxes _ (List.mem_cons_of_mem _ List.mem_cons_self)
  exact ⟨lies, up, ⟨e, ran, inner.trans (by decide), outer.trans (by decide)⟩, u, union, inside _ List.mem_cons_self⟩

end Pgml
