import Pgml.Proofs.ContentFigures

/-! What is read of content is what its figures show: every shape of it is there, in the place that it
got when its element opened, and nothing that is done later changes it. -/
namespace Pgml

open Desk Vocabulary

/-! ## How many shapes content makes -/

/-- The number of shapes that an element makes, given the number of those in its content. -/
def Role.tally (within : Nat) : Role → Nat
  | nothing => 0
  | relay lost => lost.toList.length + within
  | shape _ .closed => 1
  | shape _ _ => 1 + within

/-- The number of shapes that content makes, drawn or not. -/
def Setup.tally (setup : Setup) : Content → Nat
  | .empty => 0
  | .text _ rest => tally setup rest
  | .element name as inner rest => (setup.role name as).tally (tally setup inner) + tally setup rest

section

variable {setup : Setup} {p : Palette} {c : Container} {k l m : Stock} {as : Attributes} {name : String}
  {inner : Content} {s t : Shape}

theorem length_receive (k : Stock) (c : Container) (as : Attributes) (t : Shape) :
    (k.receive c as t).shapes.length = k.shapes.length + 1 := by
  have place : ((k.call (as.value? "name") k.next).offer c k.next t.isPath).next = k.next := by simp
  have length := congrArg ItemId.index place
  simp only [Stock.next] at length
  simp [Stock.receive, Stock.make, Stock.next, length]

theorem length_lost (k : Stock) (lost : Option Shape) :
    (lost.elim k k.make).shapes.length = k.shapes.length + lost.toList.length := by
  cases lost <;> simp [Stock.make]

theorem Reads.length {content : Content} (reads : Reads setup p content c k l) :
    l.shapes.length = k.shapes.length + setup.tally content := by
  induction reads with
  | empty => rfl
  | text _ _ ih => exact ih
  | nothing role _ ih =>
    rw [ih]
    simp [Setup.tally, role, Role.tally]
  | relay role _ _ inside ih =>
    rw [ih, Stock.length_of_skeleton (Stock.skeleton_deliver ..), inside, length_lost]
    simp only [Setup.tally, role, Role.tally]
    omega
  | closed role _ _ _ ih =>
    rw [ih, length_receive]
    simp only [Setup.tally, role, Role.tally]
    omega
  | @group _ _ _ _ derive _ _ _ k m _ role _ _ _ _ inside ih =>
    have derived : (if derive then m.derive k.next else m).shapes.length = m.shapes.length := by
      split
      · exact Stock.length_of_skeleton (Stock.skeleton_derive _)
      · rfl
    rw [ih, derived, inside, length_receive]
    simp only [Setup.tally, role, Role.tally]
    omega
  | edge role _ _ _ inside ih =>
    rw [ih, inside, length_receive]
    simp only [Setup.tally, role, Role.tally]
    omega

/-! ## Reading draws the figures -/

/-- A stock after content, by the content's figures. -/
def Stock.Portrays (k : Stock) (c : Container) (figures : Figures) (l : Stock) : Prop :=
  ∃ ids paths, k.Fed c ids paths figures.data l ∧
    Depicts k.shapes.length l.shapes ids figures.shapes ∧
    Depicts k.shapes.length l.shapes paths figures.shapes.paths

theorem Stock.Fed.depicts {ids paths others : List ItemId} {data : List (String × String)} {f : Forest}
    {low : Nat} (fed : l.Fed c ids paths data m) (apart : ∀ id, c.place? = some id → id.index < low)
    (depicts : Depicts low l.shapes others f) : Depicts low m.shapes others f := by
  refine depicts.keep fun i s beyond found => fed.frame i s ?_ found
  intro here
  have before : i < low := apart _ here
  omega

theorem Stock.Portrays.append {f g : Figures} (first : k.Portrays c f l) (second : l.Portrays c g m)
    (fits : k.Fits c) (more : k.shapes.length ≤ l.shapes.length) :
    k.Portrays c ⟨f.shapes ++ g.shapes, f.data ++ g.data⟩ m := by
  obtain ⟨ids, paths, fed, drawn, routes⟩ := first
  obtain ⟨ids', paths', fed', drawn', routes'⟩ := second
  have apart : ∀ id, c.place? = some id → id.index < k.shapes.length := fun id here => Stock.fits_place fits here
  refine ⟨ids ++ ids', paths ++ paths', fed.trans fed', ?_, ?_⟩
  · exact (fed'.depicts apart drawn).append (drawn'.lower more)
  · rw [Forest.paths_append]
    exact (fed'.depicts apart routes).append (routes'.lower more)

theorem loose_of_kin (fresh : s.Fresh) (kin : s.Kin t) : t.loose = t := by
  obtain ⟨bounds, style, name, owner, given, variant⟩ := s
  obtain ⟨bounds', style', name', owner', given', variant'⟩ := t
  have parts := fresh.plain.parts
  have ends := fresh.unjoined
  obtain ⟨related, _⟩ := kin
  dsimp only at parts ends related
  cases related with
  | refl =>
    cases variant with
    | group children plan =>
      replace parts : children = [] := parts
      simp [Shape.loose, parts]
    | edge path connections =>
      replace parts : path.toList = [] := parts
      have none : path = none := by simpa using parts
      simp [Shape.loose, none, ends path connections rfl]
    | _ => rfl
  | _ => rfl

/-- A handler of another shape. -/
def Handler.onto (id : ItemId) : Handler → Handler
  | .group _ derive => .group id derive
  | .edge _ => .edge id
  | .text _ buffer => .text id buffer
  | .line _ => .line id
  | .polygon _ => .polygon id
  | h => h

theorem content_onto (id other : ItemId) :
    s.content? setup as name other = (s.content? setup as name id).map (Handler.onto other) := by
  unfold Shape.content?
  split <;> (try split) <;> rfl

/-- Figures of content are what is read of it. -/
def Figured (setup : Setup) (p : Palette) (content : Content) : Prop :=
  ∀ c k l, Reads setup p content c k l → k.Fits c → k.Sound →
    ∃ figures, setup.figures p content = .ok figures ∧ k.Portrays c figures l

/-- A shape after its element, with what its content drew in it. -/
structure Stock.Closed (k : Stock) (c : Container) (u : Shape) (parts : Forest) (m : Stock) : Prop where
  fed : k.Fed c [k.next] (if u.isPath then [k.next] else []) [] m
  shape : ∃ v, m.shapes[k.next.index]? = some v ∧ v.loose = u ∧
    Depicts (k.shapes.length + 1) m.shapes v.variant.parts parts

theorem Stock.Closed.depicts {u : Shape} {parts : Forest} (closed : k.Closed c u parts m) :
    Depicts k.shapes.length m.shapes [k.next] (.cons u parts .nil) := by
  obtain ⟨v, found, rfl, depicts⟩ := closed.shape
  exact .single found (depicts.lower (Nat.le_succ _))

theorem closed_of_leaf (fresh : s.Fresh) (kin : s.Kin t) : k.Closed c t .nil (k.receive c as t) := by
  refine ⟨.receive, t, Stock.receive_next t, loose_of_kin fresh kin, ?_⟩
  rw [leaf_of_kin fresh kin]
  exact .nil

/-- What is done inside an element leaves what lies before its shape. -/
theorem Stock.Fed.inside {within : Container} {ids paths : List ItemId} {data : List (String × String)}
    (fed : (k.receive c as t).Fed within ids paths data m) (here : within.place? = some k.next) (i : Nat)
    (before : i < k.shapes.length) : m.shapes[i]? = (k.receive c as t).shapes[i]? := by
  have there : i < (k.receive c as t).shapes.length := by
    rw [length_receive]
    omega
  have found : (k.receive c as t).shapes[i]? = some (k.receive c as t).shapes[i] := List.getElem?_eq_getElem there
  rw [found]
  refine fed.frame i _ ?_ found
  rw [here]
  intro same
  have index : k.shapes.length = i := congrArg ItemId.index (Option.some.inj same)
  omega

/-- A shape with room for others when its content was read. -/
theorem closed_of_inner {within : Container} {ids paths : List ItemId} {data : List (String × String)}
    {parts : Forest} (fresh : s.Fresh) (kin : s.Kin t) (here : within.place? = some k.next)
    (fed : (k.receive c as t).Fed within ids paths data m)
    (depicts : Depicts (k.receive c as t).shapes.length m.shapes (t.gain ids paths) parts) :
    k.Closed c (t.supply data) parts m := by
  obtain ⟨v, there, loose, gained⟩ := fed.fed k.next t here (Stock.receive_next t)
  rw [loose_of_kin fresh kin] at loose
  rw [length_receive] at depicts
  have isPath : (t.supply data).isPath = t.isPath := by
    obtain ⟨bounds, style, name, owner, given, variant⟩ := t
    cases variant <;> rfl
  refine ⟨?_, v, there, loose, gained ▸ depicts⟩
  rw [isPath]
  exact Stock.Fed.receive.keep (fed.inside here)

/-- A group whose box follows from those of its parts. -/
theorem Stock.Closed.derive {u : Shape} {parts : Forest} (closed : k.Closed c u parts m)
    (group : u.kind = "Group") : k.Closed c (u.around parts.boxes) parts (m.derive k.next) := by
  obtain ⟨fed, v, found, rfl, depicts⟩ := closed
  have kind : v.kind = "Group" := by
    rw [← Shape.kind_loose]
    exact group
  obtain ⟨children, variant⟩ := kind_group kind
  have boxes : children.filterMap (fun id => m.shapes[id.index]?.map (·.bounds)) = parts.boxes := by
    rw [variant] at depicts
    exact depicts.boxes
  have derived : m.derive k.next = m.modify k.next fun _ => v.around parts.boxes := by
    refine Stock.modify_congr found ?_
    simp only [variant, boxes]
    rfl
  have apart (i : Nat) (other : i ≠ k.shapes.length) : (m.derive k.next).shapes[i]? = m.shapes[i]? := by
    rw [derived]
    simp [Stock.modify, Stock.next, Ne.symm other]
  have loose : (v.around parts.boxes).loose = v.loose.around parts.boxes := by
    unfold Shape.around
    split <;> rfl
  have kept : (v.around parts.boxes).variant.parts = v.variant.parts := by
    unfold Shape.around
    split <;> rfl
  have path : (v.loose.around parts.boxes).isPath = v.loose.isPath := by
    unfold Shape.around
    split <;> rfl
  refine ⟨?_, _, ?_, loose, ?_⟩
  · rw [path]
    exact fed.keep fun i before => apart i (by omega)
  · rw [derived]
    simp [Stock.modify, found]
  · rw [kept]
    refine depicts.keep fun i s beyond there => ?_
    rw [apart i (by omega)]
    exact there

theorem element_closes (types : setup.types = .builtin) (inside : Figured setup p inner) (sound : k.Sound)
    {interior : Interior} (role : setup.role name as = .shape s interior)
    (reads : Reads setup p (.element name as inner .empty) c k m) :
    ∃ u parts, setup.portray p name as inner (setup.figures p inner) = .ok ⟨.cons u parts .nil, []⟩ ∧
      k.Closed c u parts m := by
  obtain ⟨fresh, same⟩ := fresh_of_role types role
  have opens := content_opens setup as name k.next s
  rw [← same] at opens
  simp only [Setup.portray, role]
  rw [content_onto k.next]
  cases interior with
  | closed =>
    obtain ⟨t, u, finished, filled, last⟩ := reads.of_closed role
    cases last
    have kin := (Shape.finish_kin finished).1.trans (Shape.fill_tuned filled).kin
    refine ⟨u, .nil, ?_, closed_of_leaf fresh kin⟩
    generalize s.content? setup as name k.next = next at opens filled
    cases opens <;> simp_all [Shape.close, Shape.fill, Handler.onto]
  | group =>
    obtain ⟨t, derive, m, finished, content, within, last⟩ := reads.of_group role
    cases last
    have kin := (Shape.finish_kin finished).1
    have kind : t.kind = "Group" := kin.variant.kind.trans (kind_of_group types role)
    have grown := grown_receive types role kin sound c
    obtain ⟨figures, drawn, ids, paths, fed, depicts, _⟩ :=
      inside _ _ _ within (room_of_group types role kin) grown.sound
    have gain : t.gain ids paths = ids := by
      obtain ⟨children, variant⟩ := kind_group kind
      have leaf := leaf_of_kin fresh kin
      simp_all [Shape.gain, Variant.parts]
    have closed : k.Closed c (t.supply figures.data) figures.shapes m :=
      closed_of_inner fresh kin rfl fed (gain.symm ▸ depicts)
    refine ⟨if derive then (t.supply figures.data).around figures.shapes.boxes else t.supply figures.data,
      figures.shapes, ?_, ?_⟩
    · simp [Shape.close, Handler.onto, content, finished, drawn]
    · cases derive with
      | false => exact closed
      | true => exact closed.derive ((Shape.kind_supply _ t).trans kind)
  | edge =>
    obtain ⟨t, m, finished, within, last⟩ := reads.of_edge role
    cases last
    have kin := (Shape.finish_kin finished).1
    have kind : t.kind = "Edge" := kin.variant.kind.trans (kind_of_role role)
    have grown := grown_receive types role kin sound c
    obtain ⟨figures, drawn, ids, paths, fed, _, routes⟩ :=
      inside _ _ _ within (room_of_edge role kin) grown.sound
    have gain : t.gain ids paths = paths.take 1 := by
      obtain ⟨path, connections, variant⟩ := kind_edge kind
      have leaf := leaf_of_kin fresh kin
      simp_all [Shape.gain, Variant.parts]
    obtain ⟨id, content⟩ : ∃ id, s.content? setup as name k.next = some (.edge id) := by
      generalize s.content? setup as name k.next = next at opens
      cases opens
      exact ⟨_, rfl⟩
    refine ⟨t.supply figures.data, figures.shapes.paths.first, ?_, ?_⟩
    · simp [Shape.close, Handler.onto, content, finished, drawn]
    · exact closed_of_inner fresh kin rfl fed (gain.symm ▸ routes.first)

theorem Forest.append_nil (f : Forest) : f ++ .nil = f := by
  induction f with
  | nil => rfl
  | cons s parts rest _ ih => rw [cons_append, ih]

theorem Stock.Portrays.nothing {data : List (String × String)} (fed : k.Fed c [] [] data l) :
    k.Portrays c ⟨.nil, data⟩ l :=
  ⟨[], [], fed, .nil, .nil⟩

theorem Stock.Closed.portrays {u : Shape} {parts : Forest} (closed : k.Closed c u parts m) :
    k.Portrays c ⟨.cons u parts .nil, []⟩ m := by
  refine ⟨_, _, closed.fed, closed.depicts, ?_⟩
  simp only [Forest.paths]
  split
  · exact closed.depicts
  · exact .nil

theorem element_portrayed (types : setup.types = .builtin) (inside : Figured setup p inner) (fits : k.Fits c)
    (sound : k.Sound) (reads : Reads setup p (.element name as inner .empty) c k m) :
    ∃ figures, setup.portray p name as inner (setup.figures p inner) = .ok figures ∧
      k.Portrays c figures m := by
  cases role : setup.role name as with
  | nothing =>
    cases reads.of_nothing role
    exact ⟨⟨.nil, []⟩, by simp [Setup.portray, role], .nothing (.refl k c)⟩
  | relay lost =>
    obtain ⟨m, within, last⟩ := reads.of_relay role
    cases last
    have first := grown_lost types role sound
    have second := within.grown types first.sound
    have begun : k.Portrays c ⟨.nil, []⟩ (lost.elim k k.make) := by
      cases lost with
      | none => exact .nothing (.refl k c)
      | some s => exact .nothing (.make s)
    obtain ⟨figures, drawn, portrays⟩ := inside c _ _ within (first.fits c fits) first.sound
    have delivered := Stock.Portrays.nothing
      (Stock.Fed.deliver (PrivateData.parse inner.ownString) (second.fits c (first.fits c fits)))
    have more := length_lost k lost
    have grew := within.length
    refine ⟨_, ?_, (begun.append portrays fits (by omega)).append delivered fits (by omega)⟩
    simp [Setup.portray, role, drawn, Forest.append_nil, Forest.nil_append]
  | shape s interior =>
    obtain ⟨u, parts, drawn, closed⟩ := element_closes types inside sound role reads
    exact ⟨_, drawn, closed.portrays⟩

/-- All content that is read without fault is read as its figures show. -/
theorem content_figured (types : setup.types = .builtin) (content : Content) : Figured setup p content := by
  induction content with
  | empty =>
    intro c k l reads fits sound
    cases reads
    exact ⟨_, rfl, .nothing (.refl k c)⟩
  | text data rest ih =>
    intro c k l reads fits sound
    cases reads with
    | text _ others => exact ih c k l others fits sound
  | element name as inner rest inside ih =>
    intro c k l reads fits sound
    obtain ⟨m, first, others⟩ := element_of_reads reads
    obtain ⟨here, drawn, portrays⟩ := element_portrayed types inside fits sound first
    have grown := first.grown types sound
    obtain ⟨more, drawn', portrays'⟩ := ih c m l others (grown.fits c fits) grown.sound
    have length := first.length
    refine ⟨_, ?_, portrays.append portrays' fits (by omega)⟩
    simp [Setup.figures, drawn, drawn']

end

end Pgml
