import Pgml.Proofs.FiguresRead
import Pgml.Proofs.SketchWalks

/-! Shapes depend on their elements only. Wherever an element stands in whatever documents, as long as
it is dispatched and not passed over, its shape looks the same, with all that is drawn in it. -/
namespace Pgml

open Desk Vocabulary

/-- An element in content before which some shapes were made, and the place of its shape. It stands
there directly or inside groups, edges and private elements, and after any others. -/
inductive Occurs (setup : Setup) (name : String) (as : Attributes) (within : Content) :
    Content → Nat → Nat → Prop where
  | here (rest : Content) (place : Nat) : Occurs setup name as within (.element name as within rest) place place
  | text {rest : Content} {before place : Nat} (data : String) :
      Occurs setup name as within rest before place → Occurs setup name as within (.text data rest) before place
  | after {inner rest : Content} {before place : Nat} (other : String) (attributes : Attributes) :
      Occurs setup name as within rest
        (before + (setup.role other attributes).tally (setup.tally inner)) place →
      Occurs setup name as within (.element other attributes inner rest) before place
  | relay {other : String} {attributes : Attributes} {lost : Option Shape} {inner : Content}
      {before place : Nat} (rest : Content) : setup.role other attributes = .relay lost →
      Occurs setup name as within inner (before + lost.toList.length) place →
      Occurs setup name as within (.element other attributes inner rest) before place
  | room {other : String} {attributes : Attributes} {s : Shape} {interior : Interior} {inner : Content}
      {before place : Nat} (rest : Content) : setup.role other attributes = .shape s interior →
      interior ≠ .closed → Occurs setup name as within inner (before + 1) place →
      Occurs setup name as within (.element other attributes inner rest) before place

section

variable {setup : Setup} {p : Palette} {c : Container} {k l m : Stock} {as : Attributes} {name : String}
  {content within : Content} {before place : Nat} {s : Shape} {interior : Interior}

theorem Stock.derive_apart {id : ItemId} {i : Nat} (apart : id.index ≠ i) :
    (k.derive id).shapes[i]? = k.shapes[i]? := by
  simp [derive, modify, apart]

theorem Stock.keep_derive {id : ItemId} {derive : Bool} {low : Nat} {ids : List ItemId} {f : Forest}
    (apart : id.index < low) (depicts : Depicts low k.shapes ids f) :
    Depicts low (if derive then k.derive id else k).shapes ids f := by
  split
  · refine depicts.keep fun i s beyond found => ?_
    rw [derive_apart (by omega)]
    exact found
  · exact depicts

/-- What lies behind a container stays while content is read in the container. -/
theorem Reads.keeps (types : setup.types = .builtin) (reads : Reads setup p content c k l) (fits : k.Fits c)
    (sound : k.Sound) {low : Nat} (apart : ∀ id, c.place? = some id → id.index < low) {ids : List ItemId}
    {f : Forest} (depicts : Depicts low k.shapes ids f) : Depicts low l.shapes ids f := by
  obtain ⟨_, _, _, _, fed, _⟩ := content_figured types content c k l reads fits sound
  exact fed.depicts apart depicts

/-- An element that occurs in content is read somewhere in between, and what is there from its place on by
then stays until the end. -/
theorem Occurs.reads (types : setup.types = .builtin) (occurs : Occurs setup name as within content before place)
    (reads : Reads setup p content c k l) (fits : k.Fits c) (sound : k.Sound)
    (start : k.shapes.length = before) :
    before ≤ place ∧ ∃ around first last, Stock.Fits first around ∧ Stock.Sound first ∧
      first.shapes.length = place ∧ Reads setup p (.element name as within .empty) around first last ∧
      ∀ ids f, Depicts place last.shapes ids f → Depicts place l.shapes ids f := by
  induction occurs generalizing c k l with
  | here rest place =>
    obtain ⟨m, first, others⟩ := element_of_reads reads
    have grown := first.grown types sound
    have apart : ∀ id, c.place? = some id → id.index < place :=
      fun id here => start ▸ Stock.fits_place fits here
    exact ⟨Nat.le_refl _, c, k, m, fits, sound, start, first,
      fun _ _ => others.keeps types (grown.fits c fits) grown.sound apart⟩
  | text data _ ih =>
    cases reads with
    | text _ others => exact ih others fits sound start
  | after other attributes _ ih =>
    obtain ⟨m, first, others⟩ := element_of_reads reads
    have grown := first.grown types sound
    have length := first.length
    simp only [Setup.tally, Nat.add_zero] at length
    obtain ⟨bound, there⟩ := ih others (grown.fits c fits) grown.sound (by rw [length, start])
    exact ⟨by omega, there⟩
  | @relay other attributes lost inner before place rest relay _ ih =>
    obtain ⟨m, inside, others⟩ := reads.of_relay relay
    have first := grown_lost types relay sound
    obtain ⟨bound, around, begun, ended, room, whole, length, there, stays⟩ :=
      ih inside (first.fits c fits) first.sound (by rw [length_lost, start])
    have second := first.trans (inside.grown types first.sound)
    have third := second.deliver (PrivateData.parse inner.ownString) c
    have apart : ∀ id, c.place? = some id → id.index < place := by
      intro id here
      have before := Stock.fits_place fits here
      omega
    refine ⟨by omega, around, begun, ended, room, whole, length, there, fun ids f depicts => ?_⟩
    have delivered := (Stock.Fed.deliver (PrivateData.parse inner.ownString) (second.fits c fits)).depicts
      apart (stays ids f depicts)
    exact others.keeps types (third.fits c fits) third.sound apart delivered
  | @room other attributes t interior' inner before place rest shape roomy _ ih =>
    have apart : ∀ id, c.place? = some id → id.index < before :=
      fun id here => start ▸ Stock.fits_place fits here
    cases interior' with
    | closed => contradiction
    | group =>
      obtain ⟨v, derive, m, finished, _, inside, others⟩ := reads.of_group shape
      have kin := (Shape.finish_kin finished).1
      have first := grown_receive types shape kin sound c
      obtain ⟨bound, around, begun, ended, room, whole, length, there, stays⟩ :=
        ih inside (room_of_group types shape kin) first.sound (by rw [length_receive, start])
      have third := (first.trans (inside.grown types first.sound)).derive k.next derive
      have newest : k.next.index < place := by
        simp only [Stock.next]
        omega
      refine ⟨by omega, around, begun, ended, room, whole, length, there, fun ids f depicts => ?_⟩
      refine others.keeps types (third.fits c fits) third.sound (fun id here => ?_)
        (Stock.keep_derive newest (stays ids f depicts))
      have := apart id here
      omega
    | edge =>
      obtain ⟨v, m, finished, inside, others⟩ := reads.of_edge shape
      have kin := (Shape.finish_kin finished).1
      have first := grown_receive types shape kin sound c
      obtain ⟨bound, around, begun, ended, room, whole, length, there, stays⟩ :=
        ih inside (room_of_edge shape kin) first.sound (by rw [length_receive, start])
      have third := first.trans (inside.grown types first.sound)
      refine ⟨by omega, around, begun, ended, room, whole, length, there, fun ids f depicts => ?_⟩
      refine others.keeps types (third.fits c fits) third.sound (fun id here => ?_) (stays ids f depicts)
      have := apart id here
      omega

/-- An element that occurs in content has its figure in the stock after the content. -/
theorem Occurs.depicted (types : setup.types = .builtin) (role : setup.role name as = .shape s interior)
    (occurs : Occurs setup name as within content before place) (reads : Reads setup p content c k l)
    (fits : k.Fits c) (sound : k.Sound) (start : k.shapes.length = before) :
    ∃ u parts, setup.portray p name as within (setup.figures p within) = .ok ⟨.cons u parts .nil, []⟩ ∧
      Depicts place l.shapes [⟨place⟩] (.cons u parts .nil) := by
  obtain ⟨_, around, first, last, room, whole, rfl, there, stays⟩ := occurs.reads types reads fits sound start
  obtain ⟨u, parts, drawn, closed⟩ := element_closes types (content_figured types within) whole role there
  exact ⟨u, parts, drawn, stays _ _ closed.depicts⟩

/-- What is made for a private element stays as it was made. -/
theorem Occurs.lost (types : setup.types = .builtin) (role : setup.role name as = .relay (some s))
    (occurs : Occurs setup name as within content before place) (reads : Reads setup p content c k l)
    (fits : k.Fits c) (sound : k.Sound) (start : k.shapes.length = before) :
    Depicts place l.shapes [⟨place⟩] (.cons s.loose .nil .nil) := by
  obtain ⟨_, around, first, last, room, whole, rfl, there, stays⟩ := occurs.reads types reads fits sound start
  refine stays _ _ ?_
  obtain ⟨m, inside, ended⟩ := there.of_relay role
  cases ended
  have apart : ∀ id, around.place? = some id → id.index < first.shapes.length := fun id => Stock.fits_place room
  have made := grown_lost types role whole
  have leaf : s.variant.parts = [] := (fresh_of_lost types role).plain.parts
  have newest : (first.make s).shapes[first.next.index]? = some s := by simp [Stock.make, Stock.next]
  have begun : Depicts first.shapes.length (first.make s).shapes [first.next] (.cons s.loose .nil .nil) := by
    refine .single newest ?_
    rw [leaf]
    exact .nil
  have kept := inside.keeps types (made.fits around room) made.sound apart begun
  have grown := made.trans (inside.grown types made.sound)
  exact (Stock.Fed.deliver _ (grown.fits around room)).depicts apart kept

end

/-! ## Outlines -/

def Item.loose : Item → Item
  | .shape s => .shape s.loose
  | .thing kind => .thing kind

/-- What an outline shows at a place: where it is, and the object there without its parts and without
what it is joined to. The parts have places of their own. -/
def Place.figure (place : Place) : List Nat × Item := (place.path, place.item.loose)

/-- An object with all that is drawn in it, some levels deep. -/
def Desk.portrait (d : Desk) (levels : Nat) (id : ItemId) : List (List Nat × Item) :=
  (Outline.walk d.items levels [] [id]).map Place.figure

namespace Depicts

variable {low other : Nat} {shapes others : List Shape} {ids those : List ItemId} {f : Forest}

theorem of_cons {u : Shape} {parts rest : Forest} (depicts : Depicts low shapes ids (.cons u parts rest)) :
    ∃ id more s, ids = id :: more ∧ shapes[id.index]? = some s ∧ s.loose = u ∧
      Depicts low shapes s.variant.parts parts ∧ Depicts low shapes more rest := by
  generalize whole : Forest.cons u parts rest = f at depicts
  cases depicts with
  | nil => contradiction
  | cons _ found inside after =>
    obtain ⟨rfl, rfl, rfl⟩ := Forest.cons.inj whole
    exact ⟨_, _, _, rfl, found, rfl, inside, after⟩

theorem shape {d : Desk} {id : ItemId} {u : Shape} {parts rest : Forest}
    (items : d.items.toList = shapes.map .shape) (depicts : Depicts low shapes [id] (.cons u parts rest)) :
    (d.shape? id).map Shape.loose = some u := by
  obtain ⟨_, _, s, same, found, loose, _⟩ := depicts.of_cons
  obtain ⟨rfl, rfl⟩ := List.cons.inj same
  have there : d.shape? id = some s := by
    refine shape?_eq_some.mpr ?_
    rw [← Array.getElem?_toList, items, List.getElem?_map, found]
    rfl
  rw [there, Option.map_some, loose]

theorem of_nil (depicts : Depicts low shapes ids .nil) : ids = [] := by
  cases depicts
  rfl

theorem portions {d e : Desk} (left : d.items.toList = shapes.map .shape)
    (right : e.items.toList = others.map .shape) (first : Depicts low shapes ids f)
    (second : Depicts other others those f) (levels : Nat) (path : List Nat) (start : Nat) :
    ((ids.zipIdx start).flatMap (Visits.portion d.items levels path)).map Place.figure =
      ((those.zipIdx start).flatMap (Visits.portion e.items levels path)).map Place.figure := by
  induction f generalizing ids those levels path start with
  | nil => rw [first.of_nil, second.of_nil]; rfl
  | cons u parts rest inside after =>
    obtain ⟨id, more, s, rfl, found, rfl, within, last⟩ := first.of_cons
    obtain ⟨id', more', s', rfl, found', same, within', last'⟩ := second.of_cons
    have here : d.items[id.index]? = some (.shape s) := by
      rw [← Array.getElem?_toList, left, List.getElem?_map, found]
      rfl
    have there : e.items[id'.index]? = some (.shape s') := by
      rw [← Array.getElem?_toList, right, List.getElem?_map, found']
      rfl
    have under : (Outline.walk d.items levels (path ++ [start]) s.variant.parts).map Place.figure =
        (Outline.walk e.items levels (path ++ [start]) s'.variant.parts).map Place.figure := by
      cases levels with
      | zero => rfl
      | succ levels => exact inside within within' levels _ 0
    have others := after last last' levels path (start + 1)
    simp only [List.zipIdx_cons, List.flatMap_cons, List.map_append, others, List.append_cancel_right_eq]
    simp only [Visits.portion, here, there, List.map_cons, Item.parts, under, List.cons.injEq, and_true]
    simp [Place.figure, Item.loose, same]

/-- What makes up one forest looks the same wherever it lies. -/
theorem portraits {d e : Desk} {id id' : ItemId} (left : d.items.toList = shapes.map .shape)
    (right : e.items.toList = others.map .shape) (first : Depicts low shapes [id] f)
    (second : Depicts other others [id'] f) (levels : Nat) : d.portrait levels id = e.portrait levels id' := by
  cases levels with
  | zero => rfl
  | succ levels => exact portions left right first second levels [] 0

end Depicts

/-! ## Documents -/

namespace Reader

/-- What a document has in the place of an element's shape. -/
theorem depicted_of_parse {feed : Feed} {r after : Reader} {diagram : Diagram}
    (types : r.setup.types = .builtin) (read : parse .root feed r = (.ok diagram, after)) :
    ∃ before root as inner rest, feed.events = document before root as inner rest ∧
      ∃ shapes : List Shape, after.desk.items.toList = shapes.map .shape ∧
        ∀ name as within s interior place, r.setup.role name as = .shape s interior →
          Occurs r.setup name as within inner 0 place → ∃ u parts,
            r.setup.portray r.desk.colors.palette name as within (r.setup.figures r.desk.colors.palette within) =
              .ok ⟨.cons u parts .nil, []⟩ ∧
            Depicts place shapes [⟨place⟩] (.cons u parts .nil) := by
  obtain ⟨before, root, as, inner, rest, g, l, word, reads, holds⟩ := reads_of_parse types read
  have sound : ((r.opening feed).crown g).Sound := by simp [Stock.Sound, Stock.crown, opening]
  refine ⟨before, root, as, inner, rest, word, l.shapes, holds.items, ?_⟩
  intro name as within s interior place role occurs
  exact occurs.depicted types role reads trivial sound rfl

/-- A shape depends on its element only. If an element occurs in two documents of built-in types that
were read without fault, with one setup and one palette, its shape is the same in both, and so is all
that is drawn in it, apart from what edges are joined to: neither what comes before, nor names and
colours in use, nor the container around make a difference. -/
theorem parse_same_element {feed feed' : Feed} {r r' after after' : Reader} {diagram diagram' : Diagram}
    (types : r.setup.types = .builtin) (setup : r'.setup = r.setup)
    (palette : r'.desk.colors.palette = r.desk.colors.palette)
    (read : parse .root feed r = (.ok diagram, after))
    (read' : parse .root feed' r' = (.ok diagram', after')) :
    ∃ before root as inner rest before' root' as' inner' rest',
      feed.events = document before root as inner rest ∧
      feed'.events = document before' root' as' inner' rest' ∧
      ∀ name as within s interior place place', r.setup.role name as = .shape s interior →
        Occurs r.setup name as within inner 0 place → Occurs r.setup name as within inner' 0 place' →
        (∃ u, (after.desk.shape? ⟨place⟩).map Shape.loose = some u ∧
          (after'.desk.shape? ⟨place'⟩).map Shape.loose = some u) ∧
        ∀ levels, after.desk.portrait levels ⟨place⟩ = after'.desk.portrait levels ⟨place'⟩ := by
  obtain ⟨before, root, as, inner, rest, word, shapes, items, depicted⟩ := depicted_of_parse types read
  have types' : r'.setup.types = .builtin := by rw [setup, types]
  obtain ⟨before', root', as', inner', rest', word', shapes', items', depicted'⟩ :=
    depicted_of_parse types' read'
  rw [setup, palette] at depicted'
  refine ⟨before, root, as, inner, rest, before', root', as', inner', rest', word, word', ?_⟩
  intro name as within s interior place place' role occurs occurs'
  obtain ⟨u, parts, drawn, depicts⟩ := depicted name as within s interior place role occurs
  obtain ⟨u', parts', drawn', depicts'⟩ := depicted' name as within s interior place' role occurs'
  obtain ⟨rfl, rfl⟩ : u = u' ∧ parts = parts' := by
    rw [drawn] at drawn'
    simpa using drawn'
  exact ⟨⟨u, depicts.shape items, depicts'.shape items'⟩, depicts.portraits items items' depicts'⟩

/-- A group with an ellipse and an edge in it. -/
def badge (rest : Content) : Content :=
  .element "group" [("description", "group"), ("name", "b")]
    (.element "ellipse" [("x", "5"), ("fillcolor", "blue")] .empty
      (.element "group" [("description", "edge")]
        (.element "path" [] (.element "moveto" [("x", "1"), ("y", "2")] .empty .empty)
          (.element "private" [] (.text "sourceFigNode=\"x\" color=\"red\"" .empty) .empty)) .empty)) rest

/-- The same group behind a shape that the edge is joined to, inside a private element of another group. -/
def crowd : Content :=
  .element "rectangle" [("name", "x"), ("fillcolor", "blue")] .empty
    (.element "group" [("description", "group")] (.element "private" [] (badge .empty) .empty) .empty)

theorem parse_same_element_of_badge :
    let r : Reader := ⟨.plain, ⟨[], false, Desk.fresh .builtin⟩⟩
    let feed (content : Content) : Feed := .ofEvents (document [] "pgml" [] content [])
    ∃ diagram after diagram' after', parse .root (feed (badge .empty)) r = (.ok diagram, after) ∧
      parse .root (feed crowd) r = (.ok diagram', after') ∧
      (after.desk.portrait 2 ⟨0⟩).map (fun figure => (figure.1, figure.2.kind)) =
        [([0], "Group"), ([0, 0], "Ellipse"), ([0, 1], "Edge")] ∧
      ∀ levels, after.desk.portrait levels ⟨0⟩ = after'.desk.portrait levels ⟨2⟩ := by
  intro r feed
  have shown : (parse .root (feed (badge .empty)) r).1.isOk = true ∧ (parse .root (feed crowd) r).1.isOk = true ∧
      ((parse .root (feed (badge .empty)) r).2.desk.portrait 2 ⟨0⟩).map
        (fun figure => (figure.1, figure.2.kind)) = [([0], "Group"), ([0, 0], "Ellipse"), ([0, 1], "Edge")] := by
    decide +kernel
  obtain ⟨fine, fine', kinds⟩ := shown
  rcases ran : parse .root (feed (badge .empty)) r with ⟨_ | diagram, after⟩
  · simp [ran, Except.isOk, Except.toBool] at fine
  rcases ran' : parse .root (feed crowd) r with ⟨_ | diagram', after'⟩
  · simp [ran', Except.isOk, Except.toBool] at fine'
  obtain ⟨_, _, _, inner, _, _, _, _, inner', _, word, word', same⟩ := parse_same_element rfl rfl rfl ran ran'
  obtain rfl := document_inj word
  obtain rfl := document_inj word'
  rw [ran] at kinds
  refine ⟨diagram, after, diagram', after', rfl, rfl, kinds, ?_⟩
  have around : r.setup.role "group" [("description", "group")] = .shape (.ofVariant .emptyGroup) .group := rfl
  refine (same _ _ _ _ _ 0 2 (by rfl) (.here _ _) ?_).2
  exact .after _ _ (.room _ around (by decide) (.relay _ rfl (.here _ _)))

end Reader

end Pgml
