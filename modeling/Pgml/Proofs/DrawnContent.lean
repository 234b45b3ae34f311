import Pgml.Proofs.RecursiveReading
import Pgml.Proofs.ElementEffects
import Pgml.Proofs.SketchWalks

/-! What content draws. A desk after some entries of a ledger has their shapes behind all others, the
container around them has those on top as new parts, and a walk from these parts visits what the
ledger shows. -/
namespace Pgml

open Desk Machine
open Work (Any Ensures)

/-- A desk on which some entries were drawn inside a container. -/
structure Drawn (setup : Setup) (c : Container) (depth : Nat) (sk : Sketch) (o : Dress)
    (entries : List Entry) (tops : List ItemId) (nodes : List Node) (now : Desk) : Prop where
  sketch : now.sketch = sk.extend c tops nodes (entries.flatMap Entry.warnings)
  kinds : nodes.map (·.kind) = entries.map (·.shape.kind)
  visits : ∀ front back, front.length = sk.nodes.length →
    Visits (front ++ nodes ++ back) depth tops (Entry.visible sk.nodes.length entries)
  dress : ∀ e, e.dress = o → ∃ e', Entry.dressAll setup entries e = (.ok (), e') ∧ e'.dress = now.dress

namespace Drawn

variable {setup : Setup} {c : Container} {depth : Nat} {sk : Sketch} {o : Dress}
  {entries more : List Entry} {tops others : List ItemId} {nodes newer : List Node} {now later : Desk}

theorem length (drawn : Drawn setup c depth sk o entries tops nodes now) :
    nodes.length = entries.length := by
  simpa using congrArg List.length drawn.kinds

theorem nil (shows : Shows sk o now) : Drawn setup c depth sk o [] [] [] now where
  sketch := by simp [shows.sketch, Sketch.extend_nil]
  kinds := rfl
  visits front back length := .nil depth
  dress e same := ⟨e, rfl, same.trans shows.dress.symm⟩

theorem still (drawn : Drawn setup c depth sk o entries tops nodes now)
    (shows : Shows now.sketch now.dress later) : Drawn setup c depth sk o entries tops nodes later where
  sketch := shows.sketch.trans drawn.sketch
  kinds := drawn.kinds
  visits := drawn.visits
  dress := shows.dress ▸ drawn.dress

theorem append {around : Surroundings} (takes : sk.Takes c around)
    (first : Drawn setup c depth sk o entries tops nodes now)
    (second : Drawn setup c depth now.sketch now.dress more others newer later) :
    Drawn setup c depth sk o (entries ++ more) (tops ++ others) (nodes ++ newer) later where
  sketch := by
    rw [second.sketch, first.sketch, Sketch.extend_extend takes, List.flatMap_append]
  kinds := by simp [first.kinds, second.kinds]
  visits front back length := by
    have place : now.sketch.nodes.length = sk.nodes.length + entries.length := by
      simp [first.sketch, Sketch.extend, first.length]
    have before := first.visits front (newer ++ back) length
    have after := second.visits (front ++ nodes) back (by simp [place, length, first.length])
    rw [place] at after
    rw [Entry.visible_append]
    exact Visits.append (by simpa using before) (by simpa using after)
  dress e same := by
    obtain ⟨e', ran, dressed⟩ := first.dress e same
    obtain ⟨e'', ended, last⟩ := second.dress e' dressed
    exact ⟨e'', by rw [Entry.dressAll_append, Work.bind_ok ran, ended], last⟩

end Drawn

/-! ## One element -/

theorem dress_eq_outfit (setup : Setup) (e : Entry) :
    e.dress setup = outfit setup e.shape e.attributes (decide (e.fate ≠ .lost)) := by
  unfold Entry.dress outfit
  by_cases lost : e.fate = .lost <;> simp [lost]

theorem dressAll_cons {setup : Setup} {e : Entry} {rest : List Entry} {d u t : Desk}
    (first : outfit setup e.shape e.attributes (decide (e.fate ≠ .lost)) d = (.ok (), u))
    (others : Entry.dressAll setup rest u = (.ok (), t)) :
    Entry.dressAll setup (e :: rest) d = (.ok (), t) := by
  rw [← dress_eq_outfit] at first
  simp only [Entry.dressAll]
  rw [Work.bind_ok first, others]

theorem offer_fate (around : Surroundings) (s : Shape) : (around.offer s).1 ≠ .lost := by
  cases around with
  | free => simp [Surroundings.offer]
  | edge name taken =>
    simp only [Surroundings.offer]
    split <;> simp

namespace Drawn

variable {setup : Setup} {c : Container} {around : Surroundings} {depth : Nat} {s : Shape}
  {as : Attributes} {sk : Sketch} {o : Dress} {within : List Entry} {tops : List ItemId}
  {nodes : List Node} {middle now : Desk}

theorem lost (forgotten : Lost setup c s as sk o now) :
    Drawn setup c depth sk o [⟨s, as, depth, .lost⟩] [] [s.node none] now where
  sketch := by simpa [Entry.warnings, Fate.warnings] using forgotten.sketch
  kinds := rfl
  visits front back length := .nil depth
  dress e same := by
    obtain ⟨e', ran, dressed⟩ := forgotten.dress e same
    exact ⟨e', dressAll_cons (by simpa using ran) rfl, dressed⟩

/-- A shape with what its content drew. The shapes inside are hidden if their container was not
taken itself. -/
theorem shape (handling : Handling setup c around s as sk o true true middle)
    (inner : Drawn setup (.group ⟨sk.nodes.length⟩) (depth + 1) middle.sketch middle.dress within
      tops nodes now) :
    Drawn setup c depth sk o (⟨s, as, depth, (around.offer s).1⟩ :: (around.offer s).1.veil within)
      ((around.offer s).1.tops ⟨sk.nodes.length⟩)
      ((s.node (as.value? "name")).more tops :: nodes) now where
  sketch := by
    rw [inner.sketch, handling.sketch]
    simp [Sketch.extend_group, Entry.warnings_veil, Entry.warnings]
  kinds := by
    simp only [List.map_cons, inner.kinds, Entry.kinds_veil]
    rfl
  visits front back length := by
    have place : middle.sketch.nodes.length = sk.nodes.length + 1 := by
      simp [handling.sketch, Sketch.extend]
    -- The walk through the parts takes place behind the shape itself.
    have inside := inner.visits (front ++ [(s.node (as.value? "name")).more tops]) back
      (by simp [place, length])
    rw [place] at inside
    rw [Entry.visible_cons]
    by_cases drawn : (around.offer s).1 = .drawn
    · have here : (front ++ (s.node (as.value? "name")).more tops :: nodes ++ back)[sk.nodes.length]? =
          some ((s.node (as.value? "name")).more tops) := by simp [← length]
      have parts : ((s.node (as.value? "name")).more tops).parts = tops := rfl
      have visit := Visits.cons here (by simpa [parts] using inside) (.nil depth)
      simpa [drawn, Entry.isDrawn, Fate.tops, Fate.veil] using visit
    · have tops : (around.offer s).1.tops ⟨sk.nodes.length⟩ = [] := by
        cases fate : (around.offer s).1 <;> simp_all [Fate.tops]
      simpa [drawn, tops, Entry.isDrawn, Entry.visible_veil drawn] using Visits.nil depth
  dress e same := by
    obtain ⟨e', ran, dressed⟩ := handling.dress e same
    obtain ⟨e'', ended, last⟩ := inner.dress e' dressed
    rw [← Entry.dressAll_veil] at ended
    exact ⟨e'', dressAll_cons (by simpa [offer_fate] using ran) ended, last⟩

end Drawn

/-! ## Handlers with and without room for shapes -/

/-- A step that shows nowhere when it succeeds. -/
abbrev Machine.Silent {α : Type} (answer : α → Prop) (step : Step Handler Desk α) : Prop :=
  ∀ sk o, Work.Keeps (fun m => Shows sk o m.work) answer step

namespace Machine

theorem ensures_onWork {H S α : Type} {pre : S → Prop} {post : α → S → Prop} {w : Work S α}
    (ensures : Ensures pre w post) :
    Ensures (fun m : Machine H S => pre m.work) (onWork w) fun a m => post a m.work := by
  intro m a t start ran
  obtain ⟨answered, rfl⟩ := Prod.mk.inj ran
  exact ensures m.work a _ start (Prod.ext answered rfl)

theorem silent_onWork {α : Type} {answer : α → Prop} {w : Work Desk α} (quiet : Quiet answer w) :
    Silent answer (onWork w) :=
  fun sk o => ensures_onWork (quiet sk o)

theorem silent_pure {α : Type} {answer : α → Prop} {a : α} (fits : answer a) :
    Silent answer (pure a : Step Handler Desk α) :=
  fun _ _ => Work.Keeps.pure fits

theorem Silent.bind {α β : Type} {answer : α → Prop} {final : β → Prop} {step : Step Handler Desk α}
    {f : α → Step Handler Desk β} (first : Silent answer step)
    (next : ∀ a, answer a → Silent final (f a)) : Silent final (step >>= f) :=
  fun sk o => Work.Keeps.bind (first sk o) fun a fits => next a fits sk o

end Machine

namespace Handler

variable (setup : Setup) {h : Handler} {c : Container}

theorem characters_room (room : h.room? = some c) (text : String) :
    (behaviour setup).characters h text = pure () ∧ ((behaviour setup).absorb h text).room? = some c := by
  cases h with
  | diagram | group | edge | wrapper => exact ⟨rfl, room⟩
  | _ => contradiction

theorem endElement_room (room : h.room? = some c) (name : String) :
    Silent Any ((behaviour setup).endElement h name) := by
  cases h with
  | diagram | edge => exact silent_pure trivial
  | group id derive =>
    cases derive with
    | true => exact silent_onWork (calcBounds_quiet id)
    | false => exact silent_pure trivial
  | wrapper c buffer => exact silent_onWork (Vocabulary.endWrapper_quiet c buffer)
  | _ => contradiction

theorem startElement_closed (closed : h.isClosed = true) (name : String) (as : Attributes) :
    Silent (· = none) ((behaviour setup).startElement h name as) := by
  have nothing {w : Work Desk Unit} (quiet : Quiet Any w) :
      Silent (· = none) (onWork (w >>= fun _ => (pure none : Work Desk (Option Handler)))) :=
    silent_onWork (quiet.bind fun _ _ => quiet_pure rfl)
  cases h with
  | ignore | text => exact silent_pure rfl
  | line id => exact nothing (Vocabulary.startInLine_quiet as id name)
  | polygon id => exact nothing (Vocabulary.startInPath_quiet as id name)
  | _ => contradiction

theorem characters_closed (closed : h.isClosed = true) (text : String) :
    (behaviour setup).characters h text = pure () ∧ ((behaviour setup).absorb h text).isClosed = true := by
  cases h with
  | ignore | text | line | polygon => exact ⟨rfl, rfl⟩
  | _ => contradiction

theorem endElement_closed (closed : h.isClosed = true) (name : String) :
    Silent Any ((behaviour setup).endElement h name) := by
  cases h with
  | ignore | line | polygon => exact silent_pure trivial
  | text id buffer =>
    exact silent_onWork (updateShape_quiet id (Vocabulary.setContent_same (Vocabulary.textContent buffer)))
  | _ => contradiction

theorem eval_closed (content : Content) (closed : h.isClosed = true) :
    Silent (·.isClosed = true) (content.eval (behaviour setup) h) := by
  induction content generalizing h with
  | empty => exact silent_pure closed
  | text data rest ih =>
    obtain ⟨nothing, still⟩ := characters_closed setup closed data
    simp only [Content.eval, nothing]
    exact ih still
  | element name as inner rest inside ih =>
    refine (startElement_closed setup closed name as).bind ?_
    rintro _ rfl
    refine (inside rfl).bind fun done ended => ?_
    exact (endElement_closed setup ended name).bind fun _ _ => ih closed

end Handler

/-! ## Content -/

/-- A desk on which all of a ledger was drawn, with the container as the ledger leaves it. -/
def Draws (setup : Setup) (c : Container) (depth : Nat) (sk : Sketch) (o : Dress)
    (drawn : List Entry × Surroundings) (now : Desk) : Prop :=
  now.sketch.Takes c drawn.2 ∧ ∃ tops nodes, Drawn setup c depth sk o drawn.1 tops nodes now

namespace Draws

variable {setup : Setup} {c : Container} {around : Surroundings} {depth : Nat} {sk : Sketch}
  {o : Dress} {s : Shape} {as : Attributes} {now later : Desk}

theorem append {entries more : List Entry} {middle last : Surroundings} (takes : sk.Takes c around)
    (first : Draws setup c depth sk o (entries, middle) now)
    (second : Draws setup c depth now.sketch now.dress (more, last) later) :
    Draws setup c depth sk o (entries ++ more, last) later := by
  obtain ⟨_, tops, nodes, begun⟩ := first
  obtain ⟨takes', others, newer, ended⟩ := second
  exact ⟨takes', tops ++ others, nodes ++ newer, begun.append takes ended⟩

theorem still {drawn : List Entry × Surroundings} (draws : Draws setup c depth sk o drawn now)
    (shows : Shows now.sketch now.dress later) : Draws setup c depth sk o drawn later := by
  obtain ⟨takes, tops, nodes, drawn⟩ := draws
  exact ⟨shows.sketch ▸ takes, tops, nodes, drawn.still shows⟩

theorem lost (takes : sk.Takes c around) (forgotten : Lost setup c s as sk o now) :
    Draws setup c depth sk o ([⟨s, as, depth, .lost⟩], around) now :=
  ⟨forgotten.sketch ▸ Sketch.takes_extend takes _ _, _, _, .lost forgotten⟩

theorem shape {middle : Desk} {within : List Entry} {tops : List ItemId} {nodes : List Node}
    (takes : sk.Takes c around) (handling : Handling setup c around s as sk o true true middle)
    (inner : Drawn setup (.group ⟨sk.nodes.length⟩) (depth + 1) middle.sketch middle.dress within
      tops nodes now) :
    Draws setup c depth sk o (⟨s, as, depth, (around.offer s).1⟩ :: (around.offer s).1.veil within,
      (around.offer s).2) now := by
  have drawn := Drawn.shape handling inner
  exact ⟨drawn.sketch ▸ Sketch.takes_offer takes s _ _ _, _, _, drawn⟩

end Draws

theorem Drawn.group_of_edge {setup : Setup} {id : ItemId} {depth : Nat} {sk : Sketch} {o : Dress}
    {entries : List Entry} {tops : List ItemId} {nodes : List Node} {now : Desk}
    (drawn : Drawn setup (.edge id) depth sk o entries tops nodes now) :
    Drawn setup (.group id) depth sk o entries tops nodes now :=
  ⟨drawn.sketch.trans (Sketch.extend_edge ..), drawn.kinds, drawn.visits, drawn.dress⟩

theorem kind_of_role {setup : Setup} {name : String} {as : Attributes} {s : Shape}
    (role : setup.role name as = .shape s .edge) : s.kind = "Edge" := by
  unfold Setup.role at role
  split at role
  · contradiction
  · split at role
    · obtain ⟨rfl, interior⟩ : _ = s ∧ Setup.interior name _ = .edge := by simpa using role
      unfold Setup.interior at interior
      split at interior
      · split at interior <;> simp_all [Shape.kind, Variant.kind]
      · contradiction
    · contradiction

def Told (setup : Setup) (content : Content) : Prop :=
  ∀ h c depth around sk o, h.room? = some c → sk.Takes c around →
    Ensures (fun m => Shows sk o m.work) (content.eval (Handler.behaviour setup) h) fun done m =>
      done.room? = some c ∧ Draws setup c depth sk o (ledger setup content depth around) m.work

section

variable {setup : Setup} {c : Container} {around : Surroundings} {depth : Nat} {sk : Sketch}
  {o : Dress} {inner : Content} {name : String} {as : Attributes}

/-- An element's content and end, after its handler was asked for. -/
def visit (setup : Setup) (inner : Content) (name : String) (next : Option Handler) :
    Step Handler Desk Unit := do
  let done ← inner.eval (Handler.behaviour setup) (next.getD .ignore)
  (Handler.behaviour setup).endElement done name

theorem visit_closed {next : Option Handler} (closed : (next.getD .ignore).isClosed = true) :
    Silent Any (visit setup inner name next) :=
  (Handler.eval_closed setup inner closed).bind fun _ ended => Handler.endElement_closed setup ended name

theorem visit_room (told : Told setup inner) {h : Handler} (room : h.room? = some c)
    (takes : sk.Takes c around) :
    Ensures (fun m => Shows sk o m.work) (visit setup inner name (some h)) fun _ m =>
      Draws setup c depth sk o (ledger setup inner depth around) m.work := by
  refine (told h c depth around sk o room takes).bind fun done m _ t read ended => ?_
  obtain ⟨held, draws⟩ := read
  obtain ⟨shows, _⟩ := Handler.endElement_room setup held name m.work.sketch m.work.dress m () t ⟨rfl, rfl⟩ ended
  exact draws.still shows

/-- An element draws what it adds to the ledger. -/
theorem visit_draws (told : Told setup inner) (depth : Nat) (takes : sk.Takes c around)
    {next : Option Handler} :
    Ensures (fun m => Dispatched setup c around name as sk o next m.work) (visit setup inner name next)
      fun _ m => Draws setup c depth sk o
        ((setup.role name as).account as depth around (ledger setup inner)) m.work := by
  intro m _ t dispatched ran
  unfold Dispatched at dispatched
  cases role : setup.role name as with
  | nothing =>
    rw [role] at dispatched
    obtain ⟨closed, shows⟩ := dispatched
    obtain ⟨shows, _⟩ := visit_closed closed sk o m () t shows ran
    exact ⟨shows.sketch ▸ takes, [], [], .nil shows⟩
  | relay lost =>
    cases lost with
    | none =>
      rw [role] at dispatched
      obtain ⟨rfl, shows⟩ := dispatched
      exact visit_room told rfl takes m () t shows ran
    | some s =>
      rw [role] at dispatched
      obtain ⟨rfl, forgotten⟩ := dispatched
      have first : Draws setup c depth sk o ([⟨s, as, depth, .lost⟩], around) m.work :=
        .lost takes forgotten
      exact first.append takes (visit_room told rfl first.1 m () t ⟨rfl, rfl⟩ ran)
  | shape s interior =>
    rw [role] at dispatched
    obtain ⟨suits, handling⟩ := dispatched
    cases interior with
    | closed =>
      obtain ⟨shows, _⟩ := visit_closed suits m.work.sketch m.work.dress m () t ⟨rfl, rfl⟩ ran
      exact Draws.shape takes handling (.nil shows)
    | group =>
      obtain ⟨derive, rfl⟩ := suits
      have newest : m.work.sketch.Takes (.group ⟨sk.nodes.length⟩) .free :=
        handling.sketch ▸ Sketch.takes_newest_group sk c _ _ _
      obtain ⟨_, tops, nodes, drawn⟩ := visit_room told rfl newest m () t ⟨rfl, rfl⟩ ran
      exact Draws.shape takes handling drawn
    | edge =>
      obtain rfl := suits
      have newest : m.work.sketch.Takes (.edge ⟨sk.nodes.length⟩) (.edge (as.value? "name") false) :=
        handling.sketch ▸ Sketch.takes_newest_edge sk c _ (kind_of_role role) rfl _
      obtain ⟨_, tops, nodes, drawn⟩ := visit_room told rfl newest m () t ⟨rfl, rfl⟩ ran
      exact Draws.shape takes handling drawn.group_of_edge

theorem eval_element {h : Handler} (room : h.room? = some c) (rest : Content) :
    (Content.element name as inner rest).eval (Handler.behaviour setup) h =
      (onWork (Vocabulary.dispatch setup c name as) >>= fun next =>
        visit setup inner name next >>= fun _ => rest.eval (Handler.behaviour setup) h) := by
  simp only [Content.eval, Handler.startElement_room setup room, visit, bind_assoc]
  rfl

/-- All content draws what its ledger tells. -/
theorem content_told (types : setup.types = .builtin) (content : Content) : Told setup content := by
  -- `Told` speaks of all handlers with room, for an element's content has a handler of its own.
  induction content with
  | empty =>
    intro h c depth around sk o room takes
    exact .pure fun m shows => ⟨room, shows.sketch ▸ takes, [], [], .nil shows⟩
  | text data rest ih =>
    intro h c depth around sk o room takes
    obtain ⟨nothing, still⟩ := Handler.characters_room setup room data
    simp only [Content.eval, nothing]
    exact ih _ c depth around sk o still takes
  | element name as inner rest inside ih =>
    intro h c depth around sk o room takes
    rw [eval_element room]
    refine (ensures_onWork (dispatch_ensures takes types)).bind fun next => ?_
    refine (visit_draws inside depth takes).bind fun _ => ?_
    intro m done t first ran
    obtain ⟨held, second⟩ := ih h c depth _ m.work.sketch m.work.dress room first.1 m done t ⟨rfl, rfl⟩ ran
    exact ⟨held, first.append takes second⟩

end

end Pgml
