import Mathlib.Data.List.Forall2
import Pgml.Proofs.ReadingFaults
import Pgml.Proofs.RegisteredNames

/-! Owners of shapes. An element's link names an owner, which its shape is given last of all the common
attributes; so a shape of a document that was read has its owner, and one is missed only where the rest of the
attributes is fine. -/
namespace Pgml

open Desk Vocabulary Machine

/-! ## Attributes that can be applied -/

/-- Work that succeeds exactly if something holds, wherever it starts. -/
def Work.Hinges {σ α : Type} (fact : Prop) (w : Work σ α) : Prop := ∀ s, (∃ a, (w s).1 = .ok a) ↔ fact

namespace Work.Hinges

variable {σ α β : Type} {fact more : Prop} {r : Except Fault α} {w : Work σ α} {f : α → Work σ β}

theorem pure (a : α) : Hinges True (Pure.pure a : Work σ α) := fun s => by simp

theorem update (f : σ → σ) : Hinges True (Work.update f) := fun s => by simp

theorem settle (r : Except Fault α) : Hinges (∃ a, r = .ok a) (Work.settle r : Work σ α) :=
  fun s => by simp

theorem bind (first : Hinges fact w) (next : ∀ s a, (w s).1 = .ok a → Hinges more (f a)) :
    Hinges (fact ∧ more) (w >>= f) := by
  intro s
  have begun := first s
  rw [bind_apply]
  rcases ran : w s with ⟨e | a, t⟩
  · have never : ¬ fact := by simpa [ran] using begun
    simp [never]
  · have always : fact := begun.mp ⟨a, by rw [ran]⟩
    simpa [always] using next s a (by rw [ran]) t

theorem congr (hinges : Hinges fact w) (same : fact ↔ more) : Hinges more w :=
  fun s => (hinges s).trans same

/-- Work after which something follows that never fails. -/
theorem and_always (first : Hinges fact w) (next : ∀ a, Hinges True (f a)) : Hinges fact (w >>= f) :=
  (first.bind fun _ a _ => next a).congr (iff_of_eq (and_true fact))

end Work.Hinges

namespace Attributes

variable {as : Attributes} {key : String}

/-- An attribute that is missing or empty, or holds a number that can be read. -/
def Reads (as : Attributes) (key : String) : Prop := ∃ n, as.int? key = .ok n

theorem reads_iff_int (default : Int) : as.Reads key ↔ ∃ n, as.int key default = .ok n := by
  unfold Reads int
  cases as.int? key with
  | error e => simp [Except.map]
  | ok n => simp [Except.map]

/-- Common attributes that can be applied. Where there is no `x`, the rest of a geometry is not looked at. -/
structure Proper (as : Attributes) : Prop where
  x : as.Reads "x"
  box : as.value? "x" ≠ none → as.Reads "y" ∧ as.Reads "width" ∧ as.Reads "height"
  stroke : as.Reads "stroke"
  shown : as.Reads "shown"

end Attributes

namespace Styling

open Work (Hinges)

variable {as : Attributes}

theorem setGeometry_hinges :
    Hinges (as.Reads "x" ∧ (as.value? "x" ≠ none → as.Reads "y" ∧ as.Reads "width" ∧ as.Reads "height"))
      (setGeometry as) := by
  refine Hinges.bind (Hinges.settle _) fun s x read => ?_
  have part (key : String) (default : Int) :
      Hinges (as.Reads key) (Work.settle (as.int key default) : Work Styling Int) :=
    (Hinges.settle _).congr (Attributes.reads_iff_int default).symm
  have reading : as.int? "x" = .ok x := by simpa using read
  cases x with
  | none =>
    have absent : as.value? "x" = none := by
      cases value : as.value? "x" with
      | none => rfl
      | some text =>
        cases number : Attributes.toInt text "x" <;>
          simp [Attributes.int?, value, number, Except.map] at reading
    exact (Hinges.pure _).congr (by simp [absent])
  | some n =>
    have present : as.value? "x" ≠ none := by
      intro absent
      simp [Attributes.int?, absent] at reading
    refine Hinges.congr ?_ (forall_prop_of_true present).symm
    exact (part "y" 0).bind fun _ _ _ => (part "width" 20).bind fun _ _ _ =>
      (part "height" 20).and_always fun _ => .update _

/-- Work that has nothing to blame its end on succeeds. -/
theorem hinges_of_numbered {w : Work Styling Unit}
    (ends : ∀ n, Work.Ends (Numbered n) (fun _ _ => False) w fun _ => Numbered n) : Hinges True w := by
  intro s
  have ended := ends s.shape.numbers s rfl
  rcases ran : w s with ⟨_ | _, _⟩
  · simp [ran] at ended
  · simp

theorem setCommon_hinges (defaults : ColorDefaults) : Hinges as.Proper (setCommon defaults as) := by
  have style (f : Style → Style) : Hinges True (updateStyle f) := .update _
  have numeric {key : String} {w : Option Int → Work Styling Unit} (absent : Hinges True (w none))
      (present : ∀ n, Hinges True (w (some n))) : Hinges (as.Reads key) (Work.settle (as.int? key) >>= w) := by
    refine (Hinges.settle _).and_always fun n => ?_
    cases n with
    | none => exact absent
    | some n => exact present n
  have stroke : Hinges (as.Reads "stroke") (setLineWidth as) := numeric (.pure ()) fun _ => style _
  have lineColor := hinges_of_numbered (w := setLineColor defaults.stroke as) fun _ => setLineColor_numbered _
  have filled := hinges_of_numbered (w := setFilled as) fun _ => setFilled_numbered
  have fillColor := hinges_of_numbered (w := setFillColor defaults.fill as) fun _ => setFillColor_numbered _
  have dashes := hinges_of_numbered (w := setDashed as) fun _ => setDashed_numbered
  have context := hinges_of_numbered (w := setContext as) fun _ => setContext_numbered
  have shown : Hinges (as.Reads "shown") (setVisible as) := numeric (.pure ()) fun _ => style _
  have single := hinges_of_numbered (w := setSingle as) fun _ => setSingle_numbered
  refine (setGeometry_hinges.bind fun _ _ _ => stroke.bind fun _ _ _ => lineColor.bind fun _ _ _ =>
    filled.bind fun _ _ _ => fillColor.bind fun _ _ _ => dashes.bind fun _ _ _ => context.bind fun _ _ _ =>
    shown.and_always fun _ => single).congr ?_
  simp only [true_and]
  constructor
  · rintro ⟨⟨x, box⟩, stroke, shown⟩
    exact ⟨x, box, stroke, shown⟩
  · rintro ⟨x, box, stroke, shown⟩
    exact ⟨⟨x, box⟩, stroke, shown⟩

end Styling

/-! ## Owners of shapes -/

namespace Shape

variable {setup : Setup} {p : Palette} {as : Attributes} {s t : Shape} {name id : String} {e : Fault}

theorem styled_iff (defaults : ColorDefaults) : (∃ t, s.styled p as defaults = .ok t) ↔ as.Proper := by
  rw [← Styling.setCommon_hinges defaults ⟨s, .ofPalette p, []⟩]
  unfold styled
  rcases Styling.setCommon defaults as ⟨s, .ofPalette p, []⟩ with ⟨_ | _, _⟩ <;> simp

/-- Attributes that have an owner that there is not, and are proper for the rest, are refused for it. -/
theorem attributed_noOwner_iff : s.attributed setup p as = .error (.noOwner id) ↔
    as.Proper ∧ as.value? "href" = some id ∧ setup.owner? id = none := by
  let named : Shape := { s with name := (as.value? "name").or s.name }
  have owned (t : Shape) : t.owned setup as = .error (.noOwner id) ↔
      as.value? "href" = some id ∧ setup.owner? id = none := by
    rw [owned_eq_error]
    constructor
    · rintro ⟨href, present, absent, same⟩
      obtain rfl := Fault.noOwner.inj same
      exact ⟨present, absent⟩
    · rintro ⟨present, absent⟩
      exact ⟨id, present, absent, rfl⟩
  -- The owner comes last: what fails before it is a number, and behind it nothing can fail.
  constructor
  · intro refused
    rcases except_bind_eq_error refused with failed | ⟨t, styled, failed⟩
    · have misread : as.Misread "" (.noOwner id) := styled_misread failed
      exact absurd rfl (misread.ne_noOwner id)
    · exact ⟨(styled_iff setup.defaults).mp ⟨t, styled⟩, (owned t).mp failed⟩
  · rintro ⟨proper, missing⟩
    obtain ⟨t, styled⟩ := (styled_iff (s := named) (p := p) setup.defaults).mpr proper
    have failed := (owned t).mpr missing
    simpa [attributed, named, failed] using
      congrArg (· >>= fun t => t.owned setup as) styled

/-- What a shape is refused its attributes for, its element is refused for. -/
theorem finish_of_attributed (given : as.isGiven name = true)
    (refused : ∀ s : Shape, s.attributed setup p as = .error e) : s.finish setup p as name = .error e := by
  unfold finish
  split
  · split
    · simp [refused]
    · exact refused s
  · split
    · simp [refused]
    · exact refused s
  · cases read : as.int "rounding" (-1) with
    | error e => simp [Attributes.isGiven, read, Except.isOk, Except.toBool] at given
    | ok rounding => exact refused _
  · split
    · simp [refused]
    · exact refused s
  · exact refused s

theorem finish_noOwner_iff : s.finish setup p as name = .error (.noOwner id) ↔
    as.isGiven name = true ∧ as.Proper ∧ as.value? "href" = some id ∧ setup.owner? id = none := by
  constructor
  · intro refused
    rcases finish_cases refused with misread | ⟨given, t, failed⟩
    · exact absurd rfl (misread.ne_noOwner id)
    · exact ⟨given, attributed_noOwner_iff.mp failed⟩
  · rintro ⟨given, missing⟩
    exact finish_of_attributed given fun s => attributed_noOwner_iff.mpr missing

end Shape

/-- An owner as attributes tell it: with an id that is not empty it is what the id stands for, which is not
the null value, and without there is none. -/
structure Setup.Owns (setup : Setup) (as : Attributes) (owner : Option Value) : Prop where
  linked : ∀ href, as.value? "href" = some href →
    ∃ value, setup.owners.get? href = some value ∧ value.isNull = false ∧ owner = some value
  unlinked : as.value? "href" = none → owner = none

namespace Shape

variable {setup : Setup} {p : Palette} {as : Attributes} {s t : Shape} {name : String}

theorem attributed_owner (unowned : s.owner = none) (attributed : s.attributed setup p as = .ok t) :
    setup.Owns as t.owner := by
  obtain ⟨u, styled, owned⟩ := except_bind_eq_ok attributed
  have before : u.owner = none := (styled_frame styled).2.2.trans unowned
  unfold Shape.owned at owned
  split at owned
  next absent =>
    obtain rfl := Except.ok.inj owned
    exact ⟨by simp [absent], fun _ => before⟩
  next href present =>
    split at owned
    · contradiction
    next value found =>
      obtain rfl := Except.ok.inj owned
      obtain ⟨there, proper⟩ := Option.filter_eq_some_iff.mp found
      refine ⟨fun other same => ?_, by simp [present]⟩
      obtain rfl := Option.some.inj (present.symm.trans same)
      exact ⟨value, there, by simpa using proper, rfl⟩

theorem finish_owner (unowned : s.owner = none) (finished : s.finish setup p as name = .ok t) :
    setup.Owns as t.owner := by
  obtain ⟨u, v, before, attributed, behind⟩ := finish_eq_ok finished
  rw [behind.same.owner]
  exact attributed_owner (before.same.owner.trans unowned) attributed

end Shape

/-! ## Owners in a stock -/

/-- What became of an arrival: an object of its kind with the owner that its element tells, or with none if the
element's attributes were not given to it. -/
structure Arrival.Became (setup : Setup) (a : Arrival) (kind : String) (owner : Option Value) : Prop where
  kind : kind = a.shape.kind
  given : a.given = true → setup.Owns a.attributes owner
  other : a.given = false → owner = none

namespace Stock

variable {setup : Setup} {p : Palette} {k l : Stock} {c : Container} {h : Handler} {name : String}
  {as : Attributes} {next : Option Handler} {arrived : List Arrival}

/-- The kind and the owner of each shape. -/
def faces (k : Stock) : List (String × Option Value) := k.shapes.map fun s => (s.kind, s.owner)

theorem faces_of_skeleton (same : l.skeleton = k.skeleton) : l.faces = k.faces := by
  have entries := congrArg (List.map fun e => (e.1.kind, e.2.bind (·.owner))) same
  simpa [faces, skeleton, Item.node, Item.look, Item.kind, Function.comp_def] using entries

theorem faces_make (s : Shape) : (k.make s).faces = k.faces ++ [(s.kind, s.owner)] := by
  simp [faces, make]

theorem faces_receive (t : Shape) : (k.receive c as t).faces = k.faces ++ [(t.kind, t.owner)] := by
  have offered : ((k.call (as.value? "name") k.next).offer c k.next t.isPath).faces = k.faces :=
    map_offer c k.next t.isPath fun s => Prod.ext (kind_adopt k.next t.isPath s) rfl
  rw [receive, faces_make, offered]

theorem take_faces (types : setup.types = .builtin) (took : k.take setup p c name as = .ok (next, l)) :
    ∃ new, l.faces = k.faces ++ new ∧
      List.Forall₂ (fun a face => a.Became setup face.1 face.2) (setup.arrivals name as) new := by
  unfold Setup.arrivals
  rcases take_cases took with ⟨role, rfl, rfl⟩ | ⟨lost, role, rfl, rfl⟩ |
    ⟨s, interior, t, role, finished, rfl, rfl⟩
  · rw [role]
    exact ⟨[], by simp, .nil⟩
  · rw [role]
    cases lost with
    | none => exact ⟨[], by simp, .nil⟩
    | some s =>
      have unowned := (fresh_of_lost types role).owner
      exact ⟨[(s.kind, s.owner)], faces_make s, .cons ⟨rfl, by simp, fun _ => unowned⟩ .nil⟩
  · rw [role]
    have unowned := (fresh_of_role types role).1.owner
    have kind : t.kind = s.kind := (Shape.finish_kin finished).1.variant.kind
    refine ⟨[(t.kind, t.owner)], faces_receive t, .cons ⟨kind, fun _ => ?_, fun never => ?_⟩ .nil⟩
    · exact Shape.finish_owner unowned finished
    · have given : as.isGiven name = true := given_of_finish finished
      simp [given] at never

end Stock

/-- The shapes of a stock are what became of the arrivals, in order. -/
def Stock.Houses (setup : Setup) (arrived : List Arrival) (k : Stock) : Prop :=
  List.Forall₂ (fun a face => a.Became setup face.1 face.2) arrived k.faces

namespace Course

variable {setup : Setup} {p : Palette} {x y : Course} {r : Roster}

theorem step_houses (types : setup.types = .builtin) (agrees : x.Agrees r)
    (houses : x.stock.Houses setup r.arrived) {event : Event} (stepped : x.step setup p event = .ok y) :
    y.stock.Houses setup (r.take setup event).arrived := by
  unfold Stock.Houses at houses ⊢
  cases event with
  | start name as =>
    obtain ⟨frame, rest, next, l, frames, entered, rfl⟩ := step_start stepped
    simp only [Roster.take, Roster.enter, agrees.top frames]
    rcases Stock.enter_cases entered with ⟨root, _, g, rfl⟩ | ⟨c, room, took⟩ | ⟨closed, _, same, _⟩
    · have outside : frame.handler.level ≠ .room := by simp [root, Handler.level]
      rw [if_neg outside]
      exact houses
    · obtain ⟨new, faces, became⟩ := Stock.take_faces types took
      rw [if_pos (Handler.level_of_room room), faces]
      exact List.rel_append houses became
    · rw [if_neg (by simp [closed]), Stock.faces_of_skeleton same]
      exact houses
  | characters text => exact (step_characters stepped).1 ▸ houses
  | finish name =>
    obtain ⟨frame, rest, frames, rfl⟩ := step_finish stepped
    rw [Stock.faces_of_skeleton (Stock.leave_skeleton _)]
    exact houses
  | alien => contradiction

theorem run_houses (types : setup.types = .builtin) {es : List Event} (agrees : x.Agrees r)
    (houses : x.stock.Houses setup r.arrived) (ran : x.run setup p es = .ok y) :
    y.stock.Houses setup (es.foldl (Roster.take setup) r).arrived := by
  induction es generalizing x r with
  | nil =>
    obtain rfl := Except.ok.inj ran
    exact houses
  | cons event rest ih =>
    obtain ⟨z, stepped, ran⟩ := except_bind_eq_ok ran
    exact ih (agrees.step types stepped) (step_houses types agrees houses stepped) ran

end Course

/-! ## Missing owners -/

/-- Whether the attributes of an element are given to an object, by the roster of what comes before it. -/
def Roster.Enrols (setup : Setup) (r : Roster) (name : String) (as : Attributes) : Prop :=
  r.levels.head? = some .room ∧ ∃ a ∈ setup.arrivals name as, a.given = true

/-- Whether an id stands for nothing but, maybe, the null value. -/
def Setup.Lacks (setup : Setup) (id : String) : Prop :=
  ∀ value, setup.owners.get? id = some value → value.isNull = true

section

variable {setup : Setup} {p : Palette} {k : Stock} {h : Handler} {x : Course} {r : Roster} {name id : String}
  {as : Attributes} {c : Container}

theorem Setup.owner?_eq_none_iff : setup.owner? id = none ↔ setup.Lacks id := by
  simp [Setup.owner?, Setup.Lacks, Option.filter_eq_none_iff]

theorem Setup.given_arrivals : (∃ a ∈ setup.arrivals name as, a.given = true) ↔
    ∃ s interior, setup.role name as = .shape s interior ∧ as.isGiven name = true := by
  unfold Setup.arrivals
  cases role : setup.role name as with
  | nothing => simp
  | relay lost => cases lost <;> simp
  | shape s interior => simp

theorem Stock.take_noOwner_iff : k.take setup p c name as = .error (.noOwner id) ↔
    (∃ a ∈ setup.arrivals name as, a.given = true) ∧ as.Proper ∧ as.value? "href" = some id ∧
      setup.Lacks id := by
  rw [Setup.given_arrivals]
  unfold take
  cases role : setup.role name as with
  | nothing =>
    simp only [reduceCtorEq, false_and, exists_false, iff_false]
    intro failed
    split at failed
    · rcases except_bind_eq_error failed with failed | ⟨_, _, failed⟩
      · have misread : as.Misread "" (.noOwner id) := Attributes.int_misread failed
        exact absurd rfl (misread.ne_noOwner id)
      · contradiction
    · contradiction
  | relay lost => simp
  | shape s interior =>
    constructor
    · intro failed
      rcases except_bind_eq_error failed with failed | ⟨_, _, failed⟩
      · obtain ⟨given, proper, present, absent⟩ := Shape.finish_noOwner_iff.mp failed
        exact ⟨⟨s, interior, rfl, given⟩, proper, present, Setup.owner?_eq_none_iff.mp absent⟩
      · contradiction
    · rintro ⟨⟨_, _, same, given⟩, proper, present, lacks⟩
      have failed : s.finish setup p as name = .error (.noOwner id) :=
        Shape.finish_noOwner_iff.mpr ⟨given, proper, present, Setup.owner?_eq_none_iff.mpr lacks⟩
      simp [failed]

/-- Only in a room is an owner missed. -/
theorem Stock.enter_noOwner (failed : k.enter setup p h name as = .error (.noOwner id)) :
    ∃ c, h.room? = some c ∧ k.take setup p c name as = .error (.noOwner id) := by
  have marks (t : ItemId) (failed : k.enter setup p (.line t) name as = .error (.noOwner id)) : False := by
    dsimp only [enter] at failed
    split at failed
    · rcases except_bind_eq_error failed with failed | ⟨_, _, failed⟩
      · have misread : as.Misread "" (.noOwner id) := Shape.mark_misread failed
        exact misread.ne_noOwner id rfl
      · contradiction
    · contradiction
  cases h with
  | root =>
    rcases except_bind_eq_error failed with failed | ⟨_, _, failed⟩
    · rcases rooted_eq_error failed with ⟨_, absurd⟩ | absurd <;> contradiction
    · contradiction
  | diagram | group | edge | wrapper => exact ⟨_, rfl, failed⟩
  | line t | polygon t => exact (marks t failed).elim
  | _ => contradiction

/-- A start tag is refused for a missing owner exactly if an object is given its attributes, and they are
proper but for the owner. -/
theorem Course.step_noOwner_iff (agrees : x.Agrees r) {event : Event} :
    x.step setup p event = .error (.noOwner id) ↔
      ∃ name as, event = .start name as ∧ r.Enrols setup name as ∧ as.Proper ∧
        as.value? "href" = some id ∧ setup.Lacks id := by
  constructor
  · intro failed
    cases event with
    | start name as =>
      cases frames : x.frames with
      | nil => simp [step, frames] at failed
      | cons frame rest =>
        simp only [step, frames] at failed
        rcases except_bind_eq_error failed with failed | ⟨_, _, failed⟩
        · obtain ⟨c, room, failed⟩ := Stock.enter_noOwner failed
          obtain ⟨given, proper, missing⟩ := Stock.take_noOwner_iff.mp failed
          refine ⟨name, as, rfl, ⟨?_, given⟩, proper, missing⟩
          simp [← agrees.levels, frames, Handler.level_of_room room]
        · contradiction
    | characters text =>
      simp only [step] at failed
      split at failed <;> contradiction
    | finish name =>
      simp only [step] at failed
      split at failed
      · simp at failed
      · simp at failed
      · split at failed
        · contradiction
        · simp at failed
    | alien => simp [step] at failed
  · rintro ⟨name, as, rfl, ⟨top, given⟩, proper, missing⟩
    cases frames : x.frames with
    | nil => simp [← agrees.levels, frames] at top
    | cons frame rest =>
      obtain ⟨c, room⟩ := agrees.container top frames
      have failed : x.stock.enter setup p frame.handler name as = .error (.noOwner id) := by
        rw [Stock.enter_of_room room]
        exact Stock.take_noOwner_iff.mpr ⟨given, proper, missing⟩
      simp [step, frames, failed]

end

end Pgml
