import Pgml.Proofs.InertAttributes
import Pgml.Proofs.ShapeOwners

/-! Which links matter. The `href` of an element that becomes no shape may be anything: documents that differ
in it alone are read alike, up to the attributes that a root leaves to its diagram. -/
namespace Pgml

open Desk Vocabulary Machine

/-! ## Up to a root's attributes -/

/-- Results that look alike go on alike if what follows on them does. -/
theorem bind_alike {α β γ δ : Type} {view : α → γ} {look : β → δ} {r s : Except Fault α}
    {f g : α → Except Fault β} (first : r.map view = s.map view)
    (next : ∀ a b, r = .ok a → view a = view b → (f a).map look = (g b).map look) :
    (r >>= f).map look = (s >>= g).map look := by
  cases r with
  | error e =>
    cases s with
    | error other =>
      obtain rfl : e = other := Except.error.inj first
      rfl
    | ok b => contradiction
  | ok a =>
    cases s with
    | error e => contradiction
    | ok b => exact next a b rfl (Except.ok.inj first)

def Diagram.bare (g : Diagram) : Diagram := { g with attributes := .empty }

namespace Stock

/-- The stock without the attributes of its diagram. -/
def bare (k : Stock) : Stock := { k with diagram := k.diagram.map Diagram.bare }

variable {setup : Setup} {p : Palette} {k : Stock} {c : Container} {h : Handler} {name : String}
  {as : Attributes}

theorem bare_bare (k : Stock) : k.bare.bare = k.bare := by
  cases set : k.diagram <;> simp [bare, set, Diagram.bare]

theorem receive_bare (t : Shape) : k.bare.receive c as t = (k.receive c as t).bare := by
  cases c with
  | diagram => cases set : k.diagram <;> simp [receive, offer, call, make, bare, Diagram.bare, next, set]
  | group | edge | tray => rfl

theorem setEntries_bare (edge : ItemId) (entries : List (String × String)) :
    k.bare.setEntries edge entries = (k.setEntries edge entries).bare := by
  have one (k : Stock) (key value : String) :
      k.bare.setEntry edge key value = (k.setEntry edge key value).bare := by
    cases known : Joint.ofKey? key with
    | none => simp [setEntry, known, bare, modify]
    | some joint =>
      by_cases absent : (k.names.get? value).isNone = true <;>
        simp [setEntry, known, bare, modify, report, absent]
  unfold setEntries
  induction entries generalizing k with
  | nil => rfl
  | cons entry rest ih =>
    rw [List.foldl_cons, List.foldl_cons, one, ih]

theorem leave_bare (h : Handler) : k.bare.leave h = (k.leave h).bare := by
  unfold leave
  split
  · rfl
  · rfl
  next c buffer =>
    cases c with
    | diagram => cases set : k.diagram <;> simp [deliver, bare, Diagram.bare, set]
    | group | tray => rfl
    | edge id => exact setEntries_bare id _
  · rfl

theorem take_bare : k.bare.take setup p c name as = (k.take setup p c name as).map (Prod.map id bare) := by
  unfold take
  cases setup.role name as with
  | nothing =>
    dsimp only
    split
    · cases as.int "rounding" (-1) <;> rfl
    · rfl
  | relay lost => cases lost <;> rfl
  | shape s interior =>
    cases finished : s.finish setup p as name with
    | error e => simp [finished, Except.map]
    | ok t =>
      have place : k.bare.next = k.next := rfl
      simp [finished, Except.map, receive_bare, place]

theorem rooted_bare : (k.bare.rooted setup name as).map bare = (k.rooted setup name as).map bare := by
  unfold rooted
  split
  · cases rootDiagram setup.config.hintAttribute as with
    | error e => rfl
    | ok g =>
      cases set : k.diagram <;> simp [bare, set, Except.map, crown]
  · rfl

theorem enter_bare : (k.bare.enter setup p h name as).map (Prod.map id bare) =
    (k.enter setup p h name as).map (Prod.map id bare) := by
  have idle : (Prod.map id bare (none, k.bare) : Option Handler × Stock) = Prod.map id bare (none, k) :=
    Prod.ext rfl (bare_bare k)
  have took (c : Container) : (k.bare.take setup p c name as).map (Prod.map id bare) =
      (k.take setup p c name as).map (Prod.map id bare) := by
    rw [take_bare]
    cases k.take setup p c name as with
    | error e => rfl
    | ok done => exact congrArg Except.ok (Prod.ext rfl (bare_bare done.2))
  have marks (t : ItemId) : (k.bare.enter setup p (.line t) name as).map (Prod.map id bare) =
      (k.enter setup p (.line t) name as).map (Prod.map id bare) := by
    have same : k.bare.shapes = k.shapes := rfl
    simp only [enter, same]
    split
    next s found =>
      refine bind_alike (rfl : (s.mark name as).map id = (s.mark name as).map id) ?_
      rintro u _ _ rfl
      exact congrArg Except.ok (Prod.ext rfl (bare_bare (k.modify t fun _ => u)))
    next => exact congrArg Except.ok idle
  cases h with
  | root =>
    refine bind_alike rooted_bare fun l m _ same => ?_
    exact congrArg Except.ok (Prod.ext rfl same)
  | diagram | group | edge | wrapper => exact took _
  | line t | polygon t => exact marks t
  | _ => exact congrArg Except.ok idle

end Stock

namespace Course

def bare (x : Course) : Course := ⟨x.frames, x.stock.bare⟩

variable {setup : Setup} {p : Palette} {x y : Course}

theorem step_bare (event : Event) :
    (x.bare.step setup p event).map bare = (x.step setup p event).map bare := by
  cases event with
  | start name as =>
    cases frames : x.frames with
    | nil => simp [step, bare, frames, Except.map]
    | cons frame rest =>
      simp only [step, bare, frames]
      refine bind_alike Stock.enter_bare fun done other _ same => ?_
      obtain ⟨next, stock⟩ := Prod.mk.inj same
      exact congrArg Except.ok (congrArg₂ Course.mk (by simp_all) stock)
  | characters text =>
    cases frames : x.frames <;>
      simp [step, bare, frames, Except.map, Stock.bare_bare]
  | finish name =>
    rcases frames : x.frames with _ | ⟨frame, _ | ⟨below, rest⟩⟩
    · simp [step, bare, frames, Except.map]
    · simp [step, bare, frames, Except.map]
    · by_cases same : frame.element = some name <;>
        simp [step, bare, frames, same, Except.map, Stock.leave_bare, Stock.bare_bare]
  | alien => rfl

/-- Courses that differ in the attributes of their diagrams go on alike. -/
theorem step_alike (alike : x.bare = y.bare) (event : Event) :
    (x.step setup p event).map bare = (y.step setup p event).map bare := by
  rw [← step_bare, alike, step_bare]

theorem finish_alike (alike : x.bare = y.bare) (ending : Option Fault) :
    (x.finish ending).map Diagram.bare = (y.finish ending).map Diagram.bare := by
  cases ending with
  | some fault => rfl
  | none =>
    obtain ⟨frames, stock⟩ := Course.mk.inj alike
    have diagram : x.stock.diagram.map Diagram.bare = y.stock.diagram.map Diagram.bare :=
      congrArg Stock.diagram stock
    simp only [finish, close, frames]
    split
    · cases first : x.stock.diagram <;> cases second : y.stock.diagram <;>
        simp_all [Except.map]
    · rfl

end Course

/-! ## Links of elements that become no shape -/

namespace Attributes

variable {hint key : String} {as other : Attributes}

/-- Attributes that differ in their `href` at most, unless it is the type hint as well. -/
def Relinked (hint : String) (as other : Attributes) : Prop :=
  ∀ key, key = hint ∨ key ≠ "href" → as.raw? key = other.raw? key

variable (relinked : Relinked hint as other)

include relinked

theorem Relinked.value? (reads : key = hint ∨ key ≠ "href") : as.value? key = other.value? key := by
  simp [Attributes.value?, relinked key reads]

theorem Relinked.int? (reads : key = hint ∨ key ≠ "href") : as.int? key = other.int? key := by
  simp [Attributes.int?, relinked.value? reads]

theorem Relinked.int (reads : key = hint ∨ key ≠ "href") (default : Int) :
    as.int key default = other.int key default := by
  simp [Attributes.int, relinked.int? reads]

theorem Relinked.without (hidden : String) : Relinked hint (as.without hidden) (other.without hidden) := by
  intro key reads
  rw [raw?_without, raw?_without, relinked key reads]

end Attributes

section

variable {setup : Setup} {p : Palette} {k : Stock} {h : Handler} {c : Container} {x y : Course} {r : Roster}
  {name : String} {as other : Attributes}

/-- A diagram is the same up to its attributes. -/
theorem rootDiagram_relinked (relinked : as.Relinked setup.config.hintAttribute other) :
    (rootDiagram setup.config.hintAttribute as).map Diagram.bare =
      (rootDiagram setup.config.hintAttribute other).map Diagram.bare := by
  have hint := relinked.without "name" setup.config.hintAttribute (.inl rfl)
  have scale := (relinked.without "name").without setup.config.hintAttribute "scale" (.inr (by decide))
  have title := relinked "name" (.inr (by decide))
  simp only [rootDiagram, hint, scale, title]
  cases rootScale (((other.without "name").without setup.config.hintAttribute).raw? "scale") <;> rfl

theorem Setup.role_relinked (relinked : as.Relinked setup.config.hintAttribute other) :
    setup.role name as = setup.role name other := by
  have hinted : setup.hinted? as = setup.hinted? other := by
    simp only [hinted?, relinked.value? (.inl rfl)]
  have usual : usual? name as = usual? name other := by
    simp only [usual?, relinked.int (.inr (by decide : "rounding" ≠ "href"))]
  simp only [role, hinted, usual]

theorem Shape.finish_ungiven (setup : Setup) (p : Palette) (s : Shape) (ungiven : as.isGiven name = false) :
    ∃ e, as.int "rounding" (-1) = .error e ∧ s.finish setup p as name = .error e := by
  unfold Attributes.isGiven at ungiven
  obtain ⟨rfl, unread⟩ : name = "rectangle" ∧ (as.int "rounding" (-1)).isOk = false := by simpa using ungiven
  cases read : as.int "rounding" (-1) with
  | error e => exact ⟨e, rfl, by simp [finish, read]⟩
  | ok n => simp [read, Except.isOk, Except.toBool] at unread

theorem Stock.take_relinked (relinked : as.Relinked setup.config.hintAttribute other)
    (ungiven : ¬ ∃ a ∈ setup.arrivals name as, a.given = true) :
    k.take setup p c name as = k.take setup p c name other := by
  have rounding : as.int "rounding" (-1) = other.int "rounding" (-1) := relinked.int (.inr (by decide)) _
  rw [Setup.given_arrivals] at ungiven
  unfold take
  rw [← Setup.role_relinked relinked]
  cases role : setup.role name as with
  | nothing => simp only [rounding]
  | relay lost => rfl
  | shape s interior =>
    -- Only a rectangle whose rounding cannot be read is not given its attributes; both are refused for that.
    have never : as.isGiven name = false := by
      cases given : as.isGiven name with
      | false => rfl
      | true => exact absurd ⟨s, interior, role, given⟩ ungiven
    have neither : other.isGiven name = false := by
      rw [← never]
      simp [Attributes.isGiven, rounding]
    obtain ⟨e, read, first⟩ := Shape.finish_ungiven setup p s never
    obtain ⟨f, again, second⟩ := Shape.finish_ungiven setup p s neither
    obtain rfl : e = f := Except.error.inj (read.symm.trans (rounding.trans again))
    simp [first, second]

theorem Shape.mark_relinked {s : Shape} (relinked : as.Relinked setup.config.hintAttribute other) :
    s.mark name as = s.mark name other := by
  have points : point name as = point name other := by
    simp only [point, relinked.value? (.inr (by decide : "x" ≠ "href")),
      relinked.value? (.inr (by decide : "y" ≠ "href"))]
  simp only [mark, points]

theorem Stock.rooted_relinked (relinked : as.Relinked setup.config.hintAttribute other) :
    (k.rooted setup name as).map bare = (k.rooted setup name other).map bare := by
  unfold rooted
  split
  · refine bind_alike (rootDiagram_relinked relinked) fun g g' _ same => ?_
    split
    · rfl
    · exact congrArg Except.ok (by simp [bare, crown, same])
  · rfl

/-- Unless an object is given them, attributes may have any `href`. -/
theorem Stock.enter_relinked (relinked : as.Relinked setup.config.hintAttribute other)
    (ungiven : h.level = .room → ¬ ∃ a ∈ setup.arrivals name as, a.given = true) :
    (k.enter setup p h name as).map (Prod.map id bare) =
      (k.enter setup p h name other).map (Prod.map id bare) := by
  cases h with
  | root =>
    refine bind_alike (rooted_relinked relinked) fun l m _ same => ?_
    exact congrArg Except.ok (Prod.ext rfl same)
  | diagram | group | edge | wrapper => simp only [enter, take_relinked relinked (ungiven rfl)]
  | line t | polygon t => simp only [enter, Shape.mark_relinked relinked]
  | _ => rfl

theorem Course.step_relinked (agrees : x.Agrees r) (relinked : as.Relinked setup.config.hintAttribute other)
    (absent : ¬ r.Enrols setup name as) :
    (x.step setup p (.start name as)).map bare = (x.step setup p (.start name other)).map bare := by
  cases frames : x.frames with
  | nil => simp [step, frames]
  | cons frame rest =>
    have ungiven (room : frame.handler.level = .room) : ¬ ∃ a ∈ setup.arrivals name as, a.given = true :=
      fun given => absent ⟨by simp [← agrees.levels, frames, room], given⟩
    simp only [step, frames]
    refine bind_alike (Stock.enter_relinked relinked ungiven) fun done done' _ same => ?_
    obtain ⟨next, stock⟩ := Prod.mk.inj same
    exact congrArg Except.ok (congrArg₂ Course.mk (by simp_all) stock)

/-- Events that differ in the links of elements that become no shape. -/
inductive Roster.Relinked (setup : Setup) : Roster → List Event → List Event → Prop where
  | nil {r : Roster} : Relinked setup r [] []
  | same {r : Roster} {es fs : List Event} (event : Event) :
      Relinked setup (r.take setup event) es fs → Relinked setup r (event :: es) (event :: fs)
  | link {r : Roster} {es fs : List Event} {name : String} {as other : Attributes} :
      ¬ r.Enrols setup name as → as.Relinked setup.config.hintAttribute other →
      Relinked setup (r.take setup (.start name as)) es fs →
      Relinked setup r (.start name as :: es) (.start name other :: fs)

theorem Course.run_relinked (types : setup.types = .builtin) (agrees : x.Agrees r) (alike : x.bare = y.bare)
    {es fs : List Event} (relinked : r.Relinked setup es fs) :
    (x.run setup p es).map bare = (y.run setup p fs).map bare := by
  -- The first course goes on agreeing with the roster, which tells who is asked; the second only looks like it.
  induction relinked generalizing x y with
  | nil => exact congrArg Except.ok alike
  | same event _ ih =>
    exact bind_alike (step_alike alike event) fun _ _ stepped same => ih (agrees.step types stepped) same
  | link absent changed _ ih =>
    have first := (step_relinked (p := p) agrees changed absent).trans (step_alike alike _)
    exact bind_alike first fun _ _ stepped same => ih (agrees.step types stepped) same

end

namespace Reader

variable {r after : Reader} {feed : Feed} {diagram : Diagram} {id : String}

/-- The shapes of a document that was read are what became of its arrivals. -/
theorem owners_of_parse (types : r.setup.types = .builtin)
    (read : parse .root feed r = (.ok diagram, after)) :
    List.Forall₂ (fun a item => ∃ s, item = .shape s ∧ a.Became r.setup s.kind s.owner)
      (Roster.ofEvents r.setup feed.events).arrived after.desk.items.toList := by
  rcases parse_follows types (idle_of_parse read) read with ⟨_, absurd, _⟩ | ⟨y, ran, _, kept⟩
  · contradiction
  · have housed : y.stock.Houses r.setup (Roster.ofEvents r.setup feed.events).arrived :=
      Course.run_houses types (course_agrees r feed) .nil ran
    rw [(kept diagram rfl).items, List.forall₂_map_right_iff]
    refine (List.forall₂_map_right_iff.mp housed).imp fun a s became => ?_
    exact ⟨s, rfl, became⟩

/-- The end of a document is no place for a missing owner. -/
theorem finish_ne_noOwner (given : feed.Given) (y : Course) (id : String) :
    y.finish feed.ending ≠ .error (.noOwner id) := by
  intro failed
  rcases Course.finish_eq_error failed with ⟨_, absurd⟩ | ⟨_, absurd⟩ | ended
  · contradiction
  · contradiction
  · cases given with
    | events => contradiction
    | document bytes size =>
      by_cases fits : Feed.isBlockSize size = true
      · obtain ⟨_, absurd⟩ := (Feed.proper_ofDocument bytes fits).malformed _ ended
        contradiction
      · simp [Feed.ofDocument, fits] at ended

/-- A document is refused for a missing owner at a start tag. -/
theorem parse_noOwner_iff (types : r.setup.types = .builtin) (given : feed.Given) :
    (parse .root feed r).1 = .error (.noOwner id) ↔ r.machine.reading = false ∧
      ∃ before name as later, feed.events = before ++ .start name as :: later ∧
        ((Handler.behaviour r.setup).dispatchAll before (r.machine.opened .root feed)).1 = .ok () ∧
        (Roster.ofEvents r.setup before).Enrols r.setup name as ∧ as.Proper ∧
        as.value? "href" = some id ∧ r.setup.Lacks id := by
  cases idle : r.machine.reading with
  | true => simp [parse_busy idle]
  | false =>
    have refused : (parse .root feed r).1 = .error (.noOwner id) ↔
        (r.course feed).run r.setup r.desk.colors.palette feed.events = .error (.noOwner id) := by
      rcases ran : parse .root feed r with ⟨result, after⟩
      rcases parse_follows types idle ran with ⟨e, rfl, failed⟩ | ⟨y, followed, rfl, _⟩
      · rw [failed]
        simp
      · rw [followed]
        simp [finish_ne_noOwner given y id]
    rw [refused, Course.run_eq_error]
    constructor
    · rintro ⟨before, event, later, y, word, ran, failed⟩
      have agrees := (course_agrees r feed).run types ran
      obtain ⟨name, as, rfl, enrolled, missing⟩ := (Course.step_noOwner_iff agrees).mp failed
      exact ⟨rfl, before, name, as, later, word, (course_reads types before).mpr ⟨y, ran⟩, enrolled, missing⟩
    · rintro ⟨-, before, name, as, later, word, came, enrolled, missing⟩
      obtain ⟨y, ran⟩ := (course_reads types before).mp came
      have agrees := (course_agrees r feed).run types ran
      exact ⟨before, _, later, y, word, ran,
        (Course.step_noOwner_iff agrees).mpr ⟨name, as, rfl, enrolled, missing⟩⟩

/-- Documents that differ in the links of elements that become no shape are read alike. -/
theorem parse_relinked (types : r.setup.types = .builtin) {es : List Event}
    (relinked : Roster.start.Relinked r.setup feed.events es) :
    let first := parse .root feed r
    let second := parse .root { feed with events := es } r
    first.1.map Diagram.bare = second.1.map Diagram.bare ∧
      (first.1.isOk = true → first.2.desk.items = second.2.desk.items) := by
  let other : Feed := { feed with events := es }
  have runs : ((r.course feed).run r.setup r.desk.colors.palette feed.events).map Course.bare =
      ((r.course other).run r.setup r.desk.colors.palette es).map Course.bare :=
    Course.run_relinked types (course_agrees r feed) rfl relinked
  cases idle : r.machine.reading with
  | true => simp [parse_busy idle, Except.isOk, Except.toBool]
  | false =>
    rcases ran : parse .root feed r with ⟨result, after⟩
    rcases again : parse .root other r with ⟨result', after'⟩
    rcases parse_follows types idle ran with ⟨e, rfl, failed⟩ | ⟨y, followed, rfl, kept⟩
    · rcases parse_follows types idle again with ⟨f, rfl, refused⟩ | ⟨z, followed, _⟩
      · rw [failed, refused] at runs
        obtain rfl : e = f := Except.error.inj runs
        exact ⟨rfl, by simp [Except.isOk, Except.toBool]⟩
      · rw [failed, followed] at runs
        contradiction
    · rcases parse_follows types idle again with ⟨f, _, refused⟩ | ⟨z, went, rfl, held⟩
      · rw [followed, refused] at runs
        contradiction
      · rw [followed, went] at runs
        have alike : y.bare = z.bare := Except.ok.inj runs
        have closed := Course.finish_alike alike feed.ending
        refine ⟨closed, fun fine => ?_⟩
        have shapes : y.stock.shapes = z.stock.shapes := congrArg (·.stock.shapes) alike
        cases finished : y.finish feed.ending with
        | error e => simp [finished, Except.isOk, Except.toBool] at fine
        | ok g =>
          cases ended : z.finish feed.ending with
          | error e =>
            rw [finished, ended] at closed
            contradiction
          | ok g' =>
            apply Array.toList_inj.mp
            rw [(kept g finished).items, (held g' ended).items, shapes]

/-- If a document of built-in types is read, every shape has the owner that its element's link names, and
shapes whose elements have no link, or were not asked, have none. It is refused for a missing owner exactly
if the first element that cannot be read has its attributes given to an object, and they are fine but for the
owner. The links of elements that become no shape make no difference. -/
theorem parse_owners (types : r.setup.types = .builtin) (given : feed.Given) :
    (∀ diagram after, parse .root feed r = (.ok diagram, after) →
      List.Forall₂ (fun a item => ∃ s, item = .shape s ∧ a.Became r.setup s.kind s.owner)
        (Roster.ofEvents r.setup feed.events).arrived after.desk.items.toList) ∧
    (∀ id, (parse .root feed r).1 = .error (.noOwner id) ↔ r.machine.reading = false ∧
      ∃ before name as later, feed.events = before ++ .start name as :: later ∧
        ((Handler.behaviour r.setup).dispatchAll before (r.machine.opened .root feed)).1 = .ok () ∧
        (Roster.ofEvents r.setup before).Enrols r.setup name as ∧ as.Proper ∧
        as.value? "href" = some id ∧ r.setup.Lacks id) ∧
    ∀ es, Roster.start.Relinked r.setup feed.events es →
      let first := parse .root feed r
      let second := parse .root { feed with events := es } r
      first.1.map Diagram.bare = second.1.map Diagram.bare ∧
        (first.1.isOk = true → first.2.desk.items = second.2.desk.items) :=
  ⟨fun _ _ read => owners_of_parse types read, fun _ => parse_noOwner_iff types given,
    fun _ relinked => parse_relinked types relinked⟩

/-- A line with a link, in a document and with a point that have one as well. -/
def linked (root line point : String) : Feed :=
  .ofEvents (document [] "pgml" [("href", root)] (.element "line" [("href", line)]
    (.element "moveto" [("x", "1"), ("y", "2"), ("href", point)] .empty .empty) .empty) [])

/-- Owners that count for nothing are owners, except for the null value. -/
theorem parse_owners_of_linked :
    let owners : Table Value := ⟨[("zero", .scalar (.int 0)), ("null", .scalar .null)]⟩
    let r : Reader := ⟨{ Setup.plain with owners := owners }, ⟨[], false, Desk.fresh .builtin⟩⟩
    let read := parse .root (linked "null" "zero" "lost") r
    (∃ s, read.2.desk.items.toList = [.shape s] ∧ s.owner = some (.scalar (.int 0))) ∧
    read.1.map Diagram.bare = (parse .root (linked "" "zero" "zero") r).1.map Diagram.bare ∧
    (parse .root (linked "null" "null" "lost") r).1 = .error (.noOwner "null") := by
  intro owners r read
  have types : r.setup.types = .builtin := rfl
  have given (root line point : String) : (linked root line point).Given :=
    .events _ (by simp [document, Content.events])
  refine ⟨?_, ?_, ?_⟩
  · have fine : read.1.isOk = true := by decide +kernel
    rcases ran : parse .root (linked "null" "zero" "lost") r with ⟨_ | diagram, after⟩
    · simp [read, ran, Except.isOk, Except.toBool] at fine
    · have became := (parse_owners types (given "null" "zero" "lost")).1 diagram after ran
      obtain ⟨s, arrived⟩ : ∃ s, (Roster.ofEvents r.setup (linked "null" "zero" "lost").events).arrived =
          [⟨s, [("href", "zero")], true⟩] := ⟨_, rfl⟩
      rw [arrived] at became
      obtain ⟨item, _, ⟨t, rfl, owned⟩, rest, items⟩ := List.forall₂_cons_left_iff.mp became
      obtain rfl := List.forall₂_nil_left_iff.mp rest
      obtain ⟨value, there, _, owner⟩ := (owned.given rfl).linked "zero" rfl
      obtain rfl : .scalar (.int 0) = value := Option.some.inj there
      exact ⟨t, by simpa [read, ran] using items, owner⟩
  · refine ((parse_owners types (given "null" "zero" "lost")).2.2 _ ?_).1
    have changed (before : Attributes) (value other : String) :
        Attributes.Relinked r.setup.config.hintAttribute (before ++ [("href", value)])
          (before ++ [("href", other)]) := by
      intro key reads
      have differs : "href" ≠ key := by
        rcases reads with rfl | other
        · decide
        · exact other.symm
      simp [Attributes.raw?, differs]
    have outside (name : String) (as : Attributes) : ¬ Roster.start.Enrols r.setup name as :=
      fun enrolled => absurd enrolled.1 (by decide)
    refine .link (outside _ _) (changed [] _ _) (.same _ (.link ?_ (changed [("x", "1"), ("y", "2")] _ _) ?_))
    · exact fun enrolled => absurd enrolled.1 (by decide +kernel)
    · exact .same _ (.same _ (.same _ .nil))
  · refine ((parse_owners types (given "null" "null" "lost")).2.1 "null").mpr ⟨rfl, ?_⟩
    let later := (linked "null" "null" "lost").events.drop 2
    refine ⟨[.start "pgml" [("href", "null")]], "line", [("href", "null")], later, rfl, by decide +kernel,
      ?_, ?_, rfl, ?_⟩
    · exact ⟨rfl, _, List.mem_singleton_self _, rfl⟩
    · exact ⟨⟨_, rfl⟩, fun present => absurd rfl present, ⟨_, rfl⟩, ⟨_, rfl⟩⟩
    · rintro value there
      obtain rfl : .scalar .null = value := Option.some.inj there
      rfl

end Reader

end Pgml
