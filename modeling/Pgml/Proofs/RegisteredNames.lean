import Pgml.Proofs.ReadingCourse

/-! The registry of names. A name is registered when an object is given its attributes, whatever comes of the
element then; so at any time, and when the reading has failed too, the names are those of the roster, each for
the last object that was given it. -/
namespace Pgml

open Desk Machine
open Work (Ends)

/-! ## Courses and rosters -/

section

variable {setup : Setup} {p : Palette} {k l : Stock} {h : Handler} {name : String} {as : Attributes}
  {next : Option Handler}

theorem Stock.names_setEntry (edge : ItemId) (key value : String) :
    (k.setEntry edge key value).names = k.names := by
  unfold setEntry
  split
  · rfl
  · dsimp only
    split <;> rfl

theorem Stock.names_deliver (data : Table String) (c : Container) : (k.deliver data c).names = k.names := by
  cases c with
  | diagram | group | tray => rfl
  | edge id =>
    simp only [deliver, setEntries]
    induction data.entries generalizing k with
    | nil => rfl
    | cons entry rest ih => rw [List.foldl_cons, ih, names_setEntry]

theorem Stock.leave_roll (h : Handler) : (k.leave h).roll = k.roll := by
  refine roll_of_skeleton (leave_skeleton h) ?_
  unfold leave
  split
  · rfl
  · rfl
  · exact names_deliver _ _
  · rfl

theorem Stock.enter_roll (types : setup.types = .builtin)
    (entered : k.enter setup p h name as = .ok (next, l)) :
    l.roll = k.attend setup h name as := by
  unfold attend
  rcases enter_cases entered with ⟨rfl, _, g, rfl⟩ | ⟨c, room, took⟩ | ⟨closed, _, same, names, _⟩
  · rfl
  · rw [if_pos (Handler.level_of_room room), take_roll types took]
  · rw [if_neg (by simp [closed]), roll_of_skeleton same names]

theorem Stock.enter_level (types : setup.types = .builtin)
    (entered : k.enter setup p h name as = .ok (next, l)) :
    (next.getD .ignore).level = h.level.enter setup name as := by
  rcases enter_cases entered with ⟨rfl, rfl, _⟩ | ⟨c, room, took⟩ | ⟨closed, rfl, _⟩
  · rfl
  · rw [Handler.level_of_room room, Level.enter, Setup.inside]
    rcases take_cases took with ⟨role, rfl, _⟩ | ⟨lost, role, rfl, _⟩ | ⟨s, interior, t, role, _, rfl, _⟩
    · rw [role]
      rfl
    · rw [role]
      rfl
    · have opens := content_opens setup as name k.next s
      rw [← (fresh_of_role types role).2] at opens
      rw [role]
      generalize s.content? setup as name k.next = next at opens
      cases opens <;> rfl
  · rw [closed]
    rfl

end

/-- A course that has come as far as a roster. -/
structure Course.Agrees (x : Course) (r : Roster) : Prop where
  levels : x.frames.map (·.handler.level) = r.levels
  roll : x.stock.roll = .ofArrivals r.arrived

namespace Course.Agrees

variable {setup : Setup} {p : Palette} {x y : Course} {r : Roster} {m : Machine Handler Desk}

theorem top {frame : Frame Handler} {rest : List (Frame Handler)} (agrees : x.Agrees r)
    (frames : x.frames = frame :: rest) :
    r.levels = frame.handler.level :: rest.map (·.handler.level) := by
  simp [← agrees.levels, frames]

/-- In a room the innermost handler has a container. -/
theorem container {frame : Frame Handler} {rest : List (Frame Handler)} (agrees : x.Agrees r)
    (room : r.levels.head? = some .room) (frames : x.frames = frame :: rest) : ∃ c, frame.handler.room? = some c := by
  apply Handler.room_of_level
  simpa [agrees.top frames] using room

theorem attend (agrees : x.Agrees r) (event : Event) :
    x.attend setup event = .ofArrivals (r.take setup event).arrived := by
  have roll := agrees.roll
  cases event with
  | start name as =>
    cases frames : x.frames with
    | nil =>
      have none : r.levels = [] := by simp [← agrees.levels, frames]
      simp [Course.attend, frames, Roster.take, Roster.enter, none, roll]
    | cons frame rest =>
      have top := agrees.top frames
      by_cases room : frame.handler.level = .room
      · simp [Course.attend, Stock.attend, frames, Roster.take, Roster.enter, top, room, roll,
          Roll.ofArrivals_append]
      · simp [Course.attend, Stock.attend, frames, Roster.take, Roster.enter, top, room, roll]
  | characters | finish | alien => exact roll

theorem step (types : setup.types = .builtin) (agrees : x.Agrees r) {event : Event}
    (stepped : x.step setup p event = .ok y) : y.Agrees (r.take setup event) := by
  have attended : x.attend setup event = .ofArrivals (r.take setup event).arrived := agrees.attend event
  cases event with
  | start name as =>
    obtain ⟨frame, rest, next, l, frames, entered, rfl⟩ := step_start stepped
    refine ⟨?_, ?_⟩
    · simp [Roster.take, Roster.enter, agrees.top frames, frames, Stock.enter_level types entered]
    · rw [← attended]
      simpa [Course.attend, frames] using Stock.enter_roll types entered
  | characters text =>
    obtain ⟨stock, levels⟩ := step_characters stepped
    exact ⟨levels.trans agrees.levels, stock ▸ agrees.roll⟩
  | finish name =>
    obtain ⟨frame, rest, frames, rfl⟩ := step_finish stepped
    refine ⟨?_, (Stock.leave_roll frame.handler).trans agrees.roll⟩
    simp [Roster.take, ← agrees.levels, frames]
  | alien => contradiction

theorem run (types : setup.types = .builtin) {es : List Event} (agrees : x.Agrees r)
    (ran : x.run setup p es = .ok y) : y.Agrees (es.foldl (Roster.take setup) r) := by
  induction es generalizing x r with
  | nil =>
    obtain rfl := Except.ok.inj ran
    exact agrees
  | cons event rest ih =>
    obtain ⟨z, stepped, ran⟩ := except_bind_eq_ok ran
    exact ih (step types agrees stepped) ran

end Course.Agrees

/-- The events that come to a machine: all of them, or those up to one that it fails at. -/
def Behaviour.taken {H S : Type} (b : Behaviour H S) (m : Machine H S) : List Event → List Event
  | [] => []
  | event :: rest =>
    match b.dispatch event m with
    | (.ok _, t) => event :: b.taken t rest
    | (.error _, _) => [event]

/-- At any time the roll is that of the events that came. -/
theorem Course.dispatchAll_roll {setup : Setup} {p : Palette} {x : Course} {r : Roster}
    {m : Machine Handler Desk} (types : setup.types = .builtin) (leads : x.Leads p m) (agrees : x.Agrees r)
    (es : List Event) :
    ((Handler.behaviour setup).dispatchAll es m).2.work.roll =
      .ofArrivals (((Handler.behaviour setup).taken m es).foldl (Roster.take setup) r).arrived := by
  induction es generalizing x r m with
  | nil => exact leads.holds.roll.trans agrees.roll
  | cons event rest ih =>
    have followed := dispatch_follows types event m leads
    rw [Behaviour.dispatchAll_cons, Work.bind_apply]
    unfold Behaviour.taken
    rcases ran : (Handler.behaviour setup).dispatch event m with ⟨e | _, t⟩
    · -- An element that fails has registered its name by then, so its event counts among those that came.
      rw [ran] at followed
      exact followed.2.trans (agrees.attend event)
    · rw [ran] at followed
      obtain ⟨y, stepped, leads⟩ := followed
      exact ih leads (agrees.step types stepped)

/-! ## What is registered -/

theorem Table.mem_names_iff {α : Type} {t : Table α} {name : String} :
    name ∈ t.names ↔ ∃ value, t.get? name = some value := by
  obtain ⟨entries⟩ := t
  simp only [names, get?]
  induction entries with
  | nil => simp [lookup]
  | cons entry rest ih =>
    obtain ⟨key, value⟩ := entry
    by_cases same : key = name
    · simp [lookup, same]
    · simpa [lookup, same, Ne.symm same] using ih

/-- A reader's objects and names are those that arrived. -/
structure Registered (arrived : List Arrival) (r : Reader) : Prop where
  /-- The objects are there in the order in which they arrived, each with the name that it was given. -/
  objects : r.desk.items.toList.map (fun item => (item.kind, item.name?)) =
    arrived.map fun a => (a.shape.kind, a.name?)
  /-- The names are those of the elements whose attributes were given to an object. -/
  names : ∀ name, name ∈ r.desk.names.names ↔
    ∃ a ∈ arrived, a.given = true ∧ a.attributes.value? "name" = some name
  /-- Under a name the last object is found that was given it. -/
  last : ∀ name id, r.findShape? name = some id ↔
    Called arrived id name ∧ ∀ other, Called arrived other name → other.index ≤ id.index
  /-- What is found is a shape of this name. -/
  own : ∀ name id, r.findShape? name = some id → ∃ s, r.desk.shape? id = some s ∧ s.name = some name
  /-- Another shape of this name came before. -/
  others : ∀ id s name, r.desk.shape? id = some s → s.name = some name →
    ∃ found, r.findShape? name = some found ∧ id.index ≤ found.index

section

variable {arrived : List Arrival} {id : ItemId} {name : String}

theorem called_iff {d : Desk} (roll : d.roll = .ofArrivals arrived) :
    Called arrived id name ↔ ∃ s, d.shape? id = some s ∧ s.name = some name := by
  have entries : d.items.toList.map (fun item => (item.kind, item.name?)) =
      arrived.map fun a => (a.shape.kind, a.name?) :=
    (congrArg Roll.entries roll).trans Roll.entries_ofArrivals
  have here : d.items[id.index]?.map Item.name? = arrived[id.index]?.map Arrival.name? := by
    have entry := congrArg (fun entries => entries[id.index]?.map Prod.snd) entries
    simpa [Function.comp_def] using entry
  simp only [Called, ← Arrival.name?_eq_some_iff]
  constructor
  · rintro ⟨a, there, named⟩
    rw [there, Option.map_some, named] at here
    obtain ⟨item, found, same⟩ := Option.map_eq_some_iff.mp here
    cases item with
    | shape s => exact ⟨s, shape?_eq_some.mpr found, same⟩
    | thing kind => simp [Item.name?] at same
  · rintro ⟨s, found, named⟩
    rw [shape?_eq_some.mp found, Option.map_some] at here
    obtain ⟨a, there, same⟩ := Option.map_eq_some_iff.mp here.symm
    exact ⟨a, there, same.trans named⟩

theorem registered_of_roll {r : Reader} (roll : r.desk.roll = .ofArrivals arrived) : Registered arrived r := by
  have names : r.desk.names = (Roll.ofArrivals arrived).names := congrArg Roll.names roll
  have find (name : String) : r.findShape? name = (Roll.ofArrivals arrived).names.get? name :=
    congrArg (Table.get? · name) names
  have latest {id : ItemId} {name : String} (called : Called arrived id name) :
      ∃ found, r.findShape? name = some found ∧ id.index ≤ found.index := by
    rw [find]
    exact Roll.get?_of_called called
  have called {id : ItemId} {name : String} (found : r.findShape? name = some id) : Called arrived id name :=
    Roll.called_of_get? (find name ▸ found)
  refine ⟨?_, fun name => ?_, fun name id => ⟨fun found => ?_, ?_⟩, fun name id found => ?_, ?_⟩
  · exact (congrArg Roll.entries roll).trans Roll.entries_ofArrivals
  · rw [Table.mem_names_iff]
    constructor
    · rintro ⟨id, found⟩
      obtain ⟨a, there, given⟩ := called found
      exact ⟨a, List.mem_of_getElem? there, given⟩
    · rintro ⟨a, member, given⟩
      obtain ⟨i, there⟩ := List.mem_iff_getElem?.mp member
      have named : Called arrived ⟨i⟩ name := ⟨a, there, given⟩
      obtain ⟨found, same, _⟩ := latest named
      exact ⟨found, same⟩
  · refine ⟨called found, fun other named => ?_⟩
    obtain ⟨id', same, before⟩ := latest named
    obtain rfl : id = id' := Option.some.inj (found.symm.trans same)
    exact before
  · rintro ⟨named, last⟩
    obtain ⟨found, same, before⟩ := latest named
    have equal : found.index = id.index := Nat.le_antisymm (last found (called same)) before
    obtain rfl : found = id := congrArg ItemId.mk equal
    exact same
  · exact (called_iff roll).mp (called found)
  · intro id s name found named
    exact latest ((called_iff roll).mpr ⟨s, found, named⟩)

end

namespace Reader

variable {r after : Reader} {feed : Feed} {result : Except Fault Diagram}

theorem course_agrees (r : Reader) (feed : Feed) : (r.course feed).Agrees .start := ⟨rfl, rfl⟩

/-- However the machine leaves a document, it leaves the roll alone. -/
theorem roll_leave (ran : Except Fault Diagram × Machine Handler Desk) :
    (Behaviour.leave ran).2.work.roll = ran.2.work.roll := by
  rcases ran with ⟨fault | diagram, t⟩
  · rcases fault.isInterrupt_cases with own | ⟨cause, rfl⟩
    · simp only [Behaviour.leave, stopped_of_fault _ own]
      rfl
    · rfl
  · rfl

/-- The last step of a reading leaves the roll alone. -/
theorem roll_of_parse (types : r.setup.types = .builtin) (idle : r.machine.reading = false)
    (ran : parse .root feed r = (result, after)) :
    after.desk.roll =
      ((Handler.behaviour r.setup).dispatchAll feed.events (r.machine.opened .root feed)).2.work.roll := by
  replace ran := machine_of_parse ran
  rw [Behaviour.parse_idle idle] at ran
  have left := congrArg (·.2.work.roll) ran
  rw [roll_leave, Work.bind_apply] at left
  rw [desk, ← left]
  have read := Course.dispatchAll_follows types feed.events _ (course_leads r feed)
  rcases events : (Handler.behaviour r.setup).dispatchAll feed.events (r.machine.opened .root feed) with
    ⟨e | _, t⟩
  · rfl
  · rw [events] at read
    obtain ⟨y, _, leads⟩ := read
    have finished := Course.finish_ends feed.ending t leads
    have before : t.work.roll = y.stock.roll := leads.holds.roll
    change (Behaviour.finish feed.ending t).2.work.roll = t.work.roll
    rw [before]
    rcases done : Behaviour.finish feed.ending t with ⟨e | g, u⟩
    · rw [done] at finished
      exact finished.2
    · rw [done] at finished
      exact finished.2.roll

/-- While a document of built-in types is read, and after it, whether it could be read or not, the registry has
the names of the elements so far whose attributes were given to an object, each for the last of these objects,
which has this name itself, as have at most shapes from before. A reader in use reads nothing. -/
theorem parse_registry (types : r.setup.types = .builtin) :
    let b := Handler.behaviour r.setup
    let m := r.machine.opened .root feed
    (∀ es, es <+: feed.events →
      Registered (Roster.ofEvents r.setup (b.taken m es)).arrived
        { r with machine := (b.dispatchAll es m).2 }) ∧
    ∀ result after, parse .root feed r = (result, after) →
      if r.machine.reading then after = r
      else Registered (Roster.ofEvents r.setup (b.taken m feed.events)).arrived after := by
  intro b m
  have read (es : List Event) : (b.dispatchAll es m).2.work.roll =
      .ofArrivals (Roster.ofEvents r.setup (b.taken m es)).arrived :=
    Course.dispatchAll_roll types (course_leads r feed) (course_agrees r feed) es
  refine ⟨fun es _ => registered_of_roll (read es), fun result after ran => ?_⟩
  cases idle : r.machine.reading with
  | true =>
    rw [if_pos rfl]
    rw [parse_busy idle] at ran
    exact (Prod.mk.inj ran).2.symm
  | false => exact registered_of_roll ((roll_of_parse types idle ran).trans (read feed.events))

/-- Two shapes of one name, the second of which cannot be given all its attributes, and a named group that
makes no object. -/
def namesakes : Feed :=
  .ofEvents (document [] "pgml" [] (.element "rectangle" [("name", "port")] .empty
    (.element "group" [("name", "node")] .empty
      (.element "ellipse" [("name", "port"), ("x", "one")] .empty .empty))) [])

theorem parse_registry_of_namesakes :
    let r : Reader := ⟨.plain, ⟨[], false, Desk.fresh .builtin⟩⟩
    let after := (parse .root namesakes r).2
    (parse .root namesakes r).1 = .error (.malformed (.notInteger "x" "one")) ∧
    after.findShape? "port" = some ⟨1⟩ ∧ after.findShape? "node" = none ∧
    Registered (Roster.ofEvents r.setup (namesakes.events.take 6)).arrived after := by
  intro r after
  have failed : (parse .root namesakes r).1 = .error (.malformed (.notInteger "x" "one")) := by decide +kernel
  have came : (Handler.behaviour r.setup).taken (r.machine.opened .root namesakes) namesakes.events =
      namesakes.events.take 6 := by decide +kernel
  have types : r.setup.types = .builtin := rfl
  have left : parse .root namesakes r = ((parse .root namesakes r).1, after) := (Prod.eta _).symm
  have registered := (parse_registry types).2 _ after left
  rw [if_neg (by decide), came] at registered
  exact ⟨failed, by decide +kernel, by decide +kernel, registered⟩

end Reader

end Pgml
