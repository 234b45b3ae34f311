import Pgml.Proofs.DrawnContent

/-! What a reader has after a document of built-in types: every shape of the document's ledger, each
dressed once, and an outline of those that were drawn. -/
namespace Pgml

open Desk Machine
open Work (Any Ensures)

/-! ## The root element -/

theorem shapes_of_rootDiagram {hintAttribute : String} {as : Attributes} {diagram : Diagram}
    (made : Vocabulary.rootDiagram hintAttribute as = .ok diagram) : diagram.shapes = [] := by
  obtain ⟨_, _, made⟩ := except_bind_eq_ok made
  obtain rfl := Except.ok.inj made
  rfl

theorem startRoot_ensures (setup : Setup) (name : String) (as : Attributes) (sk : Sketch) (o : Dress) :
    Ensures (Shows sk o) (Vocabulary.startRoot setup name as) fun h now =>
      h = .diagram ∧ sk.top = none ∧ Shows { sk with top := some [] } o now := by
  unfold Vocabulary.startRoot
  split
  · intro d h now shows ran
    obtain ⟨diagram, u, settled, ran⟩ := Work.bind_eq_ok ran
    rw [Work.settle_apply] at settled
    obtain ⟨made, rfl⟩ := Prod.mk.inj settled
    obtain ⟨_, v, noted, ran⟩ := Work.bind_eq_ok ran
    obtain ⟨shows, _⟩ := note_quiet rfl rfl sk o d () v shows noted
    obtain ⟨_, w, opened, answered⟩ := Work.bind_eq_ok ran
    obtain ⟨rfl, rfl⟩ : Handler.diagram = h ∧ w = now := by simpa using answered
    cases set : v.diagram with
    | some other => simp [setDiagram, set] at opened
    | none =>
      simp only [setDiagram, set, Prod.mk.injEq, true_and] at opened
      subst opened
      have unset : sk.top = none := by simp [← shows.sketch, sketch, set]
      refine ⟨rfl, unset, ?_, shows.dress⟩
      rw [← shows.sketch]
      simp [sketch, notices, shapes_of_rootDiagram made]
  · exact .fail _

theorem startElement_root (setup : Setup) (name : String) (as : Attributes) (sk : Sketch) (o : Dress) :
    Ensures (fun m => Shows sk o m.work) ((Handler.behaviour setup).startElement .root name as)
      fun next m => next = some .diagram ∧ sk.top = none ∧ Shows { sk with top := some [] } o m.work := by
  have opened : Ensures (Shows sk o) (do return some (← Vocabulary.startRoot setup name as))
      fun next now => next = some .diagram ∧ sk.top = none ∧ Shows { sk with top := some [] } o now := by
    refine (startRoot_ensures setup name as sk o).bind fun h => .pure ?_
    rintro now ⟨rfl, unset, shows⟩
    exact ⟨rfl, unset, shows⟩
  exact ensures_onWork opened

section

variable {setup : Setup} {sk : Sketch} {o : Dress}

/-- After the root element there is nothing but character data. -/
theorem rest_of_root (set : sk.top.isSome = true) (content : Content) :
    Ensures (fun m => Shows sk o m.work) (content.eval (Handler.behaviour setup) .root) fun _ m =>
      Shows sk o m.work ∧ ∃ texts : List String, content.events = texts.map .characters := by
  induction content with
  | empty => exact .pure fun m shows => ⟨shows, [], rfl⟩
  | text data rest ih =>
    intro m done t shows ran
    obtain ⟨shows, texts, word⟩ := ih m done t shows ran
    exact ⟨shows, data :: texts, by simp [Content.events, word]⟩
  | element name as inner rest =>
    intro m done t shows ran
    obtain ⟨next, u, asked, _⟩ := Work.bind_eq_ok ran
    obtain ⟨_, unset, _⟩ := startElement_root setup name as sk o m next u shows asked
    simp [unset] at set

def document (before : List String) (root : String) (as : Attributes) (inner : Content)
    (rest : List String) : List Event :=
  before.map .characters ++ .start root as :: (inner.events ++ .finish root :: rest.map .characters)

/-- Events are a document in one way. -/
theorem document_inj {before before' rest rest' : List String} {root root' : String}
    {as as' : Attributes} {inner inner' : Content}
    (same : document before root as inner rest = document before' root' as' inner' rest') :
    inner = inner' := by
  induction before generalizing before' with
  | nil =>
    cases before' with
    | nil =>
      obtain ⟨_, others⟩ : _ ∧ inner.events ++ _ = inner'.events ++ _ := by simpa [document] using same
      exact (Content.events_cancel others).1
    | cons => simp [document] at same
  | cons data before ih =>
    cases before' with
    | nil => simp [document] at same
    | cons data' before' =>
      obtain ⟨_, others⟩ := List.cons.inj same
      exact ih others

/-- What the initial handler reads without fault opens no diagram or is a document, and then the
content of its root element is drawn. -/
theorem root_draws (types : setup.types = .builtin) (content : Content) :
    Ensures (fun m => Shows sk o m.work) (content.eval (Handler.behaviour setup) .root) fun _ m =>
      Shows sk o m.work ∨
      ∃ before root as inner rest, content.events = document before root as inner rest ∧
        Draws setup .diagram 0 { sk with top := some [] } o (ledger setup inner 0 .free) m.work := by
  induction content with
  | empty => exact .pure fun m shows => .inl shows
  | text data rest ih =>
    intro m done t shows ran
    rcases ih m done t shows ran with shows | ⟨before, root, as, inner, after, word, draws⟩
    · exact .inl shows
    · exact .inr ⟨data :: before, root, as, inner, after, by simp [Content.events, word, document], draws⟩
  | element root as inner rest =>
    intro m done t shows ran
    obtain ⟨next, u, asked, ran⟩ := Work.bind_eq_ok ran
    obtain ⟨rfl, _, shows⟩ := startElement_root setup root as sk o m next u shows asked
    have visited : (visit setup inner root (some .diagram) >>= fun _ =>
        rest.eval (Handler.behaviour setup) .root) u = (.ok done, t) := by
      simp only [visit, bind_assoc]
      exact ran
    obtain ⟨_, v, read, ran⟩ := Work.bind_eq_ok visited
    have takes : Sketch.Takes { sk with top := some [] } .diagram .free := rfl
    have draws : Draws setup .diagram 0 { sk with top := some [] } o (ledger setup inner 0 .free) v.work :=
      visit_room (content_told types inner) rfl takes u () v shows read
    have set : v.work.sketch.top.isSome = true := by
      obtain ⟨_, tops, nodes, drawn⟩ := draws
      simp [drawn.sketch, Sketch.extend, Sketch.crown]
    obtain ⟨shows, after, word⟩ := rest_of_root set rest v done t ⟨rfl, rfl⟩ ran
    exact .inr ⟨[], root, as, inner, after, by simp [Content.events, word, document], draws.still shows⟩

end

/-! ## Documents -/

namespace Reader

/-- A reader after a document, by the entries of the document's ledger. -/
structure Accounts (r : Reader) (feed : Feed) (entries : List Entry) (diagram : Diagram)
    (after : Reader) : Prop where
  /-- The objects are the shapes of the ledger, made in its order. -/
  made : after.desk.items.toList.map (·.kind) = entries.map (·.shape.kind)
  /-- The outline visits the drawn ones of them, with their depths. -/
  outline : (Outline.ofObjects after.desk.items diagram.shapes).map (fun p => (p.depth, p.id)) =
    Entry.visible 0 entries
  ascends : ((Outline.ofObjects after.desk.items diagram.shapes).map (·.id.index)).Pairwise (· < ·)
  /-- There is one report for each shape that was refused or lost, and no other on where shapes went. -/
  reports : after.notices.filter Notice.isPlacing =
    (r.notices ++ feed.opening).filter Notice.isPlacing ++ entries.flatMap Entry.warnings
  never : ∀ n ∈ after.notices, (∃ kind container, n = .cannotAdd kind container) ∨
    (∃ container, n = .privateContainer container) → n ∈ r.notices ++ feed.opening
  /-- Names, looks and colours are those of shapes that were given their attributes once, in order. -/
  dressed : ∃ d, Entry.dressAll r.setup entries (r.machine.opened .root feed).work = (.ok (), d) ∧
    d.dress = after.desk.dress

theorem kind_of_warning {entries : List Entry} {n : Notice}
    (member : n ∈ entries.flatMap Entry.warnings) :
    (∃ edge kind, n = .edgeCannotTake edge kind) ∨ ∃ kind, n = .privateInstance kind := by
  obtain ⟨e, _, warned⟩ := List.mem_flatMap.mp member
  unfold Entry.warnings Fate.warnings at warned
  split at warned
  · exact .inl ⟨_, _, List.mem_singleton.mp warned⟩
  · exact .inr ⟨_, List.mem_singleton.mp warned⟩
  · contradiction
  · contradiction

theorem old_of_reports {old new : List Notice} {entries : List Entry}
    (reports : new.filter Notice.isPlacing = old.filter Notice.isPlacing ++ entries.flatMap Entry.warnings)
    {n : Notice} (member : n ∈ new) (unplaced : (∃ kind container, n = .cannotAdd kind container) ∨
      ∃ container, n = .privateContainer container) : n ∈ old := by
  have placing : n.isPlacing = true := by
    rcases unplaced with ⟨_, _, rfl⟩ | ⟨_, rfl⟩ <;> rfl
  have reported := List.mem_filter.mpr ⟨member, placing⟩
  rw [reports] at reported
  rcases List.mem_append.mp reported with before | warned
  · exact (List.mem_filter.mp before).1
  · rcases kind_of_warning warned with ⟨_, _, rfl⟩ | ⟨_, rfl⟩ <;> simp at unplaced

theorem outline_of_visits {items : Array Item} {ids : List ItemId} {entries : List Entry}
    (visits : Visits (items.toList.map Item.node) 0 ids (Entry.visible 0 entries))
    (size : items.size = entries.length) :
    (Outline.ofObjects items ids).map (fun p => (p.depth, p.id)) = Entry.visible 0 entries ∧
    ((Outline.ofObjects items ids).map (·.id.index)).Pairwise (· < ·) := by
  have start : ([] : List Nat).length = 0 := rfl
  rw [← start] at visits
  have outline : (Outline.ofObjects items ids).map (fun p => (p.depth, p.id)) = Entry.visible 0 entries :=
    visits.walk (size ▸ Entry.length_visible 0 entries)
  have places : (Outline.ofObjects items ids).map (·.id.index) =
      (Entry.visible 0 entries).map (·.2.index) := by
    rw [← outline, List.map_map]
    rfl
  rw [places]
  exact ⟨outline, (Entry.visible_ascends 0 entries).1⟩

theorem opened_sketch (r : Reader) (feed : Feed) : (r.machine.opened .root feed).work.sketch =
    ⟨[], none, (r.notices ++ feed.opening).filter Notice.isPlacing⟩ := by
  rw [opened_work]
  simp [sketch, cleared, addNotices, Desk.notices, Reader.notices, desk]

theorem accounts_of_drawn {feed : Feed} {r after : Reader} {diagram : Diagram} {now : Desk}
    {entries : List Entry} {tops : List ItemId} {nodes : List Node}
    (drawn : Drawn r.setup .diagram 0 { (r.machine.opened .root feed).work.sketch with top := some [] }
      (r.machine.opened .root feed).work.dress entries tops nodes now)
    (set : now.diagram = some diagram) (shows : Shows now.sketch now.dress after.desk) :
    Accounts r feed entries diagram after := by
  have whole : after.desk.sketch = ⟨nodes, some tops,
      (r.notices ++ feed.opening).filter Notice.isPlacing ++ entries.flatMap Entry.warnings⟩ := by
    rw [shows.sketch, drawn.sketch, opened_sketch]
    simp [Sketch.extend, Sketch.grow, Sketch.crown]
  have items : after.desk.items.toList.map Item.node = nodes := congrArg Sketch.nodes whole
  have reports : after.notices.filter Notice.isPlacing =
      (r.notices ++ feed.opening).filter Notice.isPlacing ++ entries.flatMap Entry.warnings :=
    congrArg Sketch.warnings whole
  have shapes : diagram.shapes = tops := by
    have top : now.sketch.top = some diagram.shapes := by simp [sketch, set]
    rw [← shows.sketch, whole] at top
    exact (Option.some.inj top).symm
  have size : after.desk.items.size = entries.length := by
    rw [← drawn.length, ← items]
    simp
  have visits : Visits (after.desk.items.toList.map Item.node) 0 diagram.shapes
      (Entry.visible 0 entries) := by
    have visits := drawn.visits [] [] (by simp [opened_sketch])
    rw [opened_sketch] at visits
    rw [shapes, items]
    simpa using visits
  obtain ⟨outline, ascends⟩ := outline_of_visits visits size
  have made : after.desk.items.toList.map (·.kind) = entries.map (·.shape.kind) := by
    have kinds := drawn.kinds
    rw [← items] at kinds
    simpa [Item.node, Function.comp_def] using kinds
  obtain ⟨d, ran, same⟩ := drawn.dress _ rfl
  exact ⟨made, outline, ascends, reports, fun _ => old_of_reports reports, d, ran,
    same.trans shows.dress.symm⟩

/-- No shape is lost, drawn twice or drawn out of order. After a document of built-in types that was
read without fault there is one object for each entry of the document's ledger. -/
theorem parse_ledger {feed : Feed} {r after : Reader} {diagram : Diagram}
    (types : r.setup.types = .builtin) (read : parse .root feed r = (.ok diagram, after)) :
    ∃ before root as inner rest, feed.events = document before root as inner rest ∧
      Accounts r feed (ledger r.setup inner 0 .free).1 diagram after := by
  rcases ran : (Handler.behaviour r.setup).parse .root feed r.machine with ⟨result, machine⟩
  obtain ⟨rfl, rfl⟩ : result = .ok diagram ∧ { r with machine := machine } = after := by
    simpa [parse, onMachine, Work.within, ran] using read
  obtain ⟨c, done, t, word, finished, set, closed⟩ := Content.eval_of_parse
    (Handler.leavesFrames r.setup) (Handler.blind r.setup) (by simp) ran
  rcases root_draws types c _ done t ⟨rfl, rfl⟩ finished with shows | told
  · -- Without a root element there would be no diagram to answer.
    have unset := congrArg Sketch.top shows.sketch
    have top : t.work.sketch.top = some diagram.shapes := by
      have diagram : t.work.diagram = some diagram := set
      simp [sketch, diagram]
    rw [opened_sketch, top] at unset
    contradiction
  · obtain ⟨before, root, as, inner, rest, whole, _, tops, nodes, drawn⟩ := told
    refine ⟨before, root, as, inner, rest, word.trans whole, accounts_of_drawn drawn set ?_⟩
    have noted : Quiet Any (note (.readDiagram diagram.name diagram.shapes.length)) := note_quiet rfl rfl
    obtain ⟨shows, _⟩ := noted _ _ t.work () machine.work ⟨rfl, rfl⟩ (by rw [closed]; rfl)
    exact shows

/-- A group with a lost text in it, and an edge that takes a path and refuses a group and a line. -/
def sheet : Content :=
  .element "group" [("description", "group")]
    (.element "ellipse" [] .empty
      (.element "private" [("description", "text")] (.element "rectangle" [] .empty .empty) .empty))
    (.element "group" [("description", "edge"), ("name", "e")]
      (.element "group" [("description", "group")] (.element "text" [] .empty .empty)
        (.element "path" [] .empty
          (.element "private" [] (.element "path" [("description", "line")] .empty .empty) .empty)))
      (.element "star" [("description", "ellipse")] .empty .empty))

theorem parse_ledger_of_sheet :
    let r : Reader := ⟨.plain, ⟨[], false, Desk.fresh .builtin⟩⟩
    let feed : Feed := .ofEvents (document [] "pgml" [] sheet [])
    (ledger .plain sheet 0 .free).1.map (fun e => (e.shape.kind, e.depth, e.fate)) =
      [("Group", 0, .drawn), ("Ellipse", 1, .drawn), ("Text", 1, .lost), ("Rectangle", 1, .drawn),
        ("Edge", 0, .drawn), ("Group", 1, .refused (some "e")), ("Text", 2, .hidden),
        ("Polygon", 1, .drawn), ("Line", 1, .refused (some "e")), ("Ellipse", 0, .drawn)] ∧
    ∃ diagram after, parse .root feed r = (.ok diagram, after) ∧
      (Outline.ofObjects after.desk.items diagram.shapes).map (fun p => (p.item.kind, p.depth)) =
        [("Group", 0), ("Ellipse", 1), ("Rectangle", 1), ("Edge", 0), ("Polygon", 1), ("Ellipse", 0)] ∧
      ∃ before root as inner rest, feed.events = document before root as inner rest ∧
        Accounts r feed (ledger r.setup inner 0 .free).1 diagram after := by
  intro r feed
  refine ⟨by decide +kernel, ?_⟩
  have shown : (parse .root feed r).1.toOption.map (fun diagram =>
      (Outline.ofObjects (parse .root feed r).2.desk.items diagram.shapes).map
        (fun p => (p.item.kind, p.depth))) =
      some [("Group", 0), ("Ellipse", 1), ("Rectangle", 1), ("Edge", 0), ("Polygon", 1), ("Ellipse", 0)] := by
    decide +kernel
  rcases ran : parse .root feed r with ⟨_ | diagram, after⟩
  · simp [ran, Except.toOption] at shown
  · simp only [ran, Except.toOption, Option.map_some, Option.some.injEq] at shown
    exact ⟨diagram, after, rfl, shown, parse_ledger rfl ran⟩

end Reader

end Pgml
