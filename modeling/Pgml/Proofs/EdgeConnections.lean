import Pgml.Proofs.EdgePrivateData

/-! Which shapes edges are joined to. An end of an edge is the last bearer of the last name it was given,
as things stood when the private element with that name closed. -/
namespace Pgml

open Desk Vocabulary

/-! ## Stocks and what happened -/

/-- Ends and data of an edge as they were given last. -/
structure Chronicle.Joins (past : Chronicle) (id : ItemId) (ends : Connections × Table String) : Prop where
  joints : ∀ joint, ends.1.end? joint = target? id joint past
  data : ∀ key, ends.2.get? key =
    if (Joint.ofKey? key).isSome then none else (latest? id key past).map (·.1)

/-- A stock after what happened; `old` are the reports of before. -/
structure Chronicle.Recounts (old : List Notice) (past : Chronicle) (k : Stock) : Prop where
  figures : k.tags.map (fun t => (t.kind, t.name)) = figures past
  names : ∀ name, k.names.get? name = bearer? name past
  joins : ∀ i t ends, k.tags[i]? = some t → t.ends = some ends → Joins past ⟨i⟩ ends
  /-- Nothing was given to edges that are not there yet. -/
  ahead : ∀ id key, k.tags.length ≤ id.index → latest? id key past = none
  unknowns : k.unknowns = old ++ reports past

namespace Chronicle

variable {old : List Notice} {past : Chronicle} {k l : Stock} {c : Container} {id : ItemId}

theorem latest_of_silent {happening : Happening} {key : String} (silent : happening.gives? id key = none) :
    latest? id key (happening :: past) = latest? id key past := by
  rw [latest?, silent]

theorem Joins.later {happening : Happening} {ends : Connections × Table String}
    (joins : Joins past id ends) (silent : ∀ key, happening.gives? id key = none) :
    Joins (happening :: past) id ends := by
  refine ⟨fun joint => ?_, fun key => ?_⟩
  · rw [joins.joints, target?, target?, latest_of_silent (silent _)]
  · rw [joins.data, latest_of_silent (silent _)]

/-- Data that an edge is given overrides what it was given before. -/
theorem Joins.put {ends : Connections × Table String} {data : Table String} {names : Table ItemId}
    (joins : Joins past id ends) (distinct : data.names.Nodup)
    (called : ∀ name, names.get? name = bearer? name past) :
    Joins (.delivered (.edge id) data :: past) id
      (data.entries.foldl (fun ends entry => Tag.put names entry ends) ends) := by
  obtain ⟨joints, others⟩ := Tag.puts names distinct ends
  have latest (key : String) : latest? id key (.delivered (.edge id) data :: past) =
      ((Table.lookup key data.entries).map (·, past)).or (latest? id key past) := by
    simp only [latest?, Happening.gives?, if_true, Table.get?]
    cases Table.lookup key data.entries <;> rfl
  refine ⟨fun joint => ?_, fun key => ?_⟩
  · rw [joints, target?, latest]
    cases Table.lookup joint.key data.entries with
    | some name => exact called name
    | none => exact joins.joints joint
  · rw [others, latest, joins.data]
    cases Table.lookup key data.entries <;> split <;> rfl

namespace Recounts

theorem of_tags (recounts : Recounts old past k) (tags : l.tags = k.tags) (names : l.names = k.names)
    (unknowns : l.unknowns = k.unknowns) : Recounts old past l where
  figures := tags ▸ recounts.figures
  names := names ▸ recounts.names
  joins := tags ▸ recounts.joins
  ahead := tags ▸ recounts.ahead
  unknowns := unknowns ▸ recounts.unknowns

theorem place (recounts : Recounts old past k) : past.place = k.next := by
  have length := congrArg List.length recounts.figures
  rw [List.length_map, Stock.length_tags] at length
  exact congrArg ItemId.mk length.symm

/-- A happening that gives nothing to any edge. -/
theorem add {happening : Happening} {t : Tag} (recounts : Recounts old past k)
    (silent : ∀ id key, happening.gives? id key = none) (figure : happening.figure? = some (t.kind, t.name))
    (fresh : ∀ ends, t.ends = some ends → ends = (.none, .empty)) (tags : l.tags = k.tags ++ [t])
    (names : ∀ name, l.names.get? name = bearer? name (happening :: past))
    (unknowns : l.unknowns = k.unknowns) (told : reports (happening :: past) = reports past) :
    Recounts old (happening :: past) l where
  figures := by simp [tags, Chronicle.figures, figure, recounts.figures]
  names := names
  joins i u ends found linked := by
    have later : ∀ id key, latest? id key (happening :: past) = latest? id key past :=
      fun id key => latest_of_silent (silent id key)
    rw [tags] at found
    by_cases before : i < k.tags.length
    · rw [List.getElem?_append_left before] at found
      exact (recounts.joins i u ends found linked).later (silent _)
    · rw [List.getElem?_append_right (by omega)] at found
      obtain ⟨_, rfl⟩ : i - k.tags.length = 0 ∧ t = u := by simpa [List.getElem?_singleton] using found
      obtain rfl := fresh ends linked
      have nothing (key : String) : latest? ⟨i⟩ key (happening :: past) = none :=
        (later _ key).trans (recounts.ahead ⟨i⟩ key (by simpa using before))
      refine ⟨fun joint => ?_, fun key => ?_⟩
      · rw [target?, nothing]
        cases joint <;> rfl
      · rw [nothing]
        split <;> rfl
  ahead id key beyond := by
    rw [latest_of_silent (silent id key)]
    refine recounts.ahead id key ?_
    rw [tags, List.length_append] at beyond
    omega
  unknowns := by rw [unknowns, told, recounts.unknowns]

theorem receive {t : Shape} {as : Attributes} (recounts : Recounts old past k)
    (name : t.name = as.value? "name") (fresh : ∀ ends, t.tag.ends = some ends → ends = (.none, .empty))
    (c : Container) : Recounts old (.made (as.value? "name") t.kind :: past) (k.receive c as t) := by
  have kept : (k.receive c as t).names = (k.call (as.value? "name") k.next).names ∧
      (k.receive c as t).unknowns = k.unknowns := by cases c <;> exact ⟨rfl, rfl⟩
  refine recounts.add (t := t.tag) (fun _ _ => rfl) ?_ fresh (Stock.tags_receive t) ?_ kept.2 rfl
  · simp [Happening.figure?, Shape.tag, name]
  · intro other
    rw [kept.1, bearer?, recounts.place]
    cases given : as.value? "name" with
    | none => simpa [Stock.call] using recounts.names other
    | some name => simp [Stock.call, Table.get?_insert, recounts.names other]

theorem lost {s : Shape} (recounts : Recounts old past k) (name : s.name = none)
    (fresh : ∀ ends, s.tag.ends = some ends → ends = (.none, .empty)) :
    Recounts old (.lost s.kind :: past) (k.make s) := by
  refine recounts.add (t := s.tag) (fun _ _ => rfl) ?_ fresh ?_ (fun other => ?_) rfl rfl
  · simp [Happening.figure?, Shape.tag, name]
  · simp [Stock.tags, Stock.make]
  · exact recounts.names other

/-- Data that goes elsewhere than to an edge. -/
theorem pass (recounts : Recounts old past k) {data : Table String} (elsewhere : ∀ id, c ≠ .edge id)
    (tags : l.tags = k.tags) (names : l.names = k.names) (unknowns : l.unknowns = k.unknowns) :
    Recounts old (.delivered c data :: past) l := by
  have silent (id : ItemId) (key : String) : (Happening.delivered c data).gives? id key = none := by
    cases c with
    | edge other => exact (elsewhere other rfl).elim
    | _ => rfl
  have same := recounts.of_tags tags names unknowns
  have told : reports (.delivered c data :: past) = reports past := by
    cases c with
    | edge other => exact (elsewhere other rfl).elim
    | _ => rfl
  refine ⟨same.figures, same.names, fun i t ends found linked => ?_, fun id key beyond => ?_, ?_⟩
  · exact (same.joins i t ends found linked).later (silent _)
  · rw [latest_of_silent (silent id key)]
    exact same.ahead id key beyond
  · rw [told]
    exact same.unknowns

theorem deliver_edge (recounts : Recounts old past k) (bound : id.index < k.shapes.length)
    {data : Table String} (distinct : data.names.Nodup) :
    Recounts old (.delivered (.edge id) data :: past) (k.setEntries id data.entries) := by
  obtain ⟨names, tags, unknowns⟩ := Stock.setEntries_tells (k := k) id data.entries
  have silent (other : ItemId) (different : other ≠ id) (key : String) :
      (Happening.delivered (.edge id) data).gives? other key = none := if_neg (Ne.symm different)
  refine ⟨?_, ?_, ?_, ?_, ?_⟩
  · have same : (k.tags.modify id.index (Tag.change fun ends =>
        data.entries.foldl (fun ends entry => Tag.put k.names entry ends) ends)).map
          (fun t => (t.kind, t.name)) = k.tags.map fun t => (t.kind, t.name) := by
      refine List.ext_getElem? fun i => ?_
      simp only [List.getElem?_map, List.getElem?_modify]
      cases k.tags[i]? with
      | none => rfl
      | some t => by_cases here : id.index = i <;> simp [here, Tag.change]
    rw [tags, same, recounts.figures]
    rfl
  · rw [names]
    exact recounts.names
  · intro i t ends found linked
    rw [tags, List.getElem?_modify] at found
    obtain ⟨u, before, rfl⟩ := Option.map_eq_some_iff.mp found
    by_cases here : id.index = i
    · subst here
      obtain ⟨given, before', rfl⟩ : ∃ given, u.ends = some given ∧
          data.entries.foldl (fun ends entry => Tag.put k.names entry ends) given = ends := by
        simpa [Tag.change] using linked
      exact (recounts.joins id.index u given before before').put distinct recounts.names
    · rw [if_neg here] at linked
      refine (recounts.joins i u ends before linked).later (silent ⟨i⟩ ?_)
      rintro rfl
      exact here rfl
  · intro other key beyond
    rw [tags, List.length_modify] at beyond
    rw [latest_of_silent (silent other ?_ key)]
    · exact recounts.ahead other key beyond
    · rintro rfl
      rw [Stock.length_tags] at beyond
      omega
  · have same : k.isOpen = isOpen past := by
      funext entry
      simp [Stock.isOpen, isOpen, recounts.names]
    have name : k.tags[id.index]?.bind (·.name) = (Chronicle.figures past)[id.index]?.bind (·.2) := by
      rw [← recounts.figures, List.getElem?_map]
      cases k.tags[id.index]? <;> rfl
    rw [unknowns, same, name, recounts.unknowns, List.append_assoc]
    rfl

theorem deliver (recounts : Recounts old past k) (fits : k.Fits c) {data : Table String}
    (distinct : data.names.Nodup) : Recounts old (.delivered c data :: past) (k.deliver data c) := by
  cases c with
  | diagram => exact recounts.pass (by simp) rfl rfl rfl
  | tray => exact fits.elim
  | edge id => exact recounts.deliver_edge (Stock.has_bound fits) distinct
  | group id =>
    obtain ⟨s, found, kind⟩ := Option.map_eq_some_iff.mp fits
    obtain ⟨children, variant⟩ := kind_group kind
    have tags : (k.deliver data (.group id)).tags = k.tags := by
      have same : k.deliver data (.group id) =
          k.modify id fun _ => { s with privateData := s.privateData.insertAll data.entries } :=
        Stock.modify_congr found rfl
      have kept : k.modify id (fun _ => s) = k := Stock.modify_self found rfl
      rw [same]
      refine (Stock.tags_modify (g := fun _ => s.tag) id fun _ => ?_).trans ?_
      · simp [Shape.tag, variant, Shape.kind]
      · exact (Stock.tags_modify id fun _ => rfl).symm.trans (congrArg Stock.tags kept)
    exact recounts.pass (by simp) tags rfl rfl

end Recounts

end Chronicle

section

variable {setup : Setup} {p : Palette} {old : List Notice} {c : Container} {k l : Stock} {s t : Shape}
  {as : Attributes} {name : String}

theorem fresh_ends (fresh : s.Fresh) (kin : s.Kin t) (ends : Connections × Table String)
    (linked : t.tag.ends = some ends) : ends = (.none, .empty) := by
  obtain ⟨variant, data⟩ := kin
  simp only [Shape.tag] at linked
  split at linked
  next path connections edge =>
    obtain rfl := Option.some.inj linked
    rw [edge] at variant
    generalize same : s.variant = v at variant
    cases variant with
    | refl => rw [fresh.unjoined _ _ same, data, fresh.privateData]
  next => contradiction

theorem name_of_finished (types : setup.types = .builtin) {interior : Interior}
    (role : setup.role name as = .shape s interior) (finished : s.finish setup p as name = .ok t) :
    t.name = as.value? "name" := by
  rw [(Shape.finish_kin finished).2, (fresh_of_role types role).1.plain.name, Option.or_none]

/-- Reading goes as it is retold. -/
theorem Reads.recounts (types : setup.types = .builtin) {content : Content} {past : Chronicle}
    (reads : Reads setup p content c k l) (fits : k.Fits c) (sound : k.Sound)
    (recounts : past.Recounts old k) : (retell setup content c past).Recounts old l := by
  induction reads generalizing past with
  | empty => exact recounts
  | text _ _ ih => exact ih fits sound recounts
  | nothing role _ ih =>
    simp only [retell, role]
    exact ih fits sound recounts
  | @relay _ _ lost inner _ c k m l role before _ inside ih =>
    simp only [retell, role]
    have first := grown_lost types role sound
    have begun : Chronicle.Recounts old (lost.elim past fun s => .lost s.kind :: past)
        (lost.elim k k.make) := by
      cases lost with
      | none => exact recounts
      | some s =>
        have fresh := fresh_of_lost types role
        exact recounts.lost fresh.plain.name (fresh_ends fresh (.refl s))
    have within := inside (first.fits c fits) first.sound begun
    have second := first.trans (before.grown types first.sound)
    have delivered := within.deliver (second.fits c fits) (PrivateData.nodup_parse inner.ownString)
    exact ih ((second.deliver _ _).fits c fits) (second.deliver _ _).sound delivered
  | @closed name as s t u _ _ c _ _ role finished filled _ ih =>
    simp only [retell, role]
    have fresh := (fresh_of_role types role).1
    have filling := Shape.fill_tuned filled
    have kin := (Shape.finish_kin finished).1.trans filling.kin
    have named : u.name = as.value? "name" := filling.same.name.trans (name_of_finished types role finished)
    have kind : u.kind = s.kind := kin.variant.kind
    have grown := grown_receive types role kin sound c
    have received := recounts.receive named (fresh_ends fresh kin) c
    rw [kind] at received
    exact ih (grown.fits c fits) grown.sound received
  | @group name as s t derive _ _ c k m _ role finished _ within _ inside ih =>
    simp only [retell, role]
    have fresh := (fresh_of_role types role).1
    have kin := (Shape.finish_kin finished).1
    have kind : t.kind = s.kind := kin.variant.kind
    have grown := grown_receive types role kin sound c
    have received := recounts.receive (name_of_finished types role finished) (fresh_ends fresh kin) c
    rw [kind] at received
    have room : (k.receive c as t).Fits (.group k.next) := room_of_group types role kin
    have read := inside room grown.sound received
    have second := (grown.trans (within.grown types grown.sound)).derive k.next derive
    rw [recounts.place]
    refine ih (second.fits c fits) second.sound ?_
    split
    · exact read.of_tags (Stock.tags_derive _) rfl rfl
    · exact read
  | @edge name as s t _ _ c k _ _ role finished within _ inside ih =>
    simp only [retell, role]
    have fresh := (fresh_of_role types role).1
    have kin := (Shape.finish_kin finished).1
    have kind : t.kind = s.kind := kin.variant.kind
    have grown := grown_receive types role kin sound c
    have received := recounts.receive (name_of_finished types role finished) (fresh_ends fresh kin) c
    rw [kind] at received
    have room : (k.receive c as t).Fits (.edge k.next) := room_of_edge role kin
    have second := grown.trans (within.grown types grown.sound)
    rw [recounts.place]
    exact ih (second.fits c fits) second.sound (inside room grown.sound received)

end

/-! ## Documents -/

namespace Reader

/-- A reader after a document: its edges, by what happened in the document. -/
structure Connected (old : List Notice) (past : Chronicle) (after : Reader) : Prop where
  /-- Places of shapes are those of the chronicle. -/
  figures : after.desk.items.toList.map (fun item => (item.kind, item.name?)) = past.figures
  /-- An end that was given a name leads to the last element of that name before, if there is one. -/
  joints : ∀ id s path connections, after.desk.shape? id = some s → s.variant = .edge path connections →
    ∀ joint, connections.end? joint = Chronicle.target? id joint past
  /-- All other data of an edge is kept as it was given last. -/
  data : ∀ id s path connections, after.desk.shape? id = some s → s.variant = .edge path connections →
    ∀ key, s.privateData.get? key =
      if (Joint.ofKey? key).isSome then none else (Chronicle.latest? id key past).map (·.1)
  /-- There is one report for each name that leads nowhere. -/
  reports : after.notices.filter Notice.isUnknown = old.filter Notice.isUnknown ++ past.reports

/-- Edges are joined to the right shapes. After a document of built-in types that was read without
fault, an end of an edge is the last shape that had the name the end was given last, among those whose
start tags come before the end of the private element; names of shapes that come later, and all that
was read before the document, make no difference. -/
theorem parse_connections {feed : Feed} {r after : Reader} {diagram : Diagram}
    (types : r.setup.types = .builtin) (read : parse .root feed r = (.ok diagram, after)) :
    ∃ before root as inner rest, feed.events = document before root as inner rest ∧
      Connected (r.notices ++ feed.opening) (retell r.setup inner .diagram []) after := by
  obtain ⟨before, root, as, inner, rest, g, l, word, reads, holds⟩ := reads_of_parse types read
  refine ⟨before, root, as, inner, rest, word, ?_⟩
  have sound : ((r.opening feed).crown g).Sound := by simp [Stock.Sound, Stock.crown, opening]
  have start : Chronicle.Recounts ((r.notices ++ feed.opening).filter Notice.isUnknown) []
      ((r.opening feed).crown g) := by
    refine ⟨rfl, fun _ => rfl, fun i t ends found => ?_, fun _ _ _ => rfl, (List.append_nil _).symm⟩
    simp [Stock.tags, Stock.crown, opening] at found
  have recounts := reads.recounts types trivial sound start
  have joins (id : ItemId) (s : Shape) (path : Option ItemId) (connections : Connections)
      (found : after.desk.shape? id = some s) (variant : s.variant = .edge path connections) :
      Chronicle.Joins (retell r.setup inner .diagram []) id (connections, s.privateData) := by
    rw [holds.shape?] at found
    refine recounts.joins id.index s.tag _ ?_ ?_
    · simp [Stock.tags, found]
    · simp [Shape.tag, variant]
  refine ⟨?_, ?_, ?_, ?_⟩
  · rw [holds.items, List.map_map, ← recounts.figures, Stock.tags, List.map_map]
    rfl
  · intro id s path connections found variant
    exact (joins id s path connections found variant).joints
  · intro id s path connections found variant
    exact (joins id s path connections found variant).data
  · exact holds.unknowns.trans recounts.unknowns

/-- An edge that refers to a shape before it, to itself, to its path, to a shape it refuses and, last
of all, to one that comes too late. -/
def links : Content :=
  .element "rectangle" [("name", "a")] .empty
    (.element "group" [("description", "edge"), ("name", "e")]
      (.element "private" [] (.text "sourcePortFig=\"a\" destFigNode=\"e\" color=\"red\"" .empty)
        (.element "path" [("name", "a")] .empty
          (.element "ellipse" [("name", "b")] .empty
            (.element "private" []
              (.text "sourceFigNode = \"a\" destPortFig=\"b\""
                (.text "color=\"blue\" sourcePortFig=\"z\"" .empty))
              .empty))))
      (.element "text" [("name", "z")] .empty (.element "rectangle" [("name", "a")] .empty .empty)))

theorem parse_connections_of_links :
    let r : Reader := ⟨.plain, ⟨[], false, Desk.fresh .builtin⟩⟩
    let feed : Feed := .ofEvents (document [] "pgml" [] links [])
    let past := retell .plain links .diagram []
    past.figures = [("Rectangle", some "a"), ("Edge", some "e"), ("Polygon", some "a"), ("Ellipse", some "b"),
      ("Text", some "z"), ("Rectangle", some "a")] ∧
    [Joint.sourcePort, .destPort, .sourceNode, .destNode].map (Chronicle.target? ⟨1⟩ · past) =
      [none, some ⟨3⟩, some ⟨2⟩, some ⟨1⟩] ∧
    (Chronicle.latest? ⟨1⟩ "color" past).map (·.1) = some "blue" ∧
    past.reports = [.edgeUnknown (some "e") "sourcePortFig" "z"] ∧
    ∃ diagram after, parse .root feed r = (.ok diagram, after) ∧
      ∃ before root as inner rest, feed.events = document before root as inner rest ∧
        Connected (r.notices ++ feed.opening) (retell r.setup inner .diagram []) after := by
  intro r feed past
  refine ⟨by decide +kernel, by decide +kernel, by decide +kernel, by decide +kernel, ?_⟩
  have fine : (parse .root feed r).1.isOk = true := by decide +kernel
  rcases ran : parse .root feed r with ⟨_ | diagram, after⟩
  · simp [ran, Except.isOk, Except.toBool] at fine
  · exact ⟨diagram, after, rfl, parse_connections rfl ran⟩

end Reader

end Pgml
