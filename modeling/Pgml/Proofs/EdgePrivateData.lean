import Pgml.Proofs.ContentReading

/-! A document retold, without any desk, as what happens to names and private data; and what private
data does to the edges of a stock. -/
namespace Pgml

open Desk Vocabulary

/-! ## What happens in a document -/

inductive Happening where
  /-- A start tag made a shape. -/
  | made (name : Option String) (kind : String)
  /-- A shape was made for a private element, which has no use for it. -/
  | lost (kind : String)
  /-- A private element closed, and the container around it got its data. -/
  | delivered (c : Container) (data : Table String)
  deriving DecidableEq, Repr

namespace Happening

/-- The kind and the name of a shape that came to be. -/
def figure? : Happening → Option (String × Option String)
  | made name kind => some (kind, name)
  | lost kind => some (kind, none)
  | delivered .. => none

/-- The value that an edge is given for a key. -/
def gives? (id : ItemId) (key : String) : Happening → Option String
  | delivered (.edge other) data => if other = id then data.get? key else none
  | _ => none

end Happening

def Desk.Joint.key : Joint → String
  | sourcePort => "sourcePortFig"
  | destPort => "destPortFig"
  | sourceNode => "sourceFigNode"
  | destNode => "destFigNode"

def Connections.end? (c : Connections) : Joint → Option ItemId
  | .sourcePort => c.sourcePort
  | .destPort => c.destPort
  | .sourceNode => c.sourceNode
  | .destNode => c.destNode

/-- What happened so far, the latest first. -/
abbrev Chronicle := List Happening

namespace Chronicle

/-- The kinds and names of all shapes, in the order in which they came to be. -/
def figures (past : Chronicle) : List (String × Option String) :=
  (past.filterMap Happening.figure?).reverse

/-- The place of the next shape. -/
def place (past : Chronicle) : ItemId := ⟨past.figures.length⟩

/-- The shape of the last element with a name. -/
def bearer? (name : String) : Chronicle → Option ItemId
  | [] => none
  | .made other _ :: earlier => if other = some name then some (place earlier) else bearer? name earlier
  | _ :: earlier => bearer? name earlier

/-- The last value that an edge was given for a key, and what had happened before. -/
def latest? (id : ItemId) (key : String) : Chronicle → Option (String × Chronicle)
  | [] => none
  | happening :: earlier =>
    match happening.gives? id key with
    | some value => some (value, earlier)
    | none => latest? id key earlier

/-- The shape that an end of an edge leads to. -/
def target? (id : ItemId) (joint : Joint) (past : Chronicle) : Option ItemId :=
  (latest? id joint.key past).bind fun (name, earlier) => bearer? name earlier

/-- Whether an entry of an edge's data is an end without a shape of that name. -/
def isOpen (past : Chronicle) (entry : String × String) : Bool :=
  (Joint.ofKey? entry.1).isSome && (bearer? entry.2 past).isNone

/-- One report for each end of an edge that was given a name without a shape, the first one first. -/
def reports : Chronicle → List Notice
  | [] => []
  | .delivered (.edge id) data :: earlier =>
    reports earlier ++ (data.entries.filter (isOpen earlier)).map fun (key, name) =>
      .edgeUnknown ((figures earlier)[id.index]?.bind (·.2)) key name
  | _ :: earlier => reports earlier

end Chronicle

/-- What happens in content, after what happened before it. -/
def retell (setup : Setup) : Content → Container → Chronicle → Chronicle
  | .empty, _, past => past
  | .text _ rest, c, past => retell setup rest c past
  | .element name as inner rest, c, past =>
    retell setup rest c <|
      match setup.role name as with
      | .nothing => past
      | .relay lost =>
        .delivered c (PrivateData.parse inner.ownString) ::
          retell setup inner c (lost.elim past fun s => .lost s.kind :: past)
      | .shape s .closed => .made (as.value? "name") s.kind :: past
      | .shape s .group =>
        retell setup inner (.group past.place) (.made (as.value? "name") s.kind :: past)
      | .shape s .edge =>
        retell setup inner (.edge past.place) (.made (as.value? "name") s.kind :: past)

/-! ## Tags of shapes -/

/-- The kind and the name of a shape and, if it is an edge, its ends and its data. -/
structure Tag where
  kind : String
  name : Option String
  ends : Option (Connections × Table String)

def Shape.tag (s : Shape) : Tag :=
  ⟨s.kind, s.name,
    match s.variant with
    | .edge _ connections => some (connections, s.privateData)
    | _ => none⟩

/-- One entry of an edge's data put to its ends or to its data. -/
def Tag.put (names : Table ItemId) (entry : String × String) (ends : Connections × Table String) :
    Connections × Table String :=
  match Joint.ofKey? entry.1 with
  | some joint => (joint.set (names.get? entry.2) ends.1, ends.2)
  | none => (ends.1, ends.2.insert entry.1 entry.2)

def Tag.change (f : Connections × Table String → Connections × Table String) (t : Tag) : Tag :=
  { t with ends := t.ends.map f }

namespace Stock

variable {k : Stock} {c : Container} {as : Attributes} {s : Shape}

def tags (k : Stock) : List Tag := k.shapes.map Shape.tag

theorem length_tags : k.tags.length = k.shapes.length := List.length_map _

theorem tags_modify (id : ItemId) {f : Shape → Shape} {g : Tag → Tag} (same : ∀ s, (f s).tag = g s.tag) :
    (k.modify id f).tags = k.tags.modify id.index g := by
  refine List.ext_getElem? fun i => ?_
  simp only [tags, modify, List.getElem?_map, List.getElem?_modify]
  cases k.shapes[i]? with
  | none => rfl
  | some s => by_cases here : id.index = i <;> simp [here, same]

theorem tags_same (id : ItemId) {f : Shape → Shape} (same : ∀ s, (f s).tag = s.tag) :
    (k.modify id f).tags = k.tags := by
  rw [tags_modify (g := fun t => t) id same]
  exact List.modify_id ..

theorem tag_adopt (child : ItemId) (isPath : Bool) (s : Shape) : (s.adopt child isPath).tag = s.tag := by
  have kind := kind_adopt child isPath s
  obtain ⟨bounds, style, name, owner, data, variant⟩ := s
  cases variant with
  | edge path connections => rfl
  | _ => simp_all [Shape.tag, Shape.adopt, Variant.adopt]

theorem tags_receive (t : Shape) : (k.receive c as t).tags = k.tags ++ [t.tag] := by
  have offered (child : ItemId) (isPath : Bool) : (k.offer c child isPath).tags = k.tags := by
    cases c with
    | diagram | tray => rfl
    | group id => exact tags_same id (tag_adopt child isPath)
    | edge id => exact tags_same id (tag_adopt child isPath)
  have same : ((k.offer c k.next t.isPath).make t).tags = (k.offer c k.next t.isPath).tags ++ [t.tag] := by
    simp [tags, make]
  rw [offered] at same
  rw [← same, receive, ← offer_call]
  rfl

theorem tags_derive (id : ItemId) : (k.derive id).tags = k.tags := by
  refine tags_same id fun s => ?_
  split
  · split <;> rfl
  · rfl

/-- Names that lead to no shape. -/
def isOpen (k : Stock) (entry : String × String) : Bool :=
  (Joint.ofKey? entry.1).isSome && (k.names.get? entry.2).isNone

theorem setEntry_unknowns (id : ItemId) (key value : String) :
    (k.setEntry id key value).names = k.names ∧
    (k.setEntry id key value).unknowns = k.unknowns ++ ([(key, value)].filter k.isOpen).map fun entry =>
      .edgeUnknown (k.tags[id.index]?.bind (·.name)) entry.1 entry.2 := by
  unfold setEntry
  cases known : Joint.ofKey? key with
  | none => simp [isOpen, known, modify]
  | some joint =>
    cases target : k.names.get? value with
    | some target => simp [isOpen, known, target, modify]
    | none =>
      have name : k.tags[id.index]?.bind (·.name) = k.shapes[id.index]?.bind (·.name) := by
        simp only [tags, List.getElem?_map]
        cases k.shapes[id.index]? <;> rfl
      simp [isOpen, known, target, modify, report, name]

theorem tags_setEntry (id : ItemId) (key value : String) :
    (k.setEntry id key value).tags = k.tags.modify id.index (Tag.change (Tag.put k.names (key, value))) := by
  unfold setEntry
  cases known : Joint.ofKey? key with
  | none =>
    refine tags_modify id fun s => ?_
    obtain ⟨bounds, style, name, owner, data, variant⟩ := s
    cases variant with
    | edge path connections =>
      simp [Desk.addPrivate, Shape.tag, Tag.change, Tag.put, known, Table.insertAll, Shape.kind]
    | _ => rfl
  | some joint =>
    have linked (k : Stock) (target : Option ItemId) : (k.modify id (connect joint target)).tags =
        k.tags.modify id.index (Tag.change fun ends => (joint.set target ends.1, ends.2)) := by
      refine tags_modify id fun s => ?_
      obtain ⟨bounds, style, name, owner, data, variant⟩ := s
      cases variant <;> rfl
    have put : Tag.put k.names (key, value) =
        fun ends => (joint.set (k.names.get? value) ends.1, ends.2) := by
      funext ends
      simp [Tag.put, known]
    dsimp only
    rw [linked, put]
    split <;> rfl

theorem setEntries_tells (id : ItemId) (entries : List (String × String)) :
    (k.setEntries id entries).names = k.names ∧
    (k.setEntries id entries).tags = k.tags.modify id.index (Tag.change fun ends =>
      entries.foldl (fun ends entry => Tag.put k.names entry ends) ends) ∧
    (k.setEntries id entries).unknowns = k.unknowns ++ (entries.filter k.isOpen).map fun entry =>
      .edgeUnknown (k.tags[id.index]?.bind (·.name)) entry.1 entry.2 := by
  induction entries generalizing k with
  | nil =>
    refine ⟨rfl, ?_, by simp [setEntries]⟩
    have still : (Tag.change fun ends => ends) = fun t => t := by
      funext t
      simp [Tag.change]
    simp only [List.foldl_nil, still]
    exact (List.modify_id ..).symm
  | cons entry rest ih =>
    obtain ⟨key, value⟩ := entry
    obtain ⟨names, unknowns⟩ := setEntry_unknowns (k := k) id key value
    obtain ⟨names', tags', unknowns'⟩ := ih (k := k.setEntry id key value)
    have same : (k.setEntry id key value).isOpen = k.isOpen := by
      funext entry
      simp [isOpen, names]
    have name : (k.setEntry id key value).tags[id.index]?.bind (·.name) =
        k.tags[id.index]?.bind (·.name) := by
      rw [tags_setEntry]
      cases found : k.tags[id.index]? <;> simp [found, Tag.change]
    refine ⟨names'.trans names, ?_, ?_⟩
    · refine tags'.trans ?_
      rw [tags_setEntry, List.modify_modify_eq, names]
      congr 1
      funext t
      simp [Tag.change, Function.comp_def]
    · refine unknowns'.trans ?_
      rw [unknowns, same, name, List.append_assoc, ← List.map_append, ← List.filter_append]
      rfl

end Stock

/-! ## Ends and data of one edge -/

theorem Desk.Joint.ofKey_key (joint : Joint) : Joint.ofKey? joint.key = some joint := by
  cases joint <;> rfl

theorem Desk.Joint.key_of_ofKey {key : String} {joint : Joint} (known : Joint.ofKey? key = some joint) :
    key = joint.key := by
  unfold Joint.ofKey? at known
  split at known
  · obtain rfl := Option.some.inj known
    rfl
  · obtain rfl := Option.some.inj known
    rfl
  · obtain rfl := Option.some.inj known
    rfl
  · obtain rfl := Option.some.inj known
    rfl
  · contradiction

theorem Connections.end_set (joint other : Joint) (target : Option ItemId) (c : Connections) :
    (joint.set target c).end? other = if joint = other then target else c.end? other := by
  cases joint <;> cases other <;> rfl

namespace Table

variable {α : Type}

theorem lookup_eq_none {name : String} {entries : List (String × α)}
    (absent : name ∉ entries.map (·.1)) : lookup name entries = none := by
  induction entries with
  | nil => rfl
  | cons entry rest ih =>
    obtain ⟨key, value⟩ := entry
    simp only [List.map_cons, List.mem_cons, not_or] at absent
    rw [lookup, if_neg (Ne.symm absent.1), ih absent.2]

theorem nodup_ofList (entries : List (String × α)) : (ofList entries).names.Nodup := by
  suffices kept : ∀ t : Table α, t.names.Nodup → (t.insertAll entries).names.Nodup from kept empty .nil
  induction entries with
  | nil => exact fun _ start => start
  | cons entry rest ih =>
    intro t start
    exact ih _ (nodup_insert start entry.1 entry.2)

end Table

theorem PrivateData.nodup_parse (text : String) : (parse text).names.Nodup := Table.nodup_ofList _

/-- Entries under different keys do not disturb one another. -/
theorem Tag.puts (names : Table ItemId) {entries : List (String × String)}
    (distinct : (entries.map (·.1)).Nodup) (ends : Connections × Table String) :
    (∀ joint, (entries.foldl (fun ends entry => put names entry ends) ends).1.end? joint =
      match Table.lookup joint.key entries with
      | some name => names.get? name
      | none => ends.1.end? joint) ∧
    ∀ key, (entries.foldl (fun ends entry => put names entry ends) ends).2.get? key =
      if (Joint.ofKey? key).isSome then ends.2.get? key
      else (Table.lookup key entries).or (ends.2.get? key) := by
  induction entries generalizing ends with
  | nil => exact ⟨fun _ => rfl, fun key => by simp [Table.lookup]⟩
  | cons entry rest ih =>
    obtain ⟨first, value⟩ := entry
    simp only [List.map_cons, List.nodup_cons] at distinct
    obtain ⟨fresh, distinct⟩ := distinct
    obtain ⟨joints, others⟩ := ih distinct (put names (first, value) ends)
    refine ⟨fun joint => ?_, fun key => ?_⟩
    · rw [List.foldl_cons, joints, Table.lookup]
      by_cases here : first = joint.key
      · subst here
        simp [Table.lookup_eq_none fresh, put, Joint.ofKey_key, Connections.end_set]
      · rw [if_neg here]
        cases Table.lookup joint.key rest with
        | some name => rfl
        | none =>
          simp only [put]
          split
          next other known =>
            have different : other ≠ joint := by
              rintro rfl
              exact here (Joint.key_of_ofKey known)
            simp [Connections.end_set, different]
          next => rfl
    · rw [List.foldl_cons, others, Table.lookup]
      by_cases here : first = key
      · subst here
        simp only [Table.lookup_eq_none fresh, put, if_true]
        cases known : Joint.ofKey? first <;> simp
      · rw [if_neg here]
        have kept : (put names (first, value) ends).2.get? key = ends.2.get? key := by
          simp only [put]
          split
          next => rfl
          next => simp [Table.get?_insert, here]
        rw [kept]

end Pgml
