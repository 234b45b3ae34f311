import Pgml.Proofs.GroupBoxes
import Pgml.Proofs.StartTagPlaces
import Pgml.Proofs.NumericAttributes
import Pgml.Proofs.ShapeOwners
import Pgml.Proofs.HintTokens

/-! Boxes in type hints. The tokens of a group's type hint behind the type are its box, whatever else the
element and its content say; too few of them, or one that is no integer, make the document malformed. -/
namespace Pgml

open Desk Vocabulary Machine

/-! ## Tokens as a box -/

namespace Attributes

variable {as : Attributes}

/-- The box that attributes say is made of what they hold. -/
theorem boxes_of_box? {box : Option Bounds} (said : as.box? = .ok box) (old : Bounds) :
    as.Boxes old (box.getD old) := by
  obtain ⟨x, atX, said⟩ := except_bind_eq_ok said
  have x_holds := holds_of_int? atX
  cases x with
  | none =>
    obtain rfl := Except.ok.inj said
    exact .inl ⟨x_holds, rfl⟩
  | some x =>
    obtain ⟨_, atY, said⟩ := except_bind_eq_ok said
    obtain ⟨_, wide, said⟩ := except_bind_eq_ok said
    obtain ⟨_, high, said⟩ := except_bind_eq_ok said
    obtain rfl := Except.ok.inj said
    obtain ⟨y, y_holds, rfl⟩ := holds_of_int atY
    obtain ⟨width, width_holds, rfl⟩ := holds_of_int wide
    obtain ⟨height, height_holds, rfl⟩ := holds_of_int high
    exact .inr ⟨x, y, width, height, x_holds, y_holds, width_holds, height_holds, rfl⟩

/-! ## Lists of integers -/

variable {values : List String} {ns : List Int} {key : String}

/-- Texts that are not too long are read as integers if each of them denotes one. -/
theorem mapM_toInt_eq_ok_iff (short : ∀ value ∈ values, ¬ Overlong value) :
    values.mapM (toInt · key) = .ok ns ↔ List.Forall₂ Denotes values ns := by
  induction values generalizing ns with
  | nil => simp [eq_comm]
  | cons value rest ih =>
    obtain ⟨first, others⟩ := List.forall_mem_cons.mp short
    rw [List.mapM_cons]
    constructor
    · intro read
      obtain ⟨n, here, read⟩ := except_bind_eq_ok read
      obtain ⟨more, there, read⟩ := except_bind_eq_ok read
      obtain rfl := Except.ok.inj read
      exact .cons (denotes_of_toInt here) ((ih others).mp there)
    · intro denotes
      cases denotes with
      | cons here later => simp [toInt_of_denotes here first, (ih others).mpr later]

/-- Only a text that denotes no integer makes them malformed. -/
theorem mapM_toInt_malformed_iff (short : ∀ value ∈ values, ¬ Overlong value) :
    (∃ cause, values.mapM (toInt · key) = .error (.malformed cause)) ↔ ∃ value ∈ values, ∀ n, ¬ Denotes value n := by
  induction values with
  | nil => simp
  | cons value rest ih =>
    obtain ⟨first, others⟩ := List.forall_mem_cons.mp short
    rw [List.mapM_cons, List.exists_mem_cons_iff, ← ih others]
    cases read : toInt value key with
    | error e =>
      obtain ⟨nothing, rfl⟩ := toInt_eq_error first read
      exact iff_of_true ⟨_, rfl⟩ (.inl nothing)
    | ok n =>
      have something : ¬ ∀ k, ¬ Denotes value k := fun nothing => nothing n (denotes_of_toInt read)
      cases rest.mapM (toInt · key) <;> simp [something]

end Attributes

namespace Vocabulary

open Attributes

variable {geometry : List String} {box : Bounds} {e : Fault}

theorem hintBounds_of_few (few : geometry.length < 4) :
    hintBounds geometry = .error (.malformed (.shortGeometry geometry)) := by
  unfold hintBounds
  split
  · simp at few
    omega
  · rfl

theorem exists_four (four : 4 ≤ geometry.length) : ∃ a b c d rest, geometry = a :: b :: c :: d :: rest := by
  match geometry, four with
  | a :: b :: c :: d :: rest, _ => exact ⟨a, b, c, d, rest, rfl⟩

/-- Four tokens or more are read like a list of four integers. -/
theorem hintBounds_of_four (four : 4 ≤ geometry.length) :
    (hintBounds geometry = .ok box ↔
      (geometry.take 4).mapM (toInt · "group geometry") = .ok [box.x, box.y, box.width, box.height]) ∧
    (hintBounds geometry = .error e ↔ (geometry.take 4).mapM (toInt · "group geometry") = .error e) := by
  obtain ⟨a, b, c, d, rest, rfl⟩ := exists_four four
  obtain ⟨x, y, width, height⟩ := box
  simp only [hintBounds, List.take_succ_cons, List.take_zero, List.mapM_cons, List.mapM_nil]
  cases toInt a "group geometry" with
  | error => simp
  | ok => cases toInt b "group geometry" with
    | error => simp
    | ok => cases toInt c "group geometry" with
      | error => simp
      | ok => cases toInt d "group geometry" <;> simp

/-- Four tokens are the box if they denote its parts. -/
theorem hintBounds_eq_ok_iff (four : 4 ≤ geometry.length) (short : ∀ value ∈ geometry.take 4, ¬ Overlong value) :
    hintBounds geometry = .ok box ↔
      List.Forall₂ Denotes (geometry.take 4) [box.x, box.y, box.width, box.height] :=
  (@hintBounds_of_four geometry box .noEvent four).1.trans (mapM_toInt_eq_ok_iff short)

/-- Four tokens are refused if and only if one of them is no integer. -/
theorem hintBounds_malformed_iff (four : 4 ≤ geometry.length)
    (short : ∀ value ∈ geometry.take 4, ¬ Overlong value) :
    (∃ cause, hintBounds geometry = .error (.malformed cause)) ↔
      ∃ value ∈ geometry.take 4, ∀ n, ¬ Denotes value n := by
  rw [← mapM_toInt_malformed_iff short]
  exact exists_congr fun cause => (@hintBounds_of_four geometry .zero (.malformed cause) four).2

end Vocabulary

/-! ## Groups with a type hint -/

section

variable {setup : Setup} {p : Palette} {as : Attributes} {hint type : String} {geometry : List String} {box : Bounds}
  {boxes : List Bounds} {e : Fault}

theorem Setup.geometry_of_hint (hinted : as.value? setup.config.hintAttribute = some hint)
    (tokens : Attributes.hintTokens hint = type :: geometry) : setup.geometry as = geometry := by
  simp [Setup.geometry, hinted, tokens]

/-- A group element whose type hint says that it is a group. -/
theorem Setup.role_of_group (types : setup.types = .builtin)
    (hinted : as.value? setup.config.hintAttribute = some hint)
    (tokens : Attributes.hintTokens hint = type :: geometry) (group : setup.translate type = "group") :
    setup.role "group" as = .shape (.ofVariant .emptyGroup) .group := by
  have made : setup.made? type = some (.ofVariant .emptyGroup) := by
    rw [Setup.made?, types, group]
    rfl
  simp [Setup.role, Setup.hinted?, hinted, tokens, made, Setup.interior, Shape.ofVariant, Variant.emptyGroup]

/-- Without tokens behind the type the box is left to the attributes, and without an `x` to the children. -/
theorem Setup.groupBox_of_nil (bare : setup.geometry as = []) (told : setup.groupBox as boxes = .ok box) :
    (as.value? "x" ≠ none → as.Boxes .zero box) ∧
      (as.value? "x" = none → box = (Bounds.union? boxes).getD .zero) := by
  unfold Setup.groupBox at told
  rw [bare] at told
  obtain ⟨own, said, told⟩ := except_bind_eq_ok told
  have present := Attributes.isNone_box? said
  cases own with
  | none =>
    obtain rfl := Except.ok.inj told
    have absent : as.value? "x" = none := by simpa using present.symm
    exact ⟨fun there => absurd absent there, fun _ => rfl⟩
  | some own =>
    obtain rfl := Except.ok.inj told
    refine ⟨fun _ => Attributes.boxes_of_box? said .zero, fun absent => ?_⟩
    simp [absent] at present

theorem Setup.groupBox_of_four (four : 4 ≤ (setup.geometry as).length) :
    setup.groupBox as boxes = hintBounds (setup.geometry as) := by
  obtain ⟨a, b, c, d, rest, geometry⟩ := exists_four four
  rw [Setup.groupBox, geometry]
  rfl

namespace Shape

/-- Attributes that are proper and have an owner that there is are given to any shape. -/
theorem exists_attributed (proper : as.Proper) (linked : ∀ href, as.value? "href" = some href → ¬ setup.Lacks href)
    (s : Shape) : ∃ t, s.attributed setup p as = .ok t := by
  cases attributed : s.attributed setup p as with
  | ok t => exact ⟨t, rfl⟩
  | error e =>
    rcases except_bind_eq_error attributed with failed | ⟨t, _, failed⟩
    · obtain ⟨t, styled⟩ := (styled_iff (p := p) setup.defaults).mpr proper
      exact absurd (failed.symm.trans styled) (by simp)
    · obtain ⟨href, present, absent, _⟩ := owned_eq_error.mp failed
      exact absurd (Setup.owner?_eq_none_iff.mp absent) (linked href present)

/-- With such attributes a group is refused for the tokens of its type hint alone. -/
theorem finish_group_error_iff (proper : as.Proper)
    (linked : ∀ href, as.value? "href" = some href → ¬ setup.Lacks href) :
    (ofVariant .emptyGroup).finish setup p as "group" = .error e ↔
      setup.geometry as ≠ [] ∧ hintBounds (setup.geometry as) = .error e := by
  obtain ⟨t, attributed⟩ := exists_attributed (p := p) proper linked (ofVariant .emptyGroup)
  have finish : (ofVariant .emptyGroup).finish setup p as "group" =
      if (setup.geometry as).isEmpty then .ok t
      else hintBounds (setup.geometry as) >>= fun box => .ok (t.withBounds box) := by
    change ((ofVariant .emptyGroup).attributed setup p as >>= fun t => _) = _
    rw [attributed]
    rfl
  rw [finish]
  cases setup.geometry as with
  | nil => simp
  | cons token more => cases hintBounds (token :: more) <;> simp

end Shape

end

namespace Reader

variable {r after : Reader} {feed : Feed} {diagram : Diagram} {before : List Event} {as : Attributes}
  {geometry : List String}

/-- A group element that is reached in a room, whose type hint is written from a type and other tokens and whose
other attributes are fine. -/
structure Hints (r : Reader) (feed : Feed) (before : List Event) (as : Attributes) (geometry : List String) :
    Prop where
  reaches : r.Reaches feed before "group" as
  room : (Roster.ofEvents r.setup before).levels.head? = some .room
  proper : as.Proper
  linked : ∀ href, as.value? "href" = some href → ¬ r.setup.Lacks href
  hint : ∃ hint type, as.value? r.setup.config.hintAttribute = some hint ∧
    Attributes.Spells hint (type :: geometry) ∧ r.setup.translate type = "group"

namespace Hints

theorem role (types : r.setup.types = .builtin) (hints : r.Hints feed before as geometry) :
    r.setup.role "group" as = .shape (.ofVariant .emptyGroup) .group ∧ r.setup.geometry as = geometry := by
  obtain ⟨hint, type, hinted, spells, group⟩ := hints.hint
  have tokens := Attributes.hintTokens_of_spells spells
  exact ⟨Setup.role_of_group types hinted tokens group, Setup.geometry_of_hint hinted tokens⟩

theorem refused_iff (types : r.setup.types = .builtin) (hints : r.Hints feed before as geometry) {e : Fault} :
    r.outcome feed (before ++ [.start "group" as]) = .error e ↔
      geometry ≠ [] ∧ hintBounds geometry = .error e := by
  obtain ⟨role, rfl⟩ := hints.role types
  rw [hints.reaches.refused_iff types hints.room role]
  exact Shape.finish_group_error_iff hints.proper hints.linked

theorem taken_of_not_refused (types : r.setup.types = .builtin) (hints : r.Hints feed before as geometry)
    (fine : geometry = [] ∨ ∃ box, hintBounds geometry = .ok box) :
    r.outcome feed (before ++ [.start "group" as]) = .ok () := by
  cases started : r.outcome feed (before ++ [.start "group" as]) with
  | ok _ => rfl
  | error e =>
    obtain ⟨told, refused⟩ := (hints.refused_iff types).mp started
    rcases fine with none | ⟨box, read⟩
    · exact absurd none told
    · exact absurd (refused.symm.trans read) (by simp)

/-- In the end the group lies in the place of its element, with the box that is said. -/
theorem group_of_parse (types : r.setup.types = .builtin) (hints : r.Hints feed before as geometry)
    (read : parse .root feed r = (.ok diagram, after)) : ∃ g boxes,
      after.desk.shape? ⟨(Roster.ofEvents r.setup before).arrived.length⟩ = some g ∧ g.kind = "Group" ∧
      g.variant.parts.map (fun id => (after.desk.shape? id).map (·.bounds)) = boxes.map some ∧
      r.setup.groupBox as boxes = .ok g.bounds := by
  obtain ⟨role, _⟩ := hints.role types
  obtain ⟨later, split⟩ := hints.reaches.split
  obtain ⟨texts, root, attributes, inner, rest, word, stems⟩ := stems_of_parse types read
  obtain ⟨within, occurs⟩ := occurs_of_document (word.symm.trans split) hints.room
  obtain ⟨u, parts, g, drawn, there, rfl, boxes⟩ := stems.drawn "group" as within _ _ _ occurs role
  have kind : g.loose.kind = "Group" := kind_of_portrayed role drawn
  have box : r.setup.groupBox as parts.boxes = .ok g.loose.bounds := box_of_portrayed types role drawn
  exact ⟨g, parts.boxes, there, (Shape.kind_loose g).symm.trans kind, boxes, box⟩

end Hints

open Attributes in
/-- Type hints and the boxes of groups. Tokens are read back whatever separators stand between and around them, and
what is read from a text is such tokens again. So a group element that is reached in a room, and whose attributes
are fine but for the tokens of its type hint behind the type, gets its box from them. Without any the box is left to
the attributes or to the children. Fewer than four are refused, and four if and only if one of them is no integer;
otherwise they are the box in the end, whatever the attributes say and whatever comes behind. -/
theorem parse_group_geometry (types : r.setup.types = .builtin) (idle : r.machine.reading = false) :
    (∀ hint tokens, Spells hint tokens → hintTokens hint = tokens) ∧
    (∀ hint : String, (∀ token ∈ hintTokens hint, IsToken token) ∧
      ∀ other, Spells other (hintTokens hint) → hintTokens other = hintTokens hint) ∧
    ∀ feed before as geometry, r.Hints feed before as geometry →
      let started := r.outcome feed (before ++ [.start "group" as])
      let place : ItemId := ⟨(Roster.ofEvents r.setup before).arrived.length⟩
      (∀ e, started = .error e → (parse .root feed r).1 = .error e) ∧
      (geometry = [] → started = .ok () ∧ ∀ diagram after, parse .root feed r = (.ok diagram, after) →
        ∃ g boxes, after.desk.shape? place = some g ∧ g.kind = "Group" ∧
          g.variant.parts.map (fun id => (after.desk.shape? id).map (·.bounds)) = boxes.map some ∧
          (as.value? "x" ≠ none → as.Boxes .zero g.bounds) ∧
          (as.value? "x" = none → g.bounds = (Bounds.union? boxes).getD .zero)) ∧
      (geometry ≠ [] → geometry.length < 4 → started = .error (.malformed (.shortGeometry geometry))) ∧
      (4 ≤ geometry.length → (∀ value ∈ geometry.take 4, ¬ Overlong value) →
        ((∃ cause, started = .error (.malformed cause)) ↔ ∃ value ∈ geometry.take 4, ∀ n, ¬ Denotes value n) ∧
        ∀ x y width height, List.Forall₂ Denotes (geometry.take 4) [x, y, width, height] →
          started = .ok () ∧ ∀ diagram after, parse .root feed r = (.ok diagram, after) →
            ∃ g, after.desk.shape? place = some g ∧ g.kind = "Group" ∧ g.bounds = ⟨x, y, width, height⟩) := by
  refine ⟨fun _ _ => hintTokens_of_spells, fun hint => ⟨fun _ => isToken_of_mem, fun _ => hintTokens_of_spells⟩, ?_⟩
  intro feed before as geometry hints started place
  have refused_iff (e : Fault) : started = .error e ↔ geometry ≠ [] ∧ hintBounds geometry = .error e :=
    hints.refused_iff types
  obtain ⟨_, told⟩ := hints.role types
  refine ⟨fun e => hints.reaches.parse_refused idle, ?_, ?_, ?_⟩
  · intro bare
    refine ⟨hints.taken_of_not_refused types (.inl bare), fun diagram after read => ?_⟩
    obtain ⟨g, boxes, there, kind, parts, box⟩ := hints.group_of_parse types read
    obtain ⟨own, derived⟩ := Setup.groupBox_of_nil (told.trans bare) box
    exact ⟨g, boxes, there, kind, parts, own, derived⟩
  · intro some few
    exact (refused_iff _).mpr ⟨some, hintBounds_of_few few⟩
  · intro four short
    have some : geometry ≠ [] := by
      rintro rfl
      simp at four
    constructor
    · simp only [refused_iff, some, ne_eq, not_false_eq_true, true_and]
      exact hintBounds_malformed_iff four short
    · intro x y width height denotes
      have box : hintBounds geometry = .ok ⟨x, y, width, height⟩ := (hintBounds_eq_ok_iff four short).mpr denotes
      refine ⟨hints.taken_of_not_refused types (.inr ⟨_, box⟩), fun diagram after read => ?_⟩
      obtain ⟨g, boxes, there, kind, _, said⟩ := hints.group_of_parse types read
      rw [Setup.groupBox_of_four (told ▸ four), told, box] at said
      exact ⟨g, there, kind, (Except.ok.inj said).symm⟩

/-- A group with numbers in its attributes, around an ellipse. -/
def framed (hint : String) : List Event :=
  document [] "pgml" []
    (.element "group" [("x", "50"), ("description", hint), ("width", "7")] (.element "ellipse" [] .empty .empty) .empty)
    []

theorem parse_group_geometry_of_framed :
    let r : Reader := ⟨.plain, ⟨[], false, Desk.fresh .builtin⟩⟩
    (∃ diagram after g, parse .root (.ofEvents (framed "[group] 1;-2,+3 0004,more]")) r = (.ok diagram, after) ∧
      after.desk.shape? ⟨0⟩ = some g ∧ g.kind = "Group" ∧ g.bounds = ⟨1, -2, 3, 4⟩) ∧
    (parse .root (.ofEvents (framed "group,1,2")) r).1 = .error (.malformed (.shortGeometry ["1", "2"])) := by
  intro r
  obtain ⟨_, _, groups⟩ := @parse_group_geometry r rfl rfl
  have hints (hint type : String) (geometry : List String) (spells : Attributes.Spells hint (type :: geometry))
      (hinted : Attributes.value? [("x", "50"), ("description", hint), ("width", "7")] "description" = some hint)
      (group : r.setup.translate type = "group")
      (taken : r.outcome (.ofEvents (framed hint)) [.start "pgml" []] = .ok ()) :
      r.Hints (.ofEvents (framed hint)) [.start "pgml" []] [("x", "50"), ("description", hint), ("width", "7")]
        geometry := by
    refine ⟨⟨⟨_, rfl⟩, taken⟩, rfl, ⟨⟨some 50, rfl⟩, fun _ => ?_, ⟨none, rfl⟩, ⟨none, rfl⟩⟩, ?_,
      hint, type, hinted, spells, group⟩
    · exact ⟨⟨none, rfl⟩, ⟨some 7, rfl⟩, ⟨none, rfl⟩⟩
    · intro href present
      contradiction
  constructor
  · let written : List Attributes.Spaced :=
      [⟨"group", "] ".toList⟩, ⟨"1", [';']⟩, ⟨"-2", [',']⟩, ⟨"+3", [' ']⟩, ⟨"0004", [',']⟩, ⟨"more", [']']⟩]
    have spells : Attributes.Spells "[group] 1;-2,+3 0004,more]" ("group" :: ["1", "-2", "+3", "0004", "more"]) :=
      ⟨['['], written, by decide +kernel, by decide +kernel, by decide +kernel, rfl⟩
    obtain ⟨_, _, _, box⟩ := groups _ _ _ _
      (hints _ _ _ spells (by decide +kernel) (by decide +kernel) (by decide +kernel))
    have denotes (token : String) (n : Int) (read : Attributes.toInt token "x" = .ok n) :
        Attributes.Denotes token n := Attributes.denotes_of_toInt read
    obtain ⟨_, whole⟩ := (box (by decide) (by decide +kernel)).2 1 (-2) 3 4
      (.cons (denotes _ _ rfl) (.cons (denotes _ _ rfl) (.cons (denotes _ _ rfl) (.cons (denotes _ _ rfl) .nil))))
    obtain ⟨diagram, after, ran⟩ :=
      @exists_of_isOk r (.ofEvents (framed "[group] 1;-2,+3 0004,more]")) (by decide +kernel)
    obtain ⟨g, there, kind, bounds⟩ := whole diagram after ran
    exact ⟨diagram, after, g, ran, there, kind, bounds⟩
  · have spells : Attributes.Spells "group,1,2" ("group" :: ["1", "2"]) :=
      ⟨[], [⟨"group", [',']⟩, ⟨"1", [',']⟩, ⟨"2", []⟩], by decide +kernel, by decide +kernel, by decide +kernel, rfl⟩
    obtain ⟨refused, _, few, _⟩ := groups _ _ _ _
      (hints _ _ _ spells (by decide +kernel) (by decide +kernel) (by decide +kernel))
    exact refused _ (few (by simp) (by decide))

end Reader

end Pgml
