import Pgml.Proofs.ShapeHandling

/-! What an element of built-in types does to a desk, by its role. -/
namespace Pgml

open Desk Vocabulary
open Work (Any Ensures)

/-! ## Rules for elements without a type hint -/

theorem usual_plain {name : String} {as : Attributes} {s : Shape}
    (usual : Setup.usual? name as = some s) : s.Plain := by
  unfold Setup.usual? at usual
  split at usual
  · obtain rfl := Option.some.inj usual
    exact ⟨rfl, rfl, fun _ => rfl⟩
  · obtain rfl := Option.some.inj usual
    exact ⟨rfl, rfl, fun _ => rfl⟩
  · obtain rfl := Option.some.inj usual
    exact ⟨rfl, rfl, fun _ => rfl⟩
  · obtain rfl := Option.some.inj usual
    exact ⟨rfl, rfl, fun _ => rfl⟩
  · split at usual
    · obtain rfl := Option.some.inj usual
      split <;> exact ⟨rfl, rfl, fun _ => rfl⟩
    · contradiction
  · contradiction

section

variable {setup : Setup} {c : Container} {around : Surroundings} {as : Attributes} {sk : Sketch}
  {o : Dress}

/-- What follows on a shape that is made on the way. -/
theorem place_then {s : Shape} (plain : s.Plain) {α : Type} {f : ItemId → Work Desk α}
    {post : α → Desk → Prop}
    (next : Ensures (Handling setup c around s as sk o false false) (f ⟨sk.nodes.length⟩) post) :
    Ensures (Shows sk o) (placeShape s >>= f) post := by
  intro d a now shows ran
  obtain ⟨id, u, placed, rest⟩ := Work.bind_eq_ok ran
  obtain ⟨rfl, handling⟩ := Handling.placed plain d id u shows placed
  exact next u a now handling rest

variable (takes : sk.Takes c around)

include takes

theorem rule_unhinted {name : String} (other : name ≠ "private") (geometry : List String) :
    Ensures (Shows sk o) (rule setup c name as none geometry) fun verdict now =>
      match Setup.usual? name as with
      | some s => Done setup c around s as sk o .closed verdict now
      | none => verdict = .declined ∧ Shows sk o now := by
  have path (name : String) (usual : Setup.usual? name as = some (.ofVariant .emptyPolygon)) :
      Ensures (Shows sk o) (pathRule setup c as none)
        (Done setup c around (.ofVariant .emptyPolygon) as sk o .closed) :=
    have plain := usual_plain usual
    place_then plain ((Handling.style plain).bind fun _ => (Handling.attach takes).bind fun _ =>
      .pure fun _ handling => ⟨_, rfl, handling, rfl⟩)
  unfold rule
  split
  · exact .pure fun _ shows => ⟨rfl, shows⟩
  · have plain := usual_plain (show Setup.usual? "text" as = some _ from rfl)
    exact place_then plain (handleText_done plain takes)
  · exact path "path" rfl
  · exact path "line" rfl
  · contradiction
  · intro d verdict now shows ran
    obtain ⟨rounding, u, settled, rest⟩ := Work.bind_eq_ok ran
    rw [Work.settle_apply] at settled
    obtain ⟨read, rfl⟩ := Prod.mk.inj settled
    let s : Shape := .sized (if 0 ≤ rounding then .roundedRectangle rounding else .rectangle) 80 80
    have usual : Setup.usual? "rectangle" as = some s := by simp [Setup.usual?, read, s]
    have plain := usual_plain usual
    rw [usual]
    exact place_then plain (handleRectangle_done plain takes) d verdict now shows rest
  · have plain := usual_plain (show Setup.usual? "ellipse" as = some _ from rfl)
    exact place_then plain (handleEllipse_done plain takes)
  next group text path line _ rectangle ellipse =>
    have nothing : Setup.usual? name as = none := by
      unfold Setup.usual?
      split <;> simp_all
    rw [nothing]
    exact .pure fun _ shows => ⟨rfl, shows⟩

theorem applyRule_unhinted {name : String} (other : name ≠ "private") (geometry : List String) :
    Ensures (Shows sk o) (applyRule setup c name as none geometry) fun next now =>
      Interior.closed.Suits ⟨sk.nodes.length⟩ next ∧
      match Setup.usual? name as with
      | some s => Handling setup c around s as sk o true true now
      | none => Shows sk o now := by
  intro d next now shows ran
  obtain ⟨verdict, u, judged, rest⟩ := Work.bind_eq_ok ran
  have said := rule_unhinted takes other geometry d verdict u shows judged
  cases usual : Setup.usual? name as with
  | some s =>
    rw [usual] at said
    obtain ⟨content, rfl, handling, suits⟩ := said
    obtain ⟨rfl, rfl⟩ : content = next ∧ u = now := by simpa using rest
    exact ⟨suits, handling⟩
  | none =>
    rw [usual] at said
    obtain ⟨rfl, shows⟩ := said
    have noted : Quiet Any (addUnrecognized setup c name as none) :=
      (note_quiet rfl rfl).bind fun _ _ => quiet_pure trivial
    have unrecognized : Quiet (· = none) (addUnrecognized setup c name as none >>= fun _ =>
        (pure none : Work Desk (Option Handler))) := noted.bind fun _ _ => quiet_pure rfl
    obtain ⟨shows, rfl⟩ := unrecognized sk o u next now shows rest
    exact ⟨rfl, shows⟩

/-! ## Private elements -/

/-- A desk after a shape was made and forgotten. -/
structure Lost (setup : Setup) (c : Container) (s : Shape) (as : Attributes) (sk : Sketch) (o : Dress)
    (now : Desk) : Prop where
  sketch : now.sketch = sk.extend c [] [s.node none] [.privateInstance s.kind]
  dress : ∀ e, e.dress = o → ∃ e', outfit setup s as false e = (.ok (), e') ∧ e'.dress = now.dress

theorem takesObjects : c.takesObjects = true := by
  cases c with
  | tray => cases around <;> exact takes.elim
  | _ => rfl

theorem private_unhinted (geometry : List String) :
    Ensures (Shows sk o) (applyRule setup c "private" as none geometry) fun next now =>
      next = some (.wrapper c "") ∧ Shows sk o now := by
  intro d next now shows ran
  have takesObjects := takesObjects takes
  simp only [applyRule, rule, privateRule, takesObjects, Work.bind_apply] at ran
  obtain ⟨rfl, rfl⟩ : some (Handler.wrapper c "") = next ∧ d = now := by simpa using ran
  exact ⟨rfl, shows⟩

theorem private_hinted {s : Shape} (geometry : List String) :
    Ensures (Handling setup c around s as sk o false false)
      (applyRule setup c "private" as (some ⟨⟨sk.nodes.length⟩, .shape s⟩) geometry) fun next now =>
      next = some (.wrapper c "") ∧ Lost setup c s as sk o now := by
  intro d next now handling ran
  have belongs : privateRule c (some ⟨⟨sk.nodes.length⟩, .shape s⟩) =
      note (.privateInstance s.kind) >>= fun _ => return .handled (some (.wrapper c "")) := by
    simp only [privateRule, takesObjects takes]
    rfl
  obtain ⟨verdict, u, judged, rest⟩ := Work.bind_eq_ok ran
  have private_ : rule setup c "private" as (some ⟨⟨sk.nodes.length⟩, .shape s⟩) geometry =
      privateRule c (some ⟨⟨sk.nodes.length⟩, .shape s⟩) := rfl
  rw [private_, belongs] at judged
  obtain ⟨_, v, noted, handled⟩ := Work.bind_eq_ok judged
  obtain ⟨rfl, rfl⟩ : Verdict.handled (some (.wrapper c "")) = verdict ∧ v = u := by simpa using handled
  obtain ⟨rfl, rfl⟩ : some (Handler.wrapper c "") = next ∧ v = now := by simpa using rest
  refine ⟨rfl, ?_, ?_⟩
  · rw [note_sketch rfl c _ d () v handling.sketch noted]
    simp only [Bool.false_eq_true, if_false]
    rw [Sketch.extend_extend takes]
    rfl
  · rw [note_dress rfl d.dress d () v rfl noted]
    exact handling.dress

end

/-! ## Type hints -/

theorem mem_of_lookup {α : Type} {name : String} {entries : List (String × α)} {value : α}
    (found : Table.lookup name entries = some value) : ∃ key, (key, value) ∈ entries := by
  induction entries with
  | nil => contradiction
  | cons entry rest ih =>
    simp only [Table.lookup] at found
    split at found
    · obtain rfl := Option.some.inj found
      exact ⟨entry.1, by simp⟩
    · obtain ⟨key, member⟩ := ih found
      exact ⟨key, List.mem_cons_of_mem _ member⟩

/-- A shape as a built-in type makes it, which leaves its element to the usual rules. -/
structure Builtin (s : Shape) : Prop where
  plain : s.Plain
  plan : ∀ place, Hinted.plan? ⟨place, .shape s⟩ = none

theorem builtin_recipe {entry : String × Recipe} (member : entry ∈ TypeTable.builtinEntries) :
    ∃ s, entry.2 = .drawing (.ofShape s) ∧ Builtin s := by
  simp only [TypeTable.builtinEntries, List.mem_cons, List.not_mem_nil, or_false] at member
  rcases member with rfl | rfl | rfl | rfl | rfl | rfl | rfl | rfl <;>
    exact ⟨_, rfl, ⟨rfl, rfl, fun _ => rfl⟩, fun _ => rfl⟩

theorem builtin_create (id : String) :
    (∃ s : Shape, TypeTable.builtin.create id = .ok (.ofShape s) ∧ Builtin s) ∨
    TypeTable.builtin.create id = .error (.unknownType id) := by
  cases found : TypeTable.builtin.get? id with
  | none => exact .inr (by simp [TypeTable.create, found])
  | some recipe =>
    have there : Table.lookup id TypeTable.builtinEntries = some recipe := found
    obtain ⟨key, member⟩ := mem_of_lookup there
    obtain ⟨s, drawing, builtin⟩ := builtin_recipe member
    obtain rfl : recipe = .drawing (.ofShape s) := drawing
    exact .inl ⟨s, by simp [TypeTable.create, found, Recipe.build], builtin⟩

section

variable {setup : Setup} {c : Container} {around : Surroundings} {sk : Sketch} {o : Dress}
  (types : setup.types = .builtin) (as : Attributes)

include types

/-- A type hint makes a shape or, if there is no such type, nothing. -/
theorem createHinted_ensures (type hint : String) :
    Ensures (Shows sk o) (createHinted setup type hint) fun hinted now =>
      match setup.made? type with
      | some s => hinted = some ⟨⟨sk.nodes.length⟩, .shape s⟩ ∧ Builtin s ∧
          Handling setup c around s as sk o false false now
      | none => hinted = none ∧ Shows sk o now := by
  intro d hinted now shows ran
  rcases builtin_create (setup.translate type) with ⟨s, made, builtin⟩ | unknown
  · have makes : setup.made? type = some s := by
      simp [Setup.made?, types, made, Drawing.ofShape, Drawing.ofItem]
    simp only [createHinted, types, made] at ran
    obtain ⟨id, u, placed, rest⟩ := Work.bind_eq_ok ran
    have handled : id = ⟨sk.nodes.length⟩ ∧ Handling setup c around s as sk o false false u :=
      Handling.placed builtin.plain d id u shows placed
    obtain ⟨rfl, handling⟩ := handled
    let put : Desk := { d with items := d.items.push (.shape s) }
    have puts : place (.ofShape s) d = (.ok ⟨d.items.size⟩, put) := placeShape_apply builtin.plain d
    rw [puts] at placed
    obtain ⟨size, rfl⟩ : d.items.size = sk.nodes.length ∧ put = u := by simpa using placed
    obtain ⟨rfl, rfl⟩ : some ⟨⟨sk.nodes.length⟩, .shape s⟩ = hinted ∧ put = now := by
      simpa [Work.bind_apply, item?, put, ← size] using rest
    rw [makes]
    exact ⟨rfl, builtin, handling⟩
  · have makes : setup.made? type = none := by simp [Setup.made?, types, unknown]
    simp only [createHinted, types, unknown] at ran
    have silent : Quiet (· = none) (note (.unavailableType hint) >>= fun _ =>
        (pure none : Work Desk (Option Hinted))) := (note_quiet rfl rfl).bind fun _ _ => quiet_pure rfl
    obtain ⟨shows, rfl⟩ := silent sk o d hinted now shows ran
    rw [makes]
    exact ⟨rfl, shows⟩

end

/-! ## Dispatch -/

def Dispatched (setup : Setup) (c : Container) (around : Surroundings) (name : String)
    (as : Attributes) (sk : Sketch) (o : Dress) (next : Option Handler) (now : Desk) : Prop :=
  match setup.role name as with
  | .nothing => Interior.closed.Suits ⟨sk.nodes.length⟩ next ∧ Shows sk o now
  | .relay none => next = some (.wrapper c "") ∧ Shows sk o now
  | .relay (some s) => next = some (.wrapper c "") ∧ Lost setup c s as sk o now
  | .shape s interior =>
    interior.Suits ⟨sk.nodes.length⟩ next ∧ Handling setup c around s as sk o true true now

theorem usual_closed {name : String} {as : Attributes} {s : Shape} (v : Variant)
    (usual : Setup.usual? name as = some s) : Setup.interior name v = .closed := by
  have other : name ≠ "group" := by
    rintro rfl
    simp [Setup.usual?] at usual
  exact if_neg other

section

variable {setup : Setup} {c : Container} {around : Surroundings} {name : String} {as : Attributes}
  {sk : Sketch} {o : Dress} (takes : sk.Takes c around) (types : setup.types = .builtin)

include takes

theorem dispatched_unhinted (absent : setup.hinted? as = none) (geometry : List String) :
    Ensures (Shows sk o) (applyRule setup c name as none geometry)
      (Dispatched setup c around name as sk o) := by
  by_cases belongs : name = "private"
  · subst belongs
    have role : setup.role "private" as = .relay none := by simp [Setup.role, absent]
    refine (private_unhinted takes geometry).mono fun next now done => ?_
    simpa [Dispatched, role] using done
  · refine (applyRule_unhinted takes belongs geometry).mono fun next now done => ?_
    cases usual : Setup.usual? name as with
    | none =>
      have role : setup.role name as = .nothing := by simp [Setup.role, belongs, absent, usual]
      simpa [Dispatched, role, usual] using done
    | some s =>
      have role : setup.role name as = .shape s .closed := by
        simp [Setup.role, belongs, absent, usual, usual_closed _ usual]
      simpa [Dispatched, role, usual] using done

theorem dispatched_hinted {s : Shape} (made : setup.hinted? as = some s) (plain : s.Plain)
    (geometry : List String) :
    Ensures (Handling setup c around s as sk o false false)
      (applyRule setup c name as (some ⟨⟨sk.nodes.length⟩, .shape s⟩) geometry)
      (Dispatched setup c around name as sk o) := by
  by_cases belongs : name = "private"
  · subst belongs
    have role : setup.role "private" as = .relay (some s) := by simp [Setup.role, made]
    refine (private_hinted takes geometry).mono fun next now done => ?_
    simpa [Dispatched, role] using done
  · have role : setup.role name as = .shape s (Setup.interior name s.variant) := by
      simp [Setup.role, belongs, made]
    refine (applyRule_hinted plain takes belongs geometry).mono fun next now done => ?_
    simpa [Dispatched, role] using done.symm

include types

/-- An element of built-in types does what its role says. -/
theorem dispatch_ensures :
    Ensures (Shows sk o) (dispatch setup c name as) (Dispatched setup c around name as sk o) := by
  unfold dispatch
  cases value : as.value? setup.config.hintAttribute with
  | none => exact dispatched_unhinted takes (by simp [Setup.hinted?, value]) []
  | some hint =>
    dsimp only
    cases tokens : Attributes.hintTokens hint with
    | nil =>
      have noted : Quiet Any (note (.emptyHint hint name)) := note_quiet rfl rfl
      have absent : setup.hinted? as = none := by simp [Setup.hinted?, value, tokens]
      exact ((noted sk o).mono fun _ _ done => done.1).bind fun _ =>
        dispatched_unhinted takes absent []
    | cons type geometry =>
      intro d next now shows ran
      obtain ⟨hinted, u, created, rest⟩ := Work.bind_eq_ok ran
      have source : setup.hinted? as = setup.made? type := by simp [Setup.hinted?, value, tokens]
      have made : match setup.made? type with
          | some s => hinted = some ⟨⟨sk.nodes.length⟩, .shape s⟩ ∧ Builtin s ∧
              Handling setup c around s as sk o false false u
          | none => hinted = none ∧ Shows sk o u :=
        createHinted_ensures types as type hint d hinted u shows created
      cases makes : setup.made? type with
      | none =>
        rw [makes] at made source
        obtain ⟨rfl, shows⟩ := made
        exact dispatched_unhinted takes source geometry u next now shows rest
      | some s =>
        rw [makes] at made source
        obtain ⟨rfl, builtin, handling⟩ := made
        simp only [Option.bind_some, builtin.plan, Option.map_none] at rest
        exact dispatched_hinted takes source builtin.plain geometry u next now handling rest

end

end Pgml
