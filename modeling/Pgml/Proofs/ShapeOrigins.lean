import Pgml.Proofs.SameShapes

/-! Where the objects of a document come from. Each was made for an element of the document and has the
place of that element's start tag; what the element draws is what is there in the end. -/
namespace Pgml

/-- The shape that an element makes, whatever becomes of it. -/
def Role.made? : Role → Option Shape
  | nothing => none
  | relay lost => lost
  | shape s _ => some s

section

variable {setup : Setup} {name : String} {as : Attributes} {inner : Content} {s : Shape}

/-- Each of the shapes that content makes is made for an element that occurs in the content. -/
theorem Occurs.exists_of_lt (content : Content) (before i : Nat) (bound : i < setup.tally content) :
    ∃ name as within s, Occurs setup name as within content before (before + i) ∧
      (setup.role name as).made? = some s := by
  induction content generalizing before i with
  | empty => simp [Setup.tally] at bound
  | text data rest ih =>
    obtain ⟨name, as, within, s, occurs, made⟩ := ih before i bound
    exact ⟨name, as, within, s, .text data occurs, made⟩
  | element name as inner rest inside ih =>
    rw [Setup.tally] at bound
    by_cases here : i < (setup.role name as).tally (setup.tally inner)
    · cases role : setup.role name as with
      | nothing => simp [role, Role.tally] at here
      | relay lost =>
        rw [role, Role.tally] at here
        rcases Nat.lt_or_ge i lost.toList.length with first | later
        · obtain ⟨s, rfl⟩ : ∃ s, lost = some s := by cases lost <;> simp_all
          obtain rfl : i = 0 := by simpa using first
          exact ⟨name, as, inner, s, .here rest before, by simp [role, Role.made?]⟩
        · obtain ⟨other, attributes, within, s, occurs, made⟩ :=
            inside (before + lost.toList.length) (i - lost.toList.length) (by omega)
          have place : before + lost.toList.length + (i - lost.toList.length) = before + i := by omega
          exact ⟨other, attributes, within, s, .relay rest role (place ▸ occurs), made⟩
      | shape s interior =>
        cases i with
        | zero => exact ⟨name, as, inner, s, .here rest before, by simp [role, Role.made?]⟩
        | succ i =>
          have roomy : interior ≠ .closed := by
            rintro rfl
            simp [role, Role.tally] at here
          have fewer : i < setup.tally inner := by
            cases interior with
            | closed => contradiction
            | group | edge =>
              simp only [role, Role.tally] at here
              omega
          obtain ⟨other, attributes, within, t, occurs, made⟩ := inside (before + 1) i fewer
          have place : before + 1 + i = before + (i + 1) := by omega
          exact ⟨other, attributes, within, t, .room rest role roomy (place ▸ occurs), made⟩
    · let first := (setup.role name as).tally (setup.tally inner)
      obtain ⟨other, attributes, within, s, occurs, made⟩ :=
        ih (before + first) (i - first) (by omega)
      have place : before + first + (i - first) = before + i := by omega
      exact ⟨other, attributes, within, s, .after name as (place ▸ occurs), made⟩

theorem hinted_or_usual (made : (setup.role name as).made? = some s) :
    setup.hinted? as = some s ∨ name ≠ "private" ∧ Setup.usual? name as = some s := by
  unfold Setup.role at made
  split at made
  · exact .inl made
  next other =>
    split at made
    next found =>
      obtain rfl := Option.some.inj made
      rcases Option.or_eq_some_iff.mp found with hinted | ⟨_, usual⟩
      · exact .inl hinted
      · exact .inr ⟨other, usual⟩
    · contradiction

theorem role_of_made (made : (setup.role name as).made? = some s) (other : name ≠ "private") :
    setup.role name as = .shape s (Setup.interior name s.variant) := by
  unfold Setup.role at made ⊢
  rw [if_neg other] at made ⊢
  split at made
  next t drawn =>
    obtain rfl : t = s := by simpa [Role.made?] using made
    rfl
  · simp [Role.made?] at made

end

/-! ## Places -/

theorem Outline.item_of_mem {items : Array Item} {levels : Nat} {path : List Nat} {ids : List ItemId}
    {p : Place} (member : p ∈ Outline.walk items levels path ids) : items[p.id.index]? = some p.item := by
  induction levels generalizing path ids with
  | zero => simp [Outline.walk] at member
  | succ levels ih =>
    rw [Outline.walk] at member
    obtain ⟨⟨id, i⟩, _, member⟩ := List.mem_flatMap.mp member
    dsimp only at member
    split at member
    next item found =>
      rcases List.mem_cons.mp member with rfl | member
      · exact found
      · exact ih member
    · contradiction

theorem Desk.shape?_of_items {d : Desk} {shapes : List Shape} (items : d.items.toList = shapes.map .shape)
    (id : ItemId) : d.shape? id = shapes[id.index]? := by
  unfold Desk.shape? Desk.item?
  rw [← Array.getElem?_toList, items, List.getElem?_map]
  cases shapes[id.index]? <;> rfl

/-! ## Documents -/

namespace Reader

/-- A reader after a document: its objects are shapes made for the document's elements, and each shape of
an element is as the element draws it, around parts whose boxes are those of what is drawn inside. -/
structure Stems (r : Reader) (inner : Content) (after : Reader) : Prop where
  shapes : ∀ i, i < after.desk.items.size → ∃ s, after.desk.items[i]? = some (.shape s)
  makers : ∀ i, i < after.desk.items.size → ∃ name as within s,
    Occurs r.setup name as within inner 0 i ∧ (r.setup.role name as).made? = some s
  drawn : ∀ name as within s interior place, Occurs r.setup name as within inner 0 place →
    r.setup.role name as = .shape s interior → ∃ u parts v,
      r.setup.portray r.desk.colors.palette name as within (r.setup.figures r.desk.colors.palette within) =
        .ok ⟨.cons u parts .nil, []⟩ ∧
      after.desk.shape? ⟨place⟩ = some v ∧ v.loose = u ∧
      v.variant.parts.map (fun id => (after.desk.shape? id).map (·.bounds)) = parts.boxes.map some
  lost : ∀ name as within s place, Occurs r.setup name as within inner 0 place →
    r.setup.role name as = .relay (some s) → (after.desk.shape? ⟨place⟩).map Shape.loose = some s.loose

/-- Every place of an outline has the shape of an element. -/
theorem Stems.maker_of_place {r after : Reader} {inner : Content} (stems : r.Stems inner after) {ids : List ItemId}
    {p : Place} (member : p ∈ Outline.ofObjects after.desk.items ids) : ∃ name as within s g,
      Occurs r.setup name as within inner 0 p.id.index ∧ (r.setup.role name as).made? = some s ∧
      p.item = .shape g ∧ after.desk.shape? p.id = some g := by
  have found := Outline.item_of_mem member
  obtain ⟨bound, _⟩ := Array.getElem?_eq_some_iff.mp found
  obtain ⟨name, as, within, s, occurs, made⟩ := stems.makers _ bound
  obtain ⟨g, shape⟩ := stems.shapes _ bound
  exact ⟨name, as, within, s, g, occurs, made, Option.some.inj (found.symm.trans shape),
    Desk.shape?_eq_some.mpr shape⟩

theorem stems_of_parse {feed : Feed} {r after : Reader} {diagram : Diagram}
    (types : r.setup.types = .builtin) (read : parse .root feed r = (.ok diagram, after)) :
    ∃ before root as inner rest, feed.events = document before root as inner rest ∧ r.Stems inner after := by
  obtain ⟨before, root, as, inner, rest, g, l, word, reads, holds⟩ := reads_of_parse types read
  have sound : ((r.opening feed).crown g).Sound := by simp [Stock.Sound, Stock.crown, opening]
  have found := Desk.shape?_of_items holds.items
  have length : l.shapes.length = r.setup.tally inner := by
    simpa [Stock.crown, opening] using reads.length
  have size : after.desk.items.size = r.setup.tally inner := by
    rw [← Array.length_toList, holds.items, List.length_map, length]
  refine ⟨before, root, as, inner, rest, word, ?_, ?_, ?_, ?_⟩
  · intro i bound
    have there : i < l.shapes.length := by omega
    refine ⟨l.shapes[i], ?_⟩
    rw [← Array.getElem?_toList, holds.items, List.getElem?_map, List.getElem?_eq_getElem there]
    rfl
  · intro i bound
    obtain ⟨name, as, within, s, occurs, made⟩ := Occurs.exists_of_lt inner 0 i (size ▸ bound)
    exact ⟨name, as, within, s, Nat.zero_add i ▸ occurs, made⟩
  · intro name as within s interior place occurs role
    obtain ⟨u, parts, portrayed, depicts⟩ := occurs.depicted types role reads trivial sound rfl
    obtain ⟨id, more, v, same, there, loose, inside, _⟩ := depicts.of_cons
    obtain ⟨rfl, rfl⟩ := List.cons.inj same
    refine ⟨u, parts, v, portrayed, (found ⟨place⟩).trans there, loose, ?_⟩
    simp only [found]
    exact inside.boxes_map
  · intro name as within s place occurs role
    exact (occurs.lost types role reads trivial sound rfl).shape holds.items

end Reader

end Pgml
