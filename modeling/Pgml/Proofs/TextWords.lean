import Pgml.Proofs.GroupBoxes

/-! The words of texts. A text takes its words from the character data directly inside its element, all of
it, less the line ends around; a text that a type hint makes for an element of another name has none. -/
namespace Pgml

open Desk Vocabulary

/-- A text and what is left of it without the line ends at both of its ends. -/
structure Stripped (whole content : String) : Prop where
  ends : ∃ front back, whole.toList = front ++ (content.toList ++ back) ∧
    ∀ c, c ∈ front ∨ c ∈ back → c = '\r' ∨ c = '\n'
  first : ∀ c, content.toList.head? = some c → ¬(c = '\r' ∨ c = '\n')
  last : ∀ c, content.toList.getLast? = some c → ¬(c = '\r' ∨ c = '\n')

theorem stripped_textContent (s : String) : Stripped s (textContent s) := by
  let drop (c : Char) : Bool := c == '\r' || c == '\n'
  have told (c : Char) : drop c = true ↔ c = '\r' ∨ c = '\n' := by simp [drop]
  have kept (cs : List Char) (c : Char) (head : (cs.dropWhile drop).head? = some c) :
      ¬(c = '\r' ∨ c = '\n') := by
    have undropped := List.head?_dropWhile_not drop cs
    rw [head] at undropped
    rw [← told]
    simpa using undropped
  have dropped (cs : List Char) (c : Char) (member : c ∈ cs.takeWhile drop) : c = '\r' ∨ c = '\n' :=
    (told c).mp (List.all_eq_true.mp List.all_takeWhile c member)
  let rest := s.toList.dropWhile drop
  let content := (rest.reverse.dropWhile drop).reverse
  have same : (textContent s).toList = content := by simp [textContent, Text.trimList, content, rest, drop]
  have whole : rest = content ++ (rest.reverse.takeWhile drop).reverse := by
    rw [← List.reverse_append, List.takeWhile_append_dropWhile, List.reverse_reverse]
  refine ⟨⟨s.toList.takeWhile drop, (rest.reverse.takeWhile drop).reverse, ?_, ?_⟩, ?_, ?_⟩
  · rw [same, ← whole, List.takeWhile_append_dropWhile]
  · rintro c (front | back)
    · exact dropped _ c front
    · exact dropped _ c (List.mem_reverse.mp back)
  · intro c head
    rw [same] at head
    refine kept s.toList c ?_
    change rest.head? = some c
    rw [whole, List.head?_append, head]
    rfl
  · intro c last
    rw [same, List.getLast?_reverse] at last
    exact kept _ c last

namespace Shape

/-- The words of a text. -/
def words? (s : Shape) : Option String :=
  match s.variant with
  | .text content _ _ => some content
  | _ => none

theorem words_loose (s : Shape) : s.loose.words? = s.words? := by
  obtain ⟨bounds, style, name, owner, data, variant⟩ := s
  cases variant <;> rfl

theorem words_eq_some {s : Shape} {content : String} :
    s.words? = some content ↔ ∃ family size, s.variant = .text content family size := by
  unfold words?
  split
  next variant => simp [variant]
  next other =>
    constructor
    · intro absurd
      contradiction
    · rintro ⟨family, size, variant⟩
      exact absurd variant (other content family size)

end Shape

theorem kind_text {v : Variant} (kind : v.kind = "Text") : ∃ content family size, v = .text content family size := by
  cases v with
  | text content family size => exact ⟨content, family, size, rfl⟩
  | group children plan => cases plan <;> simp [Variant.kind] at kind
  | _ => simp [Variant.kind] at kind

section

variable {setup : Setup} {p : Palette} {as : Attributes} {name : String} {within : Content}
  {inner : Except Fault Figures} {s t u : Shape} {parts : Forest} {interior : Interior}

theorem words_of_usual (usual : Setup.usual? name as = some s) {content : String}
    (words : s.words? = some content) : content = "" := by
  unfold Setup.usual? at usual
  split at usual
  · obtain rfl := Option.some.inj usual
    exact (Option.some.inj words).symm
  · obtain rfl := Option.some.inj usual
    contradiction
  · obtain rfl := Option.some.inj usual
    contradiction
  · obtain rfl := Option.some.inj usual
    contradiction
  · split at usual
    · obtain rfl := Option.some.inj usual
      split at words <;> contradiction
    · contradiction
  · contradiction

/-- With the built-in types a text is made without words. -/
theorem words_of_made (types : setup.types = .builtin) (made : (setup.role name as).made? = some s)
    {content : String} (words : s.words? = some content) : content = "" := by
  rcases hinted_or_usual made with hinted | ⟨_, usual⟩
  · obtain ⟨key, member⟩ := mem_of_hinted types hinted
    simp only [TypeTable.builtinEntries, List.mem_cons, List.not_mem_nil, or_false] at member
    rcases member with same | same | same | same | same | same | same | same <;> cases same <;>
      first | contradiction | exact (Option.some.inj words).symm
  · exact words_of_usual usual words

/-- Only the element of a text touches its words. -/
theorem variant_of_finished {content family : String} {size : Int} (text : s.variant = .text content family size)
    (other : name ≠ "text") (finished : s.finish setup p as name = .ok t) : t.variant = s.variant := by
  unfold Shape.finish at finished
  split at finished
  · rw [text] at finished
    exact (Shape.attributed_frame finished).1.variant
  · contradiction
  · obtain ⟨rounding, _, finished⟩ := except_bind_eq_ok finished
    have same : (if 0 ≤ rounding then setRadius rounding s else s) = s := by
      split
      · simp [setRadius, text]
      · rfl
    rw [same] at finished
    exact (Shape.attributed_frame finished).1.variant
  · rw [text] at finished
    exact (Shape.attributed_frame finished).1.variant
  · exact (Shape.attributed_frame finished).1.variant

/-- The words of what an element draws. -/
theorem words_of_portrayed (types : setup.types = .builtin) (role : setup.role name as = .shape s interior)
    (drawn : setup.portray p name as within inner = .ok ⟨.cons u parts .nil, []⟩) {content : String}
    (words : u.words? = some content) :
    content = if name = "text" then textContent within.ownString else "" := by
  obtain ⟨_, _, shown⟩ := Shape.words_eq_some.mp words
  have kind : s.kind = "Text" := by
    rw [← kind_of_portrayed role drawn, Shape.kind, shown]
    rfl
  obtain ⟨blank, family, size, text⟩ := kind_text kind
  obtain rfl := words_of_made types (by rw [role]; rfl) (Shape.words_eq_some.mpr ⟨family, size, text⟩)
  obtain ⟨t, finished, closed⟩ := finished_of_portrayed role drawn
  by_cases named : name = "text"
  · subst named
    simp only [Shape.content?, text, Shape.close] at closed
    obtain ⟨v, filled, closed⟩ := except_bind_eq_ok closed
    obtain ⟨rfl, _⟩ := Forest.cons.inj (Except.ok.inj closed)
    obtain rfl := Except.ok.inj filled
    obtain ⟨_, _, _, there⟩ := kind_text ((Shape.finish_kin finished).1.variant.kind.trans kind)
    simpa [setContent, there, Shape.words?, Content.ownString] using words.symm
  · have nothing : s.content? setup as name ⟨0⟩ = none := by
      unfold Shape.content?
      split <;> first | contradiction | simp [text]
    rw [nothing] at closed
    obtain ⟨v, filled, closed⟩ := except_bind_eq_ok closed
    obtain ⟨rfl, _⟩ := Forest.cons.inj (Except.ok.inj closed)
    obtain rfl := Except.ok.inj filled
    rw [if_neg named]
    simpa [Shape.words?, variant_of_finished text named finished, text] using words.symm

end

end Pgml
