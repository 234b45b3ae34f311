import Pgml.Attributes

/-! The tokens of a type hint. Tokens with separators between them are read back whatever separators these are and
whatever others stand around, and what is read from any text is such a list of tokens. -/
namespace Pgml

namespace Attributes

/-! ## Written tokens -/

def IsGap (cs : List Char) : Prop := ∀ c ∈ cs, isHintSeparator c = true

structure IsToken (token : String) : Prop where
  nonempty : token ≠ ""
  plain : ∀ c ∈ token.toList, isHintSeparator c = false

/-- A token and the separators behind it. -/
structure Spaced where
  token : String
  gap : List Char

def Spaced.text (s : Spaced) : List Char := s.token.toList ++ s.gap

/-- A type hint with separators in front of some tokens and behind each of them. -/
def spell (lead : List Char) (written : List Spaced) : String :=
  String.ofList (lead ++ written.flatMap Spaced.text)

/-- Only the last token may have no separator behind it. -/
structure Separated (lead : List Char) (written : List Spaced) : Prop where
  lead : IsGap lead
  gaps : ∀ s ∈ written, IsGap s.gap
  between : ∀ s ∈ written.dropLast, s.gap ≠ []

instance (cs : List Char) : Decidable (IsGap cs) :=
  decidable_of_iff (cs.all isHintSeparator = true) List.all_eq_true

instance (token : String) : Decidable (IsToken token) :=
  decidable_of_iff (token ≠ "" ∧ token.toList.all (!isHintSeparator ·) = true) <| by
    constructor
    · rintro ⟨nonempty, plain⟩
      exact ⟨nonempty, by simpa using plain⟩
    · rintro ⟨nonempty, plain⟩
      exact ⟨nonempty, by simpa using plain⟩

instance (lead : List Char) (written : List Spaced) : Decidable (Separated lead written) :=
  decidable_of_iff (IsGap lead ∧ (∀ s ∈ written, IsGap s.gap) ∧ ∀ s ∈ written.dropLast, s.gap ≠ [])
    ⟨fun ⟨lead, gaps, between⟩ => ⟨lead, gaps, between⟩, fun ⟨lead, gaps, between⟩ => ⟨lead, gaps, between⟩⟩

/-- A type hint that is written from tokens, with separators between them and any others around. -/
def Spells (hint : String) (tokens : List String) : Prop :=
  ∃ lead written, Separated lead written ∧ (∀ s ∈ written, IsToken s.token) ∧ hint = spell lead written ∧
    tokens = written.map (·.token)

/-! ## Splitting -/

variable {separates : Char → Bool} {current token gap rest : List Char}

theorem splitAt_plain (plain : ∀ c ∈ token, separates c = false) :
    splitAt separates current (token ++ rest) = splitAt separates (token.reverse ++ current) rest := by
  induction token generalizing current with
  | nil => rfl
  | cons c token ih =>
    obtain ⟨first, others⟩ := List.forall_mem_cons.mp plain
    simp only [List.cons_append, splitAt, first, Bool.false_eq_true, if_false]
    rw [ih others, List.reverse_cons, List.append_assoc, List.singleton_append]

theorem splitAt_skip (gaps : ∀ c ∈ gap, separates c = true) :
    splitAt separates [] (gap ++ rest) = splitAt separates [] rest := by
  induction gap with
  | nil => rfl
  | cons c gap ih =>
    obtain ⟨first, others⟩ := List.forall_mem_cons.mp gaps
    simp only [List.cons_append, splitAt, first, if_true, List.isEmpty_nil]
    exact ih others

/-- A piece ends where a separator comes, or at the end. -/
theorem splitAt_ends (open' : current ≠ []) (gaps : ∀ c ∈ gap, separates c = true)
    (between : gap = [] → rest = []) :
    splitAt separates current (gap ++ rest) = current.reverse :: splitAt separates [] rest := by
  have filled : current.isEmpty = false := by simpa using open'
  cases gap with
  | nil =>
    obtain rfl := between rfl
    simp [splitAt, filled]
  | cons c gap =>
    obtain ⟨first, others⟩ := List.forall_mem_cons.mp gaps
    simp only [List.cons_append, splitAt, first, filled, if_true, Bool.false_eq_true, if_false]
    rw [splitAt_skip others]

/-- The pieces hold no separators and are not empty. -/
theorem mem_splitAt (plain : ∀ c ∈ current, separates c = false) {text piece : List Char}
    (member : piece ∈ splitAt separates current text) : piece ≠ [] ∧ ∀ c ∈ piece, separates c = false := by
  have whole (read : List Char) (plain : ∀ c ∈ read, separates c = false) (filled : read.isEmpty = false) :
      read.reverse ≠ [] ∧ ∀ c ∈ read.reverse, separates c = false :=
    ⟨by simpa using filled, fun c among => plain c (List.mem_reverse.mp among)⟩
  induction text generalizing current with
  | nil =>
    cases filled : current.isEmpty with
    | true => simp [splitAt, filled] at member
    | false =>
      obtain rfl : piece = current.reverse := by simpa [splitAt, filled] using member
      exact whole current plain filled
  | cons c text ih =>
    have fresh : ∀ c ∈ ([] : List Char), separates c = false := by simp
    cases separator : separates c with
    | true =>
      cases filled : current.isEmpty with
      | true =>
        rw [splitAt, if_pos separator, if_pos filled] at member
        exact ih fresh member
      | false =>
        simp only [splitAt, separator, filled, if_true, Bool.false_eq_true, if_false] at member
        rcases List.mem_cons.mp member with rfl | later
        · exact whole current plain filled
        · exact ih fresh later
    | false =>
      rw [splitAt, if_neg (by simp [separator])] at member
      exact ih (List.forall_mem_cons.mpr ⟨separator, plain⟩) member

/-! ## Tokens -/

theorem splitAt_written {written : List Spaced} (tokens : ∀ s ∈ written, IsToken s.token)
    (gaps : ∀ s ∈ written, IsGap s.gap) (between : ∀ s ∈ written.dropLast, s.gap ≠ []) :
    splitAt isHintSeparator [] (written.flatMap Spaced.text) = written.map (·.token.toList) := by
  induction written with
  | nil => rfl
  | cons s written ih =>
    obtain ⟨token, tokens⟩ := List.forall_mem_cons.mp tokens
    obtain ⟨gap, gaps⟩ := List.forall_mem_cons.mp gaps
    have nonempty : s.token.toList.reverse ≠ [] := by simpa using token.nonempty
    -- only the last token can do without a separator, and then nothing follows
    have last : s.gap = [] → written.flatMap Spaced.text = [] := by
      intro none
      cases written with
      | nil => rfl
      | cons next more => exact absurd none (between s (by simp))
    have later : ∀ t ∈ written.dropLast, t.gap ≠ [] := by
      intro t among
      cases written with
      | nil => simp at among
      | cons next more => exact between t (by simp [among])
    rw [List.flatMap_cons, Spaced.text, List.append_assoc, splitAt_plain token.plain, List.append_nil,
      splitAt_ends nonempty gap last, List.reverse_reverse, ih tokens gaps later, List.map_cons]

/-- Tokens are read back, whatever separators stand between and around them. -/
theorem hintTokens_spell {lead : List Char} {written : List Spaced} (tokens : ∀ s ∈ written, IsToken s.token)
    (separated : Separated lead written) : hintTokens (spell lead written) = written.map (·.token) := by
  rw [hintTokens, spell, String.toList_ofList, splitAt_skip separated.lead,
    splitAt_written tokens separated.gaps separated.between, List.map_map]
  exact List.map_congr_left fun s _ => String.ofList_toList

theorem hintTokens_of_spells {hint : String} {tokens : List String} (spells : Spells hint tokens) :
    hintTokens hint = tokens := by
  obtain ⟨lead, written, separated, plain, rfl, rfl⟩ := spells
  exact hintTokens_spell plain separated

theorem isToken_of_mem {hint token : String} (member : token ∈ hintTokens hint) : IsToken token := by
  obtain ⟨piece, among, rfl⟩ := List.mem_map.mp member
  obtain ⟨nonempty, plain⟩ := mem_splitAt (by simp) among
  exact ⟨by simpa using nonempty, by simpa using plain⟩

end Attributes

end Pgml
