import Mathlib.Data.List.TakeWhile
import Pgml.PrivateData

/-! Texts without private data. A pair is a key, an equals sign that white space may surround, and a quoted
value; the reader of pairs finds one in every text that contains one, wherever it stands. -/
namespace Pgml

namespace Text

theorem isBlank_apart : ∀ blank ∈ blankRanges, ∀ word ∈ wordRanges, blank.2 < word.1 ∨ word.2 < blank.1 := by
  decide +kernel

theorem isAsciiWord_of_isBlank :
    ∀ n < 128, isBlank (Char.ofNat n) = true → isAsciiWord (Char.ofNat n) = false := by
  decide +kernel

/-- White space ends a word. -/
theorem isWord_of_isBlank {c : Char} (blank : isBlank c = true) : isWord c = false := by
  unfold isWord
  split
  next ascii =>
    have word := isAsciiWord_of_isBlank c.toNat ascii
    rw [Char.ofNat_toNat] at word
    exact word blank
  next =>
    simp only [isBlank, inRanges, List.any_eq_true, Bool.and_eq_true, decide_eq_true_eq] at blank
    obtain ⟨range, member, lower, upper⟩ := blank
    simp only [inRanges, List.any_eq_false, Bool.and_eq_true, decide_eq_true_eq, not_and]
    intro word inside above
    have apart := isBlank_apart range member word inside
    omega

theorem dropWhile_stops {p : Char → Bool} {front : List Char} (passed : ∀ c ∈ front, p c = true) (stop : Char)
    (stops : p stop = false) (rest : List Char) : (front ++ stop :: rest).dropWhile p = stop :: rest := by
  rw [List.dropWhile_append_of_pos passed, List.dropWhile_cons_of_neg (by simp [stops])]

end Text

namespace PrivateData

open Text

/-- What follows a key: an equals sign, which white space may surround, and a quoted value. -/
def HasValue (cs value back : List Char) : Prop :=
  ∃ gap space : List Char, (∀ c ∈ gap, isBlank c = true) ∧ (∀ c ∈ space, isBlank c = true) ∧ '"' ∉ value ∧
    cs = gap ++ '=' :: (space ++ '"' :: (value ++ '"' :: back))

/-- A text that contains a key, a run of word characters, and a value. -/
def HasPair (cs : List Char) : Prop :=
  ∃ front key tail value back : List Char, key ≠ [] ∧ (∀ c ∈ key, isWord c = true) ∧
    HasValue tail value back ∧ cs = front ++ (key ++ tail)

theorem value?_eq_some_iff {cs value back : List Char} :
    value? cs = some (value, back) ↔ HasValue cs value back := by
  constructor
  · intro found
    unfold value? at found
    split at found
    next afterSign sign =>
      split at found
      next inside quote =>
        split at found
        next mark rest closed =>
          obtain ⟨rfl, rfl⟩ := Prod.mk.inj (Option.some.inj found)
          obtain rfl : mark = '"' := by
            have stop := List.head?_dropWhile_not (· != '"') inside
            simpa [closed] using stop
          refine ⟨cs.takeWhile isBlank, afterSign.takeWhile isBlank, ?_, ?_, ?_, ?_⟩
          · exact fun c member => List.mem_takeWhile_imp member
          · exact fun c member => List.mem_takeWhile_imp member
          · intro member
            simpa using List.mem_takeWhile_imp member
          · rw [← closed, List.takeWhile_append_dropWhile, ← quote, List.takeWhile_append_dropWhile, ← sign,
              List.takeWhile_append_dropWhile]
        next => contradiction
      next => contradiction
    next => contradiction
  · rintro ⟨gap, space, blankGap, blankSpace, closed, rfl⟩
    have sign := dropWhile_stops blankGap '=' (by decide) (space ++ '"' :: (value ++ '"' :: back))
    have quote := dropWhile_stops blankSpace '"' (by decide) (value ++ '"' :: back)
    have inside : ∀ c ∈ value, (c != '"') = true := by
      intro c member
      simpa using fun same : c = '"' => closed (same ▸ member)
    have mark := dropWhile_stops inside '"' (by decide) back
    have taken : (value ++ '"' :: back).takeWhile (· != '"') = value := by
      rw [List.takeWhile_append_of_pos inside]
      simp
    simp [value?, sign, quote, mark, taken]

theorem HasPair.of_suffix {cs : List Char} (has : HasPair cs) (front : List Char) : HasPair (front ++ cs) := by
  obtain ⟨before, key, tail, value, back, some, word, valued, rfl⟩ := has
  exact ⟨front ++ before, key, tail, value, back, some, word, valued, by simp⟩

/-- A key ends where the run of word characters ends. -/
theorem HasValue.dropWhile {key tail value back : List Char} (valued : HasValue tail value back)
    (word : ∀ c ∈ key, isWord c = true) : (key ++ tail).dropWhile isWord = tail := by
  obtain ⟨gap, space, blank, _, _, rfl⟩ := valued
  cases gap with
  | nil => exact dropWhile_stops word '=' (by decide) _
  | cons c gap => exact dropWhile_stops word c (isWord_of_isBlank (blank c (by simp))) _

theorem pairs_of_value {c : Char} {rest value more : List Char} (word : isWord c = true)
    (found : value? (rest.dropWhile isWord) = some (value, more)) :
    pairs (c :: rest) =
      (String.ofList (c :: rest.takeWhile isWord), String.ofList value) :: pairs more := by
  rw [pairs, if_pos word]
  simp only
  split
  next other =>
    obtain ⟨rfl, rfl⟩ := Prod.mk.inj (Option.some.inj (found.symm.trans other))
    rfl
  next none => simp [found] at none

theorem pairs_of_no_value {c : Char} {rest : List Char} (word : isWord c = true)
    (none : value? (rest.dropWhile isWord) = none) :
    pairs (c :: rest) = pairs (rest.dropWhile isWord) := by
  rw [pairs, if_pos word]
  simp only
  split
  next found => simp [none] at found
  next => rfl

/-- The reader finds a pair exactly in the texts that contain one. -/
theorem pairs_eq_nil_iff (cs : List Char) : pairs cs = [] ↔ ¬ HasPair cs := by
  induction cs using pairs.induct with
  | case1 =>
    simp only [pairs, true_iff]
    rintro ⟨front, key, tail, value, back, some, _, _, whole⟩
    simp [some] at whole
  | case2 c rest word afterKey value more found _ =>
    rw [pairs_of_value word found]
    simp only [reduceCtorEq, false_iff, not_not]
    refine ⟨[], c :: rest.takeWhile isWord, afterKey, value, more, by simp, ?_, value?_eq_some_iff.mp found, ?_⟩
    · intro d member
      rcases List.mem_cons.mp member with rfl | member
      · exact word
      · exact List.mem_takeWhile_imp member
    · simp [afterKey]
  | case3 c rest word afterKey none ih =>
    rw [pairs_of_no_value word none, ih, not_iff_not]
    constructor
    · intro has
      have more := has.of_suffix (c :: rest.takeWhile isWord)
      simpa [afterKey] using more
    · rintro ⟨front, key, tail, value, back, some, keyed, valued, whole⟩
      have dropped : (front ++ (key ++ tail)).dropWhile isWord = afterKey := by
        rw [← whole, List.dropWhile_cons_of_pos word]
      rw [List.dropWhile_append] at dropped
      split at dropped
      next =>
        -- The first run of word characters reaches to the end of the key, so its value would be found.
        rw [valued.dropWhile keyed] at dropped
        rw [← dropped, value?_eq_some_iff.mpr valued] at none
        contradiction
      next => exact ⟨front.dropWhile isWord, key, tail, value, back, some, keyed, valued, dropped.symm⟩
  | case4 c rest other ih =>
    rw [pairs, if_neg other, ih, not_iff_not]
    constructor
    · exact fun has => has.of_suffix [c]
    · rintro ⟨front, key, tail, value, back, some, keyed, valued, whole⟩
      cases front with
      | nil =>
        cases key with
        | nil => contradiction
        | cons d key =>
          obtain ⟨rfl, _⟩ := List.cons.inj whole
          exact absurd (keyed c (by simp)) other
      | cons d front =>
        obtain ⟨_, rfl⟩ := List.cons.inj whole
        exact ⟨front, key, tail, value, back, some, keyed, valued, rfl⟩

end PrivateData

end Pgml
