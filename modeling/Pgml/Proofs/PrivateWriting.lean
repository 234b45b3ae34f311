import Mathlib.Data.List.Induction
import Pgml.Proofs.TextsWithoutPairs

/-! Writing private data. Pairs that are written one after the other, with any noise without a quote around them,
are read back as they were written: a name has the place where it first came and the value that came last. What
is read from any text is a name of word characters and a value without a quote that stand there as a pair. -/
namespace Pgml

/-! ## Tables of lists -/

namespace Table

variable {α : Type}

theorem ofList_concat (entries : List (String × α)) (name : String) (value : α) :
    ofList (entries ++ [(name, value)]) = (ofList entries).insert name value := by
  simp only [ofList, insertAll, List.foldl_append, List.foldl_cons, List.foldl_nil]

/-- Names are listed in the order in which they first come. -/
theorem names_ofList (entries : List (String × α)) : (ofList entries).names = (entries.map (·.1)).eraseDups := by
  induction entries using List.reverseRecOn with
  | nil => rfl
  | append_singleton entries entry ih =>
    obtain ⟨name, value⟩ := entry
    rw [ofList_concat, names_insert, ih, List.map_append, List.eraseDups_append]
    by_cases known : name ∈ entries.map (·.1)
    · simp [known, List.removeAll]
    · simp [known, List.removeAll, List.eraseDups_cons]

/-- The value of a name is the one that comes last. -/
theorem get?_ofList (entries : List (String × α)) (name : String) :
    (ofList entries).get? name = entries.reverse.lookup name := by
  induction entries using List.reverseRecOn with
  | nil => rfl
  | append_singleton entries entry ih =>
    obtain ⟨key, value⟩ := entry
    rw [ofList_concat, get?_insert, ih, List.reverse_append, List.reverse_singleton, List.singleton_append,
      List.lookup_cons]
    by_cases same : key = name
    · simp [same]
    · have other : (name == key) = false := by simpa using Ne.symm same
      simp [same, other]

theorem mem_put {name : String} {value : α} {entries : List (String × α)} {entry : String × α}
    (member : entry ∈ put name value entries) : entry ∈ entries ∨ entry = (name, value) := by
  induction entries with
  | nil => simpa [put] using member
  | cons first rest ih =>
    obtain ⟨key, old⟩ := first
    simp only [put] at member
    split at member
    next same =>
      subst same
      rcases List.mem_cons.mp member with rfl | member
      · exact .inr rfl
      · exact .inl (List.mem_cons_of_mem _ member)
    next =>
      rcases List.mem_cons.mp member with rfl | member
      · exact .inl List.mem_cons_self
      · exact (ih member).imp_left (List.mem_cons_of_mem _)

theorem mem_ofList {entries : List (String × α)} {entry : String × α}
    (member : entry ∈ (ofList entries).entries) : entry ∈ entries := by
  induction entries using List.reverseRecOn with
  | nil => simp [ofList, insertAll, empty] at member
  | append_singleton entries last ih =>
    obtain ⟨name, value⟩ := last
    rw [ofList_concat] at member
    rcases mem_put member with member | rfl
    · exact List.mem_append_left _ (ih member)
    · simp

end Table

/-! ## Written pairs -/

namespace PrivateData

open Text

/-- Text without a quote, and not ending in a word character, after which a name can be told. -/
structure Noise (cs : List Char) : Prop where
  quoteless : '"' ∉ cs
  parted : ∀ c ∈ cs.getLast?, isWord c = false

/-- A pair as it is written, with what comes before it and the white space around the equals sign. -/
structure Entry where
  front : List Char
  name : List Char
  gap : List Char
  space : List Char
  value : List Char
  noise : Noise front
  named : name ≠ []
  word : ∀ c ∈ name, isWord c = true
  gapBlank : ∀ c ∈ gap, isBlank c = true
  spaceBlank : ∀ c ∈ space, isBlank c = true
  closed : '"' ∉ value

def Entry.text (e : Entry) : List Char :=
  e.front ++ (e.name ++ (e.gap ++ '=' :: (e.space ++ '"' :: (e.value ++ ['"']))))

def Entry.pair (e : Entry) : String × String := (String.ofList e.name, String.ofList e.value)

/-- No value follows where the next quote comes after a word character. -/
theorem value?_of_word {front rest : List Char} {w : Char} (quoteless : '"' ∉ front) (word : isWord w = true) :
    value? (front ++ w :: rest) = none := by
  refine Option.eq_none_iff_forall_not_mem.mpr ?_
  rintro ⟨value, back⟩ found
  obtain ⟨gap, space, blank, blank', _, whole⟩ := value?_eq_some_iff.mp found
  have wordless : ∀ c ∈ gap ++ '=' :: space, isWord c = false := by
    intro c member
    rcases List.mem_append.mp member with member | member
    · exact isWord_of_isBlank (blank c member)
    · rcases List.mem_cons.mp member with rfl | member
      · decide
      · exact isWord_of_isBlank (blank' c member)
  have whole : front ++ w :: rest = (gap ++ '=' :: space) ++ '"' :: (value ++ '"' :: back) := by
    simpa using whole
  rcases List.append_eq_append_iff.mp whole with ⟨more, sign, tail⟩ | ⟨more, rfl, tail⟩
  · cases more with
    | nil =>
      obtain ⟨rfl, _⟩ := List.cons.inj tail
      exact absurd word (by decide)
    | cons d more =>
      obtain ⟨rfl, _⟩ := List.cons.inj tail
      simp [wordless w (by simp [sign])] at word
  · cases more with
    | nil =>
      obtain ⟨rfl, _⟩ := List.cons.inj tail
      exact absurd word (by decide)
    | cons d more =>
      obtain ⟨rfl, _⟩ := List.cons.inj tail
      simp at quoteless

theorem Noise.of_suffix (before : List Char) {cs : List Char} (noise : Noise (before ++ cs)) : Noise cs := by
  refine ⟨fun member => noise.quoteless (List.mem_append_right _ member), fun c last => noise.parted c ?_⟩
  rw [Option.mem_def] at last ⊢
  rw [List.getLast?_append, last, Option.some_or]

/-- Noise before a name is passed over. -/
theorem pairs_of_noise {front : List Char} (noise : Noise front) {w : Char} (word : isWord w = true)
    (rest : List Char) : pairs (front ++ w :: rest) = pairs (w :: rest) := by
  -- The reader goes on behind a whole run of word characters, so the induction is on the length.
  induction size : front.length using Nat.strongRecOn generalizing front with
  | ind n ih =>
    subst size
    cases front with
    | nil => rfl
    | cons c front =>
      by_cases wordy : isWord c = true
      · have split : front.takeWhile isWord ++ front.dropWhile isWord = front := List.takeWhile_append_dropWhile
        have later : Noise (front.dropWhile isWord) := by
          refine Noise.of_suffix (c :: front.takeWhile isWord) ?_
          rwa [List.cons_append, split]
        have some : front.dropWhile isWord ≠ [] := by
          intro none
          have words := List.dropWhile_eq_nil_iff.mp none
          have last : isWord ((c :: front).getLast (List.cons_ne_nil c front)) = true := by
            rcases List.mem_cons.mp (List.getLast_mem (List.cons_ne_nil c front)) with first | member
            · rwa [first]
            · exact words _ member
          simp [noise.parted _ (List.getLast?_eq_some_getLast (List.cons_ne_nil c front))] at last
        have dropped : (front ++ w :: rest).dropWhile isWord = front.dropWhile isWord ++ w :: rest := by
          rw [List.dropWhile_append, if_neg (by simpa using some)]
        have none : value? ((front ++ w :: rest).dropWhile isWord) = none := by
          rw [dropped]
          exact value?_of_word later.quoteless word
        rw [List.cons_append, pairs_of_no_value wordy none, dropped]
        exact ih _ (Nat.lt_succ_of_le (length_dropWhile_le isWord front)) later rfl
      · rw [List.cons_append, pairs, if_neg wordy]
        exact ih front.length (by simp) (Noise.of_suffix [c] noise) rfl

theorem pairs_of_quoteless {back : List Char} (quoteless : '"' ∉ back) : pairs back = [] := by
  refine (pairs_eq_nil_iff back).mpr ?_
  rintro ⟨front, key, tail, value, rest, _, _, ⟨gap, space, _, _, _, rfl⟩, rfl⟩
  simp at quoteless

theorem pairs_of_pair {name tail value back : List Char} (named : name ≠ []) (word : ∀ c ∈ name, isWord c = true)
    (valued : HasValue tail value back) :
    pairs (name ++ tail) = (String.ofList name, String.ofList value) :: pairs back := by
  obtain ⟨w, name, rfl⟩ := List.exists_cons_of_ne_nil named
  have wordy : isWord w = true := word w List.mem_cons_self
  have after : (name ++ tail).dropWhile isWord = tail :=
    valued.dropWhile fun c member => word c (List.mem_cons_of_mem _ member)
  have before : (name ++ tail).takeWhile isWord = name := by
    have whole := List.takeWhile_append_dropWhile (p := isWord) (l := name ++ tail)
    rw [after] at whole
    exact List.append_cancel_right whole
  rw [List.cons_append, pairs_of_value wordy (after.symm ▸ value?_eq_some_iff.mpr valued), before]

theorem Entry.pairs_append (e : Entry) (more : List Char) : pairs (e.text ++ more) = e.pair :: pairs more := by
  obtain ⟨w, rest, name⟩ := List.exists_cons_of_ne_nil e.named
  have valued : HasValue (e.gap ++ '=' :: (e.space ++ '"' :: (e.value ++ '"' :: more))) e.value more :=
    ⟨e.gap, e.space, e.gapBlank, e.spaceBlank, e.closed, rfl⟩
  have wordy : isWord w = true := e.word w (by simp [name])
  have found := pairs_of_pair e.named e.word valued
  rw [Entry.pair, ← found]
  have text : e.text ++ more =
      e.front ++ w :: (rest ++ (e.gap ++ '=' :: (e.space ++ '"' :: (e.value ++ '"' :: more)))) := by
    simp [Entry.text, name]
  rw [text, pairs_of_noise e.noise wordy, name, List.cons_append]

theorem pairs_written (entries : List Entry) {back : List Char} (quoteless : '"' ∉ back) :
    pairs (entries.flatMap Entry.text ++ back) = entries.map Entry.pair := by
  induction entries with
  | nil => exact pairs_of_quoteless quoteless
  | cons e entries ih => rw [List.flatMap_cons, List.append_assoc, e.pairs_append, ih, List.map_cons]

/-- What the reader of pairs finds stands in the text. -/
theorem stands_of_mem_pairs {cs : List Char} {pair : String × String} (member : pair ∈ pairs cs) :
    ∃ front name tail value back : List Char, pair = (String.ofList name, String.ofList value) ∧ name ≠ [] ∧
      (∀ c ∈ name, isWord c = true) ∧ HasValue tail value back ∧ cs = front ++ (name ++ tail) := by
  induction cs using pairs.induct with
  | case1 => simp [pairs] at member
  | case2 c rest word afterKey value more found ih =>
    have split : rest.takeWhile isWord ++ afterKey = rest := List.takeWhile_append_dropWhile
    have valued : HasValue afterKey value more := value?_eq_some_iff.mp found
    rw [pairs_of_value word found] at member
    rcases List.mem_cons.mp member with rfl | member
    · refine ⟨[], c :: rest.takeWhile isWord, afterKey, value, more, rfl, by simp, ?_, valued, by simp [split]⟩
      intro d member
      rcases List.mem_cons.mp member with rfl | member
      · exact word
      · exact List.mem_takeWhile_imp member
    · obtain ⟨front, name, tail, value', back, same, named, wordy, valued', rfl⟩ := ih member
      obtain ⟨gap, space, _, _, _, after⟩ := valued
      have behind : afterKey = (gap ++ '=' :: (space ++ '"' :: (value ++ '"' :: front))) ++ (name ++ tail) := by
        simp [after]
      refine ⟨c :: (rest.takeWhile isWord ++ (gap ++ '=' :: (space ++ '"' :: (value ++ '"' :: front)))),
        name, tail, value', back, same, named, wordy, valued', ?_⟩
      rw [List.cons_append, List.append_assoc, ← behind, split]
  | case3 c rest word afterKey none ih =>
    have split : rest.takeWhile isWord ++ afterKey = rest := List.takeWhile_append_dropWhile
    rw [pairs_of_no_value word none] at member
    obtain ⟨front, name, tail, value, back, same, named, wordy, valued, whole⟩ := ih member
    refine ⟨c :: (rest.takeWhile isWord ++ front), name, tail, value, back, same, named, wordy, valued, ?_⟩
    rw [List.cons_append, List.append_assoc, ← whole, split]
  | case4 c rest other ih =>
    rw [pairs, if_neg other] at member
    obtain ⟨front, name, tail, value, back, same, named, wordy, valued, rfl⟩ := ih member
    exact ⟨c :: front, name, tail, value, back, same, named, wordy, valued, rfl⟩

/-- Written pairs are read back, each name in its first place and with its last value; and from any text at all
nothing is read but names of word characters and values without a quote. -/
theorem parse_undoes_writing :
    (∀ (entries : List Entry) (back : List Char), '"' ∉ back →
      let data := parse (String.ofList (entries.flatMap Entry.text ++ back))
      data = Table.ofList (entries.map Entry.pair) ∧
      data.names = (entries.map fun e => String.ofList e.name).eraseDups ∧
      ∀ name, data.get? name = (entries.map Entry.pair).reverse.lookup name) ∧
    ∀ text, ∀ entry ∈ (parse text).entries,
      entry.1 ≠ "" ∧ (∀ c ∈ entry.1.toList, isWord c = true) ∧ '"' ∉ entry.2.toList := by
  constructor
  · intro entries back quoteless data
    have read : data = Table.ofList (entries.map Entry.pair) := by
      simp only [data, parse, String.toList_ofList, pairs_written entries quoteless]
    refine ⟨read, ?_, fun name => ?_⟩
    · rw [read, Table.names_ofList, List.map_map]
      rfl
    · rw [read, Table.get?_ofList]
  · intro text entry member
    obtain ⟨_, name, _, value, _, rfl, named, word, ⟨_, _, _, _, closed, _⟩, _⟩ :=
      stands_of_mem_pairs (Table.mem_ofList member)
    refine ⟨by simpa using named, by simpa using word, by simpa using closed⟩

/-- Names in the noise, a name without noise before it, and a value that looks like a pair. -/
theorem parse_undoes_writing_of_notes :
    let text := "see k = b, k =\n\"n=1\"né\t=\"\" ; k=\" x \" k = "
    ∃ (entries : List Entry) (back : List Char),
      text.toList = entries.flatMap Entry.text ++ back ∧ '"' ∉ back ∧
      entries.map Entry.pair = [("k", "n=1"), ("né", ""), ("k", " x ")] ∧
      (parse text).entries = [("k", " x "), ("né", "")] ∧
      (parse text).names = ["k", "né"] ∧ (parse text).get? "k" = some " x " ∧
      ∀ entry ∈ (parse text).entries, entry.1 ≠ "" ∧ '"' ∉ entry.2.toList := by
  intro text
  let entries : List Entry := [
    ⟨"see k = b, ".toList, ['k'], [' '], ['\n'], "n=1".toList, ⟨by decide, by rintro c ⟨⟩; rfl⟩, by decide,
      List.all_eq_true.mp (by decide), List.all_eq_true.mp (by decide), List.all_eq_true.mp (by decide),
      by decide⟩,
    ⟨[], "né".toList, ['\t'], [], [], ⟨by decide, by simp⟩, by decide,
      List.all_eq_true.mp (by decide +kernel), List.all_eq_true.mp (by decide), by simp, by decide⟩,
    ⟨" ; ".toList, ['k'], [], [], " x ".toList, ⟨by decide, by rintro c ⟨⟩; rfl⟩, by decide,
      List.all_eq_true.mp (by decide), by simp, by simp, by decide⟩]
  have whole : text.toList = entries.flatMap Entry.text ++ " k = ".toList := by decide
  have quoteless : '"' ∉ " k = ".toList := by decide
  obtain ⟨written, any⟩ := parse_undoes_writing
  obtain ⟨read, names, values⟩ := written entries _ quoteless
  rw [← whole, String.ofList_toList] at read names values
  refine ⟨entries, _, whole, quoteless, rfl, ?_, ?_, ?_, fun entry member => ?_⟩
  · rw [read]
    rfl
  · rw [names]
    decide
  · rw [values]
    decide
  · obtain ⟨named, _, closed⟩ := any text entry member
    exact ⟨named, closed⟩

end PrivateData

end Pgml
