import Pgml.Color.Notation
import Pgml.Proofs.NumericAttributes

/-! The notations of colours. A colour can be written in five ways, with white space around them and with letters
of either case, and it is read from each of them; and what is read from any text is a colour whose own notation is
read as the same colour. -/
namespace Pgml

/-! ## Text around a notation -/

namespace Text

theorem dropWhile_of_head {drop : Char → Bool} {cs : List Char} (first : ∀ c ∈ cs.head?, drop c = false) :
    cs.dropWhile drop = cs := by
  cases cs with
  | nil => rfl
  | cons c cs => exact List.dropWhile_cons_of_neg (by simp [first c rfl])

/-- A text is left of what surrounds it if it begins and ends with something else. -/
theorem trimList_surrounded {drop : Char → Bool} {front body back : List Char}
    (before : ∀ c ∈ front, drop c = true) (after : ∀ c ∈ back, drop c = true) (some : body ≠ [])
    (first : ∀ c ∈ body.head?, drop c = false) (last : ∀ c ∈ body.getLast?, drop c = false) :
    trimList drop (front ++ body ++ back) = body := by
  have begun : (front ++ body ++ back).dropWhile drop = body ++ back := by
    rw [List.append_assoc, List.dropWhile_append_of_pos before]
    refine dropWhile_of_head fun c member => first c ?_
    rwa [List.head?_append_of_ne_nil _ some] at member
  have behind : ∀ c ∈ back.reverse, drop c = true := fun c member => after c (by simpa using member)
  have ended : (body ++ back).reverse.dropWhile drop = body.reverse := by
    rw [List.reverse_append, List.dropWhile_append_of_pos behind]
    refine dropWhile_of_head fun c member => last c ?_
    rwa [List.head?_reverse] at member
  rw [trimList, begun, ended, List.reverse_reverse]

end Text

/-! ## Numbers written in digits -/

namespace Number

theorem ofDigits_concat (base : Nat) (ds : List Nat) (d : Nat) :
    ofDigits base (ds ++ [d]) = ofDigits base ds * base + d := by
  simp only [ofDigits, List.foldl_append, List.foldl_cons, List.foldl_nil]

/-- The decimal digits of a number. -/
theorem exists_toDigits (n : Nat) : ∃ ds : List Nat, ds ≠ [] ∧ (∀ d ∈ ds, d < 10) ∧
    Nat.toDigits 10 n = digitChars ds ∧ ofDigits 10 ds = n := by
  induction n using Nat.strongRecOn with
  | ind n ih =>
    by_cases small : n < 10
    · exact ⟨[n], by simp, by simpa using small, Nat.toDigits_of_lt_base small, by simp [ofDigits]⟩
    · obtain ⟨ds, _, digits, written, value⟩ := ih (n / 10) (by omega)
      refine ⟨ds ++ [n % 10], by simp, ?_, ?_, ?_⟩
      · intro d member
        rcases List.mem_append.mp member with member | member
        · exact digits d member
        · rw [List.mem_singleton.mp member]
          omega
      · rw [Nat.toDigits_of_base_le (by omega) (by omega), written]
        simp [digitChars]
      · rw [ofDigits_concat, value]
        omega

theorem toList_decimal (i : Int) : (decimal i).toList =
    if i < 0 then '-' :: Nat.toDigits 10 i.natAbs else Nat.toDigits 10 i.natAbs := by
  cases i with
  | ofNat n => simp [decimal]
  | negSucc n => simp [decimal]

theorem mem_decimal {i : Int} {x : Char} (member : x ∈ (decimal i).toList) : x.isDigit = true ∨ x = '-' := by
  have digit (among : x ∈ Nat.toDigits 10 i.natAbs) : x.isDigit = true :=
    Nat.isDigit_of_mem_toDigits (by decide) (by decide) among
  rw [toList_decimal] at member
  split at member
  · rcases List.mem_cons.mp member with rfl | member
    · exact .inr rfl
    · exact .inl (digit member)
  · exact .inl (digit member)

theorem decimal_ne_nil (i : Int) : (decimal i).toList ≠ [] := by
  rw [toList_decimal]
  split
  · exact List.cons_ne_nil _ _
  · exact Nat.toDigits_ne_nil

/-- An integer is read from its decimal text if that is not too long. -/
theorem readDecimal?_decimal {i : Int} (short : (Nat.toDigits 10 i.natAbs).length ≤ maxDecimalDigits) :
    readDecimal? (decimal i).toList = some i := by
  obtain ⟨ds, nonempty, small, written, value⟩ := exists_toDigits i.natAbs
  have few : ds.length ≤ maxDecimalDigits := by simpa [written, digitChars] using short
  have body : (splitSign (decimal i).toList).2 = digitChars ds ∧
      signed (splitSign (decimal i).toList).1 i.natAbs = i := by
    rw [toList_decimal, written]
    split
    next negative =>
      refine ⟨rfl, ?_⟩
      simp only [signed, splitSign, if_true]
      omega
    next =>
      rw [splitSign_digitChars small]
      refine ⟨rfl, ?_⟩
      simp only [signed, Bool.false_eq_true, if_false]
      omega
  have plain : ∀ x ∈ (decimal i).toList, isMargin x = false :=
    fun x member => isMargin_eq_false ((mem_decimal member).imp_right .inr)
  rw [readDecimal?_of_digits plain small nonempty body.1 few, value, body.2]

theorem length_toDigits_le {n : Nat} (small : n < 10000000000) :
    (Nat.toDigits 10 n).length ≤ maxDecimalDigits := by
  have few : (Nat.toDigits 10 n).length ≤ 10 := (Nat.length_toDigits_le_iff (by decide) (by decide)).mpr small
  exact Nat.le_trans few (by decide)

end Number

namespace Color

open Text Number

/-- Colours whose parts have eight bits. -/
structure Bounded (c : Color) : Prop where
  red : c.red ≤ 255
  green : c.green ≤ 255
  blue : c.blue ≤ 255

/-- Two digits for each part. -/
def digits (c : Color) : List Nat :=
  [c.red / 16, c.red % 16, c.green / 16, c.green % 16, c.blue / 16, c.blue % 16]

/-- The last 24 bits that the parts make up. -/
def code (c : Color) : Nat := 0x10000 * c.red + 0x100 * c.green + c.blue

/-- The texts for a colour: hexadecimal digits of any case after a number sign or a base mark, a decimal number,
three decimal numbers with separators between them, and a signed number of 32 bits whose upper ones are an
opacity. -/
inductive Written (c : Color) : List Char → Prop where
  | sign {hex : List Char} : hex.map Char.toLower = c.digits.map hexDigit → Written c ('#' :: hex)
  | mark {x : Char} {hex : List Char} : x = 'x' ∨ x = 'X' → hex.map Char.toLower = c.digits.map hexDigit →
      Written c ('0' :: x :: hex)
  | whole : Written c (decimal c.code).toList
  | triple {first second : List Char} : first ≠ [] → (∀ s ∈ first, isSeparator s = true) → second ≠ [] →
      (∀ s ∈ second, isSeparator s = true) → Written c ((decimal c.red).toList ++ first ++
        (decimal c.green).toList ++ second ++ (decimal c.blue).toList)
  | signed {opacity : Nat} : 128 ≤ opacity → opacity ≤ 255 →
      Written c (decimal (0x1000000 * opacity + c.code - 0x100000000)).toList

variable {c : Color}

/-! ### Hexadecimal notations -/

theorem toNat_lt_of_toLower {x : Char} (lower : x.toLower.toNat < 128) : x.toNat < 128 := by
  unfold Char.toLower at lower
  split at lower
  next upper => exact Nat.lt_of_le_of_lt (UInt32.le_iff_toNat_le.mp upper.2) (by decide)
  next => exact lower

theorem hexDigit_lt : ∀ d < 16, (hexDigit d).toNat < 128 := by decide

theorem mem_cases_of_toLower : ∀ n < 128, ∀ d < 16, (Char.ofNat n).toLower = hexDigit d →
    Char.ofNat n ∈ [hexDigit d, (hexDigit d).toUpper] := by
  decide +kernel

/-- A hexadecimal digit has a value in either case, and is nothing else that a reader of numbers looks for. -/
theorem hexDigit_facts : ∀ d < 16, ∀ x ∈ [hexDigit d, (hexDigit d).toUpper],
    hexDigitValue? x = some d ∧ isSeparator x = false ∧ isMargin x = false ∧ x ∉ ['_', '+', '-', 'x', 'X'] := by
  -- The two characters are spelled out, or all there are would be tried.
  simp only [List.forall_mem_cons, List.not_mem_nil, false_implies, implies_true, and_true]
  decide +kernel

theorem facts_of_toLower {x : Char} {d : Nat} (small : d < 16) (lower : x.toLower = hexDigit d) :
    hexDigitValue? x = some d ∧ isSeparator x = false ∧ isMargin x = false ∧ x ∉ ['_', '+', '-', 'x', 'X'] := by
  have ascii : x.toNat < 128 := toNat_lt_of_toLower (lower ▸ hexDigit_lt d small)
  have cases := mem_cases_of_toLower x.toNat ascii d small
  rw [Char.ofNat_toNat] at cases
  exact hexDigit_facts d small x (cases lower)

section

variable {hex : List Char} {ds : List Nat} (small : ∀ d ∈ ds, d < 16)
  (lower : hex.map Char.toLower = ds.map hexDigit)
include small lower

theorem facts_of_mem {x : Char} (member : x ∈ hex) :
    isSeparator x = false ∧ isMargin x = false ∧ x ∉ ['_', '+', '-', 'x', 'X'] := by
  have there : x.toLower ∈ ds.map hexDigit := lower ▸ List.mem_map_of_mem member
  obtain ⟨d, among, same⟩ := List.mem_map.mp there
  exact (facts_of_toLower (small d among) same.symm).2

theorem hexDigits_of_lower (nonempty : ds ≠ []) : digits? hexDigitValue? hex = some ds := by
  have alike : List.Forall₂ (fun x d => x.toLower = hexDigit d) hex ds := by
    have same : List.Forall₂ Eq (hex.map Char.toLower) (ds.map hexDigit) := by
      rw [List.forall₂_eq_eq_eq]
      exact lower
    rwa [List.forall₂_map_left_iff, List.forall₂_map_right_iff] at same
  refine digits?_of_values ?_ nonempty
  clear lower nonempty
  induction alike with
  | nil => exact .nil
  | cons same _ ih =>
    obtain ⟨value, _, _, other⟩ := facts_of_toLower (small _ List.mem_cons_self) same
    refine .cons ⟨value, ?_⟩ (ih fun d member => small d (List.mem_cons_of_mem _ member))
    rintro rfl
    exact absurd other (by decide)

theorem readHex?_of_lower (nonempty : ds ≠ []) : readHex? hex = some ((ofDigits 16 ds : Nat) : Int) := by
  have whole : withoutMargin hex = hex := trimList_eq_self fun x member => (facts_of_mem small lower member).2.1
  have unsigned : splitSign hex = (false, hex) := by
    unfold splitSign
    split
    next rest => exact absurd (facts_of_mem small lower (x := '+') (by simp)).2.2 (by decide)
    next rest => exact absurd (facts_of_mem small lower (x := '-') (by simp)).2.2 (by decide)
    next => rfl
  have unmarked : dropBaseMark hex = hex := by
    unfold dropBaseMark
    split
    next z x rest =>
      have other := (facts_of_mem small lower (x := x) (by simp)).2.2
      simp only [List.mem_cons, List.not_mem_nil, or_false, not_or] at other
      simp [other]
    next => rfl
  simp [readHex?, whole, unsigned, unmarked, hexDigits_of_lower small lower nonempty, signed]

end

/-! ### The number of a colour -/

theorem bounded_digits (bounded : c.Bounded) : ∀ d ∈ c.digits, d < 16 := by
  obtain ⟨red, green, blue⟩ := bounded
  simp only [digits, List.forall_mem_cons, List.not_mem_nil, false_implies, implies_true, and_true]
  omega

theorem ofDigits_digits (c : Color) : ofDigits 16 c.digits = c.code := by
  simp only [digits, code, ofDigits, List.foldl_cons, List.foldl_nil]
  omega

/-- The colour of a number is told by the last 24 bits, if it is not too large or too small. -/
theorem ofNumber?_of_code {n : Int} (bounded : c.Bounded) (lower : -0x80000000 ≤ n) (upper : n ≤ 0xffffff)
    (code : n % 0x1000000 = c.code) : ofNumber? n = some c := by
  obtain ⟨red, green, blue⟩ := bounded
  rw [ofNumber?, if_pos ⟨lower, upper⟩, ofInt, code]
  obtain ⟨r, g, b⟩ := c
  simp only [Color.code, Int.toNat_natCast, Option.some.injEq, Color.mk.injEq] at *
  omega

theorem ofNumber?_code (bounded : c.Bounded) : ofNumber? c.code = some c := by
  obtain ⟨red, green, blue⟩ := bounded
  refine ofNumber?_of_code ⟨red, green, blue⟩ ?_ ?_ ?_ <;>
  · simp only [code]
    omega

/-! ### Notations without separators -/

theorem isBlank_of_separator {x : Char} (none : isSeparator x = false) : isBlank x = false := by
  simp only [isSeparator, Bool.or_eq_false_iff] at none
  exact none.1.1

theorem suffix_of_part? {cs rest : List Char} {n : Nat} (read : part? cs = some (n, rest)) : rest <:+ cs := by
  simp only [part?] at read
  split at read
  · contradiction
  · obtain ⟨_, rfl⟩ := Prod.mk.inj (Option.some.inj read)
    exact List.drop_suffix ..

/-- Without separators there is no triple. -/
theorem triple?_of_solid {body : List Char} (solid : ∀ x ∈ body, isSeparator x = false) : triple? body = none := by
  unfold triple?
  cases first : part? body with
  | none => rfl
  | some found =>
    obtain ⟨r, rest⟩ := found
    have stuck : afterSeparators? rest = none := by
      cases rest with
      | nil => rfl
      | cons x rest => simp [afterSeparators?, solid x ((suffix_of_part? first).subset List.mem_cons_self)]
    simp [stuck]

/-- A notation without separators is read as a number, whatever white space there is around it. -/
theorem parse?_of_solid {front body back : List Char} (before : ∀ x ∈ front, isBlank x = true)
    (after : ∀ x ∈ back, isBlank x = true) (some : body ≠ []) (solid : ∀ x ∈ body, isSeparator x = false) :
    parse? (String.ofList (front ++ body ++ back)) = number? body >>= ofNumber? := by
  have stripped : strip (front ++ body ++ back) = body := by
    refine trimList_surrounded before after some (fun x first => ?_) fun x last => ?_
    · exact isBlank_of_separator (solid x (List.mem_of_mem_head? first))
    · exact isBlank_of_separator (solid x (List.mem_of_mem_getLast? last))
  rw [parse?, String.toList_ofList, parseList?, stripped, triple?_of_solid solid]

/-! ### Triples -/

theorem isBlank_apart_digit : ∀ blank ∈ blankRanges, ∀ first ∈ digitZeros,
    blank.2 < first ∨ first + 10 ≤ blank.1 := by
  decide +kernel

theorem isDigit_of_ascii_separator : ∀ n < 128, isSeparator (Char.ofNat n) = true →
    Text.isDigit (Char.ofNat n) = false := by
  decide +kernel

/-- A separator is no digit of any script. -/
theorem isDigit_of_separator {x : Char} (separates : isSeparator x = true) : Text.isDigit x = false := by
  by_cases ascii : x.toNat < 128
  · have none := isDigit_of_ascii_separator x.toNat ascii
    rw [Char.ofNat_toNat] at none
    exact none separates
  · have blank : isBlank x = true := by
      simp only [isSeparator, Bool.or_eq_true, beq_iff_eq] at separates
      rcases separates with (blank | rfl) | rfl
      · exact blank
      · exact absurd (by decide) ascii
      · exact absurd (by decide) ascii
    simp only [isBlank, inRanges, List.any_eq_true, Bool.and_eq_true, decide_eq_true_eq] at blank
    obtain ⟨range, member, lower, upper⟩ := blank
    have none : digitZeros.find? (fun z => z ≤ x.toNat && x.toNat < z + 10) = none := by
      simp only [List.find?_eq_none, Bool.and_eq_true, decide_eq_true_eq, not_and]
      intro first among below
      have apart := isBlank_apart_digit range member first among
      omega
    simp only [Text.isDigit, digitValue?, if_neg ascii, none, Option.map_none, Option.isSome_none]

theorem decimal_cast (n : Nat) : (decimal n).toList = Nat.toDigits 10 n := by
  simp [toList_decimal]

/-- A part of a triple is read up to the separators behind it. -/
theorem part?_decimal {n : Nat} (small : n ≤ 255) (rest : List Char)
    (stop : ∀ x ∈ rest.head?, Text.isDigit x = false) : part? ((decimal n).toList ++ rest) = some (n, rest) := by
  obtain ⟨ds, nonempty, digits, written, value⟩ := exists_toDigits n
  have few : (digitChars ds).length ≤ 3 := by
    rw [← written]
    exact (Nat.length_toDigits_le_iff (by decide) (by decide)).mpr (by omega)
  have read : ∀ d ∈ ds, digitValue? (Nat.digitChar d) = some d :=
    fun d member => digitValue_digitChar d (digits d member)
  have digital : ∀ x ∈ digitChars ds, Text.isDigit x = true := by
    intro x member
    obtain ⟨d, among, rfl⟩ := List.mem_map.mp member
    simp [Text.isDigit, read d among]
  have stopped (k : Nat) : (rest.take k).takeWhile Text.isDigit = [] := by
    cases rest with
    | nil => simp
    | cons x rest =>
      cases k with
      | zero => rfl
      | succ k => exact List.takeWhile_cons_of_neg (by simp [stop x rfl])
  have run : ((digitChars ds ++ rest).take 3).takeWhile Text.isDigit = digitChars ds := by
    rw [List.take_append, List.take_of_length_le few, List.takeWhile_append_of_pos digital, stopped, List.append_nil]
  have values : (digitChars ds).filterMap digitValue? = ds := by
    rw [digitChars, List.filterMap_map]
    exact (List.filterMap_congr read).trans List.filterMap_some
  have some : (digitChars ds).isEmpty = false := by simpa [digitChars] using nonempty
  simp only [part?, decimal_cast, written, run, some, Bool.false_eq_true, if_false, values, value, List.drop_left]

theorem afterSeparators?_append {first rest : List Char} (some : first ≠ [])
    (separates : ∀ x ∈ first, isSeparator x = true) (stop : ∀ x ∈ rest.head?, isSeparator x = false) :
    afterSeparators? (first ++ rest) = .some rest := by
  obtain ⟨s, first, rfl⟩ := List.exists_cons_of_ne_nil some
  have more : ∀ x ∈ first, isSeparator x = true := fun x member => separates x (List.mem_cons_of_mem _ member)
  rw [List.cons_append, afterSeparators?, if_pos (separates s List.mem_cons_self),
    List.dropWhile_append_of_pos more, dropWhile_of_head stop]

theorem isSeparator_digitChar : ∀ d < 10, isSeparator (Nat.digitChar d) = false := by decide

theorem isSeparator_of_decimal {i : Int} {x : Char} (member : x ∈ (decimal i).toList) : isSeparator x = false := by
  rcases mem_decimal member with digit | rfl
  · obtain ⟨d, small, rfl⟩ := exists_digitChar digit
    exact isSeparator_digitChar d small
  · decide

theorem head_of_append {p : Char → Bool} {first : List Char} {b : Bool} (some : first ≠ [])
    (all : ∀ x ∈ first, p x = b) (rest : List Char) : ∀ x ∈ (first ++ rest).head?, p x = b := by
  intro x member
  rw [List.head?_append_of_ne_nil _ some] at member
  exact all x (List.mem_of_mem_head? member)

theorem triple?_of_parts (bounded : c.Bounded) {first second : List Char}
    (some : first ≠ []) (separates : ∀ x ∈ first, isSeparator x = true)
    (some' : second ≠ []) (separates' : ∀ x ∈ second, isSeparator x = true) :
    triple? ((decimal c.red).toList ++ first ++ (decimal c.green).toList ++ second ++ (decimal c.blue).toList) =
      .some (c.red, c.green, c.blue) := by
  obtain ⟨red, green, blue⟩ := bounded
  have apart : ∀ x ∈ first, Text.isDigit x = false := fun x member => isDigit_of_separator (separates x member)
  have apart' : ∀ x ∈ second, Text.isDigit x = false := fun x member => isDigit_of_separator (separates' x member)
  have stop (i : Int) (rest : List Char) : ∀ x ∈ ((decimal i).toList ++ rest).head?, isSeparator x = false :=
    head_of_append (decimal_ne_nil i) (fun _ => isSeparator_of_decimal) rest
  have red? := part?_decimal red _
    (head_of_append some apart ((decimal c.green).toList ++ (second ++ (decimal c.blue).toList)))
  have green? := part?_decimal green _ (head_of_append some' apart' (decimal c.blue).toList)
  have blue? := part?_decimal blue [] (by simp)
  have gap := afterSeparators?_append some separates (stop c.green (second ++ (decimal c.blue).toList))
  have gap' := afterSeparators?_append some' separates' (stop c.blue [])
  rw [List.append_nil] at blue? gap'
  simp [triple?, red?, green?, blue?, gap, gap']

/-! ### All notations -/

theorem number?_of_decimal {i : Int} (small : i.natAbs < 10000000000) : number? (decimal i).toList = some i := by
  have read : readDecimal? (decimal i).toList = some i := readDecimal?_decimal (length_toDigits_le small)
  have other {x : Char} (member : x ∈ (decimal i).toList) : x ∉ ['#', 'x', 'X'] := by
    intro among
    simp only [List.mem_cons, List.not_mem_nil, or_false] at among
    rcases among with rfl | rfl | rfl <;> exact absurd (mem_decimal member) (by decide)
  unfold number?
  split
  next rest written => exact absurd (other (written ▸ List.mem_cons_self)) (by simp)
  next x rest written =>
    have unlike : x ∉ ['#', 'x', 'X'] := other (written ▸ List.mem_cons_of_mem _ List.mem_cons_self)
    simp only [List.mem_cons, List.not_mem_nil, or_false, not_or] at unlike
    have unmarked : (x == 'x' || x == 'X') = false := by simp [unlike]
    rw [unmarked, if_neg (by decide), read]
  next => exact read

theorem number?_sign (bounded : c.Bounded) {hex : List Char} (lower : hex.map Char.toLower = c.digits.map hexDigit) :
    number? ('#' :: hex) = some (c.code : Int) := by
  rw [number?, readHex?_of_lower (bounded_digits bounded) lower (by simp [digits]), ofDigits_digits]

theorem number?_mark (bounded : c.Bounded) {x : Char} (mark : x = 'x' ∨ x = 'X') {hex : List Char}
    (lower : hex.map Char.toLower = c.digits.map hexDigit) : number? ('0' :: x :: hex) = some (c.code : Int) := by
  have marked : (x == 'x' || x == 'X') = true := by simpa using mark
  simp only [number?, marked, if_true]
  rw [readHex?_of_lower (bounded_digits bounded) lower (by simp [digits]), ofDigits_digits]

theorem parse?_of_triple (bounded : c.Bounded) {front first second back : List Char}
    (before : ∀ x ∈ front, isBlank x = true) (after : ∀ x ∈ back, isBlank x = true)
    (some : first ≠ []) (separates : ∀ x ∈ first, isSeparator x = true)
    (some' : second ≠ []) (separates' : ∀ x ∈ second, isSeparator x = true) :
    parse? (String.ofList (front ++ ((decimal c.red).toList ++ first ++ (decimal c.green).toList ++ second ++
      (decimal c.blue).toList) ++ back)) = .some c := by
  have triple := triple?_of_parts bounded some separates some' separates'
  have blankless (i : Int) : ∀ x ∈ (decimal i).toList, isBlank x = false :=
    fun x member => isBlank_of_separator (isSeparator_of_decimal member)
  obtain ⟨red, green, blue⟩ := bounded
  rw [parse?, String.toList_ofList, parseList?, strip, trimList_surrounded before after ?_ ?_ ?_, triple]
  · simp only
    rw [if_pos ⟨red, green, blue⟩]
  · exact List.append_ne_nil_of_right_ne_nil _ (decimal_ne_nil _)
  · simp only [List.append_assoc]
    exact head_of_append (decimal_ne_nil _) (blankless _) _
  · intro x last
    rw [List.getLast?_append_of_ne_nil _ (decimal_ne_nil _)] at last
    exact blankless _ x (List.mem_of_mem_getLast? last)

/-- A colour is read from each of its notations, whatever white space there is around it. -/
theorem parse?_written (bounded : c.Bounded) {front body back : List Char} (before : ∀ x ∈ front, isBlank x = true)
    (written : c.Written body) (after : ∀ x ∈ back, isBlank x = true) :
    parse? (String.ofList (front ++ body ++ back)) = some c := by
  have range : c.code ≤ 0xffffff := by
    obtain ⟨red, green, blue⟩ := bounded
    simp only [code]
    omega
  cases written with
  | @sign hex lower =>
    have solid : ∀ x ∈ '#' :: hex, isSeparator x = false := by
      intro x member
      rcases List.mem_cons.mp member with rfl | member
      · decide
      · exact (facts_of_mem (bounded_digits bounded) lower member).1
    rw [parse?_of_solid before after (List.cons_ne_nil _ _) solid, number?_sign bounded lower]
    exact ofNumber?_code bounded
  | @mark x hex mark lower =>
    have solid : ∀ y ∈ '0' :: x :: hex, isSeparator y = false := by
      intro y member
      simp only [List.mem_cons] at member
      rcases member with rfl | rfl | member
      · decide
      · rcases mark with rfl | rfl <;> decide
      · exact (facts_of_mem (bounded_digits bounded) lower member).1
    rw [parse?_of_solid before after (List.cons_ne_nil _ _) solid, number?_mark bounded mark lower]
    exact ofNumber?_code bounded
  | whole =>
    rw [parse?_of_solid before after (decimal_ne_nil _) fun _ => isSeparator_of_decimal,
      number?_of_decimal (by omega)]
    exact ofNumber?_code bounded
  | triple some separates some' separates' =>
    exact parse?_of_triple bounded before after some separates some' separates'
  | signed least most =>
    rw [parse?_of_solid before after (decimal_ne_nil _) fun _ => isSeparator_of_decimal,
      number?_of_decimal (by omega)]
    exact ofNumber?_of_code bounded (by omega) (by omega) (by omega)

/-! ### Answers -/

theorem hexAtLeast_part {n : Nat} (small : n ≤ 255) : hexAtLeast 2 n = [hexDigit (n / 16), hexDigit (n % 16)] := by
  have nothing : n >>> (4 * 2) = 0 := by
    rw [Nat.shiftRight_eq_div_pow]
    omega
  have half : n / 16 % 16 = n / 16 := by omega
  simp [hexAtLeast, nothing, hexPadded, half]

theorem toLower_hexDigit : ∀ d < 16, (hexDigit d).toLower = hexDigit d := by decide

/-- The own notation of a colour is one with a number sign. -/
theorem written_hex (bounded : c.Bounded) : c.Written c.hex.toList := by
  have small := bounded_digits bounded
  obtain ⟨red, green, blue⟩ := bounded
  have own : c.hex.toList = '#' :: c.digits.map hexDigit := by
    simp [hex, hexAtLeast_part red, hexAtLeast_part green, hexAtLeast_part blue, digits]
  rw [own]
  refine .sign ?_
  rw [List.map_map]
  exact List.map_congr_left fun d member => toLower_hexDigit d (small d member)

theorem bounded_ofInt (n : Int) : (ofInt n).Bounded := by
  constructor <;>
  · simp only [ofInt]
    omega

theorem bounded_of_parse? {v : String} (read : parse? v = some c) : c.Bounded := by
  simp only [parse?, parseList?] at read
  split at read
  · split at read
    next range =>
      obtain rfl := Option.some.inj read
      exact ⟨range.1, range.2.1, range.2.2⟩
    · contradiction
  · obtain ⟨n, _, read⟩ := Option.bind_eq_some_iff.mp read
    unfold ofNumber? at read
    split at read
    · obtain rfl := Option.some.inj read
      exact bounded_ofInt n
    · contradiction

/-- All notations of a colour agree, and every answer is canonical. -/
theorem notations_agree :
    (∀ c : Color, c.Bounded → ∀ body, c.Written body → ∀ front back : List Char,
      (∀ x ∈ front, isBlank x = true) → (∀ x ∈ back, isBlank x = true) →
      parse? (String.ofList (front ++ body ++ back)) = some c) ∧
    ∀ v c, parse? v = some c → c.Bounded ∧ parse? c.hex = some c := by
  refine ⟨fun c bounded body written front back before after => parse?_written bounded before written after, ?_⟩
  intro v c read
  have bounded := bounded_of_parse? read
  have own : parse? (String.ofList ([] ++ c.hex.toList ++ [])) = some c :=
    parse?_written bounded (by simp) (written_hex bounded) (by simp)
  exact ⟨bounded, by simpa using own⟩

theorem notations_agree_of_azure :
    (∀ text ∈ ["\n#00aBfF ", "0X00AbFf\t", " 44031", "0 ,;171\t255", "\t-939480065"],
      parse? text = some ⟨0, 171, 255⟩) ∧
    parse? (hex ⟨0, 171, 255⟩) = some ⟨0, 171, 255⟩ := by
  obtain ⟨agree, canonical⟩ := notations_agree
  have bounded : (⟨0, 171, 255⟩ : Color).Bounded := ⟨by decide, by decide, by decide⟩
  have blank (cs : List Char) (all : cs.all isBlank = true) : ∀ x ∈ cs, isBlank x = true := List.all_eq_true.mp all
  have sign : parse? "\n#00aBfF " = some ⟨0, 171, 255⟩ :=
    agree _ bounded "#00aBfF".toList (.sign (by decide)) ['\n'] [' '] (blank _ (by decide)) (blank _ (by decide))
  have mark : parse? "0X00AbFf\t" = some ⟨0, 171, 255⟩ :=
    agree _ bounded "0X00AbFf".toList (.mark (.inr rfl) (by decide)) [] ['\t'] (by simp) (blank _ (by decide))
  have whole : parse? " 44031" = some ⟨0, 171, 255⟩ :=
    agree _ bounded "44031".toList .whole [' '] [] (blank _ (by decide)) (by simp)
  have apart : Written ⟨0, 171, 255⟩ "0 ,;171\t255".toList :=
    @Written.triple _ " ,;".toList ['\t'] (by decide) (List.all_eq_true.mp (by decide)) (by decide)
      (List.all_eq_true.mp (by decide))
  have triple : parse? "0 ,;171\t255" = some ⟨0, 171, 255⟩ := agree _ bounded _ apart [] [] (by simp) (by simp)
  have signed : parse? "\t-939480065" = some ⟨0, 171, 255⟩ :=
    agree _ bounded "-939480065".toList (@Written.signed _ 200 (by decide) (by decide)) ['\t'] []
      (blank _ (by decide)) (by simp)
  refine ⟨?_, (canonical _ _ sign).2⟩
  simp [sign, mark, whole, triple, signed]

end Color

end Pgml
