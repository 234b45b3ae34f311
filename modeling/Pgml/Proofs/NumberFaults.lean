import Pgml.Proofs.Work
import Pgml.Vocabulary

/-! What an element is to blame for. A number that an attribute or a type hint holds can be read, or
it is no integer, which makes the document malformed, or it is an integer with too many digits, which
is a fault of another kind. There is nothing else that can be wrong with numbers. -/
namespace Pgml

/-- The faults that are told apart as those of a document, of its owners and of a reader's use. -/
def Fault.isDeclared : Fault → Bool
  | malformed _ | noOwner _ | misuse _ => true
  | _ => false

/-! ## Digits -/

theorem Text.trimList_eq_self {drop : Char → Bool} {cs : List Char} (kept : ∀ c ∈ cs, drop c = false) :
    trimList drop cs = cs := by
  have whole (xs : List Char) (kept : ∀ c ∈ xs, drop c = false) : xs.dropWhile drop = xs := by
    cases xs with
    | nil => rfl
    | cons c rest => simp [kept c (by simp)]
  have reversed : ∀ c ∈ cs.reverse, drop c = false := fun c member => kept c (by simpa using member)
  simp [trimList, whole cs kept, whole cs.reverse reversed]

namespace Number

theorem isMargin_eq_false {c : Char} (plain : c.isDigit = true ∨ c = '+' ∨ c = '-') :
    isMargin c = false := by
  rcases plain with digit | rfl | rfl
  · have bounds : 48 ≤ c.toNat ∧ c.toNat ≤ 57 := by
      simpa [Char.isDigit, UInt32.le_iff_toNat_le] using digit
    have outside : Text.isBlank c = false := by
      simp only [Text.isBlank, Text.inRanges, Text.blankRanges, List.any_cons, List.any_nil,
        Bool.or_false, Bool.or_eq_false_iff, Bool.and_eq_false_iff, decide_eq_false_iff_not]
      omega
    simp [isMargin, outside]
  · decide
  · decide

theorem digitValue_of_isDigit {c : Char} (digit : c.isDigit = true) :
    ∃ d, Text.digitValue? c = some d ∧ c ≠ '_' := by
  have bounds : 48 ≤ c.toNat ∧ c.toNat ≤ 57 := by
    simpa [Char.isDigit, UInt32.le_iff_toNat_le] using digit
  have ascii : c.toNat < 128 := by omega
  refine ⟨c.toNat - 48, by simp [Text.digitValue?, ascii, digit], ?_⟩
  rintro rfl
  simp at digit

theorem digits_of_isDigit {cs : List Char} (digits : ∀ c ∈ cs, c.isDigit = true) (nonempty : cs ≠ []) :
    ∃ ds, digits? Text.digitValue? cs = some ds ∧ ds.length = cs.length := by
  induction cs with
  | nil => exact absurd rfl nonempty
  | cons c rest ih =>
    obtain ⟨d, value, _⟩ := digitValue_of_isDigit (digits c (by simp))
    cases rest with
    | nil => exact ⟨[d], by simp [digits?, value], rfl⟩
    | cons next more =>
      obtain ⟨ds, read, length⟩ := ih (fun c member => digits c (by simp [member])) (by simp)
      obtain ⟨_, _, other⟩ := digitValue_of_isDigit (digits next (by simp))
      refine ⟨d :: ds, ?_, by simp [length]⟩
      simp [digits?, value, read]

end Number

namespace Attributes

/-- An integer with more digits than numerals may have. -/
def Overlong (value : String) : Prop :=
  isInteger value.toList = true ∧ Number.maxDecimalDigits < (Number.splitSign value.toList).2.length

instance (value : String) : Decidable (Overlong value) := inferInstanceAs (Decidable (_ ∧ _))

theorem mem_of_isInteger {cs : List Char} (integer : isInteger cs = true) :
    (Number.splitSign cs).2 ≠ [] ∧ (∀ c ∈ (Number.splitSign cs).2, c.isDigit = true) ∧
    ∀ c ∈ cs, c.isDigit = true ∨ c = '+' ∨ c = '-' := by
  simp only [isInteger, Bool.and_eq_true, Bool.not_eq_true', List.isEmpty_eq_false_iff,
    List.all_eq_true] at integer
  obtain ⟨nonempty, digits⟩ := integer
  refine ⟨nonempty, digits, ?_⟩
  unfold Number.splitSign at digits
  split at digits
  · intro c member
    rcases List.mem_cons.mp member with rfl | member
    · exact .inr (.inl rfl)
    · exact .inl (digits c member)
  · intro c member
    rcases List.mem_cons.mp member with rfl | member
    · exact .inr (.inr rfl)
    · exact .inl (digits c member)
  · exact fun c member => .inl (digits c member)

/-- An integer in ASCII digits is read exactly if it has not too many of them. -/
theorem isSome_readDecimal? {cs : List Char} (integer : isInteger cs = true) :
    (Number.readDecimal? cs).isSome = true ↔
      (Number.splitSign cs).2.length ≤ Number.maxDecimalDigits := by
  obtain ⟨nonempty, digits, plain⟩ := mem_of_isInteger integer
  have whole : Number.withoutMargin cs = cs :=
    Text.trimList_eq_self fun c member => Number.isMargin_eq_false (plain c member)
  obtain ⟨ds, read, length⟩ := Number.digits_of_isDigit digits nonempty
  by_cases few : ds.length ≤ Number.maxDecimalDigits
  · simp [Number.readDecimal?, whole, read, Number.ofDecimalDigits?, few, ← length]
  · simp [Number.readDecimal?, whole, read, Number.ofDecimalDigits?, few, ← length]

/-- A number is read, or it is no integer, or it has too many digits. -/
theorem toInt_cases (value key : String) :
    (∃ n, toInt value key = .ok n ∧ isInteger value.toList = true ∧ ¬ Overlong value) ∨
    (toInt value key = .error (.malformed (.notInteger key value)) ∧ isInteger value.toList = false) ∨
    (toInt value key = .error .numeralTooLong ∧ Overlong value) := by
  by_cases integer : isInteger value.toList = true
  · have read := isSome_readDecimal? integer
    cases found : Number.readDecimal? value.toList with
    | some n =>
      have few := read.mp (by rw [found]; rfl)
      refine .inl ⟨n, by simp [toInt, integer, found], integer, ?_⟩
      rintro ⟨_, many⟩
      omega
    | none =>
      have many : ¬ (Number.splitSign value.toList).2.length ≤ Number.maxDecimalDigits := by
        intro few
        simpa [found] using read.mpr few
      exact .inr (.inr ⟨by simp [toInt, integer, found], integer, by omega⟩)
  · exact .inr (.inl ⟨by simp [toInt, integer], by simpa using integer⟩)

theorem toInt_error {value key : String} {e : Fault} (failed : toInt value key = .error e) :
    e = .malformed (.notInteger key value) ∨ e = .numeralTooLong ∧ Overlong value := by
  rcases toInt_cases value key with ⟨n, read, _⟩ | ⟨wrong, _⟩ | ⟨long, overlong⟩
  · rw [read] at failed
    contradiction
  · exact .inl (Except.error.inj (failed.symm.trans wrong))
  · exact .inr ⟨Except.error.inj (failed.symm.trans long), overlong⟩

/-! ## Faults of an element -/

/-- The texts of an element that may be read as numbers: the values of its attributes and the tokens
of its type hint. -/
def numerals (as : Attributes) (hint : String) : List String :=
  as.map (·.2) ++ ((as.value? hint).map hintTokens).getD []

/-- Whether a fault is one of reading an element's numbers. -/
def Misread (as : Attributes) (hint : String) (e : Fault) : Prop :=
  (∃ cause, e = .malformed cause) ∨ e = .numeralTooLong ∧ ∃ value ∈ as.numerals hint, Overlong value

/-- Whether a fault is one that an element may cause. -/
def Blames (as : Attributes) (hint : String) (e : Fault) : Prop :=
  e.isDeclared = true ∨ e = .numeralTooLong ∧ ∃ value ∈ as.numerals hint, Overlong value

variable {as : Attributes} {hint key value : String} {e : Fault}

theorem mem_of_value? (present : as.value? key = some value) : value ∈ as.map (·.2) := by
  unfold value? raw? at present
  cases found : as.find? fun a => a.1 == key with
  | none => simp [found] at present
  | some a =>
    obtain ⟨_, rfl⟩ : ¬ a.2 = "" ∧ a.2 = value := by simpa [found] using present
    exact List.mem_map_of_mem (List.mem_of_find?_eq_some found)

theorem Misread.blames (misread : as.Misread hint e) : as.Blames hint e := by
  rcases misread with ⟨_, rfl⟩ | long
  · exact .inl rfl
  · exact .inr long

theorem Misread.ne_noOwner (misread : as.Misread hint e) (id : String) : e ≠ .noOwner id := by
  rintro rfl
  simp [Misread] at misread

theorem toInt_misread (member : value ∈ as.numerals hint) (failed : toInt value key = .error e) :
    as.Misread hint e := by
  rcases toInt_error failed with rfl | ⟨rfl, overlong⟩
  · exact .inl ⟨_, rfl⟩
  · exact .inr ⟨rfl, value, member, overlong⟩

theorem value?_misread (present : as.value? key = some value) {name : String}
    (failed : toInt value name = .error e) : as.Misread hint e :=
  toInt_misread (List.mem_append_left _ (mem_of_value? present)) failed

theorem int?_misread (failed : as.int? key = .error e) : as.Misread hint e := by
  unfold int? at failed
  cases present : as.value? key with
  | none => simp [present] at failed
  | some value =>
    cases read : toInt value key with
    | ok n => simp [present, read, Except.map] at failed
    | error other =>
      obtain rfl : other = e := by simpa [present, read, Except.map] using failed
      exact value?_misread present read

theorem int_misread {default : Int} (failed : as.int key default = .error e) : as.Misread hint e := by
  unfold int at failed
  cases read : as.int? key with
  | ok n => simp [read, Except.map] at failed
  | error other =>
    obtain rfl : other = e := by simpa [read, Except.map] using failed
    exact int?_misread read

end Attributes

namespace Vocabulary

variable {as : Attributes} {hint : String} {e : Fault}

theorem hintBounds_misread {geometry : List String} (tokens : ∀ t ∈ geometry, t ∈ as.numerals hint)
    (failed : hintBounds geometry = .error e) : as.Misread hint e := by
  unfold hintBounds at failed
  split at failed
  next x y width height rest =>
    rcases except_bind_eq_error failed with wrong | ⟨_, _, failed⟩
    · exact Attributes.toInt_misread (tokens x (by simp)) wrong
    rcases except_bind_eq_error failed with wrong | ⟨_, _, failed⟩
    · exact Attributes.toInt_misread (tokens y (by simp)) wrong
    rcases except_bind_eq_error failed with wrong | ⟨_, _, failed⟩
    · exact Attributes.toInt_misread (tokens width (by simp)) wrong
    rcases except_bind_eq_error failed with wrong | ⟨_, _, failed⟩
    · exact Attributes.toInt_misread (tokens height (by simp)) wrong
    contradiction
  next => exact Except.error.inj failed ▸ .inl ⟨_, rfl⟩

theorem point_misread {name : String} (failed : point name as = .error e) : as.Misread hint e := by
  unfold point at failed
  split at failed
  next x y atX atY =>
    rcases except_bind_eq_error failed with wrong | ⟨_, _, failed⟩
    · exact Attributes.value?_misread atX wrong
    rcases except_bind_eq_error failed with wrong | ⟨_, _, failed⟩
    · exact Attributes.value?_misread atY wrong
    contradiction
  next => exact Except.error.inj failed ▸ .inl ⟨_, rfl⟩

theorem rootScale_bad {value : Option String} (failed : rootScale value = .error e) :
    ∃ text, e = .malformed (.badScale text) := by
  unfold rootScale at failed
  split at failed
  · contradiction
  · contradiction
  next text _ =>
    split at failed
    · contradiction
    · exact ⟨text, (Except.error.inj failed).symm⟩

/-- Nothing but its scale can be wrong with the attributes of a root element. -/
theorem rootDiagram_bad {hintAttribute : String} (failed : rootDiagram hintAttribute as = .error e) :
    ∃ text, e = .malformed (.badScale text) := by
  rcases except_bind_eq_error failed with wrong | ⟨_, _, failed⟩
  · exact rootScale_bad wrong
  · contradiction

end Vocabulary

end Pgml
