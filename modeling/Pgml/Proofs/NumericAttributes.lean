import Mathlib.Data.List.Forall2
import Mathlib.Data.Nat.Digits.Defs
import Pgml.Proofs.NumberFaults
import Pgml.Proofs.LinkedStyling

/-! Numbers among the common attributes. What a text denotes is told by its sign and the places of its digits,
and a shape gets exactly what the six numeric attributes denote. A number that denotes nothing is refused
wherever it is looked for; without an `x` nothing else of a geometry is looked for, so that a bad one is
dropped there. -/
namespace Pgml

/-! ## Numerals -/

namespace Number

/-- Digits in ASCII. -/
def digitChars (ds : List Nat) : List Char := ds.map Nat.digitChar

theorem ofDigits_eq (base : Nat) (ds : List Nat) : ofDigits base ds = Nat.ofDigits base ds.reverse := by
  rw [ofDigits, Nat.ofDigits_eq_foldr, List.foldr_reverse]
  simp only [Nat.cast_id]
  congr 1
  funext n d
  rw [Nat.add_comm, Nat.mul_comm]

theorem isDigit_digitChar : ∀ d < 10, (Nat.digitChar d).isDigit = true := by decide

theorem digitValue_digitChar : ∀ d < 10, Text.digitValue? (Nat.digitChar d) = some d := by decide

theorem exists_digitChar {c : Char} (digit : c.isDigit = true) : ∃ d < 10, Nat.digitChar d = c := by
  have bounds : 48 ≤ c.toNat ∧ c.toNat ≤ 57 := by
    simpa [Char.isDigit, UInt32.le_iff_toNat_le] using digit
  have all : ∀ n < 58, 48 ≤ n → Nat.digitChar (n - 48) = Char.ofNat n := by decide
  refine ⟨c.toNat - 48, by omega, ?_⟩
  rw [all c.toNat (by omega) bounds.1, Char.ofNat_toNat]

theorem exists_digitChars {cs : List Char} (digits : ∀ c ∈ cs, c.isDigit = true) :
    ∃ ds, (∀ d ∈ ds, d < 10) ∧ cs = digitChars ds := by
  induction cs with
  | nil => exact ⟨[], by simp, rfl⟩
  | cons c rest ih =>
    obtain ⟨d, small, rfl⟩ := exists_digitChar (digits c (by simp))
    obtain ⟨ds, others, rfl⟩ := ih fun c member => digits c (by simp [member])
    exact ⟨d :: ds, by simpa using ⟨small, others⟩, rfl⟩

theorem digits?_of_values {digit? : Char → Option Nat} {cs : List Char} {ds : List Nat}
    (values : List.Forall₂ (fun c d => digit? c = some d ∧ c ≠ '_') cs ds) (nonempty : ds ≠ []) :
    digits? digit? cs = some ds := by
  induction values with
  | nil => contradiction
  | @cons c d cs ds here others ih =>
    obtain ⟨value, _⟩ := here
    cases others with
    | nil => simp [digits?, value]
    | cons next more =>
      have read := ih (by simp)
      simp [digits?, value, read, next.2]

theorem digits_digitChars {ds : List Nat} (small : ∀ d ∈ ds, d < 10) (nonempty : ds ≠ []) :
    digits? Text.digitValue? (digitChars ds) = some ds := by
  refine digits?_of_values ?_ nonempty
  rw [digitChars, List.forall₂_map_left_iff]
  refine List.forall₂_same.mpr fun d member => ⟨digitValue_digitChar d (small d member), ?_⟩
  intro same
  have digit := isDigit_digitChar d (small d member)
  simp [same] at digit

theorem splitSign_digitChars {ds : List Nat} (small : ∀ d ∈ ds, d < 10) :
    splitSign (digitChars ds) = (false, digitChars ds) := by
  cases ds with
  | nil => rfl
  | cons d rest =>
    have digit := isDigit_digitChar d (small d (by simp))
    simp only [digitChars, List.map_cons, splitSign]
    split
    next same => simp [(List.cons.inj same).1] at digit
    next same => simp [(List.cons.inj same).1] at digit
    next => rfl

/-- A sign, if any, and digits that are not too many are read. -/
theorem readDecimal?_of_digits {cs : List Char} {ds : List Nat} (plain : ∀ c ∈ cs, isMargin c = false)
    (small : ∀ d ∈ ds, d < 10) (nonempty : ds ≠ []) (body : (splitSign cs).2 = digitChars ds)
    (few : ds.length ≤ maxDecimalDigits) :
    readDecimal? cs = some (signed (splitSign cs).1 (ofDigits 10 ds)) := by
  have whole : withoutMargin cs = cs := Text.trimList_eq_self plain
  simp [readDecimal?, whole, body, digits_digitChars small nonempty, ofDecimalDigits?, few]

end Number

namespace Attributes

open Number

/-- The integer that a text denotes, which is a sign, if any, and one or more decimal digits. -/
def Denotes (value : String) (n : Int) : Prop :=
  ∃ ds : List Nat, ds ≠ [] ∧ (∀ d ∈ ds, d < 10) ∧
    ((value.toList = digitChars ds ∨ value.toList = '+' :: digitChars ds) ∧
        n = (Nat.ofDigits 10 ds.reverse : Nat) ∨
      value.toList = '-' :: digitChars ds ∧ n = -(Nat.ofDigits 10 ds.reverse : Nat))

theorem denotes_iff {value : String} {n : Int} : Denotes value n ↔
    ∃ ds : List Nat, ds ≠ [] ∧ (∀ d ∈ ds, d < 10) ∧ (splitSign value.toList).2 = digitChars ds ∧
      n = signed (splitSign value.toList).1 (ofDigits 10 ds) := by
  constructor
  · rintro ⟨ds, nonempty, small, ⟨plain | plus, rfl⟩ | ⟨minus, rfl⟩⟩
    · rw [plain, splitSign_digitChars small]
      exact ⟨ds, nonempty, small, rfl, by simp [signed, ofDigits_eq]⟩
    · rw [plus]
      exact ⟨ds, nonempty, small, rfl, by simp [signed, splitSign, ofDigits_eq]⟩
    · rw [minus]
      exact ⟨ds, nonempty, small, rfl, by simp [signed, splitSign, ofDigits_eq]⟩
  · rintro ⟨ds, nonempty, small, body, rfl⟩
    refine ⟨ds, nonempty, small, ?_⟩
    simp only [← ofDigits_eq]
    unfold splitSign at body ⊢
    split at body
    next rest same =>
      obtain rfl : rest = digitChars ds := body
      exact .inl ⟨.inr same, rfl⟩
    next rest same =>
      obtain rfl : rest = digitChars ds := body
      exact .inr ⟨same, rfl⟩
    next => exact .inl ⟨.inl body, rfl⟩

/-- The texts that denote an integer. -/
theorem isInteger_iff {value : String} : isInteger value.toList = true ↔ ∃ n, Denotes value n := by
  simp only [denotes_iff]
  constructor
  · intro integer
    obtain ⟨nonempty, digits, _⟩ := mem_of_isInteger integer
    obtain ⟨ds, small, body⟩ := exists_digitChars digits
    refine ⟨_, ds, ?_, small, body, rfl⟩
    rintro rfl
    exact nonempty body
  · rintro ⟨_, ds, nonempty, small, body, _⟩
    simp only [isInteger, body, Bool.and_eq_true, Bool.not_eq_true', List.isEmpty_eq_false_iff, List.all_eq_true]
    refine ⟨by simpa [digitChars] using nonempty, ?_⟩
    intro c member
    obtain ⟨d, among, rfl⟩ := List.mem_map.mp member
    exact isDigit_digitChar d (small d among)

/-- An integer that is not too long is read as what it denotes. -/
theorem toInt_of_denotes {value : String} {n : Int} (denotes : Denotes value n) (short : ¬ Overlong value)
    (key : String) : toInt value key = .ok n := by
  have integer : isInteger value.toList = true := isInteger_iff.mpr ⟨n, denotes⟩
  obtain ⟨ds, nonempty, small, body, rfl⟩ := denotes_iff.mp denotes
  obtain ⟨_, _, plain⟩ := mem_of_isInteger integer
  have few : ds.length ≤ maxDecimalDigits := by
    have length : (splitSign value.toList).2.length = ds.length := by simp [body, digitChars]
    have bound : ¬ maxDecimalDigits < (splitSign value.toList).2.length := fun many => short ⟨integer, many⟩
    omega
  have read := readDecimal?_of_digits (fun c member => isMargin_eq_false (plain c member)) small nonempty body few
  simp [toInt, integer, read]

theorem denotes_of_toInt {value key : String} {n : Int} (read : toInt value key = .ok n) : Denotes value n := by
  rcases toInt_cases value key with ⟨_, _, integer, short⟩ | ⟨wrong, _⟩ | ⟨long, _⟩
  · obtain ⟨k, denotes⟩ := isInteger_iff.mp integer
    obtain rfl : n = k := Except.ok.inj (read.symm.trans (toInt_of_denotes denotes short key))
    exact denotes
  · exact absurd (read.symm.trans wrong) (by simp)
  · exact absurd (read.symm.trans long) (by simp)

/-- A text that denotes nothing is refused. -/
theorem toInt_eq_error {value key : String} {e : Fault} (short : ¬ Overlong value)
    (failed : toInt value key = .error e) : (∀ n, ¬ Denotes value n) ∧ e = .malformed (.notInteger key value) := by
  refine ⟨fun n denotes => ?_, ?_⟩
  · exact absurd (failed.symm.trans (toInt_of_denotes denotes short key)) (by simp)
  · rcases toInt_error failed with refused | ⟨_, overlong⟩
    · exact refused
    · exact absurd overlong short

/-! ## The numeric attributes -/

/-- The number that an attribute holds, none if it is missing or empty. -/
def Holds (as : Attributes) (key : String) : Option Int → Prop
  | none => as.value? key = none
  | some n => ∃ value, as.value? key = some value ∧ Denotes value n

/-- The attributes that are read as numbers. -/
def numeric : List String := ["x", "y", "width", "height", "stroke", "shown"]

theorem numeric_of_part {key : String} (part : key ∈ ["y", "width", "height"]) : key ∈ numeric := by
  simp only [List.mem_cons, List.not_mem_nil, or_false] at part
  rcases part with rfl | rfl | rfl <;> decide

/-- An attribute that is looked for as a number and holds something else. Without an `x` no other part of a
geometry is looked for. -/
structure Refused (as : Attributes) (key value : String) : Prop where
  looked : key ∈ ["x", "stroke", "shown"] ∨ as.value? "x" ≠ none ∧ key ∈ ["y", "width", "height"]
  present : as.value? key = some value
  nothing : ∀ n, ¬ Denotes value n

/-- No number has more digits than numerals may have. -/
def Short (as : Attributes) : Prop := ∀ key ∈ numeric, ∀ value ∈ as.value? key, ¬ Overlong value

instance (as : Attributes) : Decidable as.Short :=
  inferInstanceAs (Decidable (∀ key ∈ numeric, ∀ value ∈ as.value? key, ¬ Overlong value))

/-- A fault that a refused attribute is to blame for. -/
def Blamed (as : Attributes) (e : Fault) : Prop :=
  ∃ key value, as.Refused key value ∧ e = .malformed (.notInteger key value)

/-- The box of a shape after its attributes are applied. -/
def Boxes (as : Attributes) (old new : Bounds) : Prop :=
  as.value? "x" = none ∧ new = old ∨
    ∃ x y width height, as.Holds "x" (some x) ∧ as.Holds "y" y ∧ as.Holds "width" width ∧
      as.Holds "height" height ∧ new = ⟨x, y.getD 0, width.getD 20, height.getD 20⟩

variable {as : Attributes} {key : String}

theorem Holds.ne_refused {o : Option Int} (holds : as.Holds key o) {value : String} : ¬ as.Refused key value := by
  rintro ⟨_, present, nothing⟩
  cases o with
  | none => exact absurd (holds.symm.trans present) (by simp)
  | some n =>
    obtain ⟨other, there, denotes⟩ := holds
    obtain rfl : other = value := Option.some.inj (there.symm.trans present)
    exact nothing n denotes

theorem holds_of_int? {o : Option Int} (read : as.int? key = .ok o) : as.Holds key o := by
  unfold int? at read
  cases value : as.value? key with
  | none =>
    obtain rfl : none = o := by simpa [value] using read
    exact value
  | some text =>
    simp only [value] at read
    cases number : toInt text key with
    | error e => simp [number, Except.map] at read
    | ok n =>
      obtain rfl : some n = o := by simpa [number, Except.map] using read
      exact ⟨text, value, denotes_of_toInt number⟩

theorem holds_of_int {default n : Int} (read : as.int key default = .ok n) :
    ∃ o, as.Holds key o ∧ n = o.getD default := by
  unfold int at read
  cases found : as.int? key with
  | error e => simp [found, Except.map] at read
  | ok o =>
    obtain rfl : o.getD default = n := by simpa [found, Except.map] using read
    exact ⟨o, holds_of_int? found, rfl⟩

section

variable (short : as.Short)

include short

theorem Short.blamed_of_int? (asked : key ∈ numeric)
    (looked : key ∈ ["x", "stroke", "shown"] ∨ as.value? "x" ≠ none ∧ key ∈ ["y", "width", "height"]) {e : Fault}
    (failed : as.int? key = .error e) : as.Blamed e := by
  unfold int? at failed
  cases value : as.value? key with
  | none => simp [value] at failed
  | some text =>
    simp only [value] at failed
    cases number : toInt text key with
    | ok n => simp [number, Except.map] at failed
    | error other =>
      obtain rfl : other = e := by simpa [number, Except.map] using failed
      obtain ⟨nothing, refused⟩ := toInt_eq_error (short key asked text value) number
      exact ⟨key, text, ⟨looked, value, nothing⟩, refused⟩

theorem Short.blamed_of_int (present : as.value? "x" ≠ none) (part : key ∈ ["y", "width", "height"])
    {default : Int} {e : Fault} (failed : as.int key default = .error e) : as.Blamed e := by
  unfold int at failed
  cases found : as.int? key with
  | ok o => simp [found, Except.map] at failed
  | error other =>
    obtain rfl : other = e := by simpa [found, Except.map] using failed
    exact short.blamed_of_int? (numeric_of_part part) (.inr ⟨present, part⟩) found

end

end Attributes

/-! ## Shapes -/

namespace Styling

open Work (Ends)
open Attributes

variable {as : Attributes} {n : Numbers}

section

variable (short : as.Short)

include short

theorem setGeometry_numbered : Ends (Numbered n) (fun e _ => as.Blamed e) (setGeometry as) fun _ s =>
    ∃ box, as.Boxes n.box box ∧ Numbered { n with box := box } s := by
  refine (Ends.settle fun e _ _ failed => ?_).bind fun x => Ends.given fun atX => ?_
  · exact short.blamed_of_int? (by decide) (.inl (by decide)) failed
  · have x_holds := holds_of_int? atX
    cases x with
    | none => exact .pure fun s numbered => ⟨n.box, .inl ⟨x_holds, rfl⟩, numbered⟩
    | some x =>
      have present : as.value? "x" ≠ none := by
        obtain ⟨value, there, _⟩ := x_holds
        simp [there]
      have part (key : String) (default : Int) (among : key ∈ ["y", "width", "height"]) :
          Ends (Numbered n) (fun e _ => as.Blamed e) (Work.settle (as.int key default)) fun a s =>
            (∃ o, as.Holds key o ∧ a = o.getD default) ∧ Numbered n s := by
        refine (Ends.settle fun e _ _ failed => short.blamed_of_int present among failed).mono ?_
        rintro a s ⟨read, numbered⟩
        exact ⟨holds_of_int read, numbered⟩
      refine (part "y" 0 (by decide)).bind fun y => Ends.given fun atY => ?_
      refine (part "width" 20 (by decide)).bind fun width => Ends.given fun wide => ?_
      refine (part "height" 20 (by decide)).bind fun height => Ends.given fun high => ?_
      -- All four are read by now, and only then the box is set.
      obtain ⟨y, y_holds, rfl⟩ := atY
      obtain ⟨width, width_holds, rfl⟩ := wide
      obtain ⟨height, height_holds, rfl⟩ := high
      refine .update fun s numbered => ⟨_, .inr ⟨x, y, width, height, x_holds, y_holds, width_holds, height_holds,
        rfl⟩, ?_⟩
      rw [← numbered]
      rfl

theorem setLineWidth_numbered : Ends (Numbered n) (fun e _ => as.Blamed e) (setLineWidth as) fun _ s =>
    ∃ o, as.Holds "stroke" o ∧ Numbered { n with lineWidth := o.getD n.lineWidth } s := by
  refine (Ends.settle fun e _ _ failed => ?_).bind fun o => Ends.given fun read => ?_
  · exact short.blamed_of_int? (by decide) (.inl (by decide)) failed
  · have holds := holds_of_int? read
    cases o with
    | none => exact .pure fun s numbered => ⟨none, holds, numbered⟩
    | some width =>
      refine .update fun s numbered => ⟨some width, holds, ?_⟩
      rw [← numbered]
      rfl

theorem setVisible_numbered : Ends (Numbered n) (fun e _ => as.Blamed e) (setVisible as) fun _ s =>
    ∃ o, as.Holds "shown" o ∧ Numbered { n with visible := (o.map (· != 0)).getD n.visible } s := by
  refine (Ends.settle fun e _ _ failed => ?_).bind fun o => Ends.given fun read => ?_
  · exact short.blamed_of_int? (by decide) (.inl (by decide)) failed
  · have holds := holds_of_int? read
    cases o with
    | none => exact .pure fun s numbered => ⟨none, holds, numbered⟩
    | some shown =>
      refine .update fun s numbered => ⟨some shown, holds, ?_⟩
      rw [← numbered]
      rfl

end

/-- The numbers of a shape after attributes are applied to it. -/
structure Applied (as : Attributes) (old new : Numbers) : Prop where
  box : as.Boxes old.box new.box
  lineWidth : ∃ o, as.Holds "stroke" o ∧ new.lineWidth = o.getD old.lineWidth
  visible : ∃ o, as.Holds "shown" o ∧ new.visible = (o.map (· != 0)).getD old.visible

theorem setCommon_numbered (short : as.Short) (defaults : ColorDefaults) :
    Ends (Numbered n) (fun e _ => as.Blamed e) (setCommon defaults as) fun _ s =>
      Applied as n s.shape.numbers := by
  refine (setGeometry_numbered short).bind fun _ => Ends.exists_pre fun box => Ends.given fun boxes => ?_
  refine (setLineWidth_numbered short).bind fun _ => Ends.exists_pre fun stroke => Ends.given fun width => ?_
  refine (setLineColor_numbered _).bind fun _ => setFilled_numbered.bind fun _ => ?_
  refine (setFillColor_numbered _).bind fun _ => setDashed_numbered.bind fun _ => ?_
  refine setContext_numbered.bind fun _ => (setVisible_numbered short).bind fun _ => ?_
  refine Ends.exists_pre fun shown => Ends.given fun visible => ?_
  refine setSingle_numbered.mono fun _ s numbered => ?_
  rw [numbered]
  exact ⟨boxes, ⟨stroke, width, rfl⟩, shown, visible, rfl⟩

theorem Applied.unrefused {old new : Numbers} (applied : Applied as old new) (key value : String) :
    ¬ as.Refused key value := by
  obtain ⟨box, ⟨_, stroke, _⟩, ⟨_, shown, _⟩⟩ := applied
  intro refused
  have looked := refused.looked
  simp only [List.mem_cons, List.not_mem_nil, or_false] at looked
  rcases looked with (rfl | rfl | rfl) | ⟨present, part⟩
  · rcases box with ⟨absent, _⟩ | ⟨_, _, _, _, x, _⟩
    · exact absurd (absent.symm.trans refused.present) (by simp)
    · exact x.ne_refused refused
  · exact stroke.ne_refused refused
  · exact shown.ne_refused refused
  · rcases box with ⟨absent, _⟩ | ⟨_, _, _, _, _, y, width, height, _⟩
    · exact present absent
    · rcases part with rfl | rfl | rfl
      · exact y.ne_refused refused
      · exact width.ne_refused refused
      · exact height.ne_refused refused

/-- Common attributes are refused if and only if one of `x`, `stroke` and `shown`, or beside an `x` one of `y`,
`width` and `height`, is neither missing nor empty and denotes no integer; the fault names such an attribute.
Otherwise the shape gets what they denote: a box if there is an `x`, the rest of it 0, 20 and 20 where it is
missing, the width of its line, and whether it is visible. -/
theorem setCommon_numbers (short : as.Short) (defaults : ColorDefaults) (s : Styling) :
    ((∃ cause, (setCommon defaults as s).1 = .error (.malformed cause)) ↔ ∃ key value, as.Refused key value) ∧
    (∀ e, (setCommon defaults as s).1 = .error e → as.Blamed e) ∧
    ((∀ key value, ¬ as.Refused key value) →
      ∃ t, setCommon defaults as s = (.ok (), t) ∧ Applied as s.shape.numbers t.shape.numbers) := by
  have ends := setCommon_numbered short defaults s rfl
  rcases ran : setCommon defaults as s with ⟨e | ⟨⟩, t⟩
  · have blamed : as.Blamed e := by simpa [ran] using ends
    obtain ⟨key, value, refused, rfl⟩ := blamed
    refine ⟨⟨fun _ => ⟨key, value, refused⟩, fun _ => ⟨.notInteger key value, rfl⟩⟩, ?_, ?_⟩
    · rintro _ ⟨⟩
      exact ⟨key, value, refused, rfl⟩
    · exact fun fine => absurd refused (fine key value)
  · have applied : Applied as s.shape.numbers t.shape.numbers := by simpa [ran] using ends
    refine ⟨⟨?_, ?_⟩, ?_, fun _ => ⟨t, rfl, applied⟩⟩
    · rintro ⟨_, ⟨⟩⟩
    · rintro ⟨key, value, refused⟩
      exact absurd refused (applied.unrefused key value)
    · rintro _ ⟨⟩

theorem setCommon_numbers_of_wide :
    let as : Attributes := [("height", ""), ("shown", "-0"), ("width", "+007"), ("x", "5"), ("stroke", "3")]
    let wide : Attributes := ("width", "wide") :: as
    let s : Styling := ⟨.ofVariant .rectangle, .ofPalette .builtin, []⟩
    as.Short ∧ wide.Short ∧ wide.Refused "width" "wide" ∧
      (∃ cause, (setCommon ⟨.pureBlue, .white⟩ wide s).1 = .error (.malformed cause)) ∧
      ∃ t, setCommon ⟨.pureBlue, .white⟩ as s = (.ok (), t) ∧ t.shape.numbers = ⟨⟨5, 0, 7, 20⟩, 3, false⟩ ∧
        Applied as s.shape.numbers t.shape.numbers := by
  intro as wide s
  have tidy : as.Short := by decide
  have short : wide.Short := by decide
  have nothing (n : Int) : ¬ Denotes "wide" n := fun denotes => absurd (isInteger_iff.mpr ⟨n, denotes⟩) (by decide)
  have refused : wide.Refused "width" "wide" := ⟨by decide, by decide, nothing⟩
  obtain ⟨bad, _⟩ := setCommon_numbers short ⟨.pureBlue, .white⟩ s
  obtain ⟨good, _, applies⟩ := setCommon_numbers tidy ⟨.pureBlue, .white⟩ s
  have fine (key value : String) : ¬ as.Refused key value := by
    intro other
    obtain ⟨_, ⟨⟩⟩ := good.mpr ⟨key, value, other⟩
  obtain ⟨t, ran, applied⟩ := applies fine
  refine ⟨tidy, short, refused, bad.mpr ⟨_, _, refused⟩, t, ran, ?_, applied⟩
  obtain rfl := congrArg Prod.snd ran
  rfl

/-- Without an `x` a bad number in the rest of a geometry is dropped. -/
theorem setCommon_drops :
    let as : Attributes := [("y", "abc")]
    let s : Styling := ⟨.ofVariant .rectangle, .ofPalette .builtin, []⟩
    as.Short ∧ setCommon ⟨.pureBlue, .white⟩ as s = (.ok (), s) ∧
      ¬ ((∃ cause, (setCommon ⟨.pureBlue, .white⟩ as s).1 = .error (.malformed cause)) ↔
        ∃ key ∈ numeric, ∃ value, as.value? key = some value ∧ ∀ n, ¬ Denotes value n) := by
  intro as s
  have ran : setCommon ⟨.pureBlue, .white⟩ as s = (.ok (), s) := rfl
  have nothing (n : Int) : ¬ Denotes "abc" n := fun denotes => absurd (isInteger_iff.mpr ⟨n, denotes⟩) (by decide)
  refine ⟨by decide, ran, fun iff => ?_⟩
  obtain ⟨cause, failed⟩ := iff.mpr ⟨"y", by decide, "abc", by decide, nothing⟩
  simp [ran] at failed

end Styling

end Pgml
