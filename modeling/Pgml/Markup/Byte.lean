import Pgml.Markup.Alphabet

/-! The bytes that markup consists of, and the search for marks among bytes. -/
namespace Pgml.Markup

namespace Byte

@[match_pattern] abbrev less : UInt8 := 0x3c
@[match_pattern] abbrev greater : UInt8 := 0x3e
@[match_pattern] abbrev slash : UInt8 := 0x2f
@[match_pattern] abbrev bang : UInt8 := 0x21
@[match_pattern] abbrev query : UInt8 := 0x3f
@[match_pattern] abbrev hyphen : UInt8 := 0x2d
@[match_pattern] abbrev ampersand : UInt8 := 0x26
@[match_pattern] abbrev semicolon : UInt8 := 0x3b
@[match_pattern] abbrev openBracket : UInt8 := 0x5b
@[match_pattern] abbrev closeBracket : UInt8 := 0x5d
@[match_pattern] abbrev carriageReturn : UInt8 := 0x0d

/-- The character of a byte below 128. -/
def char (b : UInt8) : Char := Char.ofNat b.toNat

def isQuote (b : UInt8) : Bool := b == 0x22 || b == 0x27

end Byte

/-- The bytes of a text in ASCII. -/
def ascii (s : String) : List UInt8 := s.toList.map fun c => UInt8.ofNat c.toNat

/-- Bytes cut in two by a mark, which belongs to neither part. -/
structure Split where
  before : List UInt8
  behind : List UInt8
  deriving DecidableEq, Repr

def Split.push (b : UInt8) (s : Split) : Split := { s with before := b :: s.before }

/-- The first place of a mark. A search for more than one byte ends at a NUL, which so hides
what follows it. -/
def Split.at? (mark : List UInt8) : List UInt8 → Option Split
  | [] => none
  | b :: rest =>
    if mark.isPrefixOf (b :: rest) then some ⟨[], (b :: rest).drop mark.length⟩
    else if b == 0 && 1 < mark.length then none
    else (Split.at? mark rest).map (·.push b)

/-- The first closing angle bracket outside of quotes. -/
def Split.atTagEnd? (quote : Option UInt8) : List UInt8 → Option Split
  | [] => none
  | b :: rest =>
    match quote with
    | some q => (Split.atTagEnd? (if b == q then none else some q) rest).map (·.push b)
    | none =>
      if b == Byte.greater then some ⟨[], rest⟩
      else (Split.atTagEnd? (if Byte.isQuote b then some b else none) rest).map (·.push b)

theorem Split.length_of_at? {mark bs : List UInt8} {s : Split} (h : Split.at? mark bs = some s) :
    s.behind.length + mark.length ≤ bs.length := by
  induction bs generalizing s with
  | nil => simp [Split.at?] at h
  | cons b rest ih =>
    simp only [Split.at?] at h
    split at h
    · rename_i begins
      have := (List.isPrefixOf_iff_prefix.1 begins).length_le
      simp only [Option.some.injEq] at h
      simp only [← h, List.length_drop]; omega
    · split at h
      · simp at h
      · obtain ⟨t, ht, rfl⟩ := Option.map_eq_some_iff.1 h
        have := ih ht
        simp only [Split.push, List.length_cons]; omega

theorem Split.length_of_atTagEnd? {quote : Option UInt8} {bs : List UInt8} {s : Split}
    (h : Split.atTagEnd? quote bs = some s) : s.behind.length < bs.length := by
  induction bs generalizing s quote with
  | nil => simp [Split.atTagEnd?] at h
  | cons b rest ih =>
    simp only [Split.atTagEnd?] at h
    split at h
    · obtain ⟨t, ht, rfl⟩ := Option.map_eq_some_iff.1 h
      have := ih ht
      simp only [Split.push, List.length_cons]; omega
    · split at h
      · simp only [Option.some.injEq] at h
        simp [← h]
      · obtain ⟨t, ht, rfl⟩ := Option.map_eq_some_iff.1 h
        have := ih ht
        simp only [Split.push, List.length_cons]; omega

end Pgml.Markup
