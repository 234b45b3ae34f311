/-! Characters as bytes in UTF-8. -/
namespace Pgml.Markup

/-- What some bytes begin with. -/
inductive Front where
  | char (c : Char) (rest : List UInt8)
  /-- There are no bytes, or they end within a character. -/
  | cutOff
  | invalid
  deriving DecidableEq, Repr

def isTail (b : UInt8) : Bool := b &&& 0xc0 == 0x80

/-- The value of a leading byte's bits, followed by those of the bytes behind it. -/
def joinTails (lead : Nat) (tails : List UInt8) : Nat :=
  tails.foldl (fun n b => n * 64 + (b &&& 0x3f).toNat) lead

/-- A character of several bytes, given the bits of the first, the least number that needs so
many bytes, and how many stand behind the first. -/
def sequence (lead least count : Nat) (behind : List UInt8) : Front :=
  let tails := behind.take count
  let n := joinTails lead tails
  if !tails.all isTail then .invalid
  else if tails.length < count then .cutOff
  else if least ≤ n && n.isValidChar then .char (Char.ofNat n) (behind.drop count)
  else .invalid

def front : List UInt8 → Front
  | [] => .cutOff
  | a :: behind =>
    if a < 0x80 then .char (Char.ofNat a.toNat) behind
    else if a < 0xc0 then .invalid
    else if a < 0xe0 then sequence (a &&& 0x1f).toNat 0x80 1 behind
    else if a < 0xf0 then sequence (a &&& 0x0f).toNat 0x800 2 behind
    else if a < 0xf8 then sequence (a &&& 0x07).toNat 0x10000 3 behind
    else .invalid

theorem length_of_sequence {lead least count : Nat} {behind rest : List UInt8} {c : Char}
    (h : sequence lead least count behind = .char c rest) : rest.length ≤ behind.length := by
  simp only [sequence] at h
  split at h
  · simp at h
  · split at h
    · simp at h
    · split at h
      · simp only [Front.char.injEq] at h
        simp [← h.2]
      · simp at h

theorem length_of_front {bytes rest : List UInt8} {c : Char} (h : front bytes = .char c rest) :
    rest.length < bytes.length := by
  cases bytes with
  | nil => simp [front] at h
  | cons a behind =>
    suffices rest.length ≤ behind.length by simp only [List.length_cons]; omega
    simp only [front] at h
    split at h
    · simp only [Front.char.injEq] at h
      simp [h.2]
    · split at h
      · simp at h
      · split at h
        · exact length_of_sequence h
        · split at h
          · exact length_of_sequence h
          · split at h
            · exact length_of_sequence h
            · simp at h

/-- The characters of some bytes, all of which are whole. -/
def decode? (bytes : List UInt8) : Option (List Char) :=
  match _ : front bytes with
  | .char c rest => (decode? rest).map (c :: ·)
  | .cutOff => if bytes.isEmpty then some [] else none
  | .invalid => none
termination_by bytes.length
decreasing_by exact length_of_front ‹_›

end Pgml.Markup
