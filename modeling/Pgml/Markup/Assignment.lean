import Pgml.Markup.Alphabet

/-! Assignments of a quoted value to a name, as in start tags and in the declaration at the
beginning of a document. -/
namespace Pgml.Markup

def isQuote (c : Char) : Bool := c == '"' || c == '\''

/-- A quoted text, without its quotes, and what follows it. -/
def literal? : List Char → Option (List Char × List Char)
  | [] => none
  | q :: inside =>
    if isQuote q then
      match inside.dropWhile (· != q) with
      | _ :: rest => some (inside.takeWhile (· != q), rest)
      | [] => none
    else none

theorem length_of_literal? {cs value rest : List Char} (h : literal? cs = some (value, rest)) :
    rest.length < cs.length := by
  cases cs with
  | nil => simp [literal?] at h
  | cons q inside =>
    have bound := Text.length_dropWhile_le (· != q) inside
    simp only [literal?] at h
    split at h
    · split at h
      · rename_i found
        simp only [Option.some.injEq, Prod.mk.injEq] at h
        simp only [found, List.length_cons, ← h.2] at *
        omega
      · simp at h
    · simp at h

structure Assignment where
  name : String
  /-- The value as written between the quotes. -/
  raw : List Char
  deriving DecidableEq, Repr

/-- The literal behind an equals sign, with white space around the sign. -/
def assigned? (cs : List Char) : Option (List Char × List Char) :=
  match cs.dropWhile isSpace with
  | '=' :: rest => literal? (rest.dropWhile isSpace)
  | _ => none

theorem length_of_assigned? {cs value rest : List Char} (h : assigned? cs = some (value, rest)) :
    rest.length < cs.length := by
  have outer := Text.length_dropWhile_le isSpace cs
  simp only [assigned?] at h
  split at h
  · rename_i behind sign
    have inner := Text.length_dropWhile_le isSpace behind
    have := length_of_literal? h
    simp only [sign, List.length_cons] at outer
    omega
  · simp at h

def assignment? (cs : List Char) : Option (Assignment × List Char) :=
  match name? cs with
  | none => none
  | some (name, afterName) =>
    match assigned? afterName with
    | none => none
    | some (raw, rest) => some (⟨name, raw⟩, rest)

theorem length_of_assignment? {cs rest : List Char} {a : Assignment}
    (h : assignment? cs = some (a, rest)) : rest.length < cs.length := by
  simp only [assignment?] at h
  split at h
  · simp at h
  · rename_i found
    have := length_of_name? found
    split at h
    · simp at h
    · rename_i assigned
      have := length_of_assigned? assigned
      simp only [Option.some.injEq, Prod.mk.injEq] at h
      rw [← h.2]; omega

/-- The assignments of a text and what follows them. White space has to stand before each,
and may stand behind the last. -/
def assignments? (cs : List Char) : Option (List Assignment × List Char) :=
  match _ : cs.dropWhile isSpace with
  | [] => some ([], [])
  | c :: rest =>
    if isNameStart c then
      if cs.head?.any isSpace then
        match _ : assignment? (c :: rest) with
        | none => none
        | some (a, more) => (assignments? more).map fun found => (a :: found.1, found.2)
      else none
    else some ([], c :: rest)
termination_by cs.length
decreasing_by
  have shorter := length_of_assignment? ‹assignment? (c :: rest) = _›
  have bound := Text.length_dropWhile_le isSpace cs
  rw [‹cs.dropWhile isSpace = _›] at bound
  omega

end Pgml.Markup
