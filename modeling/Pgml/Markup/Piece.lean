import Pgml.Markup.Byte
import Pgml.Markup.Utf8

/-! A document is read piece by piece: tags, runs of character data, references, comments
and so on. A piece is read once its end is among the bytes at hand. Where the end of a piece
lies does not depend on whether the piece makes sense. -/
namespace Pgml.Markup

inductive PieceKind where
  | startTag
  | endTag
  | text
  | reference
  /-- A section in which no character begins markup. -/
  | data
  | comment
  | instruction
  | documentType
  /-- White space outside of all elements. -/
  | blanks
  deriving DecidableEq, Repr

/-- A piece without the marks at its beginning and its end. -/
structure Piece where
  kind : PieceKind
  body : List Char
  deriving DecidableEq, Repr

/-- What lies ahead. -/
inductive Cut where
  | piece (p : Piece) (rest : List UInt8)
  /-- More bytes are needed; a search for the end of the next piece goes on at an offset. -/
  | wait (searched : Nat)
  /-- Something that no piece begins with. -/
  | junk
  deriving DecidableEq, Repr

/-- A piece with some bytes as its body. -/
def Cut.ofBody (kind : PieceKind) (body rest : List UInt8) : Cut :=
  match decode? body with
  | some cs => .piece ⟨kind, joinLineEnds cs⟩ rest
  | none => .junk

/-! ## Pieces with fixed marks around them -/

/-- Bytes cut at the first mark that stands behind an offset. If there is none, a later search
goes on with the bytes that may be the beginning of a mark. -/
def search (mark : List UInt8) (offset : Nat) (bytes : List UInt8) : Except Nat Split :=
  match Split.at? mark (bytes.drop offset) with
  | some s => .ok { s with before := bytes.take offset ++ s.before }
  | none =>
    .error (if bytes.length - offset < mark.length then offset
      else bytes.length - (mark.length - 1))

structure Brackets where
  kind : PieceKind
  opening : List UInt8
  closing : List UInt8
  closing_pos : 0 < closing.length := by decide
  deriving DecidableEq, Repr

namespace Brackets

open Byte

def comment : Brackets where
  kind := .comment
  opening := [less, bang, hyphen, hyphen]
  closing := [hyphen, hyphen, greater]

def data : Brackets where
  kind := .data
  opening := [less, bang, openBracket] ++ ascii "CDATA" ++ [openBracket]
  closing := [closeBracket, closeBracket, greater]

def instruction : Brackets where
  kind := .instruction
  opening := [less, query]
  closing := [query, greater]

def endTag : Brackets where
  kind := .endTag
  opening := [less, slash]
  closing := [greater]

def reference : Brackets where
  kind := .reference
  opening := [ampersand]
  closing := [semicolon]

def opens (b : Brackets) (ahead : List UInt8) : Bool := b.opening.isPrefixOf ahead

/-- The next piece, which begins with these brackets. -/
def cut (b : Brackets) (searched : Nat) (ahead : List UInt8) : Cut :=
  match search b.closing (max b.opening.length searched) ahead with
  | .ok s => .ofBody b.kind (s.before.drop b.opening.length) s.behind
  | .error searched => .wait searched

end Brackets

/-- A tag behind its first bytes; quoted values may hold angle brackets. -/
def cutTag (kind : PieceKind) (opening : Nat) (ahead : List UInt8) : Cut :=
  match Split.atTagEnd? none (ahead.drop opening) with
  | some s => .ofBody kind s.before s.behind
  | none => .wait 0

/-! ## Characters -/

/-- Runs of characters of this length are not kept waiting for their end. -/
def longRun : Nat := 300

/-- Everything up to the beginning of a tag or reference. Where the bytes end, a bracket that
may belong to the mark of a data section's end is left, as is a character that is cut off. -/
def textRun? (bytes : List UInt8) : Option (List Char × List UInt8) :=
  match _ : front bytes with
  | .char c rest =>
    if c == '<' || c == '&' || (c == ']' && rest.isEmpty) then some ([], bytes)
    else if !isChar c || [Byte.closeBracket, Byte.closeBracket, Byte.greater].isPrefixOf bytes then none
    else (textRun? rest).map fun found => (c :: found.1, found.2)
  | .cutOff => some ([], bytes)
  | .invalid => none
termination_by bytes.length
decreasing_by exact length_of_front ‹_›

def isMarkup (b : UInt8) : Bool := b == Byte.less || b == Byte.ampersand

def cutText (ahead : List UInt8) : Cut :=
  if ahead.length < longRun && !ahead.any isMarkup then .wait 0
  else
    match textRun? ahead with
    | some (c :: cs, rest) => .piece ⟨.text, joinLineEnds (c :: cs)⟩ rest
    | some ([], _) => .wait 0
    | none => .junk

/-! ## What begins here -/

open Byte in
/-- How many bytes tell what begins within an element. -/
def neededInside : List UInt8 → Nat
  | less :: bang :: hyphen :: _ => 4
  | less :: bang :: openBracket :: _ => 9
  | less :: bang :: _ => 3
  | less :: _ => 2
  | _ => 1

/-- The next piece within an element. -/
def cutInside (searched : Nat) (ahead : List UInt8) : Cut :=
  if ahead.length < neededInside ahead then .wait 0
  else
    let brackets : List Brackets := [.comment, .data, .instruction, .endTag, .reference]
    match brackets.find? (·.opens ahead) with
    | some b => b.cut searched ahead
    | none =>
      if ahead.head? == some Byte.less then cutTag .startTag 1 ahead
      else cutText ahead

def documentTypeOpening : List UInt8 := [Byte.less, Byte.bang] ++ ascii "DOCTYPE"

open Byte in
/-- The same outside of all elements. -/
def neededOutside (beforeRoot : Bool) : List UInt8 → Nat
  | less :: bang :: hyphen :: _ => 4
  | less :: bang :: _ => if beforeRoot then 9 else 3
  | less :: _ => 2
  | _ => 1

def isBlankByte (b : UInt8) : Bool := isSpace (Byte.char b)

/-- The next piece outside of all elements. -/
def cutOutside (beforeRoot : Bool) (searched : Nat) (ahead : List UInt8) : Cut :=
  if ahead.length < neededOutside beforeRoot ahead then .wait 0
  else if ahead.head?.any isBlankByte then .piece ⟨.blanks, []⟩ (ahead.dropWhile isBlankByte)
  else
    let brackets : List Brackets := [.comment, .instruction]
    match brackets.find? (·.opens ahead) with
    | some b => b.cut searched ahead
    | none =>
      if !beforeRoot then .junk
      else if documentTypeOpening.isPrefixOf ahead then
        cutTag .documentType documentTypeOpening.length ahead
      else if ahead.head? == some Byte.less then cutTag .startTag 1 ahead
      else .junk

/-! ## What follows a piece is shorter -/

theorem rest_of_ofBody {kind : PieceKind} {body behind rest : List UInt8} {p : Piece}
    (h : Cut.ofBody kind body behind = .piece p rest) : rest = behind := by
  simp only [Cut.ofBody] at h
  split at h
  · simp_all
  · simp at h

theorem length_of_search {mark bytes : List UInt8} {offset : Nat} {s : Split}
    (h : search mark offset bytes = .ok s) : s.behind.length + mark.length ≤ bytes.length := by
  simp only [search] at h
  split at h
  · rename_i found
    have := Split.length_of_at? found
    simp only [List.length_drop] at this
    simp only [Except.ok.injEq] at h
    simp only [← h]; omega
  · simp at h

theorem length_of_brackets {b : Brackets} {searched : Nat} {ahead rest : List UInt8} {p : Piece}
    (h : b.cut searched ahead = .piece p rest) : rest.length < ahead.length := by
  simp only [Brackets.cut] at h
  split at h
  · rename_i found
    have := length_of_search found
    have := b.closing_pos
    rw [rest_of_ofBody h]; omega
  · simp at h

theorem length_of_cutTag {kind : PieceKind} {opening : Nat} {ahead rest : List UInt8} {p : Piece}
    (h : cutTag kind opening ahead = .piece p rest) : rest.length < ahead.length := by
  simp only [cutTag] at h
  split at h
  · rename_i found
    have := Split.length_of_atTagEnd? found
    simp only [List.length_drop] at this
    rw [rest_of_ofBody h]; omega
  · simp at h

theorem length_of_textRun? {bytes rest : List UInt8} {cs : List Char}
    (h : textRun? bytes = some (cs, rest)) : cs.length + rest.length ≤ bytes.length := by
  fun_induction textRun? bytes generalizing cs with
  | case1 | case4 =>
    simp only [Option.some.injEq, Prod.mk.injEq] at h
    simp [← h.1, h.2]
  | case2 | case5 => simp at h
  | case3 bytes c more found _ _ ih =>
    obtain ⟨⟨ds, t⟩, hd, he⟩ := Option.map_eq_some_iff.1 h
    simp only [Prod.mk.injEq] at he
    have := ih (he.2 ▸ hd)
    have := length_of_front found
    simp only [← he.1, List.length_cons]; omega

theorem length_of_cutText {ahead rest : List UInt8} {p : Piece}
    (h : cutText ahead = .piece p rest) : rest.length < ahead.length := by
  simp only [cutText] at h
  split at h
  · simp at h
  · split at h
    · rename_i found
      have := length_of_textRun? found
      simp only [Cut.piece.injEq] at h
      simp only [← h.2, List.length_cons] at *; omega
    · simp at h
    · simp at h

theorem neededInside_pos (ahead : List UInt8) : 0 < neededInside ahead := by
  unfold neededInside; split <;> simp

theorem neededOutside_pos (beforeRoot : Bool) (ahead : List UInt8) :
    0 < neededOutside beforeRoot ahead := by
  unfold neededOutside; split <;> (try split) <;> simp

theorem length_of_cutInside {searched : Nat} {ahead rest : List UInt8} {p : Piece}
    (h : cutInside searched ahead = .piece p rest) : rest.length < ahead.length := by
  have := neededInside_pos ahead
  simp only [cutInside] at h
  split at h
  · simp at h
  · split at h
    · exact length_of_brackets h
    · split at h
      · exact length_of_cutTag h
      · exact length_of_cutText h

theorem length_of_cutOutside {beforeRoot : Bool} {searched : Nat} {ahead rest : List UInt8}
    {p : Piece} (h : cutOutside beforeRoot searched ahead = .piece p rest) :
    rest.length < ahead.length := by
  have := neededOutside_pos beforeRoot ahead
  simp only [cutOutside] at h
  split at h
  · simp at h
  · split at h
    · rename_i blank
      simp only [Cut.piece.injEq] at h
      cases ahead with
      | nil => simp at blank
      | cons b more =>
        have := Text.length_dropWhile_le isBlankByte more
        simp only [List.head?_cons, Option.any_some] at blank
        simp only [← h.2, List.dropWhile_cons, blank, if_true, List.length_cons]; omega
    · split at h
      · exact length_of_brackets h
      · split at h
        · simp at h
        · split at h
          · exact length_of_cutTag h
          · split at h
            · exact length_of_cutTag h
            · simp at h

end Pgml.Markup
