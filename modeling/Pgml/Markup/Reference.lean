import Pgml.Markup.Alphabet
import Pgml.Text.Hex

/-! References: `&name;` for one of the five predefined entities, `&#n;` and `&#xn;` for a
character by its number. Other entities can only be defined outside of the document, which
is not looked at: where that may be so, references to them stand for nothing. -/
namespace Pgml.Markup

def predefined? : List Char → Option Char
  | ['a', 'm', 'p'] => some '&'
  | ['l', 't'] => some '<'
  | ['g', 't'] => some '>'
  | ['q', 'u', 'o', 't'] => some '"'
  | ['a', 'p', 'o', 's'] => some '\''
  | _ => none

def decimalValue? (c : Char) : Option Nat := if c.isDigit then some (c.toNat - 48) else none

/-- The number of one or more digits. -/
def number? (base : Nat) (digit? : Char → Option Nat) (cs : List Char) : Option Nat := do
  let ds ← cs.mapM digit?
  if ds.isEmpty then none else some (ds.foldl (fun n d => n * base + d) 0)

def charOfNumber? (n : Nat) : Option Char :=
  if n.isValidChar && isChar (Char.ofNat n) then some (Char.ofNat n) else none

/-- How references are read. -/
structure ReferenceRules where
  /-- Whether entities may be defined outside of the document. -/
  skipsUnknown : Bool
  /-- Whether an ampersand stays a reference, so that it cannot be taken for the beginning
  of one. -/
  keepsAmpersand : Bool
  deriving DecidableEq, Repr

/-- The character that a reference stands for, if it stands for any, given what is written
between the ampersand and the semicolon. -/
def referenced? (skipsUnknown : Bool) : List Char → Option (List Char)
  | '#' :: 'x' :: digits => ((number? 16 Text.hexValue? digits).bind charOfNumber?).map ([·])
  | '#' :: digits => ((number? 10 decimalValue? digits).bind charOfNumber?).map ([·])
  | name =>
    match predefined? name with
    | some c => some [c]
    | none => if skipsUnknown && isName name then some [] else none

def ReferenceRules.inAttribute (r : ReferenceRules) (c : Char) : List Char :=
  if r.keepsAmpersand && c == '&' then "&#38;".toList else [c]

/-- A character of an attribute that is no reference. -/
def plainInAttribute? (c : Char) : Option Char :=
  if c == '<' || !isChar c then none
  else if isSpace c then some ' '
  else some c

/-- The value of an attribute; `pending` holds what has been read of a reference, in
reverse. -/
def attributeValue? (r : ReferenceRules) (pending : Option (List Char)) :
    List Char → Option (List Char)
  | [] => if pending.isNone then some [] else none
  | c :: rest =>
    match pending with
    | none =>
      if c == '&' then attributeValue? r (some []) rest
      else do return (← plainInAttribute? c) :: (← attributeValue? r none rest)
    | some before =>
      if c == ';' then do
        let found ← referenced? r.skipsUnknown before.reverse
        return found.flatMap r.inAttribute ++ (← attributeValue? r none rest)
      else attributeValue? r (some (c :: before)) rest

end Pgml.Markup
