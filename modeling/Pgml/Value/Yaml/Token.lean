import Pgml.Text.Hex

/-! The tokens of a YAML text. Collections that are written by indentation have tokens for
their beginning and their end, which stand for no characters. -/
namespace Pgml.Yaml

inductive Token where
  | listStart
  | mappingStart
  /-- The end of a collection written by indentation. -/
  | blockEnd
  | dash
  /-- What follows is the key of an entry. -/
  | key
  /-- What follows is the value of an entry. -/
  | value
  | scalar (isPlain : Bool) (cs : List Char)
  | openList
  | closeList
  | openMapping
  | closeMapping
  | comma
  | documentStart
  | documentEnd
  /-- Something that begins no token, or begins one in the wrong place. -/
  | junk
  deriving DecidableEq, Repr

/-- Line ends, apart from those that are read as a line feed. -/
def isBreak (c : Char) : Bool := c == '\n' || c.toNat == 0x2028 || c.toNat == 0x2029

def isGap (c : Char) : Bool := c == ' ' || c == '\t' || isBreak c

/-- Whether a mark ends in front of some characters. -/
def endsHere (cs : List Char) : Bool := cs.head?.all isGap

def isBracket (c : Char) : Bool := c == '[' || c == ']' || c == '\x7b' || c == '\x7d'

/-- Whether a line is the mark between documents or at the end of one. -/
def isSeparator : List Char → Bool
  | '-' :: '-' :: '-' :: rest => endsHere rest
  | '.' :: '.' :: '.' :: rest => endsHere rest
  | _ => false

/-- Whether a character cannot go on with a plain text, given what follows it. Within brackets
a plain text ends before more characters. -/
def stopsPlain (inBrackets : Bool) (c : Char) (rest : List Char) : Bool :=
  isGap c || (inBrackets && (c == ',' || c == '?' || isBracket c)) ||
    (c == ':' && (endsHere rest || (inBrackets && rest.head?.any fun d => d == ',' || isBracket d)))

def isReserved (c : Char) : Bool := "-?:,#&*!|>'\"%@".toList.contains c || isBracket c || c.toNat == 0x60

/-- Whether a character begins a plain text, given what follows it. -/
def startsPlain (inBrackets : Bool) (c : Char) (rest : List Char) : Bool :=
  (!isGap c && !isReserved c) ||
    (!endsHere rest && (c == '-' || (!inBrackets && (c == '?' || c == ':'))))

def escaped? (c : Char) : Option Char :=
  match c with
  | '0' => some (Char.ofNat 0)
  | 'a' => some (Char.ofNat 7)
  | 'b' => some (Char.ofNat 8)
  | 't' | '\t' => some '\t'
  | 'n' => some '\n'
  | 'v' => some (Char.ofNat 11)
  | 'f' => some (Char.ofNat 12)
  | 'r' => some '\r'
  | 'e' => some (Char.ofNat 27)
  | ' ' | '"' | '\\' | '/' => some c
  | 'N' => some (Char.ofNat 0x85)
  | '_' => some (Char.ofNat 0xa0)
  | 'L' => some (Char.ofNat 0x2028)
  | 'P' => some (Char.ofNat 0x2029)
  | _ => none

/-- How many digits follow an escaped letter. -/
def hexDigits? (c : Char) : Option Nat :=
  match c with
  | 'x' => some 2
  | 'u' => some 4
  | 'U' => some 8
  | _ => none

end Pgml.Yaml
