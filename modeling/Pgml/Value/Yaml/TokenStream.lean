import Pgml.Value.Yaml.Layout

/-! From a text to its tokens, character by character. Texts with and without quotes may go on
over several lines: a single line end is then read as a space and an empty line as a line feed,
and white space around line ends is dropped. -/
namespace Pgml.Yaml

/-- Line ends behind each other within a text. -/
structure Breaks where
  /-- The first line end, unless it is escaped. -/
  first : Option Char
  /-- The ones that follow it, the last one first. -/
  more : List Char
  deriving DecidableEq, Repr

/-- What line ends are read as. -/
def Breaks.folded (b : Breaks) : List Char :=
  let head := match b.first with
    | none => []
    | some c => if c != '\n' then [c] else if b.more.isEmpty then [' '] else []
  head ++ b.more.reverse

def Breaks.push (c : Char) (b : Breaks) : Breaks := { b with more := c :: b.more }

/-- What the characters read last belong to; texts are in reverse. -/
inductive Mode where
  | between
  | comment
  | plain (before : List Char)
  /-- Spaces behind a plain text. -/
  | plainGap (before gap : List Char)
  | plainBreaks (before : List Char) (breaks : Breaks)
  | quoted (isDouble : Bool) (before : List Char)
  | quotedGap (isDouble : Bool) (before gap : List Char)
  | quotedBreaks (isDouble : Bool) (before : List Char) (breaks : Breaks)
  /-- In front of the second one of two single quotes, which stand for one. -/
  | secondQuote (before : List Char)
  | escape (before : List Char)
  | hex (before : List Char) (missing value : Nat)
  /-- Within a mark between documents. -/
  | separator (t : Token) (missing : Nat)
  deriving DecidableEq, Repr

/-- The tokens handed out at a character, and what holds behind it. -/
structure Read where
  found : List Token
  /-- Nothing if there is something wrong. -/
  next : Option (Mode × Layout)
  deriving DecidableEq, Repr

def Read.wrong : Read := ⟨[], none⟩

/-- A reading that depends on the layout. -/
def Read.within (s : Option Layout) (f : Layout → Read) : Read := (s.map f).getD .wrong

def stay (mode : Mode) (s : Layout) (c : Char) : Read := ⟨[], some (mode, s.advance c)⟩

/-- A token ends with a character. -/
def finish (s : Layout) (c : Char) : Read :=
  match (s.advance c).settle with
  | some (found, s) => ⟨found, some (.between, s)⟩
  | none => .wrong

/-! ## Characters between tokens -/

/-- A token of one character. -/
def single (s : Option Layout) (c : Char) : Read := .within s (finish · c)

/-- The first character of a text. -/
def first (mode : Mode) (s : Layout) (c : Char) : Read := .within s.text (stay mode · c)

/-- The beginning of a token. -/
def begin (s : Layout) (c : Char) (rest : List Char) : Read :=
  if s.column == 0 && isSeparator (c :: rest) then
    .within s.separator fun s =>
      stay (.separator (if c == '-' then .documentStart else .documentEnd) 2) s c
  else if c == '[' then single (s.openBracket .openList) c
  else if c == '\x7b' then single (s.openBracket .openMapping) c
  else if c == ']' then single (s.closeBracket .closeList) c
  else if c == '\x7d' then single (s.closeBracket .closeMapping) c
  else if c == ',' then single s.comma c
  else if c == '-' && endsHere rest then single s.dash c
  else if c == '?' && (s.inBrackets || endsHere rest) then single s.key c
  else if c == ':' && (s.inBrackets || endsHere rest) then single s.value c
  else if c == '\'' then first (.quoted false []) s c
  else if c == '"' then first (.quoted true []) s c
  else if startsPlain s.inBrackets c rest then first (.plain [c]) s c
  else .wrong

/-- A character between tokens. Behind a line end there may be a key. -/
def between (s : Layout) (c : Char) (rest : List Char) : Read :=
  if c == ' ' then stay .between s c
  else if c == '#' then stay .comment s c
  else if isBreak c then stay .between (s.allowKey (s.keyAllowed || !s.inBrackets)) c
  else .within s.dropStale fun s => begin (s.unwind s.column) c rest

/-! ## Plain texts -/

/-- A plain text ends in front of a character. -/
def endPlain (before : List Char) (s : Layout) (c : Char) (rest : List Char) : Read :=
  match (s.emit (.scalar true before.reverse)).settle with
  | some (found, s) => let r := between s c rest; ⟨found ++ r.found, r.next⟩
  | none => .wrong

/-- Whether a plain text goes on with a character that stands behind white space. -/
def resumesPlain (s : Layout) (c : Char) (rest : List Char) : Bool :=
  c != '#' && (s.inBrackets || s.indent < s.column) && !stopsPlain s.inBrackets c rest

/-- A line end behind a plain text. -/
def breakPlain (before : List Char) (s : Layout) (c : Char) : Read :=
  stay (.plainBreaks before ⟨some c, []⟩) (s.allowKey true) c

def inPlain (before : List Char) (s : Layout) (c : Char) (rest : List Char) : Read :=
  if c == ' ' then stay (.plainGap before [c]) s c
  else if isBreak c then breakPlain before s c
  else if stopsPlain s.inBrackets c rest then endPlain before s c rest
  else stay (.plain (c :: before)) s c

def inPlainGap (before gap : List Char) (s : Layout) (c : Char) (rest : List Char) : Read :=
  if c == ' ' then stay (.plainGap before (c :: gap)) s c
  else if isBreak c then breakPlain before s c
  else if resumesPlain s c rest then stay (.plain (c :: gap ++ before)) (s.allowKey false) c
  else endPlain before s c rest

def inPlainBreaks (before : List Char) (breaks : Breaks) (s : Layout) (c : Char) (rest : List Char) :
    Read :=
  if s.column == 0 && isSeparator (c :: rest) then endPlain before s c rest
  else if c == ' ' then stay (.plainBreaks before breaks) s c
  else if isBreak c then stay (.plainBreaks before (breaks.push c)) s c
  else if resumesPlain s c rest then
    stay (.plain (c :: breaks.folded.reverse ++ before)) (s.allowKey false) c
  else endPlain before s c rest

/-! ## Texts in quotes -/

def inQuotes (isDouble : Bool) (before : List Char) (s : Layout) (c : Char) (rest : List Char) : Read :=
  if c == '\'' && !isDouble && rest.head? == some '\'' then stay (.secondQuote before) s c
  else if c == (if isDouble then '"' else '\'') then finish (s.emit (.scalar false before.reverse)) c
  else if c == '\\' && isDouble then stay (.escape before) s c
  else if isBreak c then stay (.quotedBreaks isDouble before ⟨some c, []⟩) s c
  else if isGap c then stay (.quotedGap isDouble before [c]) s c
  else stay (.quoted isDouble (c :: before)) s c

def inQuotedGap (isDouble : Bool) (before gap : List Char) (s : Layout) (c : Char) (rest : List Char) :
    Read :=
  if isBreak c then stay (.quotedBreaks isDouble before ⟨some c, []⟩) s c
  else if isGap c then stay (.quotedGap isDouble before (c :: gap)) s c
  else inQuotes isDouble (gap ++ before) s c rest

/-- No mark between documents may stand within quotes. -/
def inQuotedBreaks (isDouble : Bool) (before : List Char) (breaks : Breaks) (s : Layout) (c : Char)
    (rest : List Char) : Read :=
  if s.column == 0 && isSeparator (c :: rest) then .wrong
  else if isBreak c then stay (.quotedBreaks isDouble before (breaks.push c)) s c
  else if isGap c then stay (.quotedBreaks isDouble before breaks) s c
  else inQuotes isDouble (breaks.folded.reverse ++ before) s c rest

def inEscape (before : List Char) (s : Layout) (c : Char) : Read :=
  match escaped? c, hexDigits? c with
  | some d, _ => stay (.quoted true (d :: before)) s c
  | none, some missing => stay (.hex before missing 0) s c
  | none, none => if isBreak c then stay (.quotedBreaks true before ⟨none, []⟩) s c else .wrong

def inHex (before : List Char) (missing value : Nat) (s : Layout) (c : Char) : Read :=
  match Text.hexValue? c with
  | none => .wrong
  | some d =>
    let value := value * 16 + d
    if missing ≤ 1 then
      if value < 0x110000 then stay (.quoted true (Char.ofNat value :: before)) s c else .wrong
    else stay (.hex before (missing - 1) value) s c

/-! ## All tokens -/

def read (mode : Mode) (s : Layout) (c : Char) (rest : List Char) : Read :=
  match mode with
  | .between => between s c rest
  | .comment => if isBreak c then between s c rest else stay .comment s c
  | .plain before => inPlain before s c rest
  | .plainGap before gap => inPlainGap before gap s c rest
  | .plainBreaks before breaks => inPlainBreaks before breaks s c rest
  | .quoted isDouble before => inQuotes isDouble before s c rest
  | .quotedGap isDouble before gap => inQuotedGap isDouble before gap s c rest
  | .quotedBreaks isDouble before breaks => inQuotedBreaks isDouble before breaks s c rest
  | .secondQuote before => stay (.quoted false (c :: before)) s c
  | .escape before => inEscape before s c
  | .hex before missing value => inHex before missing value s c
  | .separator t missing => if missing ≤ 1 then finish (s.emit t) c else stay (.separator t (missing - 1)) s c

/-- The last tokens: the ends of all open collections. -/
def close (s : Layout) : List Token :=
  match s.dropStale.bind (·.dropKey) with
  | some s => (s.unwind (-1)).queue
  | none => [.junk]

/-- The tokens at the end of a text. -/
def atEnd (mode : Mode) (s : Layout) : List Token :=
  match mode with
  | .between | .comment => close s
  | .plain before | .plainGap before _ | .plainBreaks before _ =>
    match (s.emit (.scalar true before.reverse)).settle with
    | some (found, s) => found ++ close s
    | none => [.junk]
  | _ => [.junk]

/-- The tokens from some place on. If there is something wrong, junk follows the tokens that
were handed out before. -/
def tokensFrom (mode : Mode) (s : Layout) : List Char → List Token
  | [] => atEnd mode s
  | c :: rest =>
    let r := read mode s c rest
    match r.next with
    | some (mode, s) => r.found ++ tokensFrom mode s rest
    | none => r.found ++ [.junk]

def byteOrderMark : Char := Char.ofNat 0xfeff

/-- The tokens of a text, in front of which a byte order mark may stand. -/
def tokens (cs : List Char) : List Token :=
  tokensFrom .between .initial (if cs.head? == some byteOrderMark then cs.drop 1 else cs)

end Pgml.Yaml
