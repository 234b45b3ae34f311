import Pgml.Value

/-! Values printed as JSON, within ASCII and with one entry or item a line. -/
namespace Pgml.Json

/-- One UTF-16 unit as an escape. -/
def unicodeEscape (unit : Nat) : List Char := '\\' :: 'u' :: Text.hexPadded 4 unit

/-- One character of a quoted text that is kept within ASCII. -/
def escapeChar (c : Char) : List Char :=
  if c == '"' || c == '\\' then ['\\', c]
  else if c == '\n' then ['\\', 'n']
  else if c == '\r' then ['\\', 'r']
  else if c == '\t' then ['\\', 't']
  else if c.toNat == 8 then ['\\', 'b']
  else if c.toNat == 12 then ['\\', 'f']
  else if 32 ≤ c.toNat && c.toNat < 127 then [c]
  else if c.toNat < 0x10000 then unicodeEscape c.toNat
  else
    let n := c.toNat - 0x10000
    unicodeEscape (0xd800 + n / 0x400) ++ unicodeEscape (0xdc00 + n % 0x400)

/-- A text in double quotes, within ASCII. -/
def quoted (s : String) : String :=
  String.ofList ('"' :: s.toList.flatMap escapeChar ++ ['"'])

def scalarText : Scalar → String
  | .null => "null"
  | .bool true => "true"
  | .bool false => "false"
  | .int i => Number.decimal i
  | .float x =>
    if x.isNaN then "NaN"
    else if x.isInfinite then (if x.isNegative then "-Infinity" else "Infinity")
    else Number.Shortest.text x
  | .text s => quoted s

/-- The beginning of a line, four spaces for each collection around it. -/
def lineStart (depth : Nat) : String := String.ofList ('\n' :: List.replicate (4 * depth) ' ')

mutual

/-- A value inside some collections. -/
def indentedAt (depth : Nat) : Value → String
  | .scalar s => scalarText s
  | .list items =>
    if items.isEmpty then "[]" else "[" ++ itemLines (depth + 1) items ++ lineStart depth ++ "]"
  | .mapping entries =>
    if entries.isEmpty then "\x7b\x7d"
    else "\x7b" ++ entryLines (depth + 1) entries ++ lineStart depth ++ "\x7d"

def itemLines (depth : Nat) : List Value → String
  | [] => ""
  | [item] => lineStart depth ++ indentedAt depth item
  | item :: rest => lineStart depth ++ indentedAt depth item ++ "," ++ itemLines depth rest

def entryLines (depth : Nat) : List (Scalar × Value) → String
  | [] => ""
  | [(key, value)] => lineStart depth ++ quoted key.plain ++ ": " ++ indentedAt depth value
  | (key, value) :: rest =>
    lineStart depth ++ quoted key.plain ++ ": " ++ indentedAt depth value ++ "," ++ entryLines depth rest

end

def indented (v : Value) : String := indentedAt 0 v

end Pgml.Json
