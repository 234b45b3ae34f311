import Pgml.Value.Yaml.TokenStream

/-! The nodes of a YAML text: texts, lists and mappings as they are written, before it is known
what values they stand for. -/
namespace Pgml.Yaml

inductive ReadError where
  /-- A character that no text may hold. -/
  | badCharacter
  /-- Something begins no token, or a colon or dash stands where no key or item can be. -/
  | badToken
  /-- Tokens that make up no node. -/
  | badStructure
  | severalDocuments
  /-- A node that stands for no value, such as a list as a key. -/
  | noValue
  | numeralTooLong
  deriving DecidableEq, Repr

inductive Node where
  | scalar (isPlain : Bool) (cs : List Char)
  | list (items : List Node)
  | mapping (entries : List (Node × Node))
  deriving Repr

namespace Node

/-- What is left out. -/
def empty : Node := .scalar true []

/-- A node at the beginning of some tokens, and what follows it. -/
abbrev Reading := Except ReadError (Node × List Token)

/-- Tokens that do not begin as they have to. -/
def wrong (ts : List Token) : Reading :=
  .error (if ts.head? == some .junk then .badToken else .badStructure)

/-- Where a node may be written. -/
inductive Site where
  | inBrackets
  | inBlock
  /-- Behind a key, where the items of a list need no indentation of their own. -/
  | behindKey
  deriving DecidableEq, Repr

def Site.allowsBlock : Site → Bool
  | inBrackets => false
  | inBlock | behindKey => true

/-- A node that may be left out in front of some tokens. -/
def orEmpty (stops : List Token) (read : List Token → Reading) (ts : List Token) : Reading :=
  if ts.head?.any stops.contains then .ok (empty, ts) else read ts

/-- The value behind a key. -/
def valueBehind (stops : List Token) (read : List Token → Reading) : List Token → Reading
  | .value :: rest => orEmpty stops read rest
  | ts => .ok (empty, ts)

/-- A key whose mark has been read, and its value. -/
def entry (stops : List Token) (read : List Token → Reading) (ts : List Token) : Except ReadError ((Node × Node) × List Token) := do
  let (k, ts) ← orEmpty (.value :: stops) read ts
  let (v, ts) ← valueBehind stops read ts
  return ((k, v), ts)

mutual

/-- A node; no more than some count of nodes and items within each other and in a row. -/
def read (site : Site) : (limit : Nat) → List Token → Reading
  | 0, ts => wrong ts
  | limit + 1, ts =>
    match ts with
    | .scalar isPlain cs :: rest => .ok (.scalar isPlain cs, rest)
    | .openList :: rest => bracketItem limit [] rest
    | .openMapping :: rest => bracketEntry limit [] rest
    | .listStart :: rest => if site.allowsBlock then items limit [] rest else wrong ts
    | .mappingStart :: rest => if site.allowsBlock then entries limit [] rest else wrong ts
    | .dash :: _ => if site = .behindKey then looseItems limit [] ts else wrong ts
    | _ => wrong ts

/-- The items of a list written by indentation. -/
def items : (limit : Nat) → (done : List Node) → List Token → Reading
  | 0, _, ts => wrong ts
  | limit + 1, done, ts =>
    match ts with
    | .dash :: rest => do
      let (item, rest) ← orEmpty [.dash, .blockEnd] (read .inBlock limit) rest
      items limit (item :: done) rest
    | .blockEnd :: rest => .ok (.list done.reverse, rest)
    | _ => wrong ts

/-- The same without indentation of their own; they end with the last dash. -/
def looseItems : (limit : Nat) → (done : List Node) → List Token → Reading
  | 0, _, ts => wrong ts
  | limit + 1, done, ts =>
    match ts with
    | .dash :: rest => do
      let (item, rest) ← orEmpty [.dash, .key, .value, .blockEnd] (read .inBlock limit) rest
      looseItems limit (item :: done) rest
    | _ => .ok (.list done.reverse, ts)

/-- The entries of a mapping written by indentation. -/
def entries : (limit : Nat) → (done : List (Node × Node)) → List Token → Reading
  | 0, _, ts => wrong ts
  | limit + 1, done, ts =>
    match ts with
    | .key :: rest => do
      let (found, rest) ← entry [.key, .value, .blockEnd] (read .behindKey limit) rest
      entries limit (found :: done) rest
    | .blockEnd :: rest => .ok (.mapping done.reverse, rest)
    | _ => wrong ts

/-- The next item of a list in brackets. A single entry is a mapping of its own. -/
def bracketItem : (limit : Nat) → (done : List Node) → List Token → Reading
  | 0, _, ts => wrong ts
  | limit + 1, done, ts =>
    match ts with
    | .closeList :: rest => .ok (.list done.reverse, rest)
    | .key :: rest => do
      let (found, rest) ← entry [.comma, .closeList] (read .inBrackets limit) rest
      bracketItems limit (.mapping [found] :: done) rest
    | _ => do
      let (item, rest) ← read .inBrackets limit ts
      bracketItems limit (item :: done) rest

/-- What follows an item of a list in brackets. -/
def bracketItems : (limit : Nat) → (done : List Node) → List Token → Reading
  | 0, _, ts => wrong ts
  | limit + 1, done, ts =>
    match ts with
    | .closeList :: rest => .ok (.list done.reverse, rest)
    | .comma :: rest => bracketItem limit done rest
    | _ => wrong ts

/-- The next entry of a mapping in brackets. A node alone is a key without a value. -/
def bracketEntry : (limit : Nat) → (done : List (Node × Node)) → List Token → Reading
  | 0, _, ts => wrong ts
  | limit + 1, done, ts =>
    match ts with
    | .closeMapping :: rest => .ok (.mapping done.reverse, rest)
    | .key :: rest => do
      let (found, rest) ← entry [.comma, .closeMapping] (read .inBrackets limit) rest
      bracketEntries limit (found :: done) rest
    | _ => do
      let (key, rest) ← read .inBrackets limit ts
      bracketEntries limit ((key, empty) :: done) rest

/-- What follows an entry of a mapping in brackets. -/
def bracketEntries : (limit : Nat) → (done : List (Node × Node)) → List Token → Reading
  | 0, _, ts => wrong ts
  | limit + 1, done, ts =>
    match ts with
    | .closeMapping :: rest => .ok (.mapping done.reverse, rest)
    | .comma :: rest => bracketEntry limit done rest
    | _ => wrong ts

end

/-- The only document of some tokens: there is at most one mark in front of it, and there may be
marks behind it. Without any tokens it is empty. -/
def document (ts : List Token) : Except ReadError Node := do
  let content := read .inBlock (3 * ts.length + 3)
  let (node, rest) ← match ts with
    | [] => .ok (empty, [])
    | [.documentStart] => .ok (empty, [])
    | .documentStart :: rest => orEmpty [.documentStart, .documentEnd] content rest
    | _ => content ts
  match rest.dropWhile (· == .documentEnd) with
  | [] => return node
  | .documentStart :: _ => .error .severalDocuments
  | more => (wrong more).map (·.1)

end Node

end Pgml.Yaml
