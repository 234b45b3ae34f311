import Pgml.Table
import Pgml.Text.Blank
import Pgml.Text.Drop
import Pgml.Text.Word

/-! Private data: pairs `key="value"` anywhere in a text. A key is a run of word characters,
white space may surround the equals sign, and a value goes on to the next double quote.
Whatever is no pair is passed over. -/
namespace Pgml.PrivateData

/-- The value behind a key and what follows it. -/
def value? (cs : List Char) : Option (List Char × List Char) :=
  match cs.dropWhile Text.isBlank with
  | '=' :: afterSign =>
    match afterSign.dropWhile Text.isBlank with
    | '"' :: inside =>
      match inside.dropWhile (· != '"') with
      | _ :: rest => some (inside.takeWhile (· != '"'), rest)
      | [] => none
    | _ => none
  | _ => none

theorem length_of_value? {cs v rest : List Char} (h : value? cs = some (v, rest)) :
    rest.length < cs.length := by
  have outer := Text.length_dropWhile_le Text.isBlank cs
  unfold value? at h
  split at h
  · rename_i afterSign sign
    have middle := Text.length_dropWhile_le Text.isBlank afterSign
    split at h
    · rename_i inside quote
      have inner := Text.length_dropWhile_le (· != '"') inside
      split at h
      · rename_i found
        simp only [Option.some.injEq, Prod.mk.injEq] at h
        simp only [sign, quote, found, List.length_cons, ← h.2] at *
        omega
      · simp at h
    · simp at h
  · simp at h

/-- All pairs of a text, from left to right. -/
def pairs : List Char → List (String × String)
  | [] => []
  | c :: rest =>
    if Text.isWord c then
      let key := c :: rest.takeWhile Text.isWord
      let afterKey := rest.dropWhile Text.isWord
      match _ : value? afterKey with
      | some (v, more) => (String.ofList key, String.ofList v) :: pairs more
      | none => pairs afterKey
    else pairs rest
termination_by cs => cs.length
decreasing_by
  · have found := length_of_value? ‹value? afterKey = _›
    have bound : afterKey.length ≤ rest.length := Text.length_dropWhile_le Text.isWord rest
    simp only [List.length_cons]; omega
  · have := Text.length_dropWhile_le Text.isWord rest
    simp only [List.length_cons]; omega
  · simp

/-- The data of a text; a repeated key keeps its first place and its last value. -/
def parse (text : String) : Table String := Table.ofList (pairs text.toList)

end Pgml.PrivateData
