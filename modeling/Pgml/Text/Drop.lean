/-! Dropping the beginning of a list. Readers that go on with what is left end because it is
never longer. -/
namespace Pgml.Text

theorem length_dropWhile_le {α : Type} (p : α → Bool) (xs : List α) :
    (xs.dropWhile p).length ≤ xs.length := (List.dropWhile_suffix p).length_le

end Pgml.Text
