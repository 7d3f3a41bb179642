/-! Texts that are the same in every run: a task that panicked is known by a number, which is not
shown. -/
namespace CqlOperations.Text

/-- Writes a letter for the number in the name of each task that panicked. -/
def maskNumbers : List Char → List Char
  | [] => []
  | 't' :: 'a' :: 's' :: 'k' :: ' ' :: rest =>
    let tail := rest.dropWhile Char.isDigit
    if tail.length < rest.length ∧ " panicked".toList.isPrefixOf tail then
      "task N".toList ++ maskNumbers tail
    else "task ".toList ++ maskNumbers rest
  | c :: rest => c :: maskNumbers rest
termination_by s => s.length
decreasing_by
  · have := (List.dropWhile_suffix (l := rest) Char.isDigit).length_le
    simp only [List.length_cons]
    omega
  · simp only [List.length_cons]
    omega
  · simp

def maskTaskNumbers (s : String) : String :=
  String.ofList (maskNumbers s.toList)

end CqlOperations.Text
