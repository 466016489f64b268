/-! How similar two words are. Letters match if they are the same and stand in about the same place;
matching letters that are in another order count for half. -/

namespace ProfiledBuild.Similarity

/-- Matching letters may be so many places apart. -/
def reach (a b : List Char) : Nat := max a.length b.length / 2 - 1

/-- The letters of a word that match some of another one, and the places of those. Each place is
taken once. -/
def matchesFrom (reach : Nat) (b : List Char) : Nat → List Nat → List Char → List (Char × Nat)
  | _, _, [] => []
  | i, taken, c :: rest =>
    let near := (b.zipIdx).find? fun (d, j) =>
      i ≤ j + reach && j ≤ i + reach && d = c && !taken.contains j
    match near with
    | some (_, j) => (c, j) :: matchesFrom reach b (i + 1) (j :: taken) rest
    | none => matchesFrom reach b (i + 1) taken rest

/-- Whether the mean of three shares is more than seven tenths: that of matching letters in either
word, and that of those in the same order among them. -/
def isHigh (a b : List Char) : Bool :=
  let found := matchesFrom (reach a b) b 0 [] a
  let places := (found.map (·.2)).mergeSort
  let inOrder := places.filterMap (b[·]?)
  let moved := ((found.zip inOrder).countP fun ((c, _), d) => c ≠ d) / 2
  let n := found.length
  let (m, k) := (a.length, b.length)
  21 * m * k * n < 10 * (n * k * n + n * m * n + (n - moved) * m * k)

end ProfiledBuild.Similarity
