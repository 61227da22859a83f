/-!
# Edit distance

The Damerau–Levenshtein distance: the least number of insertions, deletions, substitutions and
exchanges of neighbouring characters that turn one text into another, where the exchanged
characters may have been neighbours before or after other edits.

Main definitions:

* `distance`: the distance of two texts, by the recurrence on their ends.
* `closest?`: the text nearest to another among some.
-/

namespace Folio.Text

/-- The last position before `i` (counted from one) at which `cs` holds `c`, or zero. -/
def lastBefore (c : Char) (cs : Array Char) : (i : Nat) → Nat
  | 0 => 0
  | i + 1 => if cs[i]? = some c then i + 1 else lastBefore c cs i

/-- The distance table of two texts. The entry at `i, j` is the distance of the first `i`
characters of one to the first `j` of the other. -/
structure DistanceTable where
  columns : Nat
  cells : Array Nat

/-- The entry at a row and a column; entries not yet filled count as zero. -/
def DistanceTable.at (table : DistanceTable) (i j : Nat) : Nat :=
  table.cells.getD (i * table.columns + j) 0

/-- The entry at `i, j` from the entries above and to the left of it. -/
def DistanceTable.next (table : DistanceTable) (xs ys : Array Char) (i j : Nat) : Nat :=
  match i, j with
  | 0, j => j
  | i, 0 => i
  | i + 1, j + 1 =>
    let same := xs[i]? = ys[j]?
    let substituted := table.at i j + (if same then 0 else 1)
    let edited := min substituted (min (table.at i (j + 1) + 1) (table.at (i + 1) j + 1))
    let k := lastBefore (ys.getD j ' ') xs i
    let l := lastBefore (xs.getD i ' ') ys j
    if k = 0 || l = 0 then edited
    else min edited (table.at (k - 1) (l - 1) + (i - k) + 1 + (j - l))

/-- The distance table, filled row by row. -/
def DistanceTable.ofTexts (xs ys : Array Char) : DistanceTable :=
  (List.range ((xs.size + 1) * (ys.size + 1))).foldl
    (fun table n =>
      let i := n / table.columns
      let j := n % table.columns
      { table with cells := table.cells.push (table.next xs ys i j) })
    ⟨ys.size + 1, #[]⟩

/-- The least number of edits that turn one text into the other. -/
def distance (a b : String) : Nat :=
  let xs := a.toList.toArray
  let ys := b.toList.toArray
  (DistanceTable.ofTexts xs ys).at xs.size ys.size

/-- The nearer of two candidates with their distances; the first if they are equally near. -/
def nearer (a b : String × Nat) : String × Nat := if b.2 < a.2 then b else a

/-- The first of the candidates nearest to a text, if they are within a distance of it. -/
def closest? (limit : Nat) (text : String) (candidates : List String) : Option String :=
  let near := (candidates.map fun name => (name, distance text name)).filter (·.2 ≤ limit)
  match near with
  | [] => none
  | first :: rest => some (rest.foldl nearer first).1

end Folio.Text
