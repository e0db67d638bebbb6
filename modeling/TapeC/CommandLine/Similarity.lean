/-!
# Similar names

How much two names have in common, by the measure of Jaro: characters match if they are equal and
stand near each other, each one once; the measure is the mean of the matched part of either name
and the part of the matches that stand in the same order in both. It lies between 0 and 1.
-/

namespace TapeC.CommandLine

/-- The names whose measure is above this are told as similar. -/
def similarityThreshold : Float := 0.7

/-- The first place in `b` from `low` and below `high` that is free and holds the character. -/
def firstMatch (b : List Char) (used : List Nat) (low high : Nat) (c : Char) : Option Nat :=
  ((b.zipIdx.take high).find? fun (d, j) => low ≤ j && c == d && !used.contains j).map (·.2)

/-- The matches of the characters of the first name, each with its place there: the characters of
the first name that have a match, and the places of their matches in the second name. -/
def nearMatches (reach : Nat) (b : List Char) (a : List (Char × Nat)) : List Char × List Nat :=
  a.foldl (fun (found, used) (c, i) =>
    match firstMatch b used (i - reach) (i + reach + 1) c with
    | some j => (found ++ [c], used ++ [j])
    | none => (found, used)) ([], [])

/-- The similarity of two names. -/
def similarity (x y : String) : Float :=
  let a := x.toList
  let b := y.toList
  if a.isEmpty && b.isEmpty then 1
  else
    let reach := max a.length b.length / 2 - 1
    let (found, used) := nearMatches reach b a.zipIdx
    if found.isEmpty then 0
    else
      let counterparts := (b.zipIdx.filter fun (_, j) => used.contains j).map (·.1)
      let moved := ((found.zip counterparts).countP fun (c, d) => c != d) / 2
      let m := found.length
      (m.toFloat / a.length.toFloat + m.toFloat / b.length.toFloat
        + (m - moved).toFloat / m.toFloat) / 3

/-- The most similar of the candidates, if one is similar enough; of equals, the last. -/
def mostSimilar {α : Type} (name : String) (candidates : List (String × α)) : Option α :=
  (candidates.foldl (fun (best : Option (Float × α)) (candidate, a) =>
    let s := similarity name candidate
    if s > similarityThreshold then
      match best with
      | some (b, _) => if s < b then best else some (s, a)
      | none => some (s, a)
    else best) none).map (·.2)

end TapeC.CommandLine
