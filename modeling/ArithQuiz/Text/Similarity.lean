import ArithQuiz.Binary64.Basic

/-!
# Similarity of short texts

The Jaro similarity of two texts, used to suggest a known word for a mistyped
one. Two characters match when they are equal, lie at most
`max(|a|, |b|) / 2 - 1` positions apart, and neither is matched already; each
character of the first text takes the first free match. With `m` matches and
`t` half the number of matched pairs out of order, the similarity is
`(m/|a| + m/|b| + (m - t)/m) / 3`, computed in doubles, one rounding per
operation. Two empty texts are alike (1); one empty text is unlike any other (0).

`closest` picks, among candidates more similar than 0.7, the most similar one,
the last of several equally similar.
-/

set_option autoImplicit false

namespace ArithQuiz.Text

/-- A rational rounded to the nearest double, as a rational. -/
def nearest (q : Rat) : Rat := ((Binary64.ofRat q).map Binary64.toRat).getD 0

/-- The match flags of two texts' characters. -/
def matchFlags (a b : List Char) : List Bool × List Bool :=
  let window := max a.length b.length / 2 - 1
  let init := (List.replicate a.length false, List.replicate b.length false)
  (a.zipIdx).foldl (fun (flags : List Bool × List Bool) (c, i) =>
    let lo := i - window
    let hi := min b.length (i + window + 1)
    let free := (List.range' lo (hi - lo)).find? fun j =>
      b.getD j ' ' == c && !flags.2.getD j true
    match free with
    | some j => (flags.1.set i true, flags.2.set j true)
    | none => flags) init

/-- The characters whose flag is set, in order. -/
def flagged (cs : List Char) (flags : List Bool) : List Char :=
  (cs.zip flags).filterMap fun (c, f) => if f then some c else none

/-- The Jaro similarity of two texts, as the value of a double. -/
def jaro (a b : String) : Rat :=
  let xs := a.toList
  let ys := b.toList
  if xs.isEmpty && ys.isEmpty then 1
  else if xs.isEmpty || ys.isEmpty then 0
  else
    let (fa, fb) := matchFlags xs ys
    let ma := flagged xs fa
    let mb := flagged ys fb
    let m := ma.length
    if m = 0 then 0
    else
      let t := ((ma.zip mb).countP fun (x, y) => x != y) / 2
      let mq : Rat := m
      nearest (nearest (nearest (nearest (mq / xs.length) + nearest (mq / ys.length)) +
        nearest ((m - t : Nat) / mq)) / 3)

/-- The least similarity of a suggestion, exclusive. -/
def suggestionThreshold : Rat := nearest (7 / 10)

/-- The candidate most similar to a text, if any is similar enough; of equally
similar ones the last. -/
def closest (v : String) (candidates : List String) : Option String :=
  (candidates.foldl (fun (best : Option (Rat × String)) c =>
    let score := jaro v c
    if score > suggestionThreshold then
      match best with
      | some (s, _) => if score ≥ s then some (score, c) else best
      | none => some (score, c)
    else best) none).map (·.2)

end ArithQuiz.Text
