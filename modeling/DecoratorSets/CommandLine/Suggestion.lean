/-!
# Suggestions for a mistyped word

A word that is not known is reported together with the known words that it
resembles. Two words resemble each other by the characters that they share in
the same order: the longest stretch that occurs in both, and what they share in
the same way on either side of it. The shared characters of both words have to
make up at least three fifths of all their characters.
-/

namespace DecoratorSets

namespace CommandLine

/-- The length of the longest common beginning of two words. -/
def commonLength : List Char → List Char → Nat
  | c :: cs, d :: ds => if c = d then commonLength cs ds + 1 else 0
  | _, _ => 0

/-- A stretch of characters that occurs in two words. -/
structure SharedStretch where
  left : Nat
  right : Nat
  length : Nat
deriving DecidableEq

/-- The longest stretch that two words share; the first one in the left word,
and then in the right word, of several. -/
def longestShared (a b : List Char) : SharedStretch :=
  (List.range a.length).foldl
    (fun best i => (List.range b.length).foldl
      (fun best j =>
        let length := commonLength (a.drop i) (b.drop j)
        if best.length < length then ⟨i, j, length⟩ else best) best)
    ⟨0, 0, 0⟩

/-- The number of characters that two words share. Each step takes characters
away from the left word, so its length bounds the steps. -/
def sharedCount : Nat → List Char → List Char → Nat
  | 0, _, _ => 0
  | fuel + 1, a, b =>
    let s := longestShared a b
    if s.length = 0 then 0
    else
      sharedCount fuel (a.take s.left) (b.take s.right) + s.length
        + sharedCount fuel (a.drop (s.left + s.length)) (b.drop (s.right + s.length))

/-- The number of characters that a known word shares with another, if it
resembles it. -/
def resemblance? (word known : String) : Option Nat :=
  let shared := sharedCount known.length known.toList word.toList
  if 3 * (known.length + word.length) ≤ 10 * shared then some shared else none

/-- The known words that a word resembles, at most three, in alphabetical
order. The more of their characters they share with it the better. -/
def suggestions (known : List String) (word : String) : List String :=
  let resembling := known.filterMap fun k =>
    (resemblance? word k).map fun shared => (k, shared, k.length + word.length)
  let better (x y : String × Nat × Nat) : Bool :=
    decide (y.2.1 * x.2.2 < x.2.1 * y.2.2)
      || (x.2.1 * y.2.2 == y.2.1 * x.2.2 && decide (y.1 ≤ x.1))
  (((resembling.mergeSort better).take 3).map Prod.fst).mergeSort fun x y => decide (x ≤ y)

end CommandLine

end DecoratorSets
