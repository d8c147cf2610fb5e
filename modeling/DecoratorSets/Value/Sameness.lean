import DecoratorSets.Value.Members

/-!
# Loose equality

Names and selectors are compared loosely: numbers that are equal are the same
whatever they are written as, the order of members does not matter, and labels
do not count.
-/

namespace DecoratorSets

namespace Value

mutual

/-- Loose equality: equal numbers are the same whatever they are written as,
and objects are the same if they have the same members in any order. -/
def sameAs : Value → Value → Bool
  | .list _ xs, .list _ ys => sameItems xs ys
  | .pair a b, .pair c d => sameAs a c && sameAs b d
  | .set _ xs, .set _ ys => xs.length == ys.length && xs.all fun x => ys.any (sameKey x)
  | .object _ ms, .object _ ns => ms.length == ns.length && sameMembers ms ns
  | a, b => sameScalar a b

/-- Lists of the same length with the same items, one by one. -/
def sameItems : List Value → List Value → Bool
  | [], [] => true
  | x :: xs, y :: ys => sameAs x y && sameItems xs ys
  | _, _ => false

/-- Every member has a member of its key, and the two have the same value. -/
def sameMembers : List (Value × Value) → Members → Bool
  | [], _ => true
  | (k, x) :: rest, ns =>
    (match Members.find? ns k with
      | some y => sameAs x y
      | none => false) && sameMembers rest ns

end

/-- Whether two values count as one where values are counted: they are equal, or
loosely equal. The word for no number counts as itself, though it is not loosely
equal to itself. -/
def countsAs (a b : Value) : Bool := decide (a = b) || a.sameAs b

/-- Every value counts as itself. -/
theorem countsAs_self (v : Value) : v.countsAs v = true := by simp [countsAs]

/-- Text is the same as the equal text and nothing else. -/
@[simp] theorem sameAs_str (s t : String) : sameAs (.str s) (.str t) = (s == t) := by
  simp [sameAs, sameScalar]

end Value

end DecoratorSets
