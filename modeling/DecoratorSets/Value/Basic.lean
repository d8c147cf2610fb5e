import DecoratorSets.Calendar.Moment
import DecoratorSets.Number.Binary64

/-!
# Document values

Models, command sets and payloads arrive as documents: trees of objects, lists
and scalars. Most of a document is carried along without being looked at, so
the tree itself is a type of its own, with the members of an object in the
order in which they were written. That order decides which fault of a document
is reported first, and it is kept when a document is written again.

Documents in YAML hold more than JSON can write: moments, bytes, pairs, sets,
and members whose keys are no text. They may also use one part in several
places, or inside itself. Such a part has a label; equal labels stand for the
same part, and a part inside itself is shown to a finite depth. Labels matter to
the writers alone.

Two notions of equality live side by side. Structural equality is `=`. Loose
equality is the one that names and selectors are compared with: numbers and
truth values that stand for the same number are the same. For scalars it is
`Value.sameScalar`.
-/

namespace DecoratorSets

/-! ## Labels -/

/-- How far the same label stands for the same part. -/
inductive Reach where
  /-- All over the document. -/
  | document
  /-- Inside one decorator. -/
  | decorator
  /-- Inside one argument of a decorator. -/
  | argument
deriving DecidableEq

/-- What tells a part that is used several times from others. -/
structure Label where
  number : Nat
  reach : Reach
  /-- The models that the part was copied with. -/
  owners : List String
  /-- The place that the part belongs to, where the label does not reach beyond
  one. -/
  place : List Nat
deriving DecidableEq

/-! ## Values -/

/-- A document value. -/
inductive Value where
  | null
  | bool (b : Bool)
  | int (n : Int)
  | num (x : Binary64)
  | str (s : String)
  | moment (label : Option Label) (m : Moment)
  | bytes (data : List UInt8)
  | list (label : Option Label) (items : List Value)
  | pair (left right : Value)
  | set (label : Option Label) (items : List Value)
  | object (label : Option Label) (members : List (Value × Value))

instance : Coe String Value := ⟨Value.str⟩

instance : Inhabited Value := ⟨.null⟩

namespace Value

/-- The integer a value stands for: truth values count as one and zero. -/
def asInt? : Value → Option Int
  | .bool b => some (if b then 1 else 0)
  | .int n => some n
  | _ => none

/-- The absent value becomes nothing. -/
def ifPresent : Value → Option Value
  | .null => none
  | v => some v

/-- Nothing becomes the absent value. -/
def ofOption : Option Value → Value
  | none => .null
  | some v => v

/-- Blank values count as absent: nothing, falsehood, zero, and whatever is
empty. -/
def isBlank : Value → Bool
  | .null => true
  | .bool b => !b
  | .int n => n == 0
  | .num x => x.isZero
  | .str s => s == ""
  | .moment _ _ => false
  | .bytes data => data.isEmpty
  | .list _ items => items.isEmpty
  | .pair _ _ => false
  | .set _ items => items.isEmpty
  | .object _ members => members.isEmpty

/-- Whether a value can stand in a set or name an entry of a table: what has no
parts can, and a pair of such values. -/
def canName : Value → Bool
  | .list _ _ => false
  | .set _ _ => false
  | .object _ _ => false
  | .pair a b => canName a && canName b
  | _ => true

/-! ## Structural equality -/

mutual

/-- Whether two values are equal, labels included. -/
def equals : Value → Value → Bool
  | .null, .null => true
  | .bool a, .bool b => a == b
  | .int a, .int b => a == b
  | .num a, .num b => a == b
  | .str a, .str b => a == b
  | .moment l a, .moment m b => l == m && a == b
  | .bytes a, .bytes b => a == b
  | .list l a, .list m b => l == m && equalItems a b
  | .pair a b, .pair c d => equals a c && equals b d
  | .set l a, .set m b => l == m && equalItems a b
  | .object l a, .object m b => l == m && equalMembers a b
  | _, _ => false

/-- Whether two lists of values are equal. -/
def equalItems : List Value → List Value → Bool
  | [], [] => true
  | x :: xs, y :: ys => equals x y && equalItems xs ys
  | _, _ => false

/-- Whether two lists of members are equal, order included. -/
def equalMembers : List (Value × Value) → List (Value × Value) → Bool
  | [], [] => true
  | (k, x) :: xs, (l, y) :: ys => equals k l && (equals x y && equalMembers xs ys)
  | _, _ => false

end

mutual

theorem equals_iff : (a b : Value) → (equals a b = true ↔ a = b)
  | .null, b => by cases b <;> simp [equals]
  | .bool _, b => by cases b <;> simp [equals]
  | .int _, b => by cases b <;> simp [equals]
  | .num _, b => by cases b <;> simp [equals]
  | .str _, b => by cases b <;> simp [equals]
  | .moment _ _, b => by cases b <;> simp [equals]
  | .bytes _, b => by cases b <;> simp [equals]
  | .list _ xs, b => by cases b <;> simp [equals, equalItems_iff xs]
  | .pair x y, b => by cases b <;> simp [equals, equals_iff x, equals_iff y]
  | .set _ xs, b => by cases b <;> simp [equals, equalItems_iff xs]
  | .object _ ms, b => by cases b <;> simp [equals, equalMembers_iff ms]

theorem equalItems_iff : (a b : List Value) → (equalItems a b = true ↔ a = b)
  | [], b => by cases b <;> simp [equalItems]
  | x :: xs, b => by cases b <;> simp [equalItems, equals_iff x, equalItems_iff xs]

theorem equalMembers_iff : (a b : List (Value × Value)) → (equalMembers a b = true ↔ a = b)
  | [], b => by cases b <;> simp [equalMembers]
  | (k, x) :: xs, b => by
    cases b with
    | nil => simp [equalMembers]
    | cons m rest =>
      obtain ⟨l, y⟩ := m
      simp [equalMembers, equals_iff k, equals_iff x, equalMembers_iff xs, and_assoc]

end

instance : DecidableEq Value := fun a b => decidable_of_iff _ (equals_iff a b)

/-! ## Loose equality of scalars -/

/-- Scalars are the same if they are equal, or stand for equal numbers or the
same instant. -/
def sameScalar (a b : Value) : Bool :=
  match a, b with
  | .null, .null => true
  | .str s, .str t => s == t
  | .moment _ m, .moment _ n => m.sameAs n
  | .bytes x, .bytes y => x == y
  | .num x, .num y => x.equals y
  | .num x, other => match other.asInt? with
    | some n => x.equalsInt n
    | none => false
  | other, .num y => match other.asInt? with
    | some n => y.equalsInt n
    | none => false
  | a, b => match a.asInt?, b.asInt? with
    | some m, some n => m == n
    | _, _ => false

/-- Whether two keys are one: they are loosely equal, or both are the word for no
number, or pairs of such keys. -/
def sameKey : Value → Value → Bool
  | .num .nan, .num .nan => true
  | .pair a b, .pair c d => sameKey a c && sameKey b d
  | a, b => sameScalar a b

/-- Whether a key is a text. -/
def isNamed (key : String) : Value → Bool
  | .str s => s == key
  | _ => false

theorem isNamed_eq_true_iff (key : String) (v : Value) : v.isNamed key = true ↔ v = .str key := by
  cases v <;> simp [isNamed]

/-- A text is the same key as the equal text and nothing else. -/
theorem sameKey_str_iff (v : Value) (key : String) : v.sameKey (.str key) = true ↔ v = .str key := by
  cases v <;> simp [sameKey, sameScalar, asInt?]

/-- A text is the same key as the equal text and nothing else. -/
theorem str_sameKey_iff (v : Value) (key : String) :
    (Value.str key).sameKey v = true ↔ v = .str key := by
  cases v with
  | str s => simpa [sameKey, sameScalar] using eq_comm
  | _ => simp [sameKey, sameScalar, asInt?]

end Value

end DecoratorSets
