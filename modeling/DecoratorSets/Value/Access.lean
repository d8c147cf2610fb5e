import DecoratorSets.Failure
import DecoratorSets.Value.Sameness

/-!
# Looking into a document of any shape

Documents are decoded without a check of their shape beforehand. Each
operation here says what it does on values that do not admit it: it fails with
the `Misuse` that names it, so the first unsuitable value of a document decides
how reading it ends.
-/

namespace DecoratorSets

/-- What a computation over a document gives: a result, or the first failure. -/
abbrev Checked (α : Type) := Except Failure α

/-- Fails for an unsuitable value. -/
def misuse {α : Type} (cause : Misuse) : Checked α := .error (.misuse cause)

/-- What was reached, and the failure that stopped there, if any. -/
abbrev Attempt (α : Type) := α × Option Failure

/-- An attempt that leaves things as they were where it fails. -/
def attempt {α : Type} (before : α) : Checked α → Attempt α
  | .ok x => (x, none)
  | .error e => (before, some e)

namespace Value

/-- An optional member of an object. -/
def member? (v : Value) (key : String) : Checked (Option Value) :=
  match v with
  | .object _ ms => .ok (Members.get? ms key)
  | _ => misuse .membersOfNonObject

/-- An optional member of an object, or null. -/
def member (v : Value) (key : String) : Checked Value :=
  match v with
  | .object _ ms => .ok ((Members.get? ms key).getD .null)
  | _ => misuse .membersOfNonObject

/-- A member that an object has to have. -/
def required (v : Value) (key : String) : Checked Value :=
  match v with
  | .object _ ms =>
    match Members.get? ms key with
    | some w => .ok w
    | none => .error (.missingMember key)
  | _ => misuse .indexOfNonObject

/-- The members of an object. -/
def members (v : Value) : Checked Members :=
  match v with
  | .object _ ms => .ok ms
  | _ => misuse .membersOfNonObject

/-- The items of a value: those of a list, a set or a pair, the keys of an
object, the characters of a text, the numbers of bytes. -/
def items (v : Value) : Checked (List Value) :=
  match v with
  | .list _ vs => .ok vs
  | .set _ vs => .ok vs
  | .pair a b => .ok [a, b]
  | .object _ ms => .ok (Members.keys ms)
  | .str s => .ok (s.toList.map fun c => .str (String.singleton c))
  | .bytes data => .ok (data.map fun b => .int b.toNat)
  | _ => misuse .itemsOfScalar

/-- The text of a value, where only text will do. -/
def asText (v : Value) : Checked String :=
  match v with
  | .str s => .ok s
  | .bytes _ => misuse .textInBytes
  | _ => misuse .partsOfNonText

/-- What can name something passes; lists, sets and objects cannot. -/
def asKey (v : Value) : Checked Value :=
  if v.canName then .ok v else misuse .compositeKey

/-- Whether a text occurs in another. -/
def occursIn (needle : List Char) : List Char → Bool
  | [] => needle.isEmpty
  | c :: rest => needle.isPrefixOf (c :: rest) || occursIn needle rest

/-- Whether a value holds a text: an object as a key, a list as an item, a text
as a part. -/
def holds (v : Value) (key : String) : Checked Bool :=
  match v with
  | .object _ ms => .ok (Members.has ms key)
  | .list _ vs => .ok (vs.any (Value.sameAs (.str key)))
  | .set _ vs => .ok (vs.any (Value.sameAs (.str key)))
  | .pair a b => .ok ((Value.str key).sameAs a || (Value.str key).sameAs b)
  | .str s => .ok (occursIn key.toList s.toList)
  | _ => misuse .searchInNonContainer

/-- Whether a value holds another, which need not be text. -/
def holdsValue (v : Value) (needle : Value) : Checked Bool :=
  match v, needle with
  | _, .str key => v.holds key
  | .list _ vs, _ => .ok (vs.any needle.sameAs)
  | .pair a b, _ => .ok (needle.sameAs a || needle.sameAs b)
  | .set _ vs, _ => vs.any <$> (sameAs <$> needle.asKey)
  | .object _ ms, _ => (fun key => (Members.find? ms key).isSome) <$> needle.asKey
  | _, _ => misuse .searchInNonContainer

end Value

end DecoratorSets
