import DecoratorSets.Value.Basic

/-!
# Members of an object

Members keep the order in which they were written. Setting one that is there
leaves it at its place. Most keys are text; where documents have others, loosely
equal keys are one.
-/

namespace DecoratorSets

/-- The members of an object, in writing order. -/
abbrev Members := List (Value × Value)

namespace Members

/-- The value of a member. -/
def get? (ms : Members) (key : String) : Option Value :=
  (ms.find? fun member => member.1.isNamed key).map Prod.snd

/-- Whether there is a member of that name. -/
def has (ms : Members) (key : String) : Bool := ms.any fun member => member.1.isNamed key

/-- The keys of the members, in order. -/
def keys (ms : Members) : List Value := ms.map Prod.fst

/-- The value of the member whose key is the same as another key. -/
def find? (ms : Members) (key : Value) : Option Value :=
  (List.find? (fun member : Value × Value => member.1.sameKey key) ms).map Prod.snd

/-- Sets a member. A member that is there keeps its place and its key; a new one
goes to the end. -/
def put (key value : Value) : Members → Members
  | [] => [(key, value)]
  | (k, v) :: rest =>
    if k.sameKey key then (k, value) :: rest else (k, v) :: put key value rest

/-- Sets every member of `extra`, one after the other. -/
def putAll (ms extra : Members) : Members :=
  extra.foldl (fun acc member => acc.put member.1 member.2) ms

/-- The members whose names are not in the list. -/
def without (known : List String) (ms : Members) : Members :=
  ms.filter fun member => !known.any fun key => member.1.isNamed key

/-- Sets a member if there is a value for it. -/
def putSome (key : String) (value : Option Value) (ms : Members) : Members :=
  match value with
  | some v => ms.put key v
  | none => ms

@[simp] theorem get?_nil (key : String) : get? [] key = none := rfl

theorem get?_cons (k v : Value) (ms : Members) (key : String) :
    get? ((k, v) :: ms) key = if k = .str key then some v else get? ms key := by
  by_cases h : k = .str key
  · simp [get?, h, Value.isNamed]
  · have h' : k.isNamed key = false := by
      rw [Bool.eq_false_iff, ne_eq, Value.isNamed_eq_true_iff]
      exact h
    simp [get?, h, h']

/-- Setting a member changes that member alone. -/
theorem get?_put (ms : Members) (key other : String) (v : Value) :
    (ms.put key v).get? other = if other = key then some v else ms.get? other := by
  induction ms with
  | nil => simp [put, get?_cons, eq_comm]
  | cons m rest ih =>
    obtain ⟨k, w⟩ := m
    by_cases hs : k.sameKey (.str key) = true
    · obtain rfl := (Value.sameKey_str_iff k key).1 hs
      by_cases ho : other = key
      · simp [put, hs, get?_cons, ho]
      · have ho' : ¬ key = other := fun e => ho e.symm
        simp [put, hs, get?_cons, ho, ho']
    · have hk : ¬ k = .str key := fun e => hs ((Value.sameKey_str_iff k key).2 e)
      rw [put, if_neg hs, get?_cons, get?_cons, ih]
      by_cases ho : k = .str other
      · have hne : ¬ other = key := fun e => hk (e ▸ ho)
        simp [ho, hne]
      · simp [ho]

/-- A new member goes to the end, and one that is there keeps its place. -/
theorem keys_put (ms : Members) (key v : Value) :
    (ms.put key v).keys
      = if ms.keys.any (·.sameKey key) then ms.keys else ms.keys ++ [key] := by
  induction ms with
  | nil => simp [put, keys]
  | cons m rest ih =>
    obtain ⟨k, w⟩ := m
    by_cases h : k.sameKey key = true
    · simp [put, keys, h]
    · have h' : k.sameKey key = false := Bool.eq_false_iff.2 h
      have put_cons : put key v ((k, w) :: rest) = (k, w) :: put key v rest := by simp [put, h']
      have keys_cons (x : Value) (l : Members) : keys ((k, x) :: l) = k :: keys l := rfl
      rw [put_cons, keys_cons, keys_cons, ih, List.any_cons, h', Bool.false_or]
      by_cases hr : (keys rest).any (·.sameKey key) = true
      · rw [if_pos hr, if_pos hr]
      · rw [if_neg hr, if_neg hr, List.cons_append]

end Members

end DecoratorSets
