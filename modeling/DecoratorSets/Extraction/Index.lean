import DecoratorSets.Metamodel.Basic

/-!
# The index of recorded decorators

Extraction records the decorators that it finds under the namespace of their
model, together with the place where they were found. The index keeps one
bucket of entries for each namespace, the buckets in the order in which their
namespaces were first recorded, the entries of a bucket in the order of their
recording.
-/

namespace DecoratorSets

/-- The decorators found at one place. A blank declaration stands for the model
itself, and a blank property for the declaration itself. -/
structure IndexEntry where
  declaration : Value
  property : Value
  decorators : List Decorator
deriving DecidableEq

/-- Whether an entry is about the model itself. -/
def IndexEntry.isModelLevel (e : IndexEntry) : Bool :=
  e.declaration.isBlank && e.property.isBlank

/-- Recorded entries by namespace. -/
structure ExtractionIndex where
  buckets : List (Value × List IndexEntry)
deriving DecidableEq

namespace ExtractionIndex

/-- The index without entries. -/
def empty : ExtractionIndex := ⟨[]⟩

/-- Puts an entry at the end of the bucket of a namespace. -/
def addTo (namespaceName : Value) (e : IndexEntry) :
    List (Value × List IndexEntry) → List (Value × List IndexEntry)
  | [] => [(namespaceName, [e])]
  | (ns, es) :: rest =>
    if ns.sameKey namespaceName then (ns, es ++ [e]) :: rest
    else (ns, es) :: addTo namespaceName e rest

/-- The entries of the first bucket of a namespace. -/
def entriesIn (namespaceName : Value) : List (Value × List IndexEntry) → List IndexEntry
  | [] => []
  | (ns, es) :: rest => if ns.sameKey namespaceName then es else entriesIn namespaceName rest

/-- Recording adds the entry at the end of the bucket of its namespace, and
leaves the others. -/
theorem entriesIn_addTo (ns other : String) (e : IndexEntry)
    (bs : List (Value × List IndexEntry)) :
    entriesIn (.str other) (addTo (.str ns) e bs)
      = entriesIn (.str other) bs ++ (if other = ns then [e] else []) := by
  induction bs with
  | nil =>
    by_cases h : other = ns
    · simp [addTo, entriesIn, h, Value.sameKey_str_iff]
    · have h' : ¬ ns = other := fun e => h e.symm
      simp [addTo, entriesIn, h, h', Value.sameKey_str_iff]
  | cons b rest ih =>
    obtain ⟨k, es⟩ := b
    by_cases hk : k = .str ns
    · by_cases h : other = ns
      · simp [addTo, entriesIn, h, hk, Value.sameKey_str_iff]
      · have h' : ¬ ns = other := fun e => h e.symm
        simp [addTo, entriesIn, h, h', hk, Value.sameKey_str_iff]
    · by_cases ho : k = .str other
      · have h : ¬ other = ns := fun e => hk (e ▸ ho)
        simp [addTo, entriesIn, ho, h, Value.sameKey_str_iff]
      · simp [addTo, entriesIn, hk, ho, Value.sameKey_str_iff, ih]

/-- Records an entry under a namespace. -/
def record (index : ExtractionIndex) (namespaceName : Value) (e : IndexEntry) :
    ExtractionIndex :=
  ⟨addTo namespaceName e index.buckets⟩

/-- The recorded namespaces, in the order of their first entries. -/
def namespaces (index : ExtractionIndex) : List Value := index.buckets.map Prod.fst

/-- The entries of a namespace. -/
def entries (index : ExtractionIndex) (namespaceName : Value) : List IndexEntry :=
  entriesIn namespaceName index.buckets

theorem entries_record (index : ExtractionIndex) (ns other : String) (e : IndexEntry) :
    (index.record (.str ns) e).entries (.str other)
      = index.entries (.str other) ++ (if other = ns then [e] else []) :=
  entriesIn_addTo ns other e index.buckets

/-- Whether a namespace was recorded. -/
def contains (index : ExtractionIndex) (namespaceName : Value) : Bool :=
  index.namespaces.any (·.sameKey namespaceName)

/-- The number of recorded namespaces. -/
def size (index : ExtractionIndex) : Nat := index.buckets.length

/-- The form in which an index is shown. -/
def inspect (index : ExtractionIndex) : String :=
  "ExtractionIndex(namespaces=" ++ (Value.list none index.namespaces).inspect ++ ")"

end ExtractionIndex

end DecoratorSets
