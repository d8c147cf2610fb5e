import DecoratorSets.Extraction.Index
import DecoratorSets.Proofs.Extraction.Vocabularies

/-!
# The index as an ordered multimap

Command sets and vocabularies are compiled bucket by bucket, and files are named by pairing
namespaces with what was compiled for them. This rests on what the buckets are, whatever was
recorded, and however the namespaces took turns in it.

The index of a run of calls is settled by the calls alone (`ExtractionIndex.buckets_ofCalls`):
there is a bucket for each namespace that occurs in them, in the order in which they first
occur, and it holds the entries of its namespace in the order of the calls. One more call
changes one entry of this table. It is a table of texts, and among texts the two ways of
comparing keys, of tables and of the index, are equality. What can be asked of an index is then
read off the calls (`ExtractionIndex.gathers_calls`).
-/

namespace DecoratorSets

/-- **Items without repetitions** stand in the order in which they first occur. -/
theorem pairwise_idxOf_eraseDups {α : Type} [DecidableEq α] (xs : List α) :
    xs.eraseDups.Pairwise fun a b => xs.idxOf a < xs.idxOf b := by
  induction xs using List.reverseRecOn with
  | nil => exact .nil
  | append_singleton xs x ih =>
    have hold : ∀ a ∈ xs.eraseDups, (xs ++ [x]).idxOf a = xs.idxOf a :=
      fun a ha => List.idxOf_append_of_mem (List.mem_eraseDups.mp ha)
    have hkept : xs.eraseDups.Pairwise fun a b => (xs ++ [x]).idxOf a < (xs ++ [x]).idxOf b :=
      ih.imp_of_mem fun ha hb hlt => by rwa [hold _ ha, hold _ hb]
    rw [eraseDups_concat]
    split
    · exact hkept
    · rename_i hnew
      refine List.pairwise_append.mpr ⟨hkept, List.pairwise_singleton _ x, fun a ha b hb => ?_⟩
      rw [List.mem_singleton.mp hb, hold a ha, List.idxOf_append_of_notMem hnew]
      exact Nat.lt_add_right _ (List.idxOf_lt_length_of_mem (List.mem_eraseDups.mp ha))

namespace ExtractionIndex

/-- The index after some calls, each of which records an entry under a namespace. -/
def ofCalls (calls : List (String × IndexEntry)) : ExtractionIndex :=
  calls.foldl (fun index call => index.record (.str call.1) call.2) .empty

/-- The namespaces of some calls, one for each call. -/
def calledNamespaces (calls : List (String × IndexEntry)) : List Value :=
  calls.map fun call => .str call.1

/-- The entries that calls record under a namespace, in the order of the calls. -/
def calledEntries (calls : List (String × IndexEntry)) (namespaceName : Value) :
    List IndexEntry :=
  (calls.filter fun call => Value.str call.1 = namespaceName).map Prod.snd

variable {calls : List (String × IndexEntry)}

/-! ## One more call -/

/-- One more call is recorded after the others. -/
theorem ofCalls_concat (call : String × IndexEntry) :
    ofCalls (calls ++ [call]) = (ofCalls calls).record (.str call.1) call.2 := by
  unfold ofCalls
  rw [List.foldl_append]
  rfl

/-- Recording under a text changes the entry of that name in a table. -/
theorem addTo_eq_modify (s : String) (e : IndexEntry) (bs : List (Value × List IndexEntry)) :
    addTo (.str s) e bs = Table.modify (.str s) [] (· ++ [e]) bs := by
  induction bs with
  | nil => rfl
  | cons b rest ih =>
    obtain ⟨key, es⟩ := b
    rw [addTo, Table.modify, ih]
    simp only [Value.sameKey_str_iff, Value.sameAs_str_iff]

/-- Nothing was recorded under a namespace that no call names. -/
theorem calledEntries_eq_nil_iff {ns : Value} :
    calledEntries calls ns = [] ↔ ∀ call ∈ calls, Value.str call.1 ≠ ns := by
  unfold calledEntries
  rw [List.map_eq_nil_iff, List.filter_eq_nil_iff]
  simp only [decide_eq_true_eq, ne_eq]

/-- One more call adds its entry to those of its namespace. -/
theorem calledEntries_concat (s : String) (e : IndexEntry) :
    calledEntries (calls ++ [(s, e)])
      = Function.update (calledEntries calls) (.str s) (calledEntries calls (.str s) ++ [e]) := by
  funext ns
  unfold calledEntries
  rw [map_filter_concat]
  by_cases h : ns = .str s
  · subst h
    simp
  · simp [Ne.symm h, Function.update_of_ne h]

/-- **The buckets after a run of calls**: the entries of each namespace that occurs in them. -/
theorem buckets_ofCalls (calls : List (String × IndexEntry)) :
    (ofCalls calls).buckets = Table.tabulate (calledNamespaces calls) (calledEntries calls) := by
  induction calls using List.reverseRecOn with
  | nil => rfl
  | append_singleton calls call ih =>
    obtain ⟨s, e⟩ := call
    have hnew : .str s ∉ calledNamespaces calls →
        ([] : List IndexEntry) ++ [e] = calledEntries calls (.str s) ++ [e] := by
      intro hnone
      rw [calledEntries_eq_nil_iff.mpr fun call hcall heq =>
        hnone (List.mem_map.mpr ⟨call, hcall, heq⟩)]
    rw [ofCalls_concat, record, ih, addTo_eq_modify, Table.modify_tabulate hnew,
      calledEntries_concat]
    unfold calledNamespaces
    rw [List.map_append, List.map_singleton]

/-! ## What can be asked -/

/-- The namespaces are those of the calls, each once. -/
theorem namespaces_ofCalls (calls : List (String × IndexEntry)) :
    (ofCalls calls).namespaces = (calledNamespaces calls).eraseDups := by
  unfold namespaces
  rw [buckets_ofCalls]
  unfold Table.tabulate
  rw [List.map_map]
  exact List.map_id _

/-- A namespace is recorded if a call names it. -/
theorem mem_namespaces_ofCalls {ns : Value} :
    ns ∈ (ofCalls calls).namespaces ↔ ∃ call ∈ calls, Value.str call.1 = ns := by
  rw [namespaces_ofCalls, List.mem_eraseDups]
  exact List.mem_map

/-- The bucket of a name among buckets of texts. -/
theorem entriesIn_map {names : List Value} (htexts : ∀ name ∈ names, ∃ s, name = .str s)
    (f : Value → List IndexEntry) (ns : Value) :
    entriesIn ns (names.map fun name => (name, f name)) = if ns ∈ names then f ns else [] := by
  induction names with
  | nil => rfl
  | cons name names ih =>
    obtain ⟨⟨s, rfl⟩, hrest⟩ := List.forall_mem_cons.mp htexts
    rw [List.map_cons, entriesIn, ih hrest]
    simp only [Value.str_sameKey_iff, List.mem_cons]
    by_cases h : ns = .str s <;> simp [h]

/-- **The entries of a namespace** are those that were recorded under it. -/
theorem entries_ofCalls (calls : List (String × IndexEntry)) (ns : Value) :
    (ofCalls calls).entries ns = calledEntries calls ns := by
  have htexts : ∀ name ∈ (ofCalls calls).namespaces, ∃ s, name = .str s := by
    intro name hname
    obtain ⟨call, -, rfl⟩ := mem_namespaces_ofCalls.mp hname
    exact ⟨call.1, rfl⟩
  unfold entries
  rw [buckets_ofCalls, Table.tabulate, ← namespaces_ofCalls, entriesIn_map htexts]
  split
  · rfl
  · rename_i hnone
    refine (calledEntries_eq_nil_iff.mpr fun call hcall heq => hnone ?_).symm
    exact mem_namespaces_ofCalls.mpr ⟨call, hcall, heq⟩

/-- A namespace is contained if it is listed. -/
theorem contains_ofCalls {ns : Value} :
    (ofCalls calls).contains ns = true ↔ ns ∈ (ofCalls calls).namespaces := by
  unfold contains
  rw [List.any_eq_true]
  constructor
  · rintro ⟨name, hname, hsame⟩
    obtain ⟨call, -, rfl⟩ := mem_namespaces_ofCalls.mp hname
    rwa [(Value.str_sameKey_iff ns call.1).mp hsame]
  · intro hns
    obtain ⟨call, -, rfl⟩ := mem_namespaces_ofCalls.mp hns
    exact ⟨_, hns, (Value.str_sameKey_iff _ call.1).mpr rfl⟩

/-- Recording makes the buckets longer by one entry, in all. -/
theorem length_flatMap_addTo (ns : Value) (e : IndexEntry) (bs : List (Value × List IndexEntry)) :
    ((addTo ns e bs).flatMap Prod.snd).length = (bs.flatMap Prod.snd).length + 1 := by
  induction bs with
  | nil => rfl
  | cons b rest ih =>
    obtain ⟨key, es⟩ := b
    rw [addTo]
    split
    · simp only [List.flatMap_cons, List.length_append, List.length_singleton]
      omega
    · simp only [List.flatMap_cons, List.length_append, ih]
      omega

/-- **The buckets hold one entry for each call.** -/
theorem length_flatMap_buckets (calls : List (String × IndexEntry)) :
    ((ofCalls calls).buckets.flatMap Prod.snd).length = calls.length := by
  induction calls using List.reverseRecOn with
  | nil => rfl
  | append_singleton calls call ih =>
    rw [ofCalls_concat, List.length_append, ← ih]
    exact length_flatMap_addTo _ _ _

/-- **An index is an ordered multimap of what was recorded.** After any run of calls it lists each
namespace that was named once, in the order in which they were first named. The entries of a
namespace are those of the calls that name it, as they are and in the order of the calls, and
there are none exactly if no call names it. A namespace is contained if it is listed, the size is
the number of namespaces, and the buckets are the namespaces in their order with their entries,
which are as many as the calls. -/
theorem gathers_calls (calls : List (String × IndexEntry)) :
    (ofCalls calls).namespaces.Nodup
      ∧ (∀ ns, ns ∈ (ofCalls calls).namespaces ↔ ∃ call ∈ calls, Value.str call.1 = ns)
      ∧ ((ofCalls calls).namespaces.Pairwise fun ns ns' =>
        (calledNamespaces calls).idxOf ns < (calledNamespaces calls).idxOf ns')
      ∧ (∀ ns, (ofCalls calls).entries ns
        = (calls.filter fun call => Value.str call.1 = ns).map Prod.snd)
      ∧ (∀ ns, (ofCalls calls).entries ns = [] ↔ ∀ call ∈ calls, Value.str call.1 ≠ ns)
      ∧ (∀ ns, (ofCalls calls).contains ns = true ↔ ns ∈ (ofCalls calls).namespaces)
      ∧ (ofCalls calls).size = (ofCalls calls).namespaces.length
      ∧ (ofCalls calls).buckets
        = (ofCalls calls).namespaces.map (fun ns => (ns, (ofCalls calls).entries ns))
      ∧ ((ofCalls calls).buckets.flatMap Prod.snd).length = calls.length := by
  refine ⟨?_, fun _ => mem_namespaces_ofCalls, ?_, entries_ofCalls calls, fun ns => ?_,
    fun _ => contains_ofCalls, ?_, ?_, length_flatMap_buckets calls⟩
  · rw [namespaces_ofCalls]
    exact nodup_eraseDups _
  · rw [namespaces_ofCalls]
    exact pairwise_idxOf_eraseDups _
  · rw [entries_ofCalls, calledEntries_eq_nil_iff]
  · unfold size namespaces
    rw [List.length_map]
  · simp only [entries_ofCalls]
    rw [namespaces_ofCalls]
    exact buckets_ofCalls calls

/-- Namespaces that take turns keep their places. -/
example : (ofCalls [("b", ⟨.str "", .str "", []⟩), ("a", ⟨.str "X", .str "", []⟩),
    ("b", ⟨.str "Y", .str "p", []⟩)]).buckets
      = [(.str "b", [⟨.str "", .str "", []⟩, ⟨.str "Y", .str "p", []⟩]),
        (.str "a", [⟨.str "X", .str "", []⟩])] := rfl

end ExtractionIndex

end DecoratorSets
