import DecoratorSets.Proofs.Extraction.Complete
import DecoratorSets.Proofs.Undecorated

/-!
# Models stripped of their decorators

Extraction that removes what it finds leaves the models stripped: every list of
decorators that is there becomes the empty list, and a list that is absent stays absent
(`Models.stripped`). Nothing else changes, and extraction that removes nothing changes
nothing at all.

What is found does not depend on it. The index holds for each namespace the entries of its
models in the order of the document, also where several models share a namespace
(`Models.entries_of_foldlM`), and it is the same whether the lists are emptied or kept. In
stripped models there is nothing left to find, so extracting from them gives them back
with the empty index (`Models.stripped_of_extract`).
-/

namespace DecoratorSets

/-- The list without its decorators, if there is a list. -/
def emptied (ds : Option (List Decorator)) : Option (List Decorator) := ds.map fun _ => []

/-- **The models with every list of decorators emptied.** -/
def Models.stripped (ms : Models) : Models := ⟨ms.models.map (Model.mapDecorators emptied)⟩

/-! ## What is left behind -/

section LeftBehind

variable (ms : Models)

/-- **Lists that are removed** are emptied. -/
theorem Models.map_leaveBehind_true :
    (⟨ms.models.map (Model.leaveBehind true)⟩ : Models) = ms.stripped := rfl

/-- **Lists that are kept** stay as they are, and with them the models. -/
theorem Models.map_leaveBehind_false :
    (⟨ms.models.map (Model.leaveBehind false)⟩ : Models) = ms := by
  rw [show Model.leaveBehind false = id from funext Model.mapDecorators_id, List.map_id]

/-- Models that are stripped twice are stripped once. -/
theorem Models.stripped_stripped : ms.stripped.stripped = ms.stripped := by
  have hemptied : emptied ∘ emptied = emptied := by
    funext ds
    cases ds <;> rfl
  have htwice : Model.mapDecorators emptied ∘ Model.mapDecorators emptied
      = Model.mapDecorators emptied := by
    funext m
    rw [Function.comp_apply, Model.mapDecorators_mapDecorators, hemptied]
  unfold Models.stripped
  rw [List.map_map, htwice]

end LeftBehind

/-! ## What is recorded -/

/-- The entries of a namespace after more are recorded under the same or another. -/
theorem ExtractionIndex.entries_recordAll (index : ExtractionIndex) (ns other : String)
    (es : List IndexEntry) :
    (index.recordAll (.str ns) es).entries (.str other)
      = index.entries (.str other) ++ (if other = ns then es else []) := by
  induction es generalizing index with
  | nil => simp [recordAll]
  | cons e es ih =>
    show ((index.record (.str ns) e).recordAll (.str ns) es).entries (.str other) = _
    rw [ih, entries_record, List.append_assoc]
    split <;> rfl

/-- Models are recorded one after the other, also where they share a namespace. -/
theorem Models.entries_of_foldlM {models : List Model}
    (hns : ∀ m ∈ models, ∃ s, m.namespaceName = .str s) (index : ExtractionIndex) :
    ∃ index', models.foldlM Model.recordIn index = .ok index' ∧ ∀ s, index'.entries (.str s)
      = index.entries (.str s)
        ++ (models.filter fun m => m.namespaceName = .str s).flatMap Model.entries := by
  induction models generalizing index with
  | nil => exact ⟨index, rfl, fun s => (List.append_nil _).symm⟩
  | cons m models ih =>
    obtain ⟨⟨ns, hm⟩, hmodels⟩ := List.forall_mem_cons.mp hns
    obtain ⟨index', hindex', hentries⟩ := ih hmodels (index.recordAll (.str ns) m.entries)
    refine ⟨index', ?_, fun s => ?_⟩
    · rw [List.foldlM_cons, Model.recordIn_eq hm, Checked.ok_bind, hindex']
    · rw [hentries, ExtractionIndex.entries_recordAll, List.append_assoc, List.filter_cons, hm]
      by_cases h : s = ns
      · simp [h]
      · simp [h, Ne.symm h]

/-! ## Nothing is left to find -/

/-- A model with emptied lists has no decorators. -/
theorem Model.not_isDecorated_mapDecorators_emptied (m : Model) :
    ¬ (m.mapDecorators emptied).IsDecorated := by
  have hemptied : ∀ ds, (emptied ds).getD [] = [] := by
    intro ds
    cases ds <;> rfl
  rintro (h | ⟨d, hd, h | ⟨p, hp, h⟩⟩)
  · exact h (hemptied m.decorators)
  · obtain ⟨d, _, rfl⟩ := List.mem_map.mp hd
    exact h (hemptied d.decorators)
  · obtain ⟨d, _, rfl⟩ := List.mem_map.mp hd
    rw [Declaration.ownProperties_mapDecorators] at hp
    obtain ⟨p, _, rfl⟩ := List.mem_map.mp hp
    exact h (hemptied p.decorators)

/-- **Nothing is recorded of stripped models.** -/
theorem Models.index_stripped {ms : Models}
    (hns : ∀ m ∈ ms.models, ∃ s, m.namespaceName = .str s) :
    ms.stripped.index = .ok .empty := by
  have hnothing : ∀ index, ∀ m ∈ ms.stripped.models, m.recordIn index = .ok index := by
    intro index m hm
    obtain ⟨m, hmem, rfl⟩ := List.mem_map.mp hm
    obtain ⟨s, hs⟩ := hns m hmem
    have hentries : (m.mapDecorators emptied).entries = [] :=
      not_not.mp (mt Model.entries_ne_nil_iff.mp m.not_isDecorated_mapDecorators_emptied)
    rw [Model.recordIn_eq (show (m.mapDecorators emptied).namespaceName = .str s from hs),
      hentries]
    rfl
  unfold Models.index
  rw [Checked.foldlM_eq_ok_foldl hnothing, List.foldl_fixed]

/-- **Extraction strips models of exactly their decorators.** The index is the same whether
the decorators are removed or kept, and holds for each namespace what is found in its models.
The models are left as they were, or with every list of decorators emptied; and extracting
from these leaves them as they are and finds nothing. -/
theorem Models.stripped_of_extract {ms : Models}
    (hns : ∀ m ∈ ms.models, ∃ s, m.namespaceName = .str s) :
    ∃ index, ms.extract false = .ok (ms, index) ∧ ms.extract true = .ok (ms.stripped, index)
      ∧ (∀ s, index.entries (.str s)
        = (ms.models.filter fun m => m.namespaceName = .str s).flatMap Model.entries)
      ∧ ∀ remove, ms.stripped.extract remove = .ok (ms.stripped, .empty) := by
  obtain ⟨index, hindex, hentries⟩ := Models.entries_of_foldlM hns .empty
  refine ⟨index, ?_, ?_, hentries, fun remove => ?_⟩
  · rw [Models.extract_eq, ms.map_leaveBehind_false, show ms.index = .ok index from hindex,
      Checked.map_ok]
  · rw [Models.extract_eq, ms.map_leaveBehind_true, show ms.index = .ok index from hindex,
      Checked.map_ok]
  · rw [Models.extract_eq, Models.index_stripped hns, Checked.map_ok]
    cases remove with
    | true => rw [Models.map_leaveBehind_true, Models.stripped_stripped]
    | false => rw [Models.map_leaveBehind_false]

namespace Badges

/-- A second model of the namespace of visitors. It has no list of decorators of its own, and
declares visitors once more. -/
def guestModel : Model where
  namespaceName := .str "org.acme@1.0.0"
  declarations := [visitor [⟨.str "name", .string, false, false, none, none, []⟩]
    [⟨.str "Badge", none, []⟩]]
  decorators := none
  extras := []

/-- The two models of visitors. -/
def visitorModels : Models := ⟨[visitorFile.toModel, guestModel]⟩

theorem stripped_of_extract_visitors :
    (∀ m ∈ visitorModels.models, ∃ s, m.namespaceName = .str s)
      ∧ ∃ index, visitorModels.extract false = .ok (visitorModels, index)
        ∧ visitorModels.extract true = .ok (visitorModels.stripped, index)
        ∧ (index.entries (.str "org.acme@1.0.0")).map (fun e => (e.declaration, e.property))
          = [(.str "", .str ""), (.str "Visitor", .str ""), (.str "Visitor", .str "name"),
            (.str "Visitor", .str "")] := by
  have hns : ∀ m ∈ visitorModels.models, ∃ s, m.namespaceName = .str s := by
    intro m hm
    rcases List.mem_pair.mp hm with rfl | rfl
    · exact ⟨_, rfl⟩
    · exact ⟨_, rfl⟩
  obtain ⟨index, hkept, hremoved, hentries, -⟩ := Models.stripped_of_extract hns
  refine ⟨hns, index, hkept, hremoved, ?_⟩
  rw [hentries]
  decide +kernel

end Badges

end DecoratorSets
