import DecoratorSets.Extraction.Walk
import DecoratorSets.Proofs.Checked

/-!
# What a walk leaves behind, and what it records

A walk through models changes the models and the index in turns: it records the
decorators of an element, empties their list, and goes on to the next element. The
two do not get in each other's way, since what is recorded of an element is what was
there before its list was emptied, and nothing that is emptied is looked at again.
So a walk comes to the same as two separate ones (`Models.extract_eq`): one that only
changes lists (`Model.leaveBehind`) and one that only records (`Models.index`). Neither
depends on what the other does, and the second not on whether lists are emptied.
-/

namespace DecoratorSets

/-! ## Two separate walks -/

/-- The property after extraction. -/
def Property.leaveBehind (remove : Bool) (p : Property) : Property :=
  { p with decorators := DecoratorSets.leaveBehind remove p.decorators }

/-- The declaration after extraction. -/
def Declaration.leaveBehind (remove : Bool) (d : Declaration) : Declaration :=
  { d with
    properties := d.properties.map (·.map (Property.leaveBehind remove))
    decorators := DecoratorSets.leaveBehind remove d.decorators }

/-- The model after extraction. -/
def Model.leaveBehind (remove : Bool) (m : Model) : Model :=
  { m with
    declarations := m.declarations.map (Declaration.leaveBehind remove)
    decorators := DecoratorSets.leaveBehind remove m.decorators }

/-- Records the decorators of a declaration and its properties. -/
def Declaration.recordIn (namespaceName : Value) (index : ExtractionIndex) (d : Declaration) :
    Checked ExtractionIndex := do
  let index ← index.visit namespaceName d.name (.str "") d.decorators
  d.ownProperties.foldlM
    (fun index p => index.visit namespaceName d.name p.name p.decorators) index

/-- Records the decorators of a model, its declarations and their properties. -/
def Model.recordIn (index : ExtractionIndex) (m : Model) : Checked ExtractionIndex := do
  let index ← index.visit m.namespaceName (.str "") (.str "") m.decorators
  m.declarations.foldlM (Declaration.recordIn m.namespaceName) index

/-- The index of all decorators of a document of models. -/
def Models.index (ms : Models) : Checked ExtractionIndex :=
  ms.models.foldlM Model.recordIn .empty

/-! ## One walk in two -/

namespace Walk

variable {α β : Type}

/-- **A walk comes apart** into what it leaves behind and what it records. -/
def ComesApart (walk : Walk α) (left : α) (record : ExtractionIndex → Checked ExtractionIndex) :
    Prop :=
  ∀ index, walk.run index = Prod.mk left <$> record index

/-- A walk that goes on from another records behind it. -/
theorem ComesApart.bind {walk : Walk α} {left : α} {next : α → Walk β} {left' : β}
    {record record' : ExtractionIndex → Checked ExtractionIndex} (h : walk.ComesApart left record)
    (h' : (next left).ComesApart left' record') :
    (walk >>= next).ComesApart left' fun index => record index >>= record' := by
  intro index
  show _ = Prod.mk left' <$> (record index >>= record')
  rw [StateT.run_bind, h index]
  cases record index with
  | error e => rfl
  | ok index' => exact h' index'

/-- A walk that changes its result records nothing more. -/
theorem ComesApart.bind_pure {walk : Walk α} {left : α}
    {record : ExtractionIndex → Checked ExtractionIndex} (h : walk.ComesApart left record)
    (change : α → β) : (walk >>= fun x => pure (change x)).ComesApart (change left) record := by
  intro index
  rw [StateT.run_bind, h index]
  cases record index <;> rfl

/-- A walk over a list records item by item. -/
theorem ComesApart.mapM {walk : α → Walk β} {left : α → β}
    {record : ExtractionIndex → α → Checked ExtractionIndex}
    (h : ∀ x, (walk x).ComesApart (left x) fun index => record index x) (xs : List α) :
    (xs.mapM walk).ComesApart (xs.map left) fun index => xs.foldlM record index := by
  induction xs with
  | nil => exact fun _ => rfl
  | cons x xs ih =>
    rw [List.mapM_cons]
    exact (h x).bind (ih.bind_pure (left x :: ·))

end Walk

/-- The decorators of a place are recorded as they were. -/
theorem comesApart_extractAt (remove : Bool) (ns declaration property : Value)
    (ds : Option (List Decorator)) :
    (extractAt remove ns declaration property ds).ComesApart (leaveBehind remove ds)
      fun index => index.visit ns declaration property ds := by
  intro index
  unfold extractAt
  cases h : index.visit ns declaration property ds with
  | error e => simp [h]
  | ok index' => simp [h]

theorem Property.comesApart_extract (remove : Bool) (ns owner : Value) (p : Property) :
    (p.extract remove ns owner).ComesApart (p.leaveBehind remove)
      fun index => index.visit ns owner p.name p.decorators := by
  have hdecorators := comesApart_extractAt remove ns owner p.name p.decorators
  exact hdecorators.bind_pure fun decorators => { p with decorators }

theorem comesApart_extractProperties (remove : Bool) (ns owner : Value)
    (properties : Option (List Property)) :
    (extractProperties remove ns owner properties).ComesApart
      (properties.map (·.map (Property.leaveBehind remove)))
      fun index => (properties.getD []).foldlM
        (fun index p => index.visit ns owner p.name p.decorators) index := by
  cases properties with
  | none => exact fun _ => rfl
  | some ps =>
    have hps := Walk.ComesApart.mapM (Property.comesApart_extract remove ns owner) ps
    exact hps.bind_pure some

theorem Declaration.comesApart_extract (remove : Bool) (ns : Value) (d : Declaration) :
    (d.extract remove ns).ComesApart (d.leaveBehind remove) fun index => d.recordIn ns index := by
  have hdecorators := comesApart_extractAt remove ns d.name (.str "") d.decorators
  have hproperties := comesApart_extractProperties remove ns d.name d.properties
  exact hdecorators.bind (hproperties.bind_pure fun properties =>
    { d with properties, decorators := DecoratorSets.leaveBehind remove d.decorators })

theorem Model.comesApart_extract (remove : Bool) (m : Model) :
    (m.extract remove).ComesApart (m.leaveBehind remove) fun index => m.recordIn index := by
  have hdecorators :=
    comesApart_extractAt remove m.namespaceName (.str "") (.str "") m.decorators
  have hdeclarations := Walk.ComesApart.mapM
    (Declaration.comesApart_extract remove m.namespaceName) m.declarations
  exact hdecorators.bind (hdeclarations.bind_pure fun declarations =>
    { m with declarations, decorators := DecoratorSets.leaveBehind remove m.decorators })

/-- **Extraction is two separate walks**: one changes the lists of decorators, and one
records what is in them. -/
theorem Models.extract_eq (ms : Models) (remove : Bool) :
    ms.extract remove = Prod.mk ⟨ms.models.map (Model.leaveBehind remove)⟩ <$> ms.index := by
  have hmodels : (ms.models.mapM (Model.extract remove)).run .empty
      = Prod.mk (ms.models.map (Model.leaveBehind remove)) <$> ms.index :=
    Walk.ComesApart.mapM (Model.comesApart_extract remove) ms.models .empty
  unfold Models.extract
  rw [hmodels]
  cases ms.index <;> rfl

end DecoratorSets
