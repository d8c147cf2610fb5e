import DecoratorSets.Metamodel.Basic

/-!
# Models without their decorators

Decorating and extracting change the lists of decorators in a document and nothing
else. `Models.undecorated` is what stays: the document with every list of decorators
taken away. Two documents that are the same without their decorators have the same
elements, one by one, with the same names, kinds and types.
-/

namespace DecoratorSets

/-- The property without its decorators. -/
def Property.undecorated (p : Property) : Property := { p with decorators := none }

/-- The declaration without its decorators and those of its properties. -/
def Declaration.undecorated (d : Declaration) : Declaration :=
  { d with properties := d.properties.map (·.map Property.undecorated), decorators := none }

/-- The model without its decorators and those of its elements. -/
def Model.undecorated (m : Model) : Model :=
  { m with declarations := m.declarations.map Declaration.undecorated, decorators := none }

/-- Models without their decorators. -/
def Models.undecorated (ms : Models) : Models := ⟨ms.models.map Model.undecorated⟩

theorem Declaration.ownProperties_undecorated (d : Declaration) :
    d.undecorated.ownProperties = d.ownProperties.map Property.undecorated := by
  unfold Declaration.ownProperties Declaration.undecorated
  cases d.properties <;> rfl

variable {d d' : Declaration} {m m' : Model}

/-- Declarations that are the same without their decorators have the same name. -/
theorem Declaration.name_eq_of_undecorated (h : d'.undecorated = d.undecorated) :
    d'.name = d.name := by
  have hname : d'.undecorated.name = d.undecorated.name := congrArg Declaration.name h
  exact hname

/-- **The properties of declarations that are the same without their decorators**
correspond. -/
theorem Declaration.exists_property_of_undecorated (h : d'.undecorated = d.undecorated)
    {p' : Property} (hp' : p' ∈ d'.ownProperties) :
    ∃ p ∈ d.ownProperties, p'.undecorated = p.undecorated := by
  have hmem : p'.undecorated ∈ d'.undecorated.ownProperties := by
    rw [Declaration.ownProperties_undecorated]
    exact List.mem_map_of_mem hp'
  rw [h, Declaration.ownProperties_undecorated] at hmem
  obtain ⟨p, hp, heq⟩ := List.mem_map.mp hmem
  exact ⟨p, hp, heq.symm⟩

theorem Property.name_eq_of_undecorated {p p' : Property} (h : p'.undecorated = p.undecorated) :
    p'.name = p.name := by
  have hname : p'.undecorated.name = p.undecorated.name := congrArg Property.name h
  exact hname

/-- **The declarations of models that are the same without their decorators**
correspond. -/
theorem Model.exists_declaration_of_undecorated (h : m'.undecorated = m.undecorated)
    (hd' : d' ∈ m'.declarations) : ∃ d ∈ m.declarations, d'.undecorated = d.undecorated := by
  have hdecls : m'.declarations.map Declaration.undecorated
      = m.declarations.map Declaration.undecorated := congrArg Model.declarations h
  have hmem : d'.undecorated ∈ m'.declarations.map Declaration.undecorated :=
    List.mem_map_of_mem hd'
  rw [hdecls] at hmem
  obtain ⟨d, hd, heq⟩ := List.mem_map.mp hmem
  exact ⟨d, hd, heq.symm⟩

/-- Models that are the same without their decorators name their declarations
alike. -/
theorem Model.map_name_eq_of_undecorated (h : m'.undecorated = m.undecorated) :
    m'.declarations.map Declaration.name = m.declarations.map Declaration.name := by
  have hdecls : m'.declarations.map Declaration.undecorated
      = m.declarations.map Declaration.undecorated := congrArg Model.declarations h
  have hnames := congrArg (List.map Declaration.name) hdecls
  rwa [List.map_map, List.map_map] at hnames

/-- Models that are the same without their decorators belong to one namespace. -/
theorem Model.namespaceName_eq_of_undecorated (h : m'.undecorated = m.undecorated) :
    m'.namespaceName = m.namespaceName := by
  have hname : m'.undecorated.namespaceName = m.undecorated.namespaceName :=
    congrArg Model.namespaceName h
  exact hname

/-! ## Changing lists of decorators -/

section Mapping

variable (change : Option (List Decorator) → Option (List Decorator))

/-- The property with a changed list of decorators. -/
def Property.mapDecorators (p : Property) : Property :=
  { p with decorators := change p.decorators }

/-- The declaration with its list of decorators and those of its properties changed. -/
def Declaration.mapDecorators (d : Declaration) : Declaration :=
  { d with
    properties := d.properties.map (·.map (Property.mapDecorators change))
    decorators := change d.decorators }

/-- The model with every list of decorators changed. -/
def Model.mapDecorators (m : Model) : Model :=
  { m with
    declarations := m.declarations.map (Declaration.mapDecorators change)
    decorators := change m.decorators }

theorem Declaration.ownProperties_mapDecorators (d : Declaration) :
    (d.mapDecorators change).ownProperties
      = d.ownProperties.map (Property.mapDecorators change) := by
  unfold Declaration.ownProperties Declaration.mapDecorators
  cases d.properties <;> rfl

theorem Declaration.undecorated_mapDecorators (d : Declaration) :
    (d.mapDecorators change).undecorated = d.undecorated := by
  have hprops : (d.properties.map (·.map (Property.mapDecorators change))).map
      (·.map Property.undecorated) = d.properties.map (·.map Property.undecorated) := by
    cases d.properties with
    | none => rfl
    | some ps =>
      show some (List.map _ (List.map _ ps)) = some (List.map _ ps)
      rw [List.map_map]
      rfl
  unfold Declaration.undecorated Declaration.mapDecorators
  rw [hprops]

/-- **Changing lists of decorators changes nothing else.** -/
theorem Model.undecorated_mapDecorators (m : Model) :
    (m.mapDecorators change).undecorated = m.undecorated := by
  unfold Model.undecorated Model.mapDecorators
  rw [List.map_map, show Declaration.undecorated ∘ Declaration.mapDecorators change
    = Declaration.undecorated from funext (Declaration.undecorated_mapDecorators change)]

/-- Taking decorators away twice is taking them away once. -/
theorem Model.undecorated_undecorated (m : Model) : m.undecorated.undecorated = m.undecorated :=
  Model.undecorated_mapDecorators (fun _ => none) m

end Mapping

/-- A change of nothing changes no declaration. -/
theorem Declaration.mapDecorators_id (d : Declaration) : d.mapDecorators id = d := by
  have hproperties : d.properties.map (·.map (Property.mapDecorators id)) = d.properties := by
    cases d.properties with
    | none => rfl
    | some ps => exact congrArg some (List.map_id ps)
  unfold Declaration.mapDecorators
  rw [hproperties]
  rfl

/-- **A change of nothing** changes no model. -/
theorem Model.mapDecorators_id (m : Model) : m.mapDecorators id = m := by
  unfold Model.mapDecorators
  rw [funext Declaration.mapDecorators_id, List.map_id']
  rfl

section Twice

variable (change change' : Option (List Decorator) → Option (List Decorator))

theorem Declaration.mapDecorators_mapDecorators (d : Declaration) :
    (d.mapDecorators change).mapDecorators change' = d.mapDecorators (change' ∘ change) := by
  unfold Declaration.mapDecorators
  cases d.properties with
  | none => rfl
  | some ps =>
    rw [Option.map_some, Option.map_some, Option.map_some, List.map_map]
    rfl

/-- **Two changes of the lists** are one. -/
theorem Model.mapDecorators_mapDecorators (m : Model) :
    (m.mapDecorators change).mapDecorators change' = m.mapDecorators (change' ∘ change) := by
  unfold Model.mapDecorators
  rw [List.map_map, show Declaration.mapDecorators change' ∘ Declaration.mapDecorators change
    = Declaration.mapDecorators (change' ∘ change) from
      funext (Declaration.mapDecorators_mapDecorators change change')]
  rfl

end Twice

end DecoratorSets
