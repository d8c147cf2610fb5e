import DecoratorSets.Proofs.Registry.Ancestors

/-!
# Checks that end in a verdict

The check of a payload is carried out on types that may refer to each other in circles,
and on declarations that were taken as they came. It ends in any case, as it goes down
the payload. In general it may end in any failure: a super type that is not there or a
name that is no text breaks it off in the middle, with nothing said about the payload.

In a regular registry this does not happen. Every step of the check succeeds or rejects
the payload as nonconforming (`Registry.GivesVerdict`), and so does the whole
(`Registry.Regular.givesVerdict_checkInstance`).
-/

namespace DecoratorSets

namespace Registry

variable {α β : Type}

/-! ## Verdicts -/

/-- **A check gives a verdict** if it succeeds, or rejects the payload with a cause at some
place. -/
def GivesVerdict (x : Checked α) : Prop :=
  (∃ a, x = .ok a) ∨ ∃ cause path, x = reject cause path

theorem givesVerdict_ok (a : α) : GivesVerdict (.ok a) := Or.inl ⟨a, rfl⟩

theorem givesVerdict_reject (cause : Nonconformity) (path : String) :
    GivesVerdict (reject cause path : Checked α) := Or.inr ⟨cause, path, rfl⟩

/-- **Two checks one after the other** give a verdict if each does. -/
theorem GivesVerdict.bind {x : Checked α} {f : α → Checked β} (hx : GivesVerdict x)
    (hf : ∀ a, x = .ok a → GivesVerdict (f a)) : GivesVerdict (x >>= f) := by
  rcases hx with ⟨a, rfl⟩ | ⟨cause, path, rfl⟩
  · exact hf a rfl
  · exact givesVerdict_reject cause path

/-- A changed result changes no verdict. -/
theorem GivesVerdict.map {x : Checked α} (hx : GivesVerdict x) (f : α → β) :
    GivesVerdict (f <$> x) := by
  rcases hx with ⟨a, rfl⟩ | ⟨cause, path, rfl⟩
  · exact givesVerdict_ok (f a)
  · exact givesVerdict_reject cause path

/-- A test that rejects where it fails gives a verdict. -/
theorem givesVerdict_ite {c : Prop} [Decidable c] (cause : Nonconformity) (path : String) (a : α) :
    GivesVerdict (if c then .ok a else reject cause path) := by
  split
  · exact givesVerdict_ok a
  · exact givesVerdict_reject cause path

variable {r : Registry} {p : Property} {v : Value} {ms : Members} {h owner : Handle}

/-! ## Types -/

/-- Whether a listed type fits another is known. -/
theorem Regular.exists_isAssignable (hr : r.Regular) (hh : r.Lists h) (e : Handle) :
    ∃ fits, r.isAssignable h e = .ok fits := by
  have hending := hr.ending_climb (passing h.fullName r.typeNames) hh
  have hsettle : ∃ found, (r.lineage h).settle
      ((r.lineage h).handles.find? fun a => a.fullName == e.fullName) = .ok found := by
    unfold Lineage.settle lineage
    split
    · exact ⟨_, rfl⟩
    · rename_i cause _ hfail
      exact absurd hfail (hending cause)
    · exact ⟨_, rfl⟩
  obtain ⟨found, hfound⟩ := hsettle
  exact ⟨found.isSome, Checked.bind_eq_ok.mpr ⟨found, hfound, rfl⟩⟩

theorem givesVerdict_classHandle (className path : String) :
    GivesVerdict (r.classHandle className path) := by
  unfold classHandle
  split
  · exact givesVerdict_ok _
  · exact givesVerdict_reject _ path

/-- The search for the type of an object gives a verdict. -/
theorem Regular.givesVerdict_objectType (hr : r.Regular) (ms : Members)
    (expected : Option Handle) (path : String) :
    GivesVerdict (r.objectType ms expected path) := by
  unfold objectType
  split
  · split
    · exact givesVerdict_ok _
    · exact givesVerdict_reject _ path
  · refine (givesVerdict_classHandle _ path).bind fun found hfound => ?_
    have hlists := lists_of_lookup? (classHandle_eq_ok.mp hfound)
    split
    · exact givesVerdict_ok found
    · rename_i e
      obtain ⟨fits, hfits⟩ := hr.exists_isAssignable hlists e
      rw [hfits]
      cases fits with
      | true => exact givesVerdict_ok found
      | false => exact givesVerdict_reject _ path
  · exact givesVerdict_reject _ path

/-- What a property that names its type in full refers to is found, or nothing is. -/
theorem IsQualified.exists_propertyType (hq : IsQualified p) (owner : Handle) :
    (∃ target, r.propertyType owner p = .ok target)
      ∨ ∃ name context, r.propertyType owner p = .error (.typeNotFound name context) := by
  cases hident : p.type with
  | none =>
    unfold propertyType
    rw [hident]
    exact Or.inr ⟨_, _, rfl⟩
  | some ident =>
    rw [hq.propertyType_eq hident owner]
    unfold getType
    split
    · exact Or.inl ⟨_, rfl⟩
    · exact Or.inr ⟨_, _, rfl⟩

/-! ## Objects -/

theorem givesVerdict_checkKnown (h : Handle) (table : Table Property) (path : String)
    (keys : List Value) : GivesVerdict (checkKnown h table path keys) := by
  induction keys with
  | nil => exact givesVerdict_ok ()
  | cons key rest ih =>
    rw [checkKnown]
    split
    · exact givesVerdict_reject _ _
    · exact ih

/-- **The members of an object are checked to a verdict**, if each member is that belongs
to one of the properties. -/
theorem givesVerdict_checkProperties {path : String} {table : Table Property}
    (hmembers : ∀ entry ∈ table, ∀ m ∈ ms, ∀ path,
      GivesVerdict (r.fieldCheck m.2 h entry.2 path)) :
    GivesVerdict (checkProperties h ms (r.memberChecks ms) path table) := by
  induction table with
  | nil => exact givesVerdict_ok ()
  | cons entry rest ih =>
    obtain ⟨name, p⟩ := entry
    have hrest := ih fun entry hentry => hmembers entry (List.mem_cons_of_mem _ hentry)
    have habsent : GivesVerdict (if !p.isOptional then
        reject (.missingField name) (path ++ "." ++ name.text) >>= fun _ : Unit =>
          checkProperties h ms (r.memberChecks ms) path rest
        else checkProperties h ms (r.memberChecks ms) path rest) := by
      split
      · exact givesVerdict_reject _ _
      · exact hrest
    rw [checkProperties]
    split
    · exact habsent
    · exact habsent
    · exact habsent
    · rename_i v check _ hv hcheck
      obtain ⟨key, hmem⟩ := mem_of_memberNamed hv
      rw [memberChecks_eq, memberNamed_map, hv, Option.map_some, Option.some.injEq] at hcheck
      refine GivesVerdict.bind ?_ fun _ _ => hrest
      exact hcheck ▸ hmembers (name, p) List.mem_cons_self _ hmem _

/-- **An object is checked to a verdict**, if the values of its members are. -/
theorem Regular.givesVerdict_checkObject_of (hr : r.Regular) {expected : Option Handle}
    (hexpected : ∀ e ∈ expected, r.Lists e) (path : String)
    (hmembers : ∀ m ∈ ms, ∀ owner p, IsQualified p → ∀ path,
      GivesVerdict (r.fieldCheck m.2 owner p path)) :
    GivesVerdict (r.checkObject ms (r.memberChecks ms) expected path) := by
  unfold checkObject
  refine (hr.givesVerdict_objectType ms expected path).bind fun h hh => ?_
  have hlists := (objectType_eq_ok.mp hh).lists hexpected
  obtain ⟨table, htable, _, hmem⟩ := hr.exists_propertyTable hlists
  have hrest : GivesVerdict (r.propertyTable h >>= fun table =>
      checkKnown h table path ms.keys >>= fun _ =>
        checkProperties h ms (r.memberChecks ms) path table) := by
    rw [htable, Checked.ok_bind]
    refine (givesVerdict_checkKnown h table path ms.keys).bind fun _ _ => ?_
    refine givesVerdict_checkProperties fun entry hentry m hm path => ?_
    obtain ⟨name, _, hp⟩ := (hmem entry).mp hentry
    exact hmembers m hm h entry.2 (hr.isQualified_of_defines hlists hp) path
  split
  · exact givesVerdict_reject _ path
  · exact hrest

/-! ## Values -/

/-- The members of a listed enumeration can be shown. -/
theorem Regular.exists_listTexts (hr : r.Regular) (hh : r.Lists h) :
    ∃ texts, listTexts (h.declaration.ownProperties.map Property.name) = .ok texts := by
  refine ⟨h.declaration.ownProperties.map fun p => p.name.text,
    Checked.mapM_map_eq_ok fun p hp => ?_⟩
  obtain ⟨s, hs⟩ := hr.names h hh p hp
  rw [hs]
  rfl

/-- **A value is checked against a declaration to a verdict**, if the values of its members
are. -/
theorem Regular.givesVerdict_checkAgainst_of (hr : r.Regular) {target : Handle}
    (htarget : r.Lists target) (path : String)
    (hmembers : ∀ m ∈ membersOf v, ∀ owner p, IsQualified p → ∀ path,
      GivesVerdict (r.fieldCheck m.2 owner p path)) :
    GivesVerdict (r.checkAgainst v (r.memberChecks (membersOf v)) target path) := by
  unfold checkAgainst
  split
  · obtain ⟨texts, htexts⟩ := hr.exists_listTexts htarget
    simp only [htexts, Checked.ok_bind]
    split
    · exact givesVerdict_reject _ path
    · exact givesVerdict_ok ()
  · exact givesVerdict_ite _ path ()
  · cases v with
    | object label ms =>
      exact hr.givesVerdict_checkObject_of htarget.of_mem_some path hmembers
    | _ => exact givesVerdict_reject _ path

/-- **A single value is checked to a verdict**, if the values of its members are. -/
theorem Regular.givesVerdict_singleCheck_of (hr : r.Regular) (hq : IsQualified p)
    (path : String) (hmembers : ∀ m ∈ membersOf v, ∀ owner p, IsQualified p → ∀ path,
      GivesVerdict (r.fieldCheck m.2 owner p path)) :
    GivesVerdict (r.singleCheck v owner p path) := by
  rw [singleCheck_eq]
  unfold checkSingle
  split
  · exact givesVerdict_ite _ path ()
  · split
    · split
      · exact givesVerdict_ok ()
      · exact givesVerdict_reject _ path
    · rcases hq.exists_propertyType owner with ⟨target, htarget⟩ | ⟨name, context, hmissing⟩
      · rw [htarget]
        exact hr.givesVerdict_checkAgainst_of (lists_of_propertyType htarget) path hmembers
      · rw [hmissing]
        exact givesVerdict_reject _ path

/-- Items are checked to a verdict one by one. -/
theorem givesVerdict_checkEach {path : String} {i : Nat} {items : List Value}
    (hitems : ∀ v ∈ items, ∀ path, GivesVerdict (r.singleCheck v owner p path)) :
    GivesVerdict (checkEach owner p path i (items.map r.singleCheck)) := by
  induction items generalizing i with
  | nil => exact givesVerdict_ok ()
  | cons v rest ih =>
    rw [List.map_cons, checkEach]
    exact (hitems v List.mem_cons_self _).bind fun _ _ =>
      ih fun w hw => hitems w (List.mem_cons_of_mem v hw)

/-- The value of a property is checked to a verdict, if it and its items are as single
values. -/
theorem givesVerdict_fieldCheck_of {path : String}
    (hsingle : GivesVerdict (r.singleCheck v owner p path))
    (hitems : ∀ label items, v = .list label items → ∀ w ∈ items, ∀ path,
      GivesVerdict (r.singleCheck w owner p path)) :
    GivesVerdict (r.fieldCheck v owner p path) := by
  by_cases hlist : ∃ label items, v = .list label items
  · obtain ⟨label, items, rfl⟩ := hlist
    rw [fieldCheck_list]
    split
    · exact givesVerdict_checkEach (hitems label items rfl)
    · exact hsingle
  · rw [fieldCheck_of_not_list fun label items heq => hlist ⟨label, items, heq⟩]
    split
    · exact givesVerdict_reject _ path
    · exact hsingle

/-! ## The walk over a payload -/

/-- **Every value is checked to a verdict** in a regular registry, as a single value and as
the value of a property. -/
theorem Regular.givesVerdict_singleCheck (hr : r.Regular) (v : Value) (owner : Handle)
    (p : Property) (hq : IsQualified p) (path : String) :
    GivesVerdict (r.singleCheck v owner p path) := by
  induction v using walk_induction generalizing owner p path with
  | step v ih =>
    refine hr.givesVerdict_singleCheck_of hq path fun m hm owner p hq path => ?_
    exact givesVerdict_fieldCheck_of ((ih m hm).1 owner p hq path)
      fun label items heq w hw => (ih m hm).2 label items heq w hw owner p hq

theorem Regular.givesVerdict_fieldCheck (hr : r.Regular) (v : Value) (owner : Handle)
    (p : Property) (hq : IsQualified p) (path : String) :
    GivesVerdict (r.fieldCheck v owner p path) :=
  givesVerdict_fieldCheck_of (hr.givesVerdict_singleCheck v owner p hq path)
    fun _ _ _ w _ => hr.givesVerdict_singleCheck w owner p hq

/-- **An object is checked to a verdict** in a regular registry. -/
theorem Regular.givesVerdict_checkObject (hr : r.Regular) (ms : Members)
    {expected : Option Handle} (hexpected : ∀ e ∈ expected, r.Lists e) (path : String) :
    GivesVerdict (r.checkObject ms (r.memberChecks ms) expected path) :=
  hr.givesVerdict_checkObject_of hexpected path
    fun m _ owner p hq => hr.givesVerdict_fieldCheck m.2 owner p hq

/-- **The check of a payload always ends in a verdict** in a regular registry. -/
theorem Regular.givesVerdict_checkInstance (hr : r.Regular) (payload : Value)
    (defaultClass : Option String) : GivesVerdict (r.checkInstance payload defaultClass) := by
  unfold checkInstance
  cases defaultClass with
  | none =>
    cases payload with
    | object label ms =>
      exact hr.givesVerdict_checkObject ms lists_of_mem_none "$"
    | _ => exact givesVerdict_reject _ "$"
  | some className =>
    refine ((givesVerdict_classHandle className "$").map some).bind fun expected hfound => ?_
    obtain ⟨t, ht, rfl⟩ := Checked.map_eq_ok.mp hfound
    have hlists := lists_of_lookup? (classHandle_eq_ok.mp ht)
    cases payload with
    | object label ms =>
      exact hr.givesVerdict_checkObject ms hlists.of_mem_some "$"
    | _ => exact givesVerdict_reject _ "$"

end Registry

end DecoratorSets
