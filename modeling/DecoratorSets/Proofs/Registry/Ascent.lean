import Mathlib.Data.List.Chain
import Mathlib.Data.List.Perm.Subperm
import DecoratorSets.Proofs.Registry.Search

/-!
# Walking up

From a declaration the way goes up to the one that it extends, from there to the one that this
one extends, and so on. Declarations come from documents, so nothing keeps the way from
leading nowhere or round in a circle. A walk therefore remembers what it has passed, and it
stops where nothing is extended, where it would come back to what it has passed, and where
the next declaration cannot be looked up (`Registry.IsAscent`).

Every walk ends. What it passes are declarations that can be found, each of them under a full
name of its own, and there are no more of these than declarations in the files that are loaded
(`Registry.ascent_of_getType`). Where it goes is settled from the start: super types leave no
choice, so of two walks from one declaration one is the beginning of the other, and neither
can stop before the other does (`Registry.IsAscent.unique`).

A walk from a declaration higher up lies within the walk from below, whatever circles they
meet and whatever the two end in. So a type that fits a second one fits all that the second
one fits, and has the properties that the second one has (`Registry.assignable_of_getType`).
-/

namespace DecoratorSets

/-- **Of two chains with the same head one is the beginning of the other**, if each step
leaves no choice. -/
theorem prefix_or_prefix_of_isChain {α : Type} {next : α → α → Prop}
    (hnext : ∀ a b c, next a b → next a c → b = c) {xs ys : List α}
    (hhead : xs.head? = ys.head?) (hxs : xs.IsChain next) (hys : ys.IsChain next) :
    xs <+: ys ∨ ys <+: xs := by
  induction xs generalizing ys with
  | nil => exact Or.inl List.nil_prefix
  | cons x xs ih =>
    cases ys with
    | nil => cases hhead
    | cons y ys =>
      obtain rfl : x = y := Option.some.inj hhead
      obtain ⟨hx, hxs⟩ := List.isChain_cons.mp hxs
      obtain ⟨hy, hys⟩ := List.isChain_cons.mp hys
      cases xs with
      | nil => exact Or.inl ((List.prefix_cons_inj x).mpr List.nil_prefix)
      | cons x' xs =>
        cases ys with
        | nil => exact Or.inr ((List.prefix_cons_inj x).mpr List.nil_prefix)
        | cons y' ys =>
          obtain rfl : x' = y' := hnext x x' y' (hx x' rfl) (hy y' rfl)
          have hhead' : (x' :: xs).head? = (x' :: ys).head? := rfl
          exact (ih hhead' hxs hys).imp (List.prefix_cons_inj x).mpr (List.prefix_cons_inj x).mpr

namespace Registry

variable {r : Registry}

/-! ## The walk -/

/-- **Where a walk stops, and what it ends in**: at a declaration that extends nothing, at one
that extends a declaration that was passed, or at one whose super type cannot be looked up. -/
inductive StopsAt (r : Registry) (passed : List Handle) (last : Handle) : Ending → Prop where
  | complete (htop : r.superType last = .ok none) : StopsAt r passed last .complete
  | cycle {up : Handle} (hup : r.superType last = .ok (some up)) (hpassed : up ∈ passed) :
    StopsAt r passed last .cycle
  | failed {cause : Failure} (hfail : r.superType last = .error cause) :
    StopsAt r passed last (.failed cause)

/-- **A walk up from a declaration**: from each declaration to the one that it extends, never
under a full name twice, up to where it stops. -/
structure IsAscent (r : Registry) (h : Handle) (l : Lineage) : Prop where
  head : l.handles.head? = some h
  steps : l.handles.IsChain fun a up => r.superType a = .ok (some up)
  distinct : (l.handles.map Handle.fullName).Nodup
  stop : ∃ last, l.handles.getLast? = some last ∧ r.StopsAt l.handles last l.ending

/-- A walk ends in what stops it. -/
theorem StopsAt.unique {passed : List Handle} {last : Handle} {e e' : Ending}
    (h : r.StopsAt passed last e) (h' : r.StopsAt passed last e') : e = e' := by
  cases h with
  | complete htop =>
    cases h' with
    | complete _ => rfl
    | cycle hup _ => cases htop.symm.trans hup
    | failed hfail => cases htop.symm.trans hfail
  | cycle hup _ =>
    cases h' with
    | complete htop => cases hup.symm.trans htop
    | cycle _ _ => rfl
    | failed hfail => cases hup.symm.trans hfail
  | failed hfail =>
    cases h' with
    | complete htop => cases hfail.symm.trans htop
    | cycle hup _ => cases hfail.symm.trans hup
    | failed hfail' =>
      cases hfail.symm.trans hfail'
      rfl

/-- A walk does not stop while there is a declaration to go on to that it has not passed. -/
theorem StopsAt.mem_of_superType {passed : List Handle} {last up : Handle} {e : Ending}
    (h : r.StopsAt passed last e) (hup : r.superType last = .ok (some up)) : up ∈ passed := by
  cases h with
  | complete htop => cases htop.symm.trans hup
  | cycle hup' hpassed =>
    obtain rfl := Option.some.inj (Except.ok.inj (hup'.symm.trans hup))
    exact hpassed
  | failed hfail => cases hfail.symm.trans hup

/-- A walk that is the beginning of another goes as far as that one. -/
theorem IsAscent.handles_eq_of_isPrefixOf {h h' : Handle} {l l' : Lineage} (hl : r.IsAscent h l)
    (hl' : r.IsAscent h' l') (hfront : l.handles <+: l'.handles) : l.handles = l'.handles := by
  obtain ⟨rest, hrest⟩ := hfront
  cases rest with
  | nil => rw [← hrest, List.append_nil]
  | cons up rest =>
    -- what the longer walk goes on to would have been passed before, and so be passed twice
    obtain ⟨last, hlast, hstop⟩ := hl.stop
    have hsteps := hl'.steps
    rw [← hrest, List.isChain_append] at hsteps
    have hpassed : up ∈ l.handles := hstop.mem_of_superType (hsteps.2.2 last hlast up rfl)
    have hdistinct := hl'.distinct
    rw [← hrest, List.map_append, List.nodup_append] at hdistinct
    exact absurd rfl (hdistinct.2.2 _ (List.mem_map_of_mem hpassed) _ List.mem_cons_self)

/-- **There is one walk up** from each declaration. -/
theorem IsAscent.unique {h : Handle} {l l' : Lineage} (hl : r.IsAscent h l)
    (hl' : r.IsAscent h l') : l = l' := by
  have hhandles : l.handles = l'.handles := by
    refine (prefix_or_prefix_of_isChain ?_ (hl.head.trans hl'.head.symm) hl.steps
      hl'.steps).elim (hl.handles_eq_of_isPrefixOf hl') fun hfront =>
        (hl'.handles_eq_of_isPrefixOf hl hfront).symm
    intro a b c hb hc
    exact Option.some.inj (Except.ok.inj (hb.symm.trans hc))
  obtain ⟨handles, ending⟩ := l
  obtain ⟨handles', ending'⟩ := l'
  obtain rfl : handles = handles' := hhandles
  obtain ⟨last, hlast, hstop⟩ := hl.stop
  obtain ⟨last', hlast', hstop'⟩ := hl'.stop
  obtain rfl := Option.some.inj (hlast.symm.trans hlast')
  obtain rfl := hstop.unique hstop'
  rfl

/-! ## Climbing is walking up -/

/-- Climbing goes from each declaration to the one that it extends. -/
theorem isChain_climb (unseen : List String) (h : Handle) :
    (r.climb unseen h).handles.IsChain fun a up => r.superType a = .ok (some up) := by
  induction unseen, h using climb.induct (r := r) with
  | case1 unseen h cause hfail =>
    rw [climb, hfail]
    exact List.isChain_singleton h
  | case2 unseen h htop =>
    rw [climb, htop]
    exact List.isChain_singleton h
  | case3 unseen h up hup hunseen ih =>
    rw [climb_of_superType hup, if_pos hunseen]
    obtain ⟨rest, hrest⟩ := r.handles_climb (passing up.fullName unseen) up
    refine List.isChain_cons.mpr ⟨fun next hnext => ?_, ih⟩
    rw [hrest] at hnext
    exact Option.some.inj hnext ▸ hup
  | case4 unseen h up hup hseen =>
    rw [climb_of_superType hup, if_neg hseen]
    exact List.isChain_singleton h

/-- **Climbing passes no name twice**: behind the first declaration come different names out
of those that were not passed yet. -/
theorem distinct_climb (unseen : List String) (h : Handle) :
    ∃ rest, (r.climb unseen h).handles = h :: rest ∧ (rest.map Handle.fullName).Nodup
      ∧ rest.map Handle.fullName ⊆ unseen := by
  induction unseen, h using climb.induct (r := r) with
  | case1 unseen h cause hfail =>
    rw [climb, hfail]
    exact ⟨[], rfl, List.nodup_nil, List.nil_subset unseen⟩
  | case2 unseen h htop =>
    rw [climb, htop]
    exact ⟨[], rfl, List.nodup_nil, List.nil_subset unseen⟩
  | case3 unseen h up hup hunseen ih =>
    rw [climb_of_superType hup, if_pos hunseen]
    obtain ⟨rest, hrest, hnodup, hsubset⟩ := ih
    refine ⟨up :: rest, congrArg (List.cons h) hrest, ?_, ?_⟩
    · rw [List.map_cons, List.nodup_cons]
      exact ⟨fun hagain => not_mem_passing_self up.fullName unseen (hsubset hagain), hnodup⟩
    · rw [List.map_cons, List.cons_subset]
      exact ⟨hunseen, fun name hname => List.mem_of_mem_filter (hsubset hname)⟩
  | case4 unseen h up hup hseen =>
    rw [climb_of_superType hup, if_neg hseen]
    exact ⟨[], rfl, List.nodup_nil, List.nil_subset unseen⟩

/-- Climbing stops at its last declaration, as far as what that one extends was passed. -/
theorem stopsAt_climb (unseen : List String) (h : Handle) :
    ∃ last, (r.climb unseen h).handles.getLast? = some last
      ∧ ∀ passed, (∀ up, r.superType last = .ok (some up) → up ∈ passed) →
        r.StopsAt passed last (r.climb unseen h).ending := by
  induction unseen, h using climb.induct (r := r) with
  | case1 unseen h cause hfail =>
    rw [climb, hfail]
    exact ⟨h, rfl, fun _ _ => .failed hfail⟩
  | case2 unseen h htop =>
    rw [climb, htop]
    exact ⟨h, rfl, fun _ _ => .complete htop⟩
  | case3 unseen h up hup hunseen ih =>
    rw [climb_of_superType hup, if_pos hunseen]
    obtain ⟨last, hlast, hstop⟩ := ih
    refine ⟨last, ?_, hstop⟩
    unfold Lineage.below
    rw [List.getLast?_cons, hlast, Option.getD_some]
  | case4 unseen h up hup hseen =>
    rw [climb_of_superType hup, if_neg hseen]
    exact ⟨h, rfl, fun _ hpassed => .cycle hup (hpassed up hup)⟩

/-- **The lineage of a declaration is the walk up from it.** -/
theorem Lists.isAscent_lineage {h : Handle} (hh : r.Lists h) : r.IsAscent h (r.lineage h) := by
  obtain ⟨rest, hhandles, hnodup, hsubset⟩ :=
    r.distinct_climb (passing h.fullName r.typeNames) h
  obtain ⟨last, hlast, hstop⟩ := r.stopsAt_climb (passing h.fullName r.typeNames) h
  refine ⟨?_, isChain_climb _ h, ?_, last, hlast, hstop _ fun up hup => ?_⟩
  · unfold lineage
    rw [hhandles, List.head?_cons]
  · unfold lineage
    rw [hhandles, List.map_cons, List.nodup_cons]
    exact ⟨fun hself => not_mem_passing_self h.fullName r.typeNames (hsubset hself), hnodup⟩
  · exact hh.mem_lineage_of_superType (List.mem_of_getLast? hlast) hup

/-- **A walk passes no more declarations than there are.** -/
theorem Lists.length_lineage_le {h : Handle} (hh : r.Lists h) :
    (r.lineage h).handles.length ≤ (r.files.flatMap ModelFile.declarations).length := by
  have hnames : (r.lineage h).handles.map Handle.fullName ⊆ r.typeNames := by
    intro name hname
    obtain ⟨a, ha, rfl⟩ := List.mem_map.mp hname
    exact ((hh.mem_lineage_iff.mp ha).lists hh).mem_typeNames
  have hlength : r.typeNames.length = (r.files.flatMap ModelFile.declarations).length := by
    unfold typeNames
    simp only [List.length_flatMap, List.length_map]
  rw [← hlength, ← List.length_map (f := Handle.fullName)]
  exact (hh.isAscent_lineage.distinct.subperm hnames).length_le

/-- **Walking up always ends.** From a type that is found there is exactly one walk, and it is
the lineage of the type: it passes declarations of loaded files, each under a full name of its
own, and so no more than are loaded, and then it stops. -/
theorem ascent_of_getType {name : String} {h : Handle} (hfound : r.getType name = .ok h) :
    r.IsAscent h (r.lineage h) ∧ (∀ l, r.IsAscent h l → l = r.lineage h)
      ∧ (∀ a ∈ (r.lineage h).handles, a.file ∈ r.files ∧ a.declaration ∈ a.file.declarations)
      ∧ (r.lineage h).handles.length ≤ (r.files.flatMap ModelFile.declarations).length := by
  have hh : r.Lists h := lists_of_lookup? (getType_eq_ok.mp hfound)
  refine ⟨hh.isAscent_lineage, fun l hl => hl.unique hh.isAscent_lineage, fun a ha => ?_,
    hh.length_lineage_le⟩
  have hlists := (hh.mem_lineage_iff.mp ha).lists hh
  exact ⟨hlists.file, hlists.mem_declarations⟩

end Registry

/-! ### Papers in a circle -/

namespace Papers

/-- A concept, which may extend another type. -/
def concept (name : String) (superType : Option TypeIdentifier) (ps : List Property) :
    Declaration := ⟨.str name, .concept, some ps, false, superType, none, []⟩

/-- The type of a short name that is declared in the same file. -/
def here (name : String) : TypeIdentifier := ⟨.str name, .null⟩

/-- The number that documents have. -/
def number : Property := ⟨.str "number", .integer, false, false, none, none, []⟩

/-- A file in which drafts and revisions extend each other, and drafts are declared twice.
Receipts are invoices, and invoices are documents, which extend a type of a file that is not
loaded. -/
def paperFile : ModelFile where
  namespaceText := "org.acme@1.0.0"
  info := ⟨"org.acme", some "1.0.0"⟩
  declarations := [concept "Draft" (here "Revision") [], concept "Revision" (here "Draft") [],
    concept "Draft" none [number], concept "Receipt" (here "Invoice") [],
    concept "Invoice" (here "Document") [],
    concept "Document" (some ⟨.str "Record", .str "org.base@1.0.0"⟩) [number]]
  decorators := none
  extras := []
  parse_eq := Namespace.parse_acme

/-- The registry of the file. -/
def registry : Registry where
  strict := false
  files := [paperFile]
  distinct := by
    show ["org.acme@1.0.0"].Nodup
    decide

/-- The type of a declaration of the file. -/
def paper (i : Fin 6) : Handle := ⟨paperFile, paperFile.declarations[i]⟩

/-- The walk from a draft passes the revision and stops where it would come back. -/
theorem ascent_of_getType_draft :
    registry.getType "org.acme@1.0.0.Draft" = .ok (paper 0)
      ∧ registry.IsAscent (paper 0) ⟨[paper 0, paper 1], .cycle⟩
      ∧ [paper 0, paper 1].length ≤ 6 := by
  have hdraft : registry.getType "org.acme@1.0.0.Draft" = .ok (paper 0) := by
    decide +kernel
  have hlineage : registry.lineage (paper 0) = ⟨[paper 0, paper 1], .cycle⟩ := by
    decide +kernel
  obtain ⟨hascent, -, -, hlength⟩ := Registry.ascent_of_getType hdraft
  rw [hlineage] at hascent hlength
  exact ⟨hdraft, hascent, hlength⟩

end Papers

namespace Registry

variable {r : Registry}

/-! ## Walks from below and from above -/

/-- What extends a declaration extends what that one extends. -/
theorem Extends.trans {a b c : Handle} (hab : r.Extends a b) (hbc : r.Extends b c) :
    r.Extends a c := by
  induction hab with
  | refl a => exact hbc
  | step hup _ ih => exact .step hup (ih hbc)

/-- **The walk from above lies within the walk from below.** -/
theorem Lists.lineage_subset {a b : Handle} (ha : r.Lists a) (hb : r.Lists b)
    (hext : r.Extends a b) : (r.lineage b).handles ⊆ (r.lineage a).handles := by
  intro x hx
  exact ha.mem_lineage_iff.mpr (hext.trans (hb.mem_lineage_iff.mp hx))

/-- A property is found exactly if a declaration of the walk has it, whatever the walk ends
in. -/
theorem exists_property?_iff {h : Handle} {name : Value} :
    (∃ p, r.property? h name = .ok (some p))
      ↔ ∃ a ∈ (r.lineage h).handles, (a.declaration.property? name).isSome := by
  unfold property?
  simp only [settle_eq_ok_some]
  rw [← Option.isSome_iff_exists, List.findSome?_isSome_iff]

/-- **Fitting is a preorder under which properties are kept.** A type fits itself, and it fits
what the types that it fits fit. A property that is found for a type is found for all that
fit it, also where a declaration further up cannot be looked up. -/
theorem assignable_of_getType {s t u : String} {a b c : Handle} (ha : r.getType s = .ok a)
    (hb : r.getType t = .ok b) (hc : r.getType u = .ok c) :
    r.isAssignable a a = .ok true
      ∧ (r.isAssignable a b = .ok true → r.isAssignable b c = .ok true →
        r.isAssignable a c = .ok true)
      ∧ (r.isAssignable a b = .ok true → ∀ name, (∃ p, r.property? b name = .ok (some p)) →
        ∃ p, r.property? a name = .ok (some p)) := by
  have ha : r.Lists a := lists_of_lookup? (getType_eq_ok.mp ha)
  have hb : r.Lists b := lists_of_lookup? (getType_eq_ok.mp hb)
  have hc : r.Lists c := lists_of_lookup? (getType_eq_ok.mp hc)
  refine ⟨isAssignable_self a, fun hab hbc => ?_, fun hab name hfound => ?_⟩
  · rw [ha.isAssignable_iff hb] at hab
    rw [hb.isAssignable_iff hc] at hbc
    exact (ha.isAssignable_iff hc).mpr (hab.trans hbc)
  · obtain ⟨x, hx, hsome⟩ := exists_property?_iff.mp hfound
    have hext := (ha.isAssignable_iff hb).mp hab
    exact exists_property?_iff.mpr ⟨x, ha.lineage_subset hb hext hx, hsome⟩

end Registry

namespace Papers

/-- A receipt has the number of documents, although documents lead nowhere. -/
theorem assignable_of_getType_receipt :
    registry.getType "org.acme@1.0.0.Receipt" = .ok (paper 3)
      ∧ (∃ cause, (registry.lineage (paper 3)).ending = .failed cause)
      ∧ registry.isAssignable (paper 3) (paper 5) = .ok true
      ∧ ∃ p, registry.property? (paper 3) (.str "number") = .ok (some p) := by
  have htypes : registry.getType "org.acme@1.0.0.Receipt" = .ok (paper 3)
      ∧ registry.getType "org.acme@1.0.0.Invoice" = .ok (paper 4)
      ∧ registry.getType "org.acme@1.0.0.Document" = .ok (paper 5) := by
    decide +kernel
  have hfits : registry.isAssignable (paper 3) (paper 4) = .ok true
      ∧ registry.isAssignable (paper 4) (paper 5) = .ok true
      ∧ registry.property? (paper 4) (.str "number") = .ok (some number) := by
    decide +kernel
  have hending : (registry.lineage (paper 3)).ending
      = .failed (.typeNotFound (.str "org.base@1.0.0.Record") "") := by
    decide +kernel
  obtain ⟨hreceipt, hinvoice, hdocument⟩ := htypes
  obtain ⟨hlow, hhigh, hnumber⟩ := hfits
  obtain ⟨-, htrans, hkept⟩ := Registry.assignable_of_getType hreceipt hinvoice hdocument
  exact ⟨hreceipt, ⟨_, hending⟩, htrans hlow hhigh, hkept hlow _ ⟨number, hnumber⟩⟩

end Papers

end DecoratorSets
