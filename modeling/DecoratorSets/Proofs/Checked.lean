import Mathlib.Data.List.Forall2
import DecoratorSets.Value.Access

/-!
# Computations that succeed

Everything that reads a document or carries out a command is a `Checked`
computation, and most statements about one are about its success. A sequence of
computations succeeds exactly when each of them does on what the one before it
gave (`bind_eq_ok`), and a walk over a list succeeds exactly when it does item by
item (`mapM_eq_ok`). Two walks one after the other are therefore a single walk
that does both at each item (`mapM_comp_eq_ok`), as far as their success goes: of
two failures, the order of the walks decides which one is met first.
-/

namespace DecoratorSets

namespace Checked

variable {α β γ : Type}

/-- A sequence of two computations succeeds exactly when both do. -/
theorem bind_eq_ok {x : Checked α} {f : α → Checked β} {b : β} :
    x >>= f = .ok b ↔ ∃ a, x = .ok a ∧ f a = .ok b := by
  cases x with
  | error e => simp [bind, Except.bind]
  | ok a => simp [bind, Except.bind]

/-- A changed result is the change of a result. -/
theorem map_eq_ok {x : Checked α} {f : α → β} {b : β} :
    f <$> x = .ok b ↔ ∃ a, x = .ok a ∧ f a = b := by
  cases x with
  | error e => simp [Functor.map, Except.map]
  | ok a => simp [Functor.map, Except.map]

theorem pure_eq_ok {a b : α} : (pure a : Checked α) = .ok b ↔ a = b :=
  Iff.of_eq (Except.ok.injEq a b)

/-- Going on from a result. -/
@[simp] theorem ok_bind (a : α) (f : α → Checked β) : (Except.ok a : Checked α) >>= f = f a := rfl

@[simp] theorem error_bind (e : Failure) (f : α → Checked β) :
    (Except.error e : Checked α) >>= f = .error e := rfl

@[simp] theorem map_ok (f : α → β) (a : α) : f <$> (Except.ok a : Checked α) = .ok (f a) := rfl

@[simp] theorem pure_ok (a : α) : (pure a : Checked α) = .ok a := rfl

/-- Two questions are answered with yes exactly when each of them is. -/
theorem and_eq_ok_true {x y : Checked Bool} :
    (do if ← x then y else return false) = .ok true ↔ x = .ok true ∧ y = .ok true := by
  cases x with
  | error e => simp
  | ok first => cases first <;> simp

/-! ## Walks over lists -/

/-- **A walk succeeds item by item.** -/
theorem mapM_eq_ok {f : α → Checked β} {xs : List α} {ys : List β} :
    xs.mapM f = .ok ys ↔ List.Forall₂ (fun x y => f x = .ok y) xs ys := by
  induction xs generalizing ys with
  | nil =>
    rw [List.mapM_nil, pure_eq_ok, List.forall₂_nil_left_iff]
    exact eq_comm
  | cons x xs ih =>
    rw [List.mapM_cons, bind_eq_ok, List.forall₂_cons_left_iff]
    constructor
    · rintro ⟨y, hy, h⟩
      obtain ⟨rest, hrest, h⟩ := bind_eq_ok.mp h
      exact ⟨y, rest, hy, ih.mp hrest, (pure_eq_ok.mp h).symm⟩
    · rintro ⟨y, rest, hy, hrest, rfl⟩
      exact ⟨y, hy, bind_eq_ok.mpr ⟨rest, ih.mpr hrest, rfl⟩⟩

/-- Walks with the same steps come to the same, be it a failure. -/
theorem mapM_congr {f g : α → Checked β} {xs : List α} (h : ∀ x ∈ xs, f x = g x) :
    xs.mapM f = xs.mapM g := by
  induction xs with
  | nil => rfl
  | cons x xs ih =>
    obtain ⟨hx, hxs⟩ := List.forall_mem_cons.mp h
    rw [List.mapM_cons, List.mapM_cons, hx, ih hxs]

/-- A walk whose steps all succeed is a walk without failures. -/
theorem mapM_eq_ok_map {f : α → Checked β} {g : α → β} {xs : List α}
    (h : ∀ x ∈ xs, f x = .ok (g x)) : xs.mapM f = .ok (xs.map g) := by
  rw [mapM_eq_ok, List.forall₂_map_right_iff, List.forall₂_same]
  exact h

/-- A walk over changed items whose steps all succeed. -/
theorem mapM_map_eq_ok {f : β → Checked γ} {change : α → β} {g : α → γ} {xs : List α}
    (h : ∀ x ∈ xs, f (change x) = .ok (g x)) : (xs.map change).mapM f = .ok (xs.map g) := by
  rw [mapM_eq_ok, List.forall₂_map_left_iff, List.forall₂_map_right_iff, List.forall₂_same]
  exact h

/-- A walk whose steps succeed on a condition succeeds if all items meet it. -/
theorem mapM_eq_ok_iff {f : α → Checked β} {p : α → Prop} {g : α → β}
    (h : ∀ x y, f x = .ok y ↔ p x ∧ g x = y) {xs : List α} {ys : List β} :
    xs.mapM f = .ok ys ↔ (∀ x ∈ xs, p x) ∧ xs.map g = ys := by
  induction xs generalizing ys with
  | nil =>
    rw [List.mapM_nil, pure_eq_ok]
    exact (and_iff_right (fun x hx => absurd hx List.not_mem_nil)).symm
  | cons x xs ih =>
    rw [mapM_eq_ok, List.forall₂_cons_left_iff, List.forall_mem_cons, List.map_cons]
    constructor
    · rintro ⟨y, rest, hy, hrest, rfl⟩
      obtain ⟨hx, rfl⟩ := (h x y).mp hy
      obtain ⟨hxs, rfl⟩ := ih.mp (mapM_eq_ok.mpr hrest)
      exact ⟨⟨hx, hxs⟩, rfl⟩
    · rintro ⟨⟨hx, hxs⟩, rfl⟩
      exact ⟨g x, xs.map g, (h x _).mpr ⟨hx, rfl⟩, mapM_eq_ok.mp (ih.mpr ⟨hxs, rfl⟩), rfl⟩

/-- The items of a walk that succeeds succeed. -/
theorem exists_of_mapM_eq_ok {f : α → Checked β} {xs : List α} {ys : List β}
    (h : xs.mapM f = .ok ys) {y : β} (hy : y ∈ ys) : ∃ x ∈ xs, f x = .ok y := by
  rw [mapM_eq_ok] at h
  induction h with
  | nil => exact absurd hy (List.not_mem_nil)
  | cons hx _ ih =>
    rcases List.mem_cons.mp hy with rfl | hy
    · exact ⟨_, List.mem_cons_self, hx⟩
    · obtain ⟨x, hmem, hfx⟩ := ih hy
      exact ⟨x, List.mem_cons_of_mem _ hmem, hfx⟩

/-- What the steps of a walk keep, the walk keeps. -/
theorem map_eq_map_of_mapM {f : α → Checked β} {seen : α → γ} {seen' : β → γ} {xs : List α}
    {ys : List β} (hf : ∀ x ∈ xs, ∀ y, f x = .ok y → seen' y = seen x)
    (h : xs.mapM f = .ok ys) : ys.map seen' = xs.map seen := by
  induction xs generalizing ys with
  | nil =>
    obtain rfl := pure_eq_ok.mp h
    rfl
  | cons x xs ih =>
    obtain ⟨y, rest, hy, hrest, rfl⟩ := List.forall₂_cons_left_iff.mp (mapM_eq_ok.mp h)
    rw [List.map_cons, List.map_cons, hf x List.mem_cons_self y hy,
      ih (fun x' hx' => hf x' (List.mem_cons_of_mem x hx')) (mapM_eq_ok.mpr hrest)]

/-- **Two walks are one walk**, as far as their success goes. -/
theorem mapM_comp_eq_ok {f : α → Checked β} {g : β → Checked γ} {xs : List α} {zs : List γ} :
    (∃ ys, xs.mapM f = .ok ys ∧ ys.mapM g = .ok zs)
      ↔ xs.mapM (fun x => f x >>= g) = .ok zs := by
  -- each item goes through both walks before the next one does
  induction xs generalizing zs with
  | nil => simp
  | cons x xs ih =>
    constructor
    · rintro ⟨ys, hf, hg⟩
      obtain ⟨y, ys', hy, hys', rfl⟩ := List.forall₂_cons_left_iff.mp (mapM_eq_ok.mp hf)
      obtain ⟨z, zs', hz, hzs', rfl⟩ := List.forall₂_cons_left_iff.mp (mapM_eq_ok.mp hg)
      refine mapM_eq_ok.mpr (.cons (bind_eq_ok.mpr ⟨y, hy, hz⟩) (mapM_eq_ok.mp ?_))
      exact ih.mp ⟨ys', mapM_eq_ok.mpr hys', mapM_eq_ok.mpr hzs'⟩
    · intro h
      obtain ⟨z, zs', hz, hzs', rfl⟩ := List.forall₂_cons_left_iff.mp (mapM_eq_ok.mp h)
      obtain ⟨y, hy, hz⟩ := bind_eq_ok.mp hz
      obtain ⟨ys', hf, hg⟩ := ih.mpr (mapM_eq_ok.mpr hzs')
      exact ⟨y :: ys', mapM_eq_ok.mpr (.cons hy (mapM_eq_ok.mp hf)),
        mapM_eq_ok.mpr (.cons hz (mapM_eq_ok.mp hg))⟩

/-- A walk succeeds if another does whose steps succeed less often. -/
theorem mapM_eq_ok_mono {f g : α → Checked β} {xs : List α} {ys : List β}
    (hfg : ∀ x ∈ xs, ∀ y, f x = .ok y → g x = .ok y) (h : xs.mapM f = .ok ys) :
    xs.mapM g = .ok ys := by
  induction xs generalizing ys with
  | nil => exact h
  | cons x xs ih =>
    obtain ⟨y, rest, hy, hrest, rfl⟩ := List.forall₂_cons_left_iff.mp (mapM_eq_ok.mp h)
    have hxs := ih (fun x' hx' => hfg x' (List.mem_cons_of_mem x hx')) (mapM_eq_ok.mpr hrest)
    exact mapM_eq_ok.mpr (.cons (hfg x List.mem_cons_self y hy) (mapM_eq_ok.mp hxs))

/-- **A walk over what it gave changes nothing** if its steps do not. -/
theorem mapM_again {f : α → Checked α} {xs ys : List α}
    (hf : ∀ x ∈ xs, ∀ y, f x = .ok y → f y = .ok y) (h : xs.mapM f = .ok ys) :
    ys.mapM f = .ok ys := by
  have hstill : ∀ y ∈ ys, f y = .ok (id y) := fun y hy => by
    obtain ⟨x, hx, hxy⟩ := exists_of_mapM_eq_ok h hy
    exact hf x hx y hxy
  have hagain := mapM_eq_ok_map hstill
  rwa [List.map_id] at hagain

/-- A walk whose steps all succeed succeeds. -/
theorem exists_mapM {f : α → Checked β} {xs : List α} (h : ∀ x ∈ xs, ∃ y, f x = .ok y) :
    ∃ ys, xs.mapM f = .ok ys := by
  induction xs with
  | nil => exact ⟨[], rfl⟩
  | cons x xs ih =>
    obtain ⟨y, hy⟩ := h x List.mem_cons_self
    obtain ⟨ys, hys⟩ := ih (fun x' hx' => h x' (List.mem_cons_of_mem x hx'))
    exact ⟨y :: ys, mapM_eq_ok.mpr (.cons hy (mapM_eq_ok.mp hys))⟩

/-- A walk whose steps all succeed on a condition gives items that meet it. -/
theorem exists_mapM_forall {f : α → Checked β} {p : β → Prop} {xs : List α}
    (h : ∀ x ∈ xs, ∃ y, f x = .ok y ∧ p y) : ∃ ys, xs.mapM f = .ok ys ∧ ∀ y ∈ ys, p y := by
  obtain ⟨ys, hys⟩ := exists_mapM (fun x hx => (h x hx).imp fun _ => And.left)
  refine ⟨ys, hys, fun y hy => ?_⟩
  obtain ⟨x, hx, hxy⟩ := exists_of_mapM_eq_ok hys hy
  obtain ⟨y', hxy', hp⟩ := h x hx
  obtain rfl := Except.ok.inj (hxy'.symm.trans hxy)
  exact hp

/-- A run whose steps all succeed succeeds. -/
theorem exists_foldlM {f : β → α → Checked β} {xs : List α}
    (h : ∀ b, ∀ x ∈ xs, ∃ b', f b x = .ok b') (b : β) : ∃ b', xs.foldlM f b = .ok b' := by
  induction xs generalizing b with
  | nil => exact ⟨b, rfl⟩
  | cons x xs ih =>
    obtain ⟨mid, hmid⟩ := h b x List.mem_cons_self
    rw [List.foldlM_cons, hmid, ok_bind]
    exact ih (fun b x' hx' => h b x' (List.mem_cons_of_mem x hx')) mid

/-- A run whose steps all succeed is a run without failures. -/
theorem foldlM_eq_ok_foldl {f : β → α → Checked β} {g : β → α → β} {xs : List α} {b : β}
    (h : ∀ b, ∀ x ∈ xs, f b x = .ok (g b x)) : xs.foldlM f b = .ok (xs.foldl g b) := by
  induction xs generalizing b with
  | nil => rfl
  | cons x xs ih =>
    rw [List.foldlM_cons, h b x List.mem_cons_self, ok_bind, List.foldl_cons]
    exact ih (fun b x' hx' => h b x' (List.mem_cons_of_mem x hx'))

/-- **What every step of a run keeps, the run keeps.** -/
theorem foldlM_keeps {f : β → α → Checked β} {p : β → Prop} {xs : List α} {b b' : β}
    (hstep : ∀ b, p b → ∀ x ∈ xs, ∀ b', f b x = .ok b' → p b') (hb : p b)
    (h : xs.foldlM f b = .ok b') : p b' := by
  induction xs generalizing b with
  | nil =>
    obtain rfl := pure_eq_ok.mp h
    exact hb
  | cons x xs ih =>
    rw [List.foldlM_cons] at h
    obtain ⟨mid, hmid, h⟩ := bind_eq_ok.mp h
    have hkept : p mid := hstep b hb x List.mem_cons_self mid hmid
    exact ih (fun b hb x' hx' => hstep b hb x' (List.mem_cons_of_mem x hx')) hkept h

end Checked

/-! ## Attempts -/

section Attempts

variable {α : Type} {before after : α} {x : Checked α}

/-- An attempt without a failure gives a result. -/
theorem attempt_eq : attempt before x = (after, none) ↔ x = .ok after := by
  cases x <;> simp [attempt]

/-- An attempt that fails leaves things as they were. -/
theorem eq_of_attempt {e : Failure} (h : attempt before x = (after, some e)) :
    after = before := by
  cases x with
  | error cause => exact (congrArg Prod.fst h).symm
  | ok found => cases congrArg Prod.snd h

end Attempts

end DecoratorSets
