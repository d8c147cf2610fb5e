import DecoratorSets.CommandLine.Run
import DecoratorSets.Proofs.Checked
import DecoratorSets.Proofs.CommandLine.Writing

/-!
# Steps that come to an end

A command is a sequence of steps, each of which looks at the progress so far, adds to it,
and gives a result or ends the command early. What a step does on the way to a result is
said by `Step.Gives`, and a sequence gives a result exactly when its steps do, each from the
progress that the one before it made (`Step.gives_bind`).

Only two steps touch files. Writing gives the tree with the file in it, and printing leaves
the tree alone (`files_of_say`), so the files that a command has written one after the other,
with a message behind each, are those that `FileTree.writeAll` writes.
-/

namespace DecoratorSets

namespace CommandLine

variable {α β : Type} {p p' p'' : Progress} {a b : α}

/-- **A step gives a result**, and progress from some progress. -/
def Step.Gives (x : Step α) (p : Progress) (a : α) (p' : Progress) : Prop :=
  x.run.run p = (.ok a, p')

namespace Step

/-- The run of a sequence. -/
theorem run_bind (x : Step α) (f : α → Step β) (p : Progress) :
    (x >>= f).run.run p
      = match x.run.run p with
        | (.ok a, p') => (f a).run.run p'
        | (.error e, p') => (.error e, p') := by
  have hbind : (x >>= f).run.run p = ExceptT.bindCont (fun a => f a) (x.run.run p).1
      (x.run.run p).2 := rfl
  rw [hbind]
  cases x.run.run p with
  | mk result p' => cases result <;> rfl

/-- **A sequence of steps gives a result** exactly when each step does. -/
theorem gives_bind {x : Step α} {f : α → Step β} {b : β} :
    Gives (x >>= f) p b p'' ↔ ∃ a p', x.Gives p a p' ∧ (f a).Gives p' b p'' := by
  unfold Gives
  rw [run_bind]
  cases hrun : x.run.run p with
  | mk result p' =>
    cases result with
    | ok a =>
      refine ⟨fun h => ⟨a, p', rfl, h⟩, ?_⟩
      rintro ⟨a', next, hfirst, h⟩
      obtain ⟨hresult, rfl⟩ := Prod.mk.inj hfirst
      obtain rfl := Except.ok.inj hresult
      exact h
    | error e =>
      refine iff_of_false (fun h => ?_) (fun h => ?_)
      · cases h
      · obtain ⟨a', next, hfirst, -⟩ := h
        cases hfirst

/-- Giving a result at once. -/
theorem gives_pure : Gives (pure a) p b p' ↔ a = b ∧ p = p' := by
  show ((Except.ok a : Except Ending α), p) = (.ok b, p') ↔ _
  rw [Prod.mk.injEq, Except.ok.injEq]

/-- Looking at the progress. -/
theorem gives_get : Gives get p p' p'' ↔ p = p' ∧ p = p'' := by
  show ((Except.ok p : Except Ending Progress), p) = (.ok p', p'') ↔ _
  rw [Prod.mk.injEq, Except.ok.injEq]

/-- Making progress. -/
theorem gives_set {u : Unit} : Gives (set p') p u p'' ↔ p' = p'' := by
  show ((Except.ok () : Except Ending Unit), p') = (.ok u, p'') ↔ _
  simp

theorem gives_modify {f : Progress → Progress} {u : Unit} :
    Gives (modify f) p u p' ↔ f p = p' := by
  show ((Except.ok () : Except Ending Unit), f p) = (.ok u, p') ↔ _
  simp

/-- A crash gives no result. -/
theorem not_gives_crash {cause : Crash} : ¬ Gives (crash cause) p a p' := by
  intro h
  cases h

/-- A result of a computation is one of the step. -/
theorem gives_orCrash {ε : Type} {cause : ε → Crash} {result : Except ε α} :
    Gives (orCrash cause result) p a p' ↔ result = .ok a ∧ p = p' := by
  cases result with
  | error e =>
    refine iff_of_false not_gives_crash fun h => ?_
    cases h.1
  | ok b =>
    rw [Except.ok.injEq]
    exact gives_pure

/-- A step gives no two results. -/
theorem Gives.unique {x : Step α} (h : x.Gives p a p') (h' : x.Gives p b p'') :
    a = b ∧ p' = p'' := by
  obtain ⟨hresult, hprogress⟩ := Prod.mk.inj (h.symm.trans h')
  exact ⟨Except.ok.inj hresult, hprogress⟩

/-- A message that ends a command gives no result. -/
theorem not_gives_fail {message : String} : ¬ Gives (fail message) p a p' := by
  intro h
  obtain ⟨lines, p₁, -, h⟩ := gives_bind.mp h
  obtain ⟨_, p₂, -, h⟩ := gives_bind.mp h
  cases h

/-- **A reported computation gives its result**, whichever failures are reported. -/
theorem gives_report {reported : Failure → Bool} {result : Checked α} :
    Gives (report reported result) p a p' ↔ result = .ok a ∧ p = p' := by
  cases result with
  | ok b =>
    rw [Except.ok.injEq]
    exact gives_pure
  | error cause =>
    refine iff_of_false (fun h => ?_) fun h => ?_
    · unfold report at h
      dsimp only at h
      split at h
      · split at h
        · exact not_gives_fail h
        · exact not_gives_crash h
      · exact not_gives_crash h
    · cases h.1

/-- A walk over a list whose steps give results and make no progress gives these. -/
theorem forall₂_of_gives_mapM {f : α → Step β} {R : α → β → Prop}
    (hf : ∀ a b p p', (f a).Gives p b p' → R a b ∧ p = p') {xs : List α} {ys : List β}
    (h : Gives (xs.mapM f) p ys p') : List.Forall₂ R xs ys ∧ p = p' := by
  induction xs generalizing p ys with
  | nil =>
    rw [List.mapM_nil] at h
    obtain ⟨rfl, rfl⟩ := gives_pure.mp h
    exact ⟨.nil, rfl⟩
  | cons x xs ih =>
    rw [List.mapM_cons] at h
    obtain ⟨y, p₁, hy, h⟩ := gives_bind.mp h
    obtain ⟨rest, p₂, hrest, h⟩ := gives_bind.mp h
    obtain ⟨rfl, rfl⟩ := gives_pure.mp h
    obtain ⟨hR, rfl⟩ := hf _ _ _ _ hy
    obtain ⟨hall, rfl⟩ := ih hrest
    exact ⟨.cons hR hall, rfl⟩

end Step

/-! ## Printing and writing -/

/-- A message is printed if it can be shown, and is all that is done. -/
theorem gives_say {message : String} {u : Unit} : (say message).Gives p u p' ↔
    ∃ lines, Page.messageLines message = .ok lines
      ∧ p' = { p with output := p.output ++ lines } := by
  constructor
  · intro h
    obtain ⟨lines, p₁, hlines, h⟩ := Step.gives_bind.mp h
    obtain ⟨hmessage, rfl⟩ := Step.gives_orCrash.mp hlines
    exact ⟨lines, hmessage, (Step.gives_modify.mp h).symm⟩
  · rintro ⟨lines, hlines, rfl⟩
    exact Step.gives_bind.mpr ⟨lines, p, Step.gives_orCrash.mpr ⟨hlines, rfl⟩,
      Step.gives_modify.mpr rfl⟩

/-- **Printing leaves the files alone.** -/
theorem files_of_say {message : String} {u : Unit} (h : (say message).Gives p u p') :
    p'.files = p.files := by
  obtain ⟨lines, -, rfl⟩ := gives_say.mp h
  rfl

/-- The tree of files is replaced by one that a computation gives. -/
theorem gives_replaceFiles {f : FileTree → Except PathFault FileTree} {u : Unit} :
    Step.Gives (do let p ← get; set { p with files := ← orCrash .path (f p.files) }) p u p'
      ↔ ∃ t, f p.files = .ok t ∧ p' = { p with files := t } := by
  constructor
  · intro h
    obtain ⟨p₁, p₂, hget, h⟩ := Step.gives_bind.mp h
    obtain ⟨rfl, rfl⟩ := Step.gives_get.mp hget
    obtain ⟨t, p₃, hstep, h⟩ := Step.gives_bind.mp h
    obtain ⟨ht, rfl⟩ := Step.gives_orCrash.mp hstep
    exact ⟨t, ht, (Step.gives_set.mp h).symm⟩
  · rintro ⟨t, ht, rfl⟩
    exact Step.gives_bind.mpr ⟨p, p, Step.gives_get.mpr ⟨rfl, rfl⟩,
      Step.gives_bind.mpr ⟨t, p, Step.gives_orCrash.mpr ⟨ht, rfl⟩, Step.gives_set.mpr rfl⟩⟩

/-- **Writing a file gives the tree that it is written to.** -/
theorem gives_writeFile {path text : String} {u : Unit} : (writeFile path text).Gives p u p' ↔
    ∃ t, p.files.write path text = .ok t ∧ p' = { p with files := t } :=
  gives_replaceFiles (f := fun t => t.write path text)

/-- Making a directory gives the tree that it is made in. -/
theorem gives_makeDirectory {path : String} {u : Unit} : (makeDirectory path).Gives p u p' ↔
    ∃ t, p.files.makeDirectories path = .ok t ∧ p' = { p with files := t } :=
  gives_replaceFiles (f := fun t => t.makeDirectories path)

/-- The text of a document in JSON. -/
theorem gives_jsonText {document : Value} {text : String} :
    (jsonText document).Gives p text p'
      ↔ (Json.document "  ").render document = .ok text ∧ p = p' :=
  Step.gives_orCrash

/-- **Steps that each write a file** write the files one after the other. -/
theorem writeAll_of_forM {step : α → Step Unit} {file : α → String × String}
    (hstep : ∀ a p p', (step a).Gives p () p' →
      p.files.write (file a).1 (file a).2 = .ok p'.files)
    {xs : List α} (h : (xs.forM step).Gives p () p') :
    p.files.writeAll (xs.map file) = .ok p'.files := by
  induction xs generalizing p with
  | nil =>
    obtain ⟨-, rfl⟩ := Step.gives_pure.mp h
    rfl
  | cons x xs ih =>
    obtain ⟨_, p₁, hx, h⟩ := Step.gives_bind.mp h
    rw [List.map_cons, FileTree.writeAll_cons, hstep x _ _ hx]
    exact ih h

/-- They come to an end if the files can be written one after the other, and nothing else
keeps one of them from it. -/
theorem exists_gives_forM (step : α → Step Unit) (file : α → String × String) {xs : List α}
    (hstep : ∀ a ∈ xs, ∀ p t, p.files.write (file a).1 (file a).2 = .ok t →
      ∃ p', (step a).Gives p () p' ∧ p'.files = t)
    {t : FileTree} (h : p.files.writeAll (xs.map file) = .ok t) :
    ∃ p', (xs.forM step).Gives p () p' ∧ p'.files = t := by
  induction xs generalizing p with
  | nil => exact ⟨p, Step.gives_pure.mpr ⟨rfl, rfl⟩, Except.ok.inj h⟩
  | cons x xs ih =>
    obtain ⟨hx, hxs⟩ := List.forall_mem_cons.mp hstep
    rw [List.map_cons, FileTree.writeAll_cons] at h
    cases hwrite : p.files.write (file x).1 (file x).2 with
    | error fault => rw [hwrite] at h; cases h
    | ok next =>
      rw [hwrite] at h
      obtain ⟨p₁, hfirst, rfl⟩ := hx p next hwrite
      obtain ⟨p₂, hrest, rfl⟩ := ih hxs h
      exact ⟨p₂, Step.gives_bind.mpr ⟨_, p₁, hfirst, hrest⟩, rfl⟩

/-! ## Reading models -/

/-- **Models are loaded** from a file in JSON that holds an object which is read as some. -/
theorem gives_loadModels {path text : String} {label : Option Label} {ms : Members}
    {r : Registry} (hread : p.files.read path = .ok text) (hpath : isYamlPath path = false)
    (hjson : Json.read text = .ok (.object label ms))
    (hmodels : ((Models.ofDocument (.object label ms)).bind fun ms => Registry.ofModels ms false)
      = .ok r) : (loadModels path).Gives p r p := by
  have hfile : (readFile path).Gives p text p := by
    refine Step.gives_bind.mpr ⟨p, p, Step.gives_get.mpr ⟨rfl, rfl⟩, ?_⟩
    rw [hread]
    exact Step.gives_pure.mpr ⟨rfl, rfl⟩
  have hdocument : (readDocument path).Gives p (.object label ms) p := by
    refine Step.gives_bind.mpr ⟨text, p, hfile, ?_⟩
    rw [hpath, if_neg Bool.false_ne_true, hjson]
    exact Step.gives_pure.mpr ⟨rfl, rfl⟩
  refine Step.gives_bind.mpr ⟨_, p, hdocument, ?_⟩
  rw [hmodels]
  exact Step.gives_pure.mpr ⟨rfl, rfl⟩

/-! ## Command lines -/

/-- **A command line succeeds** exactly if its request comes to an end. -/
theorem gives_request_iff {files : FileTree} {args : List String} {request : Request}
    (hargs : Request.ofArguments args = .ok request) :
    request.run.Gives ⟨files, [], []⟩ () p'
      ↔ (run files args).exitCode = 0 ∧ (run files args).progress = p' := by
  unfold run Step.Gives
  rw [hargs]
  dsimp only
  cases request.run.run.run ⟨files, [], []⟩ with
  | mk result p =>
    cases result with
    | ok u =>
      refine ⟨fun h => ⟨rfl, (Prod.mk.inj h).2⟩, ?_⟩
      rintro ⟨-, rfl⟩
      rfl
    | error ending =>
      refine iff_of_false (fun h => ?_) fun h => ?_
      · cases h
      · cases ending with
        | reported => cases h.1
        | crash cause => cases h.1

end CommandLine

end DecoratorSets
