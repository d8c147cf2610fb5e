import DecoratorSets.CommandLine.Files

/-!
# What is written is found again

A file is written to a place, and read from one. Both places are where the parts of a path
lead to (`FileTree.locate`), and the way to a place can change while files are written: it
leads through what is in the tree.

It does not change for the worse. A file is never written where a directory is, so what is
a directory stays one, and each way that leads somewhere leads there still
(`FileTree.locate_of_write`). A file that is written can therefore be read by the same path
(`FileTree.read_of_write`), and stays as it is while others are written to other places.
Paths with different last parts lead to different places, whatever is in front of these
parts, so of many files that are written one after the other none is lost if their last
parts are distinct (`FileTree.read_of_writeAll`).
-/

namespace DecoratorSets

/-! ## Paths and their parts -/

/-- Characters without a separator are a single part. -/
theorem partsAt_of_not_mem {separator : Char} {cs : List Char} (h : separator ∉ cs) :
    partsAt separator cs = [cs] := by
  induction cs with
  | nil => rfl
  | cons c rest ih =>
    obtain ⟨hc, hrest⟩ := not_or.mp (mt List.mem_cons.mpr h)
    rw [partsAt, if_neg (Ne.symm hc), ih hrest]

/-- The parts in front of a separator and those behind it. -/
theorem partsAt_append_cons (separator : Char) (cs rest : List Char) :
    partsAt separator (cs ++ separator :: rest)
      = partsAt separator cs ++ partsAt separator rest := by
  induction cs with
  | nil => simp [partsAt]
  | cons c cs ih =>
    rw [List.cons_append, partsAt, partsAt, ih]
    split
    · rfl
    · cases hparts : partsAt separator cs with
      | nil => exact absurd hparts (partsAt_ne_nil separator cs)
      | cons part others => rfl

/-- The last part of characters ends as they do, if they end without a separator. -/
theorem exists_getLast?_partsAt {separator : Char} (cs : List Char) {rest : List Char}
    (h : separator ∉ rest) :
    ∃ part, (partsAt separator (cs ++ rest)).getLast? = some (part ++ rest) := by
  induction cs with
  | nil => exact ⟨[], by rw [List.nil_append, partsAt_of_not_mem h]; rfl⟩
  | cons c cs ih =>
    obtain ⟨part, hpart⟩ := ih
    rw [List.cons_append, partsAt]
    split
    · rw [List.getLast?_cons, hpart]
      exact ⟨part, rfl⟩
    · cases hparts : partsAt separator (cs ++ rest) with
      | nil => exact absurd hparts (partsAt_ne_nil separator _)
      | cons first others =>
        rw [hparts, List.getLast?_cons] at hpart
        cases others with
        | nil => exact ⟨c :: part, congrArg (fun cs => some (c :: cs)) (Option.some.inj hpart)⟩
        | cons second others => exact ⟨part, hpart⟩

namespace FilePath

/-- **A text is a part** of a path if it counts, and holds no slash. -/
structure IsPart (s : String) : Prop where
  ne_empty : s ≠ ""
  ne_dot : s ≠ "."
  slash : '/' ∉ s.toList

variable {s path directory name : String} {absolute : Bool} {ps : List String}

/-- The parts of a path are parts. -/
theorem isPart_of_mem_parts (h : s ∈ parts path) : IsPart s := by
  obtain ⟨hmem, hcounts⟩ := List.mem_filter.mp h
  obtain ⟨hempty, hdot⟩ := of_decide_eq_true hcounts
  obtain ⟨cs, hcs, rfl⟩ := List.mem_map.mp hmem
  exact ⟨hempty, hdot, by simpa using not_mem_of_mem_partsAt hcs⟩

/-- A part is a path by itself. -/
theorem IsPart.parts_eq (h : IsPart s) : parts s = [s] := by
  unfold parts
  rw [partsAt_of_not_mem h.slash, List.map_singleton, String.ofList_toList,
    List.filter_cons_of_pos (by simpa using ⟨h.ne_empty, h.ne_dot⟩), List.filter_nil]

/-- The parts of two paths with a slash between them. -/
theorem parts_append_slash (s t : String) : parts (s ++ "/" ++ t) = parts s ++ parts t := by
  have hslash : (s ++ "/" ++ t).toList = s.toList ++ '/' :: t.toList := by simp
  unfold parts
  rw [hslash, partsAt_append_cons, List.map_append, List.filter_append]

/-- The path of some parts has these parts. -/
theorem parts_intercalate (h : ∀ p ∈ ps, IsPart p) : parts ("/".intercalate ps) = ps := by
  induction ps with
  | nil => rfl
  | cons p ps ih =>
    obtain ⟨hp, hps⟩ := List.forall_mem_cons.mp h
    cases ps with
    | nil => rw [String.intercalate_singleton, hp.parts_eq]
    | cons q ps =>
      rw [String.intercalate_cons_cons, parts_append_slash, hp.parts_eq, ih hps]
      rfl

/-- **The path of some parts has these parts**, absolute or not. -/
theorem parts_ofParts (h : ∀ p ∈ ps, IsPart p) : parts (ofParts absolute ps) = ps := by
  unfold ofParts
  split
  · have hroot := parts_append_slash "" ("/".intercalate ps)
    rw [String.empty_append] at hroot
    rw [hroot, parts_intercalate h]
    rfl
  · split
    · rename_i hempty
      rw [List.isEmpty_iff.mp hempty]
      rfl
    · exact parts_intercalate h

/-- The last part of a path. -/
def lastPart? (path : String) : Option String := (parts path).getLast?

/-- What stands behind the last slash is the last part of a path, if it counts. -/
theorem lastPart?_of_getLast? {cs : List Char}
    (h : (partsAt '/' path.toList).getLast? = some cs)
    (hcounts : String.ofList cs ≠ "" ∧ String.ofList cs ≠ ".") :
    lastPart? path = some (String.ofList cs) := by
  obtain ⟨others, hparts⟩ := List.getLast?_eq_some_iff.mp h
  unfold lastPart? parts
  rw [hparts, List.map_append, List.filter_append, List.map_singleton,
    List.filter_cons_of_pos (by simpa using hcounts), List.filter_nil, List.getLast?_append]
  rfl

/-- A text of three characters counts, and does not lead back. -/
theorem counts_of_length (h : 3 ≤ s.toList.length) : (s ≠ "" ∧ s ≠ ".") ∧ s ≠ ".." := by
  refine ⟨⟨?_, ?_⟩, ?_⟩ <;>
  · rintro rfl
    exact absurd h (by decide)

/-- A path without a slash is its own last part. -/
theorem lastPart?_of_slash_not_mem (hslash : '/' ∉ path.toList)
    (hlong : 3 ≤ path.toList.length) : lastPart? path = some path := by
  have hlast : (partsAt '/' path.toList).getLast? = some path.toList := by
    rw [partsAt_of_not_mem hslash]
    rfl
  have hcounts := (counts_of_length hlong).1
  rw [← String.ofList_toList (s := path)] at hcounts
  exact (lastPart?_of_getLast? hlast hcounts).trans (by rw [String.ofList_toList])

/-- The last part of a path ends as the path does, if that is without a slash. -/
theorem exists_lastPart?_append (path : String) {ending : String}
    (hslash : '/' ∉ ending.toList) (hlong : 3 ≤ ending.toList.length) :
    ∃ s, lastPart? (path ++ ending) = some (s ++ ending) := by
  obtain ⟨part, hpart⟩ := exists_getLast?_partsAt path.toList hslash
  rw [← String.toList_append] at hpart
  have hlast := lastPart?_of_getLast? hpart
  rw [String.ofList_append, String.ofList_toList] at hlast
  refine ⟨String.ofList part, hlast (counts_of_length ?_).1⟩
  rw [String.toList_append, List.length_append]
  omega

/-- **Two paths are apart** if they end with different parts, neither of which leads back. -/
def Apart (path path' : String) : Prop :=
  ∃ s s', lastPart? path = some s ∧ lastPart? path' = some s' ∧ s ≠ ".." ∧ s' ≠ ".." ∧ s ≠ s'

/-- **A path inside a directory ends as it did before.** -/
theorem lastPart?_inside (h : lastPart? name = some s) :
    lastPart? (inside directory name) = some s := by
  have hdirectory : ∀ p ∈ parts directory ++ parts name, IsPart p := fun p hp =>
    (List.mem_append.mp hp).elim isPart_of_mem_parts isPart_of_mem_parts
  unfold lastPart? at h ⊢
  unfold inside
  split
  · unfold normal
    rw [parts_ofParts fun _ => isPart_of_mem_parts, h]
  · rw [parts_ofParts hdirectory, List.getLast?_append, h]
    rfl

/-- Paths that are apart are apart inside a directory. -/
theorem Apart.inside (h : Apart path s) :
    Apart (inside directory path) (inside directory s) := by
  obtain ⟨last, last', hlast, hlast', hne⟩ := h
  exact ⟨last, last', lastPart?_inside hlast, lastPart?_inside hlast', hne⟩

end FilePath

/-! ## Writing one file -/

namespace FileTree

variable {t t' : FileTree} {l l' start : Location} {path path' text text' : String}

/-- The first of some files is found at its place, and the rest elsewhere. -/
theorem lookup_cons_eq (place : Location) (old : String) (files : List (Location × String)) :
    ((place, old) :: files).lookup l = if l = place then some old else files.lookup l := by
  rw [List.lookup_cons]
  split
  · rw [if_pos (eq_of_beq ‹_›)]
  · rw [if_neg (ne_of_beq_false ‹_›)]

/-- The text that is put at a place is found there, and all others where they were. -/
theorem lookup_put (text : String) (l l' : Location) (files : List (Location × String)) :
    (write.put text l files).lookup l' = if l' = l then some text else files.lookup l' := by
  induction files with
  | nil => exact lookup_cons_eq l text []
  | cons file rest ih =>
    obtain ⟨place, old⟩ := file
    unfold write.put
    by_cases hplace : place = l
    · rw [if_pos hplace, lookup_cons_eq, lookup_cons_eq, hplace]
      split <;> rfl
    · rw [if_neg hplace, lookup_cons_eq, lookup_cons_eq, ih]
      by_cases hl : l' = place
      · rw [if_pos hl, if_pos hl, if_neg fun heq => hplace (hl.symm.trans heq)]
      · rw [if_neg hl, if_neg hl]

/-- The places of files stay places of files. -/
theorem mem_map_fst_put {files : List (Location × String)} (h : l' ∈ files.map Prod.fst) :
    l' ∈ (write.put text l files).map Prod.fst := by
  induction files with
  | nil => cases h
  | cons file rest ih =>
    unfold write.put
    split
    · rename_i hplace
      rwa [List.map_cons, ← hplace]
    · rw [List.map_cons] at h ⊢
      exact (List.mem_cons.mp h).elim (fun heq => heq ▸ List.mem_cons_self)
        fun hrest => List.mem_cons_of_mem _ (ih hrest)

/-- **A file is written** to the place that its path leads to, where there must not be a
directory. -/
theorem write_eq_ok : t.write path text = .ok t' ↔
    ∃ l, t.locate path = .ok l ∧ t.entry? l ≠ some .directory
      ∧ t' = { t with files := write.put text l t.files } := by
  unfold write
  cases hlocate : t.locate path with
  | error fault => simp [bind, Except.bind]
  | ok l =>
    cases hentry : t.entry? l with
    | none => simp [bind, Except.bind, hentry, pure, Except.pure, eq_comm]
    | some entry =>
      cases entry with
      | file old => simp [bind, Except.bind, hentry, pure, Except.pure, eq_comm]
      | directory => simp [bind, Except.bind, hentry, throw, throwThe, MonadExceptOf.throw]

/-- At a place that is no directory a file is put. -/
theorem entry?_put_self (h : t.entry? l ≠ some .directory) :
    entry? { t with files := write.put text l t.files } l = some (.file text) := by
  unfold entry? at h ⊢
  split at h
  · exact absurd rfl h
  · rename_i habove
    rw [if_neg habove, lookup_put, if_pos rfl]

/-- **What is at another place stays there.** -/
theorem entry?_put_of_ne {entry : FileEntry} (hne : l' ≠ l) (h : t.entry? l' = some entry) :
    entry? { t with files := write.put text l t.files } l' = some entry := by
  unfold entry? at h ⊢
  split at h
  · rename_i habove
    rwa [if_pos habove]
  · rename_i habove
    rw [if_neg habove, lookup_put, if_neg hne]
    cases hlookup : t.files.lookup l' with
    | some old => rwa [hlookup] at h
    | none =>
      -- nothing is inside the place any less than it was
      rw [hlookup] at h
      have hinside : (t.files.any fun file => isInside l' file.1) = true →
          ((write.put text l t.files).any fun file => isInside l' file.1) = true := by
        rw [List.any_eq_true, List.any_eq_true]
        rintro ⟨file, hfile, hinside⟩
        obtain ⟨file', hfile', hplace⟩ :=
          List.mem_map.mp (mem_map_fst_put (List.mem_map_of_mem hfile))
        exact ⟨file', hfile', hplace ▸ hinside⟩
      dsimp only at h ⊢
      split at h
      · rename_i hthere
        refine (if_pos ?_).trans h
        rw [Bool.or_eq_true] at hthere ⊢
        exact hthere.imp_left hinside
      · cases h

/-- **A way that leads somewhere leads there still** when a file is written: all but its end
leads through directories, and none of them is replaced. -/
theorem walk_put {ps : List String} (h : t.entry? l ≠ some .directory)
    (hwalk : t.walk start ps = .ok l') :
    walk { t with files := write.put text l t.files } start ps = .ok l' := by
  induction ps generalizing start with
  | nil => exact hwalk
  | cons part rest ih =>
    unfold walk at hwalk ⊢
    cases hentry : t.entry? start with
    | none => rw [hentry] at hwalk; cases hwalk
    | some entry =>
      rw [hentry] at hwalk
      cases entry with
      | file old => cases hwalk
      | directory =>
        have hne : start ≠ l := fun heq => h (heq ▸ hentry)
        rw [entry?_put_of_ne hne hentry]
        dsimp only at hwalk ⊢
        split at hwalk
        · cases hwalk
        · rename_i hlong
          rw [if_neg hlong]
          exact ih hwalk

/-- **A path that leads somewhere leads there still** when a file is written. -/
theorem locate_of_write (h : t.write path text = .ok t') (hlocate : t.locate path' = .ok l') :
    t'.locate path' = .ok l' := by
  obtain ⟨l, -, hentry, rfl⟩ := write_eq_ok.mp h
  unfold locate at hlocate ⊢
  split at hlocate
  · cases hlocate
  · rename_i hnull
    rw [if_neg hnull]
    split at hlocate
    · cases hlocate
    · rename_i hlong
      rw [if_neg hlong]
      exact walk_put hentry hlocate

/-- **A file is read** where its path leads to one. -/
theorem read_eq_ok : t.read path = .ok text ↔
    ∃ l, t.locate path = .ok l ∧ t.entry? l = some (.file text) := by
  unfold read
  cases hlocate : t.locate path with
  | error fault => simp [bind, Except.bind]
  | ok l =>
    cases hentry : t.entry? l with
    | none => simp [bind, Except.bind, hentry, throw, throwThe, MonadExceptOf.throw]
    | some entry =>
      cases entry with
      | file old => simp [bind, Except.bind, hentry, pure, Except.pure]
      | directory => simp [bind, Except.bind, hentry, throw, throwThe, MonadExceptOf.throw]

/-- **What is written is read** by the same path. -/
theorem read_of_write (h : t.write path text = .ok t') : t'.read path = .ok text := by
  obtain ⟨l, hlocate, hentry, rfl⟩ := write_eq_ok.mp h
  exact read_eq_ok.mpr ⟨l, locate_of_write h hlocate, entry?_put_self hentry⟩

/-! ## Writing many files -/

/-- A way that ends with a part leads to a place of that name. -/
theorem getLast?_names_of_walk {ps : List String} {s : String} (hback : s ≠ "..")
    (hwalk : t.walk start ps = .ok l) (hlast : ps.getLast? = some s) :
    l.names.getLast? = some s := by
  induction ps generalizing start with
  | nil => cases hlast
  | cons part rest ih =>
    unfold walk at hwalk
    split at hwalk
    · cases hwalk
    · cases hwalk
    · split at hwalk
      · cases hwalk
      · cases rest with
        | nil =>
          obtain rfl : part = s := Option.some.inj hlast
          obtain rfl := Except.ok.inj hwalk
          rw [Location.step, if_pos hback, List.getLast?_append, List.getLast?_singleton]
          rfl
        | cons next rest => exact ih hwalk hlast

/-- A path leads to a place of the name that it ends with. -/
theorem getLast?_names_of_locate {s : String} (hback : s ≠ "..") (h : t.locate path = .ok l)
    (hlast : FilePath.lastPart? path = some s) : l.names.getLast? = some s := by
  unfold locate at h
  split at h
  · cases h
  · split at h
    · cases h
    · exact getLast?_names_of_walk hback h hlast

/-- **What is written elsewhere leaves a file as it is.** -/
theorem read_of_write_of_apart (h : t.write path text = .ok t')
    (hread : t.read path' = .ok text') (hapart : FilePath.Apart path' path) :
    t'.read path' = .ok text' := by
  obtain ⟨l, hlocate, hentry, ht'⟩ := write_eq_ok.mp h
  obtain ⟨l', hlocate', hentry'⟩ := read_eq_ok.mp hread
  obtain ⟨s', s, hs', hs, hback', hback, hne⟩ := hapart
  have hplaces : l' ≠ l := by
    rintro rfl
    have hname := getLast?_names_of_locate hback hlocate hs
    have hname' := getLast?_names_of_locate hback' hlocate' hs'
    exact hne (Option.some.inj (hname'.symm.trans hname))
  refine read_eq_ok.mpr ⟨l', locate_of_write h hlocate', ?_⟩
  rw [ht']
  exact entry?_put_of_ne hplaces hentry'

/-- Writes files by their paths, one after the other. -/
def writeAll (t : FileTree) (files : List (String × String)) : Except PathFault FileTree :=
  files.foldlM (fun t file => t.write file.1 file.2) t

/-- The first file is written first. -/
theorem writeAll_cons (file : String × String) (files : List (String × String)) :
    t.writeAll (file :: files) = t.write file.1 file.2 >>= fun t => t.writeAll files :=
  List.foldlM_cons

/-- Files that are written elsewhere leave a file as it is. -/
theorem read_of_writeAll_of_apart {files : List (String × String)}
    (h : t.writeAll files = .ok t') (hread : t.read path = .ok text)
    (hapart : ∀ file ∈ files, FilePath.Apart path file.1) : t'.read path = .ok text := by
  induction files generalizing t with
  | nil =>
    obtain rfl := Except.ok.inj h
    exact hread
  | cons file files ih =>
    obtain ⟨hfile, hfiles⟩ := List.forall_mem_cons.mp hapart
    rw [writeAll_cons] at h
    cases hwrite : t.write file.1 file.2 with
    | error fault => rw [hwrite] at h; cases h
    | ok next =>
      rw [hwrite] at h
      exact ih h (read_of_write_of_apart hwrite hread hfile) hfiles

/-- **A file that is written can be read** once all are, if those that are written after it
are written elsewhere. -/
theorem read_of_writeAll {file : String × String} {before after : List (String × String)}
    (h : t.writeAll (before ++ file :: after) = .ok t')
    (hapart : ∀ other ∈ after, FilePath.Apart file.1 other.1) :
    t'.read file.1 = .ok file.2 := by
  induction before generalizing t with
  | nil =>
    rw [List.nil_append, writeAll_cons] at h
    cases hwrite : t.write file.1 file.2 with
    | error fault => rw [hwrite] at h; cases h
    | ok next =>
      rw [hwrite] at h
      exact read_of_writeAll_of_apart h (read_of_write hwrite) hapart
  | cons first before ih =>
    rw [List.cons_append, writeAll_cons] at h
    cases hwrite : t.write first.1 first.2 with
    | error fault => rw [hwrite] at h; cases h
    | ok next =>
      rw [hwrite] at h
      exact ih h

end FileTree

end DecoratorSets
