import Mathlib.Data.List.Infix
import DecoratorSets.Proofs.Extraction.Vocabularies

/-!
# What a document tells of its vocabulary

The words of a vocabulary are written as they stand. A line break in one of them ends its
line, and what follows may pass for the line of another element; where a name holds the
separator between names and labels, part of the name may pass for the label. A document
tells the locale, the namespace and the blocks that it was written from as long as it is
**plain**: what it shows stands on one line, and no name holds the separator
(`Vocabulary.eq_of_document_eq`).

Three things are read back for that. Lines end at line breaks (`Vocabulary.eq_of_lines_eq`).
A block begins at each line with the mark of a declaration, and within a block a property at
each line with the mark of a property, as no other line begins with these marks
(`eq_of_flatten_eq`). A name ends at the first separator of its line
(`Vocabulary.eq_of_separator_eq`).
-/

namespace DecoratorSets

/-! ## Groups that begin with a mark -/

section Groups

variable {α β : Type} {marked : α → Prop}

/-- **A group** begins with an item that is marked, and has no other one. -/
inductive IsGroup (marked : α → Prop) : List α → Prop
  | intro {x : α} {xs : List α} (hmarked : marked x) (hrest : ∀ y ∈ xs, ¬ marked y) :
    IsGroup marked (x :: xs)

/-- What is not marked, before some groups, is what comes before the first item that is. -/
theorem takeWhile_append_flatten [DecidablePred marked] {xs : List α} (hxs : ∀ y ∈ xs, ¬ marked y)
    {gs : List (List α)} (hgs : ∀ g ∈ gs, IsGroup marked g) :
    (xs ++ gs.flatten).takeWhile (¬ marked ·) = xs := by
  rw [List.takeWhile_append_of_pos fun y hy => decide_eq_true (hxs y hy)]
  cases gs with
  | nil => exact List.append_nil xs
  | cons g gs =>
    obtain ⟨hmarked, -⟩ := hgs g List.mem_cons_self
    simp [hmarked]

/-- **Groups can be told apart**: a list is made of them in one way only. -/
theorem eq_of_flatten_eq [DecidablePred marked] {gs gs' : List (List α)}
    (hgs : ∀ g ∈ gs, IsGroup marked g) (hgs' : ∀ g ∈ gs', IsGroup marked g)
    (h : gs.flatten = gs'.flatten) : gs = gs' := by
  induction gs generalizing gs' with
  | nil =>
    cases gs' with
    | nil => rfl
    | cons g' gs' =>
      obtain ⟨-, -⟩ := hgs' g' List.mem_cons_self
      cases h
  | cons g gs ih =>
    obtain ⟨hmarked, hrest⟩ := hgs g List.mem_cons_self
    rename_i x xs
    cases gs' with
    | nil => cases h
    | cons g' gs' =>
      obtain ⟨hmarked', hrest'⟩ := hgs' g' List.mem_cons_self
      rename_i x' xs'
      obtain ⟨rfl, htail⟩ := List.cons.inj h
      have hlater := fun g hg => hgs g (List.mem_cons_of_mem _ hg)
      have hlater' := fun g hg => hgs' g (List.mem_cons_of_mem _ hg)
      have hxs : xs = xs' :=
        calc xs = (xs ++ gs.flatten).takeWhile (¬ marked ·) :=
              (takeWhile_append_flatten hrest hlater).symm
          _ = (xs' ++ gs'.flatten).takeWhile (¬ marked ·) := congrArg _ htail
          _ = xs' := takeWhile_append_flatten hrest' hlater'
      subst hxs
      rw [ih hlater hlater' (List.append_cancel_left htail)]

/-- **Items can be told apart** if each of them stands for a group and is known from it. -/
theorem eq_of_flatMap_eq [DecidablePred marked] {f : β → List α} (hf : ∀ b, IsGroup marked (f b))
    {bs bs' : List β} (hinj : ∀ b ∈ bs, ∀ b' ∈ bs', f b = f b' → b = b')
    (h : bs.flatMap f = bs'.flatMap f) : bs = bs' := by
  have hgroups : ∀ bs : List β, ∀ g ∈ bs.map f, IsGroup marked g := by
    intro bs g hg
    obtain ⟨b, -, rfl⟩ := List.mem_map.mp hg
    exact hf b
  have hmap : bs.map f = bs'.map f := by
    rw [List.flatMap_def, List.flatMap_def] at h
    exact eq_of_flatten_eq (hgroups bs) (hgroups bs') h
  clear h
  induction bs generalizing bs' with
  | nil => exact (List.map_eq_nil_iff.mp hmap.symm).symm
  | cons b bs ih =>
    obtain ⟨b', bs', rfl, hhead, htail⟩ := List.map_eq_cons_iff.mp hmap.symm
    rw [hinj b List.mem_cons_self b' List.mem_cons_self hhead.symm,
      ih (fun b hb b' hb' => hinj b (List.mem_cons_of_mem _ hb) b' (List.mem_cons_of_mem _ hb'))
        htail.symm]

end Groups

namespace Vocabulary

/-! ## Names and lines -/

/-- A text without line breaks. -/
def OneLine (s : String) : Prop := '\n' ∉ s.toList

instance (s : String) : Decidable (OneLine s) := inferInstanceAs (Decidable (_ ∉ _))

/-- A text without the separator between names and labels. -/
def Unseparated (s : String) : Prop := ¬ ": ".toList <:+: s.toList

instance (s : String) : Decidable (Unseparated s) := inferInstanceAs (Decidable (¬ _))

@[simp] theorem oneLine_append {s t : String} : OneLine (s ++ t) ↔ OneLine s ∧ OneLine t := by
  unfold OneLine
  rw [String.toList_append, List.mem_append, not_or]

/-- **Lines end at line breaks.** -/
theorem eq_of_lines_eq {ls ls' : List String} (hls : ∀ l ∈ ls, OneLine l)
    (hls' : ∀ l ∈ ls', OneLine l) (hne : ls ≠ []) (hne' : ls' ≠ [])
    (h : "\n".intercalate ls = "\n".intercalate ls') : ls = ls' := by
  have hread : ∀ {ls : List String}, (∀ l ∈ ls, OneLine l) → ls ≠ [] →
      ("\n".intercalate ls).toList.splitOn '\n' = ls.map String.toList := by
    intro ls hls hne
    rw [String.toList_intercalate]
    refine List.splitOn_intercalate '\n' (fun cs hcs => ?_) (by simpa using hne)
    obtain ⟨l, hl, rfl⟩ := List.mem_map.mp hcs
    exact hls l hl
  refine List.map_injective_iff.mpr (fun _ _ => String.toList_inj.mp) ?_
  rw [← hread hls hne, h, hread hls' hne']

/-- A separator of two different letters stands where it first occurs. -/
theorem eq_nil_of_separator {α : Type} {a b : α} (hab : a ≠ b) {w t t' : List α}
    (hw : ¬ [a, b] <:+: w) (h : a :: b :: t = w ++ a :: b :: t') : w = [] := by
  match w with
  | [] => rfl
  | [c] => exact absurd (List.cons.inj (List.cons.inj h).2).1.symm hab
  | c :: d :: w =>
    obtain ⟨rfl, hrest⟩ := List.cons.inj h
    obtain ⟨rfl, -⟩ := List.cons.inj hrest
    exact absurd (List.IsPrefix.isInfix ⟨w, rfl⟩) hw

/-- **A name ends at the first separator** of its line. -/
theorem eq_of_separator_eq {name name' label label' : String} (hname : Unseparated name)
    (hname' : Unseparated name') (h : name ++ ": " ++ label = name' ++ ": " ++ label') :
    name = name' ∧ label = label' := by
  have heq : name = name' := by
    have hlist := congrArg String.toList h
    simp only [String.toList_append, List.append_assoc] at hlist
    obtain ⟨w, hw, hrest⟩ | ⟨w, hw, hrest⟩ := List.append_eq_append_iff.mp hlist
    · have hnil : w = [] := eq_nil_of_separator (by decide)
        (fun hin => hname' (hw ▸ hin.trans (List.suffix_append _ _).isInfix)) hrest
      exact String.toList_inj.mp (by rw [hw, hnil, List.append_nil])
    · have hnil : w = [] := eq_nil_of_separator (by decide)
        (fun hin => hname (hw ▸ hin.trans (List.suffix_append _ _).isInfix)) hrest
      exact String.toList_inj.mp (by rw [hw, hnil, List.append_nil])
  subst heq
  exact ⟨rfl, (String.append_right_inj _).mp h⟩

/-! ## Plain documents -/

namespace Block

variable {b b' : Block}

/-- **A plain block**: all that it shows stands on one line, and no name holds the
separator. -/
structure Plain (b : Block) : Prop where
  name : OneLine b.name ∧ Unseparated b.name
  term : OneLine b.term
  description : ∀ s ∈ b.description, OneLine s
  properties : ∀ p ∈ b.properties, (OneLine p.1 ∧ Unseparated p.1) ∧ OneLine p.2

/-- A line with the mark of a declaration. -/
def IsHead (l : String) : Prop := "  - ".toList <+: l.toList

instance : DecidablePred IsHead := fun _ => inferInstanceAs (Decidable (_ <+: _))

/-- A line with the mark of a property. -/
def IsPropertyHead (l : String) : Prop := "      - ".toList <+: l.toList

instance : DecidablePred IsPropertyHead := fun _ => inferInstanceAs (Decidable (_ <+: _))

theorem mem_descriptionLines {indent l : String} :
    l ∈ b.descriptionLines indent
      ↔ ∃ s ∈ b.description, indent ++ "description: " ++ s = l := by
  unfold descriptionLines
  rw [Option.mem_toList, Option.map_eq_some_iff]
  rfl

/-- **The lines below the head of a block.** -/
inductive IsBelow (b : Block) : String → Prop
  | description {s : String} (hs : s ∈ b.description) : IsBelow b ("    " ++ "description: " ++ s)
  | properties : IsBelow b "    properties:"
  | property {p : String × String} (hp : p ∈ b.properties) :
    IsBelow b ("      - " ++ p.1 ++ ": " ++ p.2)
  | repeated {s : String} (hs : s ∈ b.description) :
    IsBelow b ("        " ++ "description: " ++ s)

theorem isBelow_of_mem {l : String}
    (hl : l ∈ b.descriptionLines "    " ++ b.propertiesLines) : b.IsBelow l := by
  rcases List.mem_append.mp hl with hl | hl
  · obtain ⟨s, hs, rfl⟩ := mem_descriptionLines.mp hl
    exact .description hs
  · unfold propertiesLines at hl
    split at hl
    · cases hl
    · rcases List.mem_cons.mp hl with rfl | hl
      · exact .properties
      · obtain ⟨p, hp, hl⟩ := List.mem_flatMap.mp hl
        rcases List.mem_cons.mp hl with rfl | hl
        · exact .property hp
        · obtain ⟨s, hs, rfl⟩ := mem_descriptionLines.mp hl
          exact .repeated hs

/-- A property begins with the mark of a property, and has it once. -/
theorem isGroup_propertyLines (b : Block) (p : String × String) :
    IsGroup IsPropertyHead (b.propertyLines p) := by
  refine .intro (by simp [IsPropertyHead, String.append_assoc]) fun l hl => ?_
  obtain ⟨s, -, rfl⟩ := mem_descriptionLines.mp hl
  simp [IsPropertyHead]

/-- A declaration begins with the mark of a declaration, and has it once. -/
theorem isGroup_lines (b : Block) : IsGroup IsHead b.lines := by
  refine .intro (by simp [IsHead, String.append_assoc]) fun l hl => ?_
  cases isBelow_of_mem hl <;> simp [IsHead]

/-- The lines of the properties do not begin like a description. -/
theorem propertiesLines_ne_cons (b : Block) (s : String) (ls : List String) :
    b.propertiesLines ≠ ("    " ++ "description: " ++ s) :: ls := by
  unfold propertiesLines
  split
  · simp
  · intro h
    have hline := congrArg String.toList (List.cons.inj h).1
    simp at hline

/-- The description of a block is read back. -/
theorem description_eq
    (h : b.descriptionLines "    " ++ b.propertiesLines
      = b'.descriptionLines "    " ++ b'.propertiesLines) :
    b.description = b'.description ∧ b.propertiesLines = b'.propertiesLines := by
  unfold descriptionLines at h
  cases hd : b.description with
  | none =>
    cases hd' : b'.description with
    | none => exact ⟨rfl, by simpa [hd, hd'] using h⟩
    | some s' =>
      rw [hd, hd'] at h
      exact absurd h (b.propertiesLines_ne_cons s' _)
  | some s =>
    cases hd' : b'.description with
    | none =>
      rw [hd, hd'] at h
      exact absurd h.symm (b'.propertiesLines_ne_cons s _)
    | some s' =>
      rw [hd, hd'] at h
      obtain ⟨hline, hrest⟩ := List.cons.inj h
      exact ⟨congrArg some ((String.append_right_inj _).mp hline), hrest⟩

/-- The name and the label of a line are read back. -/
theorem eq_of_entry_eq {mark name name' label label' : String} (hname : Unseparated name)
    (hname' : Unseparated name')
    (h : mark ++ name ++ ": " ++ label = mark ++ name' ++ ": " ++ label') :
    name = name' ∧ label = label' := by
  simp only [String.append_assoc, String.append_right_inj] at h
  refine eq_of_separator_eq hname hname' ?_
  simpa only [String.append_assoc] using h

theorem tail_propertiesLines (b : Block) :
    b.propertiesLines.tail = b.properties.flatMap b.propertyLines := by
  unfold propertiesLines
  split
  · rename_i hempty
    rw [List.isEmpty_iff.mp hempty]
    rfl
  · rfl

/-- The properties of a block are read back. -/
theorem properties_eq (hb : b.Plain) (hb' : b'.Plain)
    (hdescription : b.description = b'.description)
    (h : b.propertiesLines = b'.propertiesLines) : b.properties = b'.properties := by
  have hlines : b'.propertyLines = b.propertyLines := by
    funext p
    rw [propertyLines, propertyLines, descriptionLines, descriptionLines, hdescription]
  have hflat : b.properties.flatMap b.propertyLines
      = b'.properties.flatMap b.propertyLines := by
    rw [← tail_propertiesLines, h, tail_propertiesLines, hlines]
  refine eq_of_flatMap_eq b.isGroup_propertyLines (fun p hp p' hp' heq => ?_) hflat
  obtain ⟨hname, hlabel⟩ := eq_of_entry_eq (hb.properties p hp).1.2 (hb'.properties p' hp').1.2
    (List.cons.inj heq).1
  exact Prod.ext hname hlabel

/-- **A plain block is read back** from its lines. -/
theorem eq_of_lines_eq (hb : b.Plain) (hb' : b'.Plain) (h : b.lines = b'.lines) : b = b' := by
  obtain ⟨hhead, hrest⟩ := List.cons.inj h
  obtain ⟨hname, hterm⟩ := eq_of_entry_eq hb.name.2 hb'.name.2 hhead
  obtain ⟨hdescription, hproperties⟩ := description_eq hrest
  have hproperties := properties_eq hb hb' hdescription hproperties
  cases b
  cases b'
  simp only at hname hterm hdescription hproperties
  rw [hname, hterm, hdescription, hproperties]

/-- A line of a plain block is one line. -/
theorem Plain.oneLine (hb : b.Plain) : ∀ l ∈ b.lines, OneLine l := by
  intro l hl
  rcases List.mem_cons.mp hl with rfl | hl
  · simp only [oneLine_append]
    exact ⟨⟨⟨by decide, hb.name.1⟩, by decide⟩, hb.term⟩
  · cases isBelow_of_mem hl with
    | description hs => exact oneLine_append.mpr ⟨by decide, hb.description _ hs⟩
    | properties => decide
    | property hp =>
      obtain ⟨hname, hlabel⟩ := hb.properties _ hp
      simp only [oneLine_append]
      exact ⟨⟨⟨by decide, hname.1⟩, by decide⟩, hlabel⟩
    | repeated hs => exact oneLine_append.mpr ⟨by decide, hb.description _ hs⟩

end Block

/-- **A plain document**: all that it shows stands on one line, and no name holds the
separator. -/
structure PlainDocument (locale namespaceName : String) (bs : List Block) : Prop where
  locale : OneLine locale
  namespaceName : OneLine namespaceName
  blocks : ∀ b ∈ bs, b.Plain

variable {locale locale' namespaceName namespaceName' : String} {bs bs' : List Block}

/-- The lines of a document. -/
def documentLines (locale namespaceName : String) (bs : List Block) : List String :=
  ("locale: " ++ locale) :: ("namespace: " ++ namespaceName) :: "declarations:"
    :: bs.flatMap Block.lines

theorem PlainDocument.oneLine (h : PlainDocument locale namespaceName bs) :
    ∀ l ∈ documentLines locale namespaceName bs, OneLine l := by
  intro l hl
  rcases List.mem_cons.mp hl with rfl | hl
  · exact oneLine_append.mpr ⟨by decide, h.locale⟩
  · rcases List.mem_cons.mp hl with rfl | hl
    · exact oneLine_append.mpr ⟨by decide, h.namespaceName⟩
    · rcases List.mem_cons.mp hl with rfl | hl
      · decide
      · obtain ⟨b, hb, hl⟩ := List.mem_flatMap.mp hl
        exact (h.blocks b hb).oneLine l hl

/-- **Plain documents are read back.** -/
theorem eq_of_document_eq (hplain : PlainDocument locale namespaceName bs)
    (hplain' : PlainDocument locale' namespaceName' bs')
    (h : document locale namespaceName bs = document locale' namespaceName' bs') :
    locale = locale' ∧ namespaceName = namespaceName' ∧ bs = bs' := by
  have hlines : documentLines locale namespaceName bs
      = documentLines locale' namespaceName' bs' :=
    eq_of_lines_eq hplain.oneLine hplain'.oneLine (List.cons_ne_nil _ _) (List.cons_ne_nil _ _)
      ((String.append_left_inj _).mp h)
  obtain ⟨hlocale, hlines⟩ := List.cons.inj hlines
  obtain ⟨hns, hlines⟩ := List.cons.inj hlines
  refine ⟨(String.append_right_inj _).mp hlocale, (String.append_right_inj _).mp hns, ?_⟩
  exact eq_of_flatMap_eq Block.isGroup_lines
    (fun b hb b' hb' => Block.eq_of_lines_eq (hplain.blocks b hb) (hplain'.blocks b' hb'))
    (List.cons.inj hlines).2

-- names with the separator do not tell where they end
example : document "en" "org.acme@1.0.0" [⟨"Person: tall", "A person", none, []⟩]
    = document "en" "org.acme@1.0.0" [⟨"Person", "tall: A person", none, []⟩] := by
  decide +kernel

end Vocabulary

/-- The documents of an index of one namespace. -/
theorem ExtractionIndex.vocabularies_singleton {es : List IndexEntry}
    (hnamed : ∀ e ∈ es, e.NamedByTexts) (ns locale : String) :
    ExtractionIndex.vocabularies ⟨[(.str ns, es)]⟩ locale
      = .ok [Vocabulary.document locale ns (Vocabulary.blocks es)] := by
  unfold ExtractionIndex.vocabularies
  rw [List.mapM_cons, Vocabulary.map_render_ofEntries hnamed]
  rfl

/-- **A document tells its vocabulary**, if it is plain: two indexes of one namespace each,
of which the same document is written, have the namespace and the blocks in common. -/
theorem ExtractionIndex.blocks_eq_of_vocabularies_eq {ns ns' locale locale' : String}
    {es es' : List IndexEntry} (hnamed : ∀ e ∈ es, e.NamedByTexts)
    (hnamed' : ∀ e ∈ es', e.NamedByTexts)
    (hplain : Vocabulary.PlainDocument locale ns (Vocabulary.blocks es))
    (hplain' : Vocabulary.PlainDocument locale' ns' (Vocabulary.blocks es'))
    (h : ExtractionIndex.vocabularies ⟨[(.str ns, es)]⟩ locale
      = ExtractionIndex.vocabularies ⟨[(.str ns', es')]⟩ locale') :
    locale = locale' ∧ ns = ns' ∧ Vocabulary.blocks es = Vocabulary.blocks es' := by
  rw [vocabularies_singleton hnamed, vocabularies_singleton hnamed'] at h
  exact Vocabulary.eq_of_document_eq hplain hplain' (List.cons.inj (Except.ok.inj h)).1

/-! ### People -/

namespace People

/-- A person with a property, labelled at once. -/
def person : List IndexEntry :=
  [⟨.str "Person", .str "", [label "A person", description "A human being"]⟩,
    ⟨.str "Person", .str "name", [label "Name: in full"]⟩]

/-- The same person, labelled twice, after a pet that loses its label. -/
def relabelledPerson : List IndexEntry :=
  [⟨.str "Pet", .str "", [label "A pet", ⟨.str "Term", none, []⟩]⟩,
    ⟨.str "Person", .str "name", [description "Name: in full"]⟩,
    ⟨.str "Person", .str "", [label "Somebody"]⟩,
    ⟨.str "Person", .str "", [description "A human being", label "A person"]⟩]

/-- What is written of the person. -/
def personBlock : Vocabulary.Block :=
  ⟨"Person", "A person", some "A human being", [("name", "Name: in full")]⟩

theorem plainDocument_personBlock :
    Vocabulary.PlainDocument "en" "org.acme@1.0.0" [personBlock] := by
  refine ⟨by decide, by decide, fun b hb => ?_⟩
  rw [List.mem_singleton.mp hb]
  exact ⟨by decide, by decide, by decide, by decide⟩

theorem blocks_eq_of_vocabularies_eq_person :
    (∀ e ∈ person, e.NamedByTexts) ∧ (∀ e ∈ relabelledPerson, e.NamedByTexts)
      ∧ Vocabulary.PlainDocument "en" "org.acme@1.0.0" (Vocabulary.blocks person)
      ∧ Vocabulary.PlainDocument "en" "org.acme@1.0.0" (Vocabulary.blocks relabelledPerson)
      ∧ Vocabulary.blocks person = Vocabulary.blocks relabelledPerson := by
  have hnamed : ∀ e ∈ person, e.NamedByTexts := by
    simp [person, IndexEntry.namedByTexts_text]
  have hnamed' : ∀ e ∈ relabelledPerson, e.NamedByTexts := by
    simp [relabelledPerson, IndexEntry.namedByTexts_text]
  have hplain : Vocabulary.PlainDocument "en" "org.acme@1.0.0" (Vocabulary.blocks person) := by
    rw [show Vocabulary.blocks person = [personBlock] by decide +kernel]
    exact plainDocument_personBlock
  have hplain' : Vocabulary.PlainDocument "en" "org.acme@1.0.0"
      (Vocabulary.blocks relabelledPerson) := by
    rw [show Vocabulary.blocks relabelledPerson = [personBlock] by decide +kernel]
    exact plainDocument_personBlock
  have hsame : ExtractionIndex.vocabularies ⟨[(.str "org.acme@1.0.0", person)]⟩ "en"
      = ExtractionIndex.vocabularies ⟨[(.str "org.acme@1.0.0", relabelledPerson)]⟩ "en" := by
    decide +kernel
  exact ⟨hnamed, hnamed', hplain, hplain',
    (ExtractionIndex.blocks_eq_of_vocabularies_eq hnamed hnamed' hplain hplain' hsame).2.2⟩

/-- A person and a pet. -/
def personAndPet : List IndexEntry :=
  [⟨.str "Person", .str "", [label "A person"]⟩, ⟨.str "Pet", .str "", [label "A pet"]⟩]

/-- A person with a label of two lines, the second of which passes for a pet. -/
def personPassingForPet : List IndexEntry :=
  [⟨.str "Person", .str "", [label "A person\n  - Pet: A pet"]⟩]

/-- **A line break in a label forges a declaration**: a person alone is written as a person and
a pet. -/
theorem blocks_ne_of_line_break :
    (∀ e ∈ personPassingForPet, e.NamedByTexts) ∧ (∀ e ∈ personAndPet, e.NamedByTexts)
      ∧ ExtractionIndex.vocabularies ⟨[(.str "org.acme@1.0.0", personPassingForPet)]⟩ "en"
        = ExtractionIndex.vocabularies ⟨[(.str "org.acme@1.0.0", personAndPet)]⟩ "en"
      ∧ Vocabulary.blocks personPassingForPet ≠ Vocabulary.blocks personAndPet := by
  refine ⟨?_, ?_, ?_, ?_⟩
  · simp [personPassingForPet, IndexEntry.namedByTexts_text]
  · simp [personAndPet, IndexEntry.namedByTexts_text]
  · decide +kernel
  · decide +kernel

end People

end DecoratorSets
