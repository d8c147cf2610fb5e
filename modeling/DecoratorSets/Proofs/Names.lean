import DecoratorSets.Namespace
import DecoratorSets.Proofs.Checked

/-!
# Names of types and namespaces

Names are compared loosely, but among texts that comparison is equality: a text is
the same as the equal text and nothing else (`Value.str_sameAs_iff`). What a name
says is read off its separators. A namespace is its name, and behind an `@` its version
if it has one, and neither has an `@` of its own (`Namespace.parse_eq_ok`); it can be read
if there is at most one `@` (`Namespace.parse_of_isWellFormed`). A short
name without dots is what follows the last dot of a type name, so such a type name
can be taken apart again (`splitTypeName_typeName`) and determines both its parts
(`typeName_inj`).
-/

namespace DecoratorSets

namespace Value

/-- **A text is the same as the equal text and nothing else.** -/
theorem str_sameAs_iff (s : String) (v : Value) : (Value.str s).sameAs v = true ↔ v = .str s := by
  cases v with
  | str t =>
    rw [sameAs_str, beq_iff_eq, Value.str.injEq]
    exact eq_comm
  | _ => simp [sameAs, sameScalar, asInt?]

/-- A value that is the same as a text is that text. -/
theorem sameAs_str_iff (v : Value) (s : String) : v.sameAs (.str s) = true ↔ v = .str s := by
  cases v with
  | str t => rw [sameAs_str, beq_iff_eq, Value.str.injEq]
  | _ => simp [sameAs, sameScalar, asInt?]

/-- No other value is the same as a text. -/
theorem sameAs_str_of_ne {v : Value} {s : String} (h : v ≠ .str s) : v.sameAs (.str s) = false :=
  Bool.eq_false_iff.mpr (mt (sameAs_str_iff v s).mp h)

/-- A text can name something. -/
@[simp] theorem asKey_str (s : String) : (Value.str s).asKey = .ok (.str s) := rfl

/-- What can name something is used as it is. -/
theorem asKey_eq_ok {v w : Value} : v.asKey = .ok w ↔ v.canName = true ∧ v = w := by
  unfold asKey
  by_cases h : v.canName = true
  · simp [h]
  · simp [h, misuse]

/-- A text is blank if it is empty. -/
theorem isBlank_str (s : String) : (Value.str s).isBlank = true ↔ s = "" :=
  beq_iff_eq

end Value

/-! ## Cutting a text in two -/

/-- What stands in front of the cut is the text up to the separator. -/
theorem cutAt_fst (separator : Char) (cs : List Char) :
    (cutAt separator cs).1 = cs.takeWhile (· ≠ separator) := by
  induction cs with
  | nil => rfl
  | cons c rest ih =>
    by_cases h : c = separator
    · simp [cutAt, h]
    · simp [cutAt, h, ih]

/-- A cut takes away one separator. -/
theorem count_cutAt_snd {separator : Char} {cs rest : List Char}
    (h : (cutAt separator cs).2 = some rest) :
    cs.count separator = rest.count separator + 1 := by
  have happ := cutAt_append separator cs
  rw [h] at happ
  rw [← happ, List.count_append, List.count_eq_zero_of_not_mem (not_mem_cutAt separator cs),
    Option.map_some, Option.getD_some, List.count_cons_self, Nat.zero_add]

/-- A text without separators stays in one piece. -/
theorem cutAt_of_not_mem {separator : Char} {cs : List Char} (h : separator ∉ cs) :
    cutAt separator cs = (cs, none) := by
  have hnone := (cutAt_eq_none_iff separator cs).mpr h
  have happ := cutAt_append separator cs
  rw [hnone] at happ
  exact Prod.ext ((List.append_nil _).symm.trans happ) hnone

/-- Cutting behind a prefix without separators cuts at the next separator. -/
theorem cutAt_append_cons {separator : Char} {cs rest : List Char} (h : separator ∉ cs) :
    cutAt separator (cs ++ separator :: rest) = (cs, some rest) := by
  induction cs with
  | nil => simp [cutAt]
  | cons c cs ih =>
    have hc : ¬ c = separator := fun e => h (e ▸ List.mem_cons_self)
    rw [List.cons_append, cutAt, if_neg hc,
      ih (fun hmem => h (List.mem_cons_of_mem c hmem))]

/-! ## Namespaces -/

/-- The name of a namespace: what stands in front of the `@`. -/
def bareName (s : String) : String := String.ofList (s.toList.takeWhile (· ≠ '@'))

/-- A namespace has at most one `@`. -/
def Namespace.IsWellFormed (s : String) : Prop := s.toList.count '@' ≤ 1

instance (s : String) : Decidable (Namespace.IsWellFormed s) :=
  inferInstanceAs (Decidable (_ ≤ _))

namespace Namespace

/-- What stands behind the name of a namespace. -/
def suffix : Option String → String
  | none => ""
  | some version => "@" ++ version

@[simp] theorem toList_suffix_none : (suffix none).toList = [] := rfl

@[simp] theorem toList_suffix_some (version : String) :
    (suffix (some version)).toList = '@' :: version.toList := by
  simp [suffix]

/-- **What a namespace is read from**: its name, and its version behind an `@` if it has
one. Neither has an `@` of its own. -/
structure ReadFrom (ns : Namespace) (s : String) : Prop where
  text : s = ns.name ++ suffix ns.version
  name : '@' ∉ ns.name.toList
  version : ∀ version ∈ ns.version, '@' ∉ version.toList

variable {s : String} {ns : Namespace}

theorem ReadFrom.toList (h : ns.ReadFrom s) :
    s.toList = ns.name.toList ++ (suffix ns.version).toList := by
  rw [h.text, String.toList_append]

/-- What is cut in two at the `@` is read from its two parts. -/
theorem readFrom_of_parse (h : parse s = .ok ns) : ns.ReadFrom s := by
  have happ := cutAt_append '@' s.toList
  have hname := not_mem_cutAt '@' s.toList
  unfold parse at h
  split at h
  · rename_i name hcut
    obtain rfl := Except.ok.inj h
    rw [hcut] at happ hname
    refine ⟨?_, by simpa using hname, fun _ hversion => absurd hversion (Option.not_mem_none _)⟩
    rw [← String.toList_inj, ← happ]
    simp [suffix]
  · rename_i name version hcut
    split at h
    · cases h
    · rename_i hversion
      obtain rfl := Except.ok.inj h
      rw [hcut] at happ hname
      refine ⟨?_, by simpa using hname, fun v hv => ?_⟩
      · rw [← String.toList_inj, ← happ]
        simp [suffix]
      · obtain rfl := Option.some.inj hv
        simpa using hversion

/-- The two parts that a namespace is read from are those that its text is cut into. -/
theorem ReadFrom.parse_eq (h : ns.ReadFrom s) : parse s = .ok ns := by
  obtain ⟨name, version⟩ := ns
  cases version with
  | none =>
    have hcut : cutAt '@' s.toList = (name.toList, none) := by
      rw [h.toList, toList_suffix_none, List.append_nil]
      exact cutAt_of_not_mem h.name
    unfold parse
    rw [hcut]
    dsimp only
    rw [String.ofList_toList]
  | some version =>
    have hcut : cutAt '@' s.toList = (name.toList, some version.toList) := by
      rw [h.toList, toList_suffix_some]
      exact cutAt_append_cons h.name
    have hversion : '@' ∉ version.toList := h.version version rfl
    unfold parse
    rw [hcut]
    dsimp only
    rw [if_neg (by simpa using hversion), String.ofList_toList, String.ofList_toList]

/-- **A namespace is read** exactly from its text. -/
theorem parse_eq_ok : parse s = .ok ns ↔ ns.ReadFrom s :=
  ⟨readFrom_of_parse, ReadFrom.parse_eq⟩

/-- **A namespace with at most one `@` can be read.** Its name is what stands in
front of the `@`. -/
theorem parse_of_isWellFormed (h : IsWellFormed s) :
    ∃ version, parse s = .ok ⟨bareName s, version⟩ := by
  have hname : String.ofList (cutAt '@' s.toList).1 = bareName s :=
    congrArg String.ofList (cutAt_fst '@' s.toList)
  unfold parse
  split
  · rename_i name hcut
    rw [hcut] at hname
    exact ⟨none, by rw [hname]⟩
  · rename_i name version hcut
    have hcount := count_cutAt_snd (congrArg Prod.snd hcut)
    have hzero : version.count '@' = 0 := by
      have hle : s.toList.count '@' ≤ 1 := h
      omega
    rw [hcut] at hname
    rw [if_neg (by simpa using List.count_eq_zero.mp hzero), hname]
    exact ⟨some (String.ofList version), rfl⟩

/-- A namespace that can be read has at most one `@`. -/
theorem isWellFormed_of_parse (h : parse s = .ok ns) : IsWellFormed s := by
  have hread := parse_eq_ok.mp h
  have hname : ns.name.toList.count '@' = 0 := List.count_eq_zero_of_not_mem hread.name
  show s.toList.count '@' ≤ 1
  rw [hread.toList, List.count_append, hname, Nat.zero_add]
  cases hversion : ns.version with
  | none => exact Nat.zero_le 1
  | some version =>
    have hzero := List.count_eq_zero_of_not_mem (hread.version version hversion)
    have hone : (suffix (some version)).toList.count '@' = 1 := by
      rw [toList_suffix_some, List.count_cons_self, hzero]
    exact Nat.le_of_eq hone

/-- What cannot be read is refused as a malformed namespace. -/
theorem eq_malformed_of_parse {e : Failure} (h : parse s = .error e) :
    e = .malformedNamespace s := by
  unfold parse at h
  split at h
  · cases h
  · split at h
    · exact (Except.error.inj h).symm
    · cases h

/-- **A namespace has a version** exactly if it has an `@`. -/
theorem version_eq_none_iff (h : parse s = .ok ns) : ns.version = none ↔ '@' ∉ s.toList := by
  have hread := parse_eq_ok.mp h
  rw [hread.toList]
  cases ns.version with
  | none => simpa using hread.name
  | some version => simp

/-- A namespace without a version is its own name. -/
theorem eq_of_parse_unversioned {name : String} (h : parse s = .ok ⟨name, none⟩) : name = s := by
  rw [(parse_eq_ok.mp h).text]
  exact String.append_empty.symm

/-- The name of a namespace is a namespace without a version. -/
theorem parse_name (h : parse s = .ok ns) : parse ns.name = .ok ⟨ns.name, none⟩ :=
  parse_eq_ok.mpr ⟨String.append_empty.symm, (parse_eq_ok.mp h).name,
    fun _ hversion => absurd hversion (Option.not_mem_none _)⟩

/-- The namespace of the files that the main theorems are tried on. -/
theorem parse_acme : parse "org.acme@1.0.0" = .ok ⟨"org.acme", some "1.0.0"⟩ := by
  decide +kernel

/-- The same namespace in its next version. -/
theorem parse_acme_next : parse "org.acme@2.0.0" = .ok ⟨"org.acme", some "2.0.0"⟩ := by
  decide +kernel

end Namespace

/-- What can be read is left with its name. -/
theorem unversioned_of_parse {s : String} {ns : Namespace} (h : Namespace.parse s = .ok ns) :
    unversioned s = .ok ns.name := by
  rw [unversioned, h, Checked.map_ok]

/-- A well-formed namespace without its version. -/
theorem unversioned_of_isWellFormed {s : String} (h : Namespace.IsWellFormed s) :
    unversioned s = .ok (bareName s) := by
  obtain ⟨version, hparse⟩ := Namespace.parse_of_isWellFormed h
  exact unversioned_of_parse hparse

/-! ## Type names -/

/-- The characters of a type name. -/
theorem toList_typeName (ns name : String) :
    (typeName ns name).toList = ns.toList ++ '.' :: name.toList := by
  simp [typeName]

/-- **A type name can be taken apart again**, where its short name has no dot. -/
theorem splitTypeName_typeName {ns name : String} (hns : ns ≠ "") (hname : '.' ∉ name.toList) :
    splitTypeName (typeName ns name) = .ok (ns, name) := by
  have hcut : cutAt '.' (typeName ns name).toList.reverse
      = (name.toList.reverse, some ns.toList.reverse) := by
    rw [toList_typeName, List.reverse_append, List.reverse_cons, List.append_assoc]
    exact cutAt_append_cons (by simpa using hname)
  have hne : ns.toList.reverse ≠ [] := by
    rw [ne_eq, List.reverse_eq_nil_iff, String.toList_eq_nil_iff]
    exact hns
  obtain ⟨c, front, hfront⟩ := List.exists_cons_of_ne_nil hne
  unfold splitTypeName
  rw [hcut, hfront]
  show Except.ok (String.ofList (c :: front).reverse, String.ofList name.toList.reverse.reverse)
    = .ok (ns, name)
  rw [← hfront, List.reverse_reverse, List.reverse_reverse, String.ofList_toList,
    String.ofList_toList]

/-- The parts of a type name that was taken apart make it up, and the short name
has no dot. -/
theorem splitTypeName_eq_ok {s ns name : String} (h : splitTypeName s = .ok (ns, name)) :
    s = typeName ns name ∧ ns ≠ "" ∧ '.' ∉ name.toList := by
  unfold splitTypeName at h
  split at h
  · rename_i short c front hcut
    obtain ⟨rfl, rfl⟩ := Prod.mk.inj (Except.ok.inj h)
    have happ := cutAt_append '.' s.toList.reverse
    rw [hcut, Option.map_some, Option.getD_some] at happ
    refine ⟨?_, ?_, ?_⟩
    · rw [← String.toList_inj, toList_typeName, String.toList_ofList, String.toList_ofList,
        ← List.reverse_inj, ← happ]
      simp
    · rw [ne_eq, ← String.toList_eq_nil_iff, String.toList_ofList]
      simp
    · have hnot := not_mem_cutAt '.' s.toList.reverse
      rw [hcut] at hnot
      simpa using hnot
  · cases h

/-- **The short name of a type name** is what was put behind the last dot. -/
theorem shortName_typeName (ns : String) {name : String} (h : '.' ∉ name.toList) :
    shortName (typeName ns name) = name := by
  unfold shortName
  rw [toList_typeName, List.reverse_append, List.reverse_cons, List.append_assoc,
    List.singleton_append, cutAt_append_cons (by simpa using h), List.reverse_reverse,
    String.ofList_toList]

/-- **A type name determines its parts**, where the short names have no dots. -/
theorem typeName_inj {ns ns' name name' : String} (h : '.' ∉ name.toList)
    (h' : '.' ∉ name'.toList) (heq : typeName ns name = typeName ns' name') :
    ns = ns' ∧ name = name' := by
  have hrev := congrArg (fun s : String => cutAt '.' s.toList.reverse) heq
  simp only [toList_typeName, List.reverse_append, List.reverse_cons, List.append_assoc] at hrev
  rw [List.singleton_append, List.singleton_append,
    cutAt_append_cons (by simpa using h), cutAt_append_cons (by simpa using h')] at hrev
  obtain ⟨hname, hns⟩ := Prod.mk.inj hrev
  exact ⟨String.toList_inj.mp (List.reverse_inj.mp (Option.some.inj hns)),
    String.toList_inj.mp (List.reverse_inj.mp hname)⟩

end DecoratorSets
