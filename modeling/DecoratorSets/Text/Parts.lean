/-!
# Parts of a text

A text is cut in two at the first occurrence of a separator, or into parts at all
of its occurrences. Main statements: cutting loses nothing, and what is in front
of the cut, as every part, holds no separator.
-/

namespace DecoratorSets

/-! ## The first occurrence -/

/-- The characters before the first occurrence of a separator, and those after
it if it occurs. -/
def cutAt (separator : Char) : List Char → List Char × Option (List Char)
  | [] => ([], none)
  | c :: rest =>
    if c = separator then ([], some rest)
    else (c :: (cutAt separator rest).1, (cutAt separator rest).2)

/-- Without a separator there is nothing to cut. -/
theorem cutAt_eq_none_iff (separator : Char) (cs : List Char) :
    (cutAt separator cs).2 = none ↔ separator ∉ cs := by
  induction cs with
  | nil => simp [cutAt]
  | cons c rest ih =>
    by_cases h : c = separator
    · simp [cutAt, h]
    · simp [cutAt, h, ih, Ne.symm h]

/-- The part in front of the cut holds no separator. -/
theorem not_mem_cutAt (separator : Char) (cs : List Char) :
    separator ∉ (cutAt separator cs).1 := by
  induction cs with
  | nil => simp [cutAt]
  | cons c rest ih =>
    by_cases h : c = separator
    · simp [cutAt, h]
    · simp [cutAt, h, ih, Ne.symm h]

/-- Cutting loses nothing. -/
theorem cutAt_append (separator : Char) (cs : List Char) :
    (cutAt separator cs).1
      ++ ((cutAt separator cs).2.map (separator :: ·)).getD [] = cs := by
  induction cs with
  | nil => simp [cutAt]
  | cons c rest ih =>
    by_cases h : c = separator
    · simp [cutAt, h]
    · simp [cutAt, h, ih]

/-! ## All occurrences -/

/-- The parts of some characters between the occurrences of a separator. There is
one part more than there are separators. -/
def partsAt (separator : Char) : List Char → List (List Char)
  | [] => [[]]
  | c :: rest =>
    if c = separator then [] :: partsAt separator rest
    else
      match partsAt separator rest with
      | part :: others => (c :: part) :: others
      | [] => [[c]]

/-- There is at least one part. -/
theorem partsAt_ne_nil (separator : Char) (cs : List Char) : partsAt separator cs ≠ [] := by
  cases cs with
  | nil => simp [partsAt]
  | cons c rest =>
    simp only [partsAt]
    split
    · simp
    · split <;> simp

/-- No part holds a separator. -/
theorem not_mem_of_mem_partsAt {separator : Char} {cs part : List Char}
    (h : part ∈ partsAt separator cs) : separator ∉ part := by
  induction cs generalizing part with
  | nil => simp_all [partsAt]
  | cons c rest ih =>
    by_cases hc : c = separator
    · simp only [partsAt, hc, if_true, List.mem_cons] at h
      rcases h with rfl | h
      · simp
      · exact ih h
    · simp only [partsAt, hc, if_false] at h
      split at h
      · rename_i first others heq
        rcases List.mem_cons.1 h with rfl | h
        · simp [Ne.symm hc, ih (heq ▸ List.mem_cons_self)]
        · exact ih (heq ▸ List.mem_cons_of_mem first h)
      · simp_all [Ne.symm hc]

end DecoratorSets
