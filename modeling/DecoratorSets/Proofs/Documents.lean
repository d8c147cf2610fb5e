import DecoratorSets.Json.Reader
import DecoratorSets.Proofs.Checked
import DecoratorSets.Proofs.Members

/-!
# Documents read from text

A text in JSON has less to say than a document can hold: no moments, bytes, pairs or sets,
and no keys but texts (`Value.IsJson`). Where a text gives an object the same name twice,
the second value takes the place of the first. So the keys of an object that is read are
different texts (`Json.isJson_of_read`), and a document that is read has distinct keys
throughout (`Json.hasDistinctKeys_of_read`).
-/

namespace DecoratorSets

/-! ## Objects with texts as keys -/

namespace Members

/-- **The keys of the members are different texts.** -/
structure HasTextKeys (ms : Members) : Prop where
  texts : ∀ key ∈ ms.keys, ∃ s, key = .str s
  nodup : ms.keys.Nodup

variable {ms : Members}

theorem HasTextKeys.distinct (h : ms.HasTextKeys) : ms.Distinct := by
  have hkeys : ms.keys.Pairwise fun a b => a.sameKey b = false := by
    refine List.Pairwise.imp_of_mem (fun {a b} ha _ hne => ?_) h.nodup
    obtain ⟨s, rfl⟩ := h.texts a ha
    exact Bool.eq_false_iff.mpr fun hsame => hne ((Value.str_sameKey_iff b s).mp hsame).symm
  exact List.pairwise_map.mp hkeys

/-- Setting a member whose key is a text keeps the keys different texts. -/
theorem HasTextKeys.put (h : ms.HasTextKeys) (key : String) (v : Value) :
    (ms.put (.str key) v).HasTextKeys := by
  have hkeys := ms.keys_put (.str key) v
  split at hkeys
  · exact ⟨hkeys ▸ h.texts, hkeys ▸ h.nodup⟩
  · rename_i hnew
    have hnot : Value.str key ∉ ms.keys := fun hmem =>
      hnew (List.any_eq_true.mpr ⟨_, hmem, (Value.sameKey_str_iff _ key).mpr rfl⟩)
    constructor
    · rw [hkeys, List.forall_mem_append]
      exact ⟨h.texts, List.forall_mem_singleton.mpr ⟨key, rfl⟩⟩
    · rw [hkeys]
      refine List.nodup_append.mpr ⟨h.nodup, List.pairwise_singleton _ _, ?_⟩
      rintro a ha b hb rfl
      exact hnot (List.mem_singleton.mp hb ▸ ha)

/-- A member of an object in which a member was set is the new one or was there. -/
theorem eq_or_mem_of_mem_put {k v : Value} {m : Value × Value} (h : m ∈ ms.put k v) :
    m.2 = v ∨ m ∈ ms := by
  induction ms with
  | nil => exact Or.inl (List.mem_singleton.mp h ▸ rfl)
  | cons m' rest ih =>
    obtain ⟨k', w⟩ := m'
    rw [put] at h
    split at h
    · rcases List.mem_cons.mp h with rfl | hrest
      · exact Or.inl rfl
      · exact Or.inr (List.mem_cons_of_mem _ hrest)
    · rcases List.mem_cons.mp h with rfl | hrest
      · exact Or.inr List.mem_cons_self
      · exact (ih hrest).imp_right (List.mem_cons_of_mem _)

end Members

/-! ## Documents in JSON -/

namespace Value

/-- **A document that JSON can hold**: words, numbers and texts, lists of such documents,
and objects of them whose keys are different texts. -/
inductive IsJson : Value → Prop where
  | null : IsJson .null
  | bool (b : Bool) : IsJson (.bool b)
  | int (n : Int) : IsJson (.int n)
  | num (x : Binary64) : IsJson (.num x)
  | str (s : String) : IsJson (.str s)
  | list {label : Option Label} {items : List Value} (hitems : ∀ v ∈ items, IsJson v) :
    IsJson (.list label items)
  | object {label : Option Label} {ms : Members} (hkeys : ms.HasTextKeys)
    (hmembers : ∀ m ∈ ms, IsJson m.2) : IsJson (.object label ms)

/-- The members of an object in JSON. -/
theorem IsJson.members {label : Option Label} {ms : Members} (h : (Value.object label ms).IsJson) :
    ms.HasTextKeys ∧ ∀ m ∈ ms, m.2.IsJson := by
  cases h with
  | object hkeys hmembers => exact ⟨hkeys, hmembers⟩

/-- The items of a list in JSON. -/
theorem IsJson.items {label : Option Label} {items : List Value}
    (h : (Value.list label items).IsJson) : ∀ v ∈ items, v.IsJson := by
  cases h with
  | list hitems => exact hitems

/-- Setting a member of an object in JSON. -/
theorem IsJson.put {label : Option Label} {ms : Members} {v : Value}
    (h : (Value.object label ms).IsJson) (key : String) (hv : v.IsJson) :
    (Value.object label (ms.put (.str key) v)).IsJson := by
  obtain ⟨hkeys, hmembers⟩ := h.members
  refine .object (hkeys.put key v) fun m hm => ?_
  rcases Members.eq_or_mem_of_mem_put hm with heq | hold
  · exact heq ▸ hv
  · exact hmembers m hold

/-- **A document in JSON has distinct keys.** -/
theorem IsJson.hasDistinctKeys {v : Value} (h : v.IsJson) : v.hasDistinctKeys = true := by
  induction h with
  | list _ ih => exact (hasDistinctKeys_list _ _).mpr ih
  | object hkeys _ ih =>
    refine (hasDistinctKeys_object _ _).mpr ⟨hkeys.distinct, fun m hm => ⟨?_, ih m hm⟩⟩
    obtain ⟨s, hs⟩ := hkeys.texts m.1 (List.mem_map_of_mem hm)
    rw [hs]
    rfl
  | _ => rfl

end Value

/-! ## Reading -/

namespace Json

/-- A number is an integer or another number. -/
theorem isJson_of_readUnsigned {negative : Bool} {cs rest : List Char} {v : Value}
    (h : readUnsigned negative cs = .ok (v, rest)) : v.IsJson := by
  unfold readUnsigned at h
  -- how many digits the whole part has does not matter
  extract_lets whole at h
  clear_value whole
  dsimp only at h
  split at h
  · cases h
  · split at h
    · cases h
      exact .num _
    · split at h
      · obtain ⟨w, hw, heq⟩ := Checked.map_eq_ok.mp h
        cases heq
        unfold integerOf at hw
        split at hw
        · cases hw
        · cases hw
          exact .int _
      · cases h
        exact .num _

/-- The words are null, truth values and numbers. -/
theorem isJson_of_mem_words : ∀ word ∈ words, word.2.IsJson := by
  unfold words
  simp only [List.forall_mem_cons]
  exact ⟨.null, .bool _, .bool _, .num _, .num _, .num _, fun _ h => absurd h List.not_mem_nil⟩

/-- A word or a number has no parts. -/
theorem isJson_of_readPlain {cs rest : List Char} {v : Value}
    (h : readPlain cs = .ok (v, rest)) : v.IsJson := by
  unfold readPlain at h
  split at h
  · rename_i reading hword
    obtain ⟨word, hmem, hreading⟩ := List.exists_of_findSome?_eq_some hword
    obtain ⟨rest', -, rfl⟩ := Option.map_eq_some_iff.mp hreading
    cases h
    exact isJson_of_mem_words word hmem
  · split at h
    · exact isJson_of_readUnsigned h
    · exact isJson_of_readUnsigned h

/-- **Each part of a text that is read is a document in JSON**, whatever was read before
it. -/
theorem isJson_of_reading (fuel : Nat) :
    (∀ cs v rest, readValue fuel cs = .ok (v, rest) → v.IsJson)
      ∧ (∀ seen cs v rest, (∀ w ∈ seen, w.IsJson) →
        readItems fuel seen cs = .ok (v, rest) → v.IsJson)
      ∧ (∀ seen cs v rest, (Value.object none seen).IsJson →
        readMembers fuel seen cs = .ok (v, rest) → v.IsJson) := by
  induction fuel with
  | zero => exact ⟨nofun, nofun, nofun⟩
  | succ fuel ih =>
    obtain ⟨ihValue, ihItems, ihMembers⟩ := ih
    have hempty : (Value.object none []).IsJson :=
      .object ⟨nofun, List.nodup_nil⟩ fun _ hm => absurd hm List.not_mem_nil
    refine ⟨?_, ?_, ?_⟩
    · intro cs v rest h
      unfold readValue at h
      split at h
      · obtain ⟨⟨s, rest'⟩, -, heq⟩ := Checked.map_eq_ok.mp h
        cases heq
        exact .str s
      · split at h
        · cases h
          exact .list fun _ hw => absurd hw List.not_mem_nil
        · exact ihItems _ _ _ _ (fun _ hw => absurd hw List.not_mem_nil) h
      · split at h
        · cases h
          exact hempty
        · exact ihMembers _ _ _ _ hempty h
      · exact isJson_of_readPlain h
    · intro seen cs v rest hseen h
      unfold readItems at h
      split at h
      · cases h
      · rename_i item rest' hitem
        have hall : ∀ w ∈ item :: seen, w.IsJson :=
          List.forall_mem_cons.mpr ⟨ihValue _ _ _ hitem, hseen⟩
        split at h
        · exact ihItems _ _ _ _ hall h
        · cases h
          exact .list fun w hw => hall w (List.mem_reverse.mp hw)
        · cases h
    · intro seen cs v rest hseen h
      unfold readMembers at h
      split at h
      · split at h
        · cases h
        · split at h
          · split at h
            · cases h
            · rename_i value rest' hvalue
              have hput := fun key : String => hseen.put key (ihValue _ _ _ hvalue)
              split at h
              · exact ihMembers _ _ _ _ (hput _) h
              · cases h
                exact hput _
              · cases h
          · cases h
      · cases h

/-- **What is read from a text is a document in JSON.** -/
theorem isJson_of_read {text : String} {v : Value} (h : read text = .ok v) : v.IsJson := by
  unfold read at h
  dsimp only at h
  split at h
  · rename_i w rest hread
    split at h
    · cases h
      exact (isJson_of_reading _).1 _ _ _ hread
    · cases h
  · cases h

/-- **What is read from a text has distinct keys.** -/
theorem hasDistinctKeys_of_read {text : String} {v : Value} (h : read text = .ok v) :
    v.hasDistinctKeys = true :=
  (isJson_of_read h).hasDistinctKeys

end Json

end DecoratorSets
