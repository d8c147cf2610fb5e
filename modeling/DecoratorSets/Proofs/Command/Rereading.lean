import DecoratorSets.Decoration.Registry
import DecoratorSets.Proofs.Metamodel.Rereading

/-!
# Reading command sets that were written

The reader of command sets is lenient: it takes whatever has items for a list, a blank
for a target, a bare argument, and any value at all for the type of a command. All of
that is settled when a set is read. What was read is written in one form only, and
that form is read as the set that was written
(`CommandSet.ofDocument_toDocument`).

The one field that the reader changes is the type of a command that is not known, which
is kept as text. Read again, that text must not be the word for a known type. Those
words are spelled in capitals, and the text of a value that is no text itself never is
(`Value.not_inCapitals_text`): it has a digit, a bracket, or a small letter.

A set that was read can therefore be handed on as it is or as its document. The two
ways into the decoration of a registry meet before the first check
(`CheckLevel.run_document`), so they give the same registry or fail alike
(`CommandSet.interchangeable_of_ofDocument`).
-/

namespace DecoratorSets

/-! ## Texts in capitals -/

/-- **A text in capitals** has no character but capital letters. -/
def InCapitals (s : String) : Prop := ∀ c ∈ s.toList, c.isUpper = true

instance (s : String) : Decidable (InCapitals s) :=
  decidable_of_iff (s.toList.all Char.isUpper = true) List.all_eq_true

@[simp] theorem inCapitals_append (s t : String) :
    InCapitals (s ++ t) ↔ InCapitals s ∧ InCapitals t := by
  unfold InCapitals
  rw [String.toList_append, List.forall_mem_append]

/-- A text with a character that is no capital letter. -/
theorem not_inCapitals_of_mem {s : String} {c : Char} (hc : c ∈ s.toList)
    (hupper : c.isUpper = false) : ¬ InCapitals s := fun h =>
  Bool.eq_false_iff.mp hupper (h c hc)

/-- A digit is no capital letter. -/
theorem isUpper_of_isDigit {c : Char} (h : c.isDigit = true) : c.isUpper = false := by
  have hdigit : c.val ≤ '9'.val := of_decide_eq_true (Bool.and_eq_true_iff.mp h).2
  refine Bool.eq_false_iff.mpr fun hupper => ?_
  have hletter : 'A'.val ≤ c.val := (of_decide_eq_true hupper).1
  exact absurd (UInt32.le_trans hletter hdigit) (by decide)

/-- A number in decimal is not in capitals. -/
theorem not_inCapitals_repr (n : Nat) : ¬ InCapitals n.repr := by
  obtain ⟨c, rest, hdigits⟩ := List.exists_cons_of_ne_nil (Nat.toDigits_ne_nil (n := n) (b := 10))
  have hc : c ∈ Nat.toDigits 10 n := hdigits ▸ List.mem_cons_self
  refine not_inCapitals_of_mem (Nat.toList_repr ▸ hc) ?_
  exact isUpper_of_isDigit (Nat.isDigit_of_mem_toDigits (by decide) (by decide) hc)

theorem not_inCapitals_toString (n : Int) : ¬ InCapitals (toString n) := by
  rw [Int.toString_eq_repr, Int.repr_eq_if]
  split
  · exact not_inCapitals_repr _
  · exact fun h => not_inCapitals_repr _ ((inCapitals_append _ _).mp h).2

namespace NumberForm

theorem not_inCapitals_exponentText (power : Int) : ¬ InCapitals (exponentText power) := by
  have hminus : ¬ InCapitals "e-" := by decide
  have hplus : ¬ InCapitals "e+" := by decide
  unfold exponentText
  split <;> simp [hminus, hplus]

theorem not_inCapitals_positional (digits : List Char) (power : Int) :
    ¬ InCapitals (positional digits power) := by
  have hpoint : ¬ InCapitals "." := by decide
  have hzero : ¬ InCapitals "0." := by decide
  unfold positional
  split <;> simp [hpoint, hzero]

/-- A double in a message has a point or an exponent, or is a word in small letters. -/
theorem not_inCapitals_write_plain (x : Binary64) : ¬ InCapitals (plain.write x) := by
  cases x with
  | nan => decide
  | infinite negative => cases negative <;> decide
  | finite negative mantissa exponent =>
    unfold write
    dsimp only
    split
    · simp [scientific, not_inCapitals_exponentText]
    · simp [not_inCapitals_positional]

end NumberForm

/-- The text of a moment has dashes. -/
theorem Moment.not_inCapitals_text (m : Moment) : ¬ InCapitals m.text := by
  have hdash : ¬ InCapitals "-" := by decide
  cases m <;> simp [Moment.text, Date.text, hdash]

namespace Value

theorem not_inCapitals_inspectPart {opening : String} (hopening : ¬ InCapitals opening)
    (around : List Label) (label : Option Label) (closing : String) (items : List String) :
    ¬ InCapitals (inspectPart around label opening closing items) := by
  unfold inspectPart
  split <;> simp [hopening]

/-- **The text of what is no text** is not in capitals. -/
theorem not_inCapitals_text {v : Value} (h : ∀ s, v ≠ .str s) : ¬ InCapitals v.text := by
  have hbrace : ¬ InCapitals "\x7b" := by decide
  cases v with
  | null => decide
  | bool b => cases b <;> decide
  | int n => exact not_inCapitals_toString n
  | num x => exact NumberForm.not_inCapitals_write_plain x
  | str s => exact absurd rfl (h s)
  | moment label m => exact m.not_inCapitals_text
  | bytes data =>
    refine not_inCapitals_of_mem (c := 'b') ?_ (by decide)
    show 'b' ∈ (quotedBytes data).toList
    simp [quotedBytes]
  | list label items =>
    exact not_inCapitals_inspectPart (by decide) [] label _ _
  | pair a b =>
    have hparen : ¬ InCapitals "(" := by decide
    show ¬ InCapitals (inspectWithin [] (.pair a b))
    simp [inspectWithin, hparen]
  | set label items =>
    cases items with
    | nil =>
      have hempty : ¬ InCapitals "set()" := by decide
      show ¬ InCapitals (inspectWithin [] (.set label []))
      rwa [inspectWithin]
    | cons x rest =>
      show ¬ InCapitals (inspectWithin [] (.set label (x :: rest)))
      simp [inspectWithin, hbrace]
  | object label ms =>
    exact not_inCapitals_inspectPart hbrace [] label _ _

end Value

/-! ## Types of commands -/

/-- A value that is not one of the two known words is kept. -/
theorem CommandType.ofValue_of_ne {v : Value} (hupsert : v ≠ .str "UPSERT")
    (happend : v ≠ .str "APPEND") : ofValue v = .other v := by
  unfold ofValue
  rw [if_neg hupsert, if_neg happend]

/-- **The type of a command is read as it was written.** -/
theorem Command.readType_toValue_readType (v : Value) :
    readType (readType v).toValue = readType v := by
  by_cases hupsert : v = .str "UPSERT"
  · subst hupsert
    rfl
  by_cases happend : v = .str "APPEND"
  · subst happend
    rfl
  have hread : readType v = .other (.str v.text) := by
    unfold readType
    rw [CommandType.ofValue_of_ne hupsert happend]
  have hunknown : ∀ s, InCapitals s → v ≠ .str s → Value.str v.text ≠ .str s := by
    intro s hs hv heq
    by_cases htext : ∃ t, v = .str t
    · obtain ⟨t, rfl⟩ := htext
      exact hv heq
    · refine Value.not_inCapitals_text (not_exists.mp htext) ?_
      rwa [Value.str.inj heq]
  rw [hread]
  show readType (.str v.text) = _
  unfold readType
  rw [CommandType.ofValue_of_ne (hunknown _ (by decide) hupsert) (hunknown _ (by decide) happend)]
  rfl

/-! ## Targets and references -/

namespace CommandTarget

/-- The fields of the document of a target. -/
def fields (t : CommandTarget) : List (String × Option Value) :=
  [(classKey, some (.str (commandClass "CommandTarget"))),
    ("namespace", t.namespaceName.ifPresent), ("declaration", t.declaration.ifPresent),
    ("property", t.property.ifPresent), ("properties", t.properties.map (Value.list none)),
    ("type", t.type.ifPresent)]

theorem toDocument_eq (t : CommandTarget) :
    t.toDocument = .object none (Members.ofFields t.fields) := by
  have hfront : [(Value.str classKey, Value.str (commandClass "CommandTarget"))]
      = Members.ofFields [(classKey, some (.str (commandClass "CommandTarget")))] := rfl
  unfold toDocument
  rw [hfront, Members.putSome_ofFields _ (by simp [classKey]),
    Members.putSome_ofFields _ (by simp [classKey]),
    Members.putSome_ofFields _ (by simp [classKey]),
    Members.putSome_ofFields _ (by simp [classKey]),
    Members.putSome_ofFields _ (by simp [classKey])]
  rfl

/-- **A target is read as it was written.** -/
theorem ofDocument_toDocument (t : CommandTarget) : ofDocument t.toDocument = .ok t := by
  have hproperties : readList? .ok ((Members.ofFields t.fields).field "properties")
      = .ok t.properties := by
    have hread : readList? .ok ((t.properties.map fun xs => .list none (xs.map id)).getD .null)
        = .ok t.properties :=
      readList?_map_same t.properties fun _ _ _ _ => rfl
    simpa [Members.field, fields, classKey] using hread
  unfold ofDocument
  simp only [toDocument_eq, Members.member_object, Checked.ok_bind, hproperties]
  simp [Members.field, fields, classKey]

end CommandTarget

/-- **A reference to a set is read as it was written.** -/
theorem CommandSetReference.ofDocument_toDocument (ref : CommandSetReference) :
    ofDocument ref.toDocument = .ok ref := rfl

/-! ## Commands -/

namespace Command

variable {c : Command}

/-- **A command as the reader leaves it**: what is kept of its decorator is unknown to the
reader, and its type is read again as what it is. -/
structure AsRead (c : Command) : Prop where
  decorator : Members.Extra Decorator.knownKeys c.decorator.extras
  type : readType c.type.toValue = c.type

theorem asRead_of_ofDocument {data : Value} (hdata : data.hasDistinctKeys = true)
    (h : ofDocument data = .ok c) : c.AsRead := by
  obtain ⟨type, -, h⟩ := Checked.bind_eq_ok.mp h
  obtain ⟨_, -, h⟩ := Checked.bind_eq_ok.mp h
  obtain ⟨target, -, h⟩ := Checked.bind_eq_ok.mp h
  obtain ⟨document, hdocument, h⟩ := Checked.bind_eq_ok.mp h
  obtain ⟨decorator, hdecorator, h⟩ := Checked.bind_eq_ok.mp h
  obtain rfl := Checked.pure_eq_ok.mp h
  obtain ⟨label, ms, rfl, hget⟩ := required_eq_ok.mp hdocument
  exact ⟨Decorator.extra_of_ofDocument (Value.hasDistinctKeys_of_get? hdata hget) hdecorator,
    readType_toValue_readType type⟩

/-- **A command is read as it was written**, if it has been read before. -/
theorem AsRead.ofDocument_toDocument (h : c.AsRead) : ofDocument c.toDocument = .ok c := by
  have htarget : c.target.toDocument.isBlank = false := by
    rw [CommandTarget.toDocument_eq]
    rfl
  have hdecorator : c.toDocument.required "decorator" = .ok c.decorator.toDocument := rfl
  show (do
    let target ← CommandTarget.ofDocument
      (if c.target.toDocument.isBlank then .object none [] else c.target.toDocument)
    let decorator ← Decorator.ofDocument (← c.toDocument.required "decorator")
    return Command.mk target decorator (readType c.type.toValue)) = .ok c
  rw [if_neg (by rw [htarget]; decide), c.target.ofDocument_toDocument, hdecorator, h.type]
  simp only [Checked.ok_bind, Decorator.ofDocument_toDocument h.decorator]
  rfl

end Command

/-! ## Command sets -/

namespace CommandSet

variable {data : Value} {set : CommandSet}

/-- **What a command set is read from.** -/
structure ReadFrom (set : CommandSet) (ms : Members) : Prop where
  name : (ms.get? "name").getD (.str "") = set.name
  version : (ms.get? "version").getD (.str "") = set.version
  commands : (∃ v items, ms.get? "commands" = some v ∧ v.items = .ok items
      ∧ items.mapM Command.ofDocument = .ok set.commands)
    ∨ (ms.get? "commands" = none ∧ set.commands = [])
  includes : readList? CommandSetReference.ofDocument (ms.field "includes") = .ok set.includes

theorem ofDocument_object {label : Option Label} {ms : Members} :
    ofDocument (.object label ms) = .ok set ↔ set.ReadFrom ms := by
  have hmember : ∀ key, (Value.object label ms).member? key = .ok (ms.get? key) := fun _ => rfl
  unfold ofDocument
  simp only [Members.member_object, hmember, Checked.ok_bind]
  cases hcommands : ms.get? "commands" with
  | none =>
    simp only [Checked.pure_ok, Checked.ok_bind, Checked.bind_eq_ok, Except.ok.injEq]
    constructor
    · rintro ⟨includes, hincludes, rfl⟩
      exact ⟨rfl, rfl, Or.inr ⟨hcommands, rfl⟩, hincludes⟩
    · intro h
      rcases h.commands with ⟨_, _, hget, -⟩ | ⟨-, hnil⟩
      · rw [hcommands] at hget
        cases hget
      · exact ⟨set.includes, h.includes, by rw [h.name, h.version, ← hnil]⟩
  | some v =>
    simp only [Checked.bind_eq_ok, Checked.pure_eq_ok]
    constructor
    · rintro ⟨items, hitems, commands, hmapM, includes, hincludes, rfl⟩
      exact ⟨rfl, rfl, Or.inl ⟨v, items, hcommands, hitems, hmapM⟩, hincludes⟩
    · intro h
      rcases h.commands with ⟨_, items, hget, hitems, hmapM⟩ | ⟨hget, -⟩
      · obtain rfl := Option.some.inj (hcommands.symm.trans hget)
        exact ⟨items, hitems, set.commands, hmapM, set.includes, h.includes,
          by rw [h.name, h.version]⟩
      · rw [hcommands] at hget
        cases hget

theorem ofDocument_eq_ok : ofDocument data = .ok set
    ↔ ∃ label ms, data = .object label ms ∧ set.ReadFrom ms := by
  constructor
  · intro h
    obtain ⟨_, hmember, -⟩ := Checked.bind_eq_ok.mp h
    obtain ⟨label, ms, rfl, -⟩ := member_eq_ok.mp hmember
    exact ⟨label, ms, rfl, ofDocument_object.mp h⟩
  · rintro ⟨label, ms, rfl, hset⟩
    exact ofDocument_object.mpr hset

/-- The fields of the document of a command set. -/
def fields (set : CommandSet) : List (String × Option Value) :=
  [(classKey, some (.str (commandClass "DecoratorCommandSet"))), ("name", some set.name),
    ("version", some set.version), ("includes", set.includes.map referencesDocument),
    ("commands", some (.list none (set.commands.map Command.toDocument)))]

theorem toDocument_eq (set : CommandSet) :
    set.toDocument = .object none (Members.ofFields set.fields) := by
  have hfront : [(Value.str classKey, Value.str (commandClass "DecoratorCommandSet")),
      (.str "name", set.name), (.str "version", set.version)]
      = Members.ofFields [(classKey, some (.str (commandClass "DecoratorCommandSet"))),
        ("name", some set.name), ("version", some set.version)] := rfl
  have hput : ∀ v ms, Members.put "commands" v ms = Members.putSome "commands" (some v) ms :=
    fun _ _ => rfl
  unfold toDocument
  rw [hfront, Members.putSome_ofFields _ (by simp [classKey]), hput,
    Members.putSome_ofFields _ (by simp [classKey])]
  rfl

/-- The commands of a set that was read are commands as the reader leaves them. -/
theorem forall_asRead_of_ofDocument (hdata : data.hasDistinctKeys = true)
    (h : ofDocument data = .ok set) : ∀ c ∈ set.commands, c.AsRead := by
  obtain ⟨label, ms, rfl, hset⟩ := ofDocument_eq_ok.mp h
  intro c hc
  rcases hset.commands with ⟨v, items, hget, hitems, hmapM⟩ | ⟨-, hnil⟩
  · obtain ⟨w, hw, hwc⟩ := Checked.exists_of_mapM_eq_ok hmapM hc
    exact Command.asRead_of_ofDocument (Value.hasDistinctKeys_of_mem_items
      (Value.hasDistinctKeys_of_get? hdata hget) hitems w hw) hwc
  · rw [hnil] at hc
    exact absurd hc List.not_mem_nil

/-- **A command set is read as it was written**, if its commands have been read before. -/
theorem ofDocument_toDocument (h : ∀ c ∈ set.commands, c.AsRead) :
    ofDocument set.toDocument = .ok set := by
  have hcommands : (set.commands.map Command.toDocument).mapM Command.ofDocument
      = .ok (set.commands.map id) :=
    Checked.mapM_map_eq_ok fun c hc => (h c hc).ofDocument_toDocument
  rw [List.map_id] at hcommands
  rw [toDocument_eq]
  refine ofDocument_object.mpr ⟨by simp [fields, classKey], by simp [fields, classKey],
    Or.inl ⟨.list none _, _, ?_, rfl, hcommands⟩, ?_⟩
  · simp [fields, classKey]
  · have hfield : (Members.ofFields set.fields).field "includes"
        = (set.includes.map referencesDocument).getD .null := by
      simp [Members.field, fields, classKey]
    rw [hfield]
    exact readList?_map_same set.includes fun _ _ ref _ => ref.ofDocument_toDocument

end CommandSet

/-! ## The two ways into a decoration -/

/-- A document that is read as a set is checked and read as that set is. -/
theorem CheckLevel.run_document {set : CommandSet}
    (h : CommandSet.ofDocument set.toDocument = .ok set) (level : CheckLevel) (r : Registry) :
    level.run r (.document set.toDocument) = level.run r (.built set) := by
  have hmembers : set.toDocument.toMembers = .ok (Members.ofFields set.fields) := by
    rw [CommandSet.toDocument_eq]
    rfl
  have hobject := set.toDocument_eq.symm
  have hpayload : (CommandSetSource.document set.toDocument).payload
      = (CommandSetSource.built set).payload := by
    show Value.object none <$> set.toDocument.toMembers = .ok set.toDocument
    rw [hmembers, Checked.map_ok, hobject]
  have hread : (CommandSetSource.document set.toDocument).read
      = (CommandSetSource.built set).read := by
    show (do CommandSet.ofDocument (.object none (← set.toDocument.toMembers))) = .ok set
    rw [hmembers, Checked.ok_bind, hobject, h]
  unfold run CommandSetSource.validate
  rw [hpayload, hread]

namespace CommandSet

/-- **A command set that was read and its document are interchangeable**: the document is
read as the set, and either decorates a registry in the same way. -/
theorem interchangeable_of_ofDocument {data : Value} {set : CommandSet}
    (hdata : data.hasDistinctKeys = true) (h : ofDocument data = .ok set) :
    ofDocument set.toDocument = .ok set
      ∧ ∀ (r : Registry) (level : CheckLevel),
        r.decorate (.document set.toDocument) level = r.decorate (.built set) level := by
  have hsame := ofDocument_toDocument (forall_asRead_of_ofDocument hdata h)
  refine ⟨hsame, fun r level => ?_⟩
  unfold Registry.decorate
  rw [level.run_document hsame]

/-- A document that leaves out what it can: a pair of commands, of which the first has a
number for a type, no target, and a decorator with a bare argument and a member that is
not known. The second has a text for its list of properties. -/
def lenientDocument : Value := .object none
  [("includes", ""),
    ("commands", .pair
      (.object none [("type", .int 5), ("decorator", .object none
        [("since", .int 2), ("arguments", .list none [.object none [("value", .bool true)]]),
          ("name", "Form")])])
      (.object none [("decorator", .object none [("name", "Term")]), ("type", "UPSERT"),
        ("target", .object none [("properties", "ab")])]))]

/-- The set that is read from it. -/
def lenientSet : CommandSet where
  name := ""
  version := ""
  commands :=
    [{ target := ⟨.null, .null, .null, none, .null⟩,
       decorator :=
        ⟨"Form", some [.literal .boolean (.bool true)], [("since", .int 2)]⟩,
       type := .other "5" },
      { target := ⟨.null, .null, .null, some ["a", "b"], .null⟩,
        decorator := ⟨"Term", none, []⟩,
        type := .upsert }]
  includes := some []

theorem interchangeable_of_ofDocument_lenient :
    lenientDocument.hasDistinctKeys = true ∧ ofDocument lenientDocument = .ok lenientSet
      ∧ ofDocument lenientSet.toDocument = .ok lenientSet
      ∧ (Registry.empty false).decorate (.document lenientSet.toDocument) ⟨true, true⟩
        = (Registry.empty false).decorate (.built lenientSet) ⟨true, true⟩ := by
  have hdata : lenientDocument.hasDistinctKeys = true := by
    decide +kernel
  have hset : ofDocument lenientDocument = .ok lenientSet := by
    decide +kernel
  obtain ⟨hsame, hdecorate⟩ := interchangeable_of_ofDocument hdata hset
  exact ⟨hdata, hset, hsame, hdecorate _ _⟩

end CommandSet

end DecoratorSets
