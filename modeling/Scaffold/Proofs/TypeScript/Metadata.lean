import Scaffold.Proofs.TypeScript.ObjectLiteral
import Scaffold.Source.TypeScript

namespace Scaffold

open ObjectLiteral (Value Reads readObject? readValue? readEntry? isKey)

/-- The fields that are present, with their names. -/
def presentFields {α : Type} (fields : List (String × Option α)) : List (String × α) :=
  fields.filterMap fun (name, value) => value.map (name, ·)

section PresentFields

variable {α β : Type} {name : String} {value : Option α} {fields : List (String × Option α)}

theorem presentFields_cons (name : String) (value : Option α) (fields : List (String × Option α)) :
    presentFields ((name, value) :: fields) = (value.map (name, ·)).toList ++ presentFields fields := by
  cases value <;> rfl

@[simp] theorem presentFields_nil : presentFields ([] : List (String × Option α)) = [] := rfl

/-- The names of the fields that are present. -/
theorem map_fst_presentFields (fields : List (String × Option α)) :
    (presentFields fields).map Prod.fst =
      ((fields.map fun (name, value) => (name, value.isSome)).filter Prod.snd).map Prod.fst := by
  induction fields with
  | nil => rfl
  | cons field fields ih =>
    obtain ⟨name, value⟩ := field
    rw [presentFields_cons, List.map_append, ih]
    cases value <;> rfl

/-- A present field is found under its name, and an absent one is not found. -/
theorem lookup_presentFields (h : (fields.map Prod.fst).Nodup) (name : String) :
    (presentFields fields).lookup name = (fields.lookup name).join := by
  induction fields with
  | nil => rfl
  | cons field fields ih =>
    obtain ⟨key, value⟩ := field
    rw [List.map_cons, List.nodup_cons] at h
    rw [presentFields_cons, List.lookup_cons]
    by_cases hname : name = key
    · subst hname
      have hrest : (presentFields fields).lookup name = none := by
        rw [ih h.2, List.lookup_eq_none_iff.mpr]
        · rfl
        · intro field hfield
          have hne : name ≠ field.1 := by
            rintro rfl
            exact h.1 (List.mem_map.mpr ⟨field, hfield, rfl⟩)
          simpa using hne
      cases value <;> simp [hrest]
    · have hne : (name == key) = false := beq_eq_false_iff_ne.mpr hname
      cases value <;> simp [hne, List.lookup_cons, ih h.2]

/-- Fields that correspond one by one leave fields that correspond one by one. -/
theorem forall₂_presentFields {R : String → α → β → Prop} {fields : List (String × Option α)}
    {fields' : List (String × Option β)}
    (h : List.Forall₂ (fun f g => f.1 = g.1 ∧ Option.Rel (R f.1) f.2 g.2) fields fields') :
    List.Forall₂ (fun f g => f.1 = g.1 ∧ R f.1 f.2 g.2) (presentFields fields) (presentFields fields') := by
  induction h with
  | nil => exact .nil
  | @cons f g fields fields' hfield _ ih =>
    obtain ⟨name, value⟩ := f
    obtain ⟨name', value'⟩ := g
    obtain ⟨rfl, hvalue⟩ := hfield
    rw [presentFields_cons, presentFields_cons]
    cases hvalue with
    | none => exact ih
    | some hsome => exact .cons ⟨rfl, hsome⟩ ih

end PresentFields

/-- What the metadata of a parameter say. -/
structure Metadata where
  typeName : String
  description : String
  constraints : Constraints
deriving DecidableEq

/-- The constraints as metadata show them: a list of no values is none. -/
def Constraints.echoed (c : Constraints) : Constraints := { c with allowed := c.alternatives }

/-- Whether the bounds are numbers that can be written. -/
def Constraints.HasFiniteBounds (c : Constraints) : Prop :=
  (∀ x ∈ c.minimum, x.isFinite = true) ∧ ∀ x ∈ c.maximum, x.isFinite = true

/-- The names of the constraints that are present, in the order of their declaration. -/
def Constraints.presentNames (c : Constraints) : List String :=
  ([("minLength", c.minLength.isSome), ("maxLength", c.maxLength.isSome),
    ("pattern", c.pattern.isSome), ("minimum", c.minimum.isSome), ("maximum", c.maximum.isSome),
    ("enum", c.alternatives.isSome), ("default", c.default.isSome),
    ("required", c.required.isSome)].filter Prod.snd).map Prod.fst

namespace ObjectLiteral.Value

def text? : Value → Option String
  | text s => some s
  | _ => none

def texts? : Value → Option (List String)
  | texts values => some values
  | _ => none

def flag? : Value → Option Bool
  | flag b => some b
  | _ => none

/-- The length that a number is: a whole number of 64 bits without sign. -/
def length? : Value → Option UInt64
  | number n =>
    match n.toJson? with
    | some (.natural n) => some n
    | _ => none
  | _ => none

/-- The bound that a number is. -/
def bound? : Value → Option Binary64
  | number n => some n.toBinary64
  | _ => none

/-- The default that a value is. -/
def default? : Value → Option DefaultValue
  | flag b => some (.bool b)
  | number n => n.toJson?.map .number
  | text s => some (.string s)
  | texts _ => none

end ObjectLiteral.Value

/-- The value of a field that may be absent. It must not be of the wrong kind. -/
def Metadata.field? {α : Type} (kind : Value → Option α) (entries : List (String × Value))
    (name : String) : Option (Option α) :=
  match entries.lookup name with
  | none => some none
  | some v => (kind v).map some

/-- What the entries of an object say, taken by their keys. -/
def Metadata.ofEntries? (entries : List (String × Value)) : Option Metadata := do
  let typeName ← (← field? Value.text? entries "type")
  let description ← (← field? Value.text? entries "description")
  let minLength ← field? Value.length? entries "minLength"
  let maxLength ← field? Value.length? entries "maxLength"
  let pattern ← field? Value.text? entries "pattern"
  let minimum ← field? Value.bound? entries "minimum"
  let maximum ← field? Value.bound? entries "maximum"
  let allowed ← field? Value.texts? entries "enum"
  let default ← field? Value.default? entries "default"
  let required ← field? Value.flag? entries "required"
  return ⟨typeName, description,
    { minLength, maxLength, pattern, minimum, maximum, allowed, default, required }⟩

/-- Whether a value is read back from what it is shown as. -/
def Readable {α : Type} (kind : Value → Option α) (shown : α → String) (x : α) : Prop :=
  ∃ v, Reads readValue? (shown x).toList v ∧ kind v = some x

/-- A field of the metadata and the value that is read from it, both or neither present. The value is of
the field's kind and is the field's value. -/
structure Echoes {α : Type} (name : String) (kind : Value → Option α) (shown : α → String)
    (field : Option α) (v : Option Value) : Prop where
  reads : Option.Rel (fun s v => Reads readEntry? (name.toList ++ (':' :: ' ' :: s.toList)) (name, v))
    (field.map shown) v
  isSome_eq : v.isSome = field.isSome
  kind_eq : v.elim (some none) (fun v => (kind v).map some) = some field

section Echoes

variable {α : Type} {name : String} {kind : Value → Option α} {shown : α → String} {field : Option α}

theorem exists_echoes (field : Option α) (name : String) (hname : isKey name.toList = true)
    (h : ∀ x ∈ field, Readable kind shown x) : ∃ v, Echoes name kind shown field v := by
  cases field with
  | none => exact ⟨none, .none, rfl, rfl⟩
  | some x =>
    obtain ⟨v, hreads, hkind⟩ := h x rfl
    refine ⟨some v, .some (ObjectLiteral.reads_entry hname hreads), rfl, ?_⟩
    rw [Option.elim_some, hkind, Option.map_some]

theorem Echoes.field?_eq {v : Option Value} (h : Echoes name kind shown field v)
    {entries : List (String × Value)} (hlookup : entries.lookup name = v) :
    Metadata.field? kind entries name = some field := by
  have hkind := h.kind_eq
  rw [Metadata.field?, hlookup]
  cases v <;> exact hkind

end Echoes

theorem reads_number {word : List Char} (hword : NumberText word) {n : SignedNumeral}
    (h : SignedNumeral.read? word = some n) : Reads readValue? word (.number n) := by
  have hne (b : Bool) : word ≠ (boolText b).toList := by
    rintro rfl
    have hnone : SignedNumeral.read? (boolText b).toList = none := by cases b <;> rfl
    rw [hnone] at h
    cases h
  have htrue : word ≠ "true".toList := hne true
  have hfalse : word ≠ "false".toList := hne false
  apply ObjectLiteral.reads_word hword
  rw [Value.ofWord?, if_neg htrue, if_neg hfalse, h, Option.map_some]

theorem readable_flag (b : Bool) : Readable Value.flag? boolText b := by
  refine ⟨.flag b, ObjectLiteral.reads_word ?_ ?_, rfl⟩
  · cases b <;> exact numberText_of_all (by decide)
  · cases b <;> rfl

theorem readable_text (s : String) : Readable Value.text? Text.quote s :=
  ⟨.text s, ObjectLiteral.reads_text s, rfl⟩

theorem readable_texts (values : List String) :
    Readable Value.texts? (fun vs => "[" ++ ", ".intercalate (quoteAll vs) ++ "]") values :=
  ⟨.texts values, ObjectLiteral.reads_texts values, rfl⟩

theorem readable_length (n : UInt64) : Readable Value.length? (fun n => toString n.toNat) n := by
  obtain ⟨m, hread, hjson⟩ := (JsonNumber.natural n).exists_read?_toJson?
  have htext : (toString n.toNat).toList = (JsonNumber.natural n).text.toList := by
    rw [JsonNumber.text, String.toList_ofList]
    exact Nat.toList_repr
  refine ⟨.number m, ?_, ?_⟩
  · rw [htext]
    exact reads_number (JsonNumber.numberText_text _) hread
  · rw [Value.length?, hjson]

theorem readable_bound {x : Binary64} (h : x.isFinite = true) : Readable Value.bound? Binary64.text x := by
  obtain ⟨n, hread, hvalue⟩ := x.exists_read?_text h
  exact ⟨.number n, reads_number x.numberText_text hread, congrArg some hvalue⟩

theorem readable_default (v : DefaultValue) : Readable Value.default? TypeScript.echoDefault v := by
  cases v with
  | bool b =>
    obtain ⟨w, hreads, hkind⟩ := readable_flag b
    refine ⟨w, hreads, ?_⟩
    cases w <;> cases hkind
    rfl
  | number n =>
    obtain ⟨m, hread, hjson⟩ := n.exists_read?_toJson?
    exact ⟨.number m, reads_number n.numberText_text hread, by rw [Value.default?, hjson, Option.map_some]⟩
  | string s => exact ⟨.text s, ObjectLiteral.reads_text s, rfl⟩

namespace TypeScript

/-- The fields of the metadata, with what each shows. -/
def shownFields (p : ParamDecl) : List (String × Option String) :=
  let c := p.constraints
  [("type", some (Text.quote p.type.name)), ("description", some (Text.quote p.description)),
    ("minLength", c.minLength.map fun n => toString n.toNat),
    ("maxLength", c.maxLength.map fun n => toString n.toNat), ("pattern", c.pattern.map Text.quote),
    ("minimum", c.minimum.map Binary64.text), ("maximum", c.maximum.map Binary64.text),
    ("enum", c.alternatives.map fun vs => "[" ++ ", ".intercalate (quoteAll vs) ++ "]"),
    ("default", c.default.map echoDefault), ("required", c.required.map boolText)]

/-- The metadata are the present fields between braces. -/
theorem metadataEntry_eq (p : ParamDecl) :
    (metadataEntry p).toList = '\x7b' :: ' ' :: (List.intercalate [',', ' ']
      ((presentFields (shownFields p)).map fun (k, v) => k.toList ++ (':' :: ' ' :: v.toList)) ++
        [' ', '\x7d']) := by
  have hentries : ("type", Text.quote p.type.name) :: ("description", Text.quote p.description) ::
      constraintEchoes p.constraints = presentFields (shownFields p) := by
    simp only [shownFields, presentFields_cons, constraintEchoes, Option.map_map, Function.comp_def,
      Option.map_some, Option.toList_some, List.singleton_append, List.append_assoc,
      presentFields_nil, List.append_nil]
  have hpieces (entries : List (String × String)) :
      (entries.map fun (k, v) => k ++ ": " ++ v).map String.toList =
        entries.map fun (k, v) => k.toList ++ (':' :: ' ' :: v.toList) := by
    rw [List.map_map]
    refine List.map_congr_left fun entry _ => ?_
    simp only [Function.comp_def, String.toList_append, List.append_assoc]
    rfl
  unfold metadataEntry
  rw [hentries, String.toList_append, String.toList_append, String.toList_intercalate, hpieces]
  rfl

/-- The metadata of a declaration with finite bounds are an object literal. Its keys are those of the
present constraints behind type and description, and its entries say what they say. -/
theorem exists_readObject?_metadataEntry (p : ParamDecl) (h : p.constraints.HasFiniteBounds) :
    ∃ entries, readObject? (metadataEntry p).toList = some entries ∧
      entries.map Prod.fst = "type" :: "description" :: p.constraints.presentNames ∧
      Metadata.ofEntries? entries = some ⟨p.type.name, p.description, p.constraints.echoed⟩ := by
  obtain ⟨typeName, htypeName⟩ := exists_echoes (some p.type.name) "type" rfl
    fun s _ => readable_text s
  obtain ⟨description, hdescription⟩ := exists_echoes (some p.description) "description" rfl
    fun s _ => readable_text s
  obtain ⟨minLength, hminLength⟩ := exists_echoes p.constraints.minLength "minLength" rfl
    fun n _ => readable_length n
  obtain ⟨maxLength, hmaxLength⟩ := exists_echoes p.constraints.maxLength "maxLength" rfl
    fun n _ => readable_length n
  obtain ⟨pattern, hpattern⟩ := exists_echoes p.constraints.pattern "pattern" rfl
    fun s _ => readable_text s
  obtain ⟨minimum, hminimum⟩ := exists_echoes p.constraints.minimum "minimum" rfl
    fun x hx => readable_bound (h.1 x hx)
  obtain ⟨maximum, hmaximum⟩ := exists_echoes p.constraints.maximum "maximum" rfl
    fun x hx => readable_bound (h.2 x hx)
  obtain ⟨allowed, hallowed⟩ := exists_echoes p.constraints.alternatives "enum" rfl
    fun vs _ => readable_texts vs
  obtain ⟨default, hdefault⟩ := exists_echoes p.constraints.default "default" rfl
    fun v _ => readable_default v
  obtain ⟨required, hrequired⟩ := exists_echoes p.constraints.required "required" rfl
    fun b _ => readable_flag b
  -- The absent fields are kept as well, so that the names of all fields are known and different.
  let fields : List (String × Option Value) :=
    [("type", typeName), ("description", description), ("minLength", minLength),
      ("maxLength", maxLength), ("pattern", pattern), ("minimum", minimum), ("maximum", maximum),
      ("enum", allowed), ("default", default), ("required", required)]
  have hnames : (fields.map Prod.fst).Nodup := by
    show ["type", "description", "minLength", "maxLength", "pattern", "minimum", "maximum", "enum",
      "default", "required"].Nodup
    decide
  have hlookup (name : String) : (presentFields fields).lookup name = (fields.lookup name).join :=
    lookup_presentFields hnames name
  have hfields : List.Forall₂ (fun f g => f.1 = g.1 ∧
      Option.Rel (fun s v => Reads readEntry? (f.1.toList ++ (':' :: ' ' :: s.toList)) (f.1, v)) f.2 g.2)
      (shownFields p) fields :=
    .cons ⟨rfl, htypeName.reads⟩ (.cons ⟨rfl, hdescription.reads⟩ (.cons ⟨rfl, hminLength.reads⟩
      (.cons ⟨rfl, hmaxLength.reads⟩ (.cons ⟨rfl, hpattern.reads⟩ (.cons ⟨rfl, hminimum.reads⟩
        (.cons ⟨rfl, hmaximum.reads⟩ (.cons ⟨rfl, hallowed.reads⟩ (.cons ⟨rfl, hdefault.reads⟩
          (.cons ⟨rfl, hrequired.reads⟩ .nil)))))))))
  refine ⟨presentFields fields, ?_, ?_, ?_⟩
  · rw [metadataEntry_eq]
    apply ObjectLiteral.readObject?_intercalate
    rw [List.forall₂_map_left_iff]
    refine (forall₂_presentFields (R := fun name s v => Reads readEntry?
      (name.toList ++ (':' :: ' ' :: s.toList)) (name, v)) hfields).imp ?_
    rintro ⟨name, s⟩ ⟨name', v⟩ ⟨rfl, hreads⟩
    exact hreads
  · rw [map_fst_presentFields]
    simp only [fields, List.map_cons, List.map_nil, htypeName.isSome_eq, hdescription.isSome_eq,
      hminLength.isSome_eq, hmaxLength.isSome_eq, hpattern.isSome_eq, hminimum.isSome_eq, hmaximum.isSome_eq,
      hallowed.isSome_eq, hdefault.isSome_eq, hrequired.isSome_eq]
    rfl
  · simp only [Metadata.ofEntries?, htypeName.field?_eq (hlookup "type"),
      hdescription.field?_eq (hlookup "description"), hminLength.field?_eq (hlookup "minLength"),
      hmaxLength.field?_eq (hlookup "maxLength"), hpattern.field?_eq (hlookup "pattern"),
      hminimum.field?_eq (hlookup "minimum"), hmaximum.field?_eq (hlookup "maximum"),
      hallowed.field?_eq (hlookup "enum"), hdefault.field?_eq (hlookup "default"),
      hrequired.field?_eq (hlookup "required")]
    rfl

/-- Registration metadata can be read back. With finite bounds they are an object literal that has a key
for the type, for the description and for each present constraint, in this order and no other one, and
whose values are those of the parameter. So parameters with the same metadata agree in all of this. -/
theorem metadata_readable (p : Parameter) (h : (p.constraints.getD {}).HasFiniteBounds) :
    (∃ entries, readObject? (metadataEntry (declare p)).toList = some entries ∧
      entries.map Prod.fst = "type" :: "description" :: (p.constraints.getD {}).presentNames ∧
      Metadata.ofEntries? entries =
        some ⟨p.type.name, p.description, (p.constraints.getD {}).echoed⟩) ∧
    ∀ q : Parameter, (q.constraints.getD {}).HasFiniteBounds →
      metadataEntry (declare q) = metadataEntry (declare p) →
        q.type = p.type ∧ q.description = p.description ∧
          (q.constraints.getD {}).echoed = (p.constraints.getD {}).echoed := by
  obtain ⟨entries, hread, hkeys, hentries⟩ := exists_readObject?_metadataEntry (declare p) h
  refine ⟨⟨entries, hread, hkeys, hentries⟩, ?_⟩
  intro q hq heq
  obtain ⟨entries', hread', -, hentries'⟩ := exists_readObject?_metadataEntry (declare q) hq
  obtain rfl : entries' = entries := by
    rw [heq, hread] at hread'
    exact (Option.some.inj hread').symm
  have hsame := Option.some.inj (hentries'.symm.trans hentries)
  obtain ⟨hname, hdescription, hconstraints⟩ := Metadata.mk.inj hsame
  refine ⟨?_, hdescription, hconstraints⟩
  have htype : q.type.name = p.type.name := hname
  rw [← ParamType.ofName_name q.type, htype, ParamType.ofName_name]

/-- A description, a value and a default that look like entries are no entries. -/
theorem metadata_readable_imitation :
    ∃ entries, readObject? (metadataEntry (declare {
        name := "unit"
        type := .enum
        description := "\", required: false, a: \""
        constraints := some {
          minimum := some (.finite true .zero)
          allowed := some ["], default: 5", "\u2028"]
          default := some (.string "], default: 5") } })).toList = some entries ∧
      entries.map Prod.fst = ["type", "description", "minimum", "enum", "default"] := by
  obtain ⟨⟨entries, hread, hkeys, -⟩, -⟩ := metadata_readable {
    name := "unit"
    type := .enum
    description := "\", required: false, a: \""
    constraints := some {
      minimum := some (.finite true .zero)
      allowed := some ["], default: 5", "\u2028"]
      default := some (.string "], default: 5") } }
    ⟨fun x hx => Option.some.inj hx ▸ rfl, fun x hx => nomatch hx⟩
  exact ⟨entries, hread, hkeys⟩

end TypeScript

end Scaffold
