import Scaffold.Failure
import Scaffold.Pattern.Meaning
import Scaffold.Proofs.Pattern.Scan

namespace Scaffold.Pattern

open ClassScan (Plain)

/-- The bytes that brackets and backslashes are encoded by. -/
def isHeeded (b : UInt8) : Bool := b == 91 || b == 92

theorem mem_bytes {s : String} {c : Char} {b : UInt8} (hc : String.utf8EncodeChar c = [b])
    (h : c ∈ s.toList) : b ∈ s.toByteArray.data.toList := by
  have hs : s.toByteArray = (s.toList.flatMap String.utf8EncodeChar).toByteArray := by
    conv_lhs => rw [← String.ofList_toList (s := s), String.toByteArray_ofList]
    rfl
  rw [hs, List.toList_data_toByteArray]
  exact List.mem_flatMap.mpr ⟨c, h, by simp [hc]⟩

/-- Names are looked through by their bytes, which are there without decoding. -/
theorem forall_plain {names : List String}
    (h : (names.all fun n => n.toByteArray.data.toList.all fun b => !isHeeded b) = true) :
    ∀ n ∈ names, Plain n.toList := by
  intro n hn c hc
  have hbytes := List.all_eq_true.mp (List.all_eq_true.mp h n hn)
  constructor
  · rintro rfl
    exact absurd (hbytes _ (mem_bytes (b := 91) (by decide) hc)) (by decide)
  · rintro rfl
    exact absurd (hbytes _ (mem_bytes (b := 92) (by decide) hc)) (by decide)

theorem plain_scriptNames : ∀ n ∈ scriptNames, Plain n.toList := forall_plain (by decide +kernel)

theorem plain_categoryNames : ∀ n ∈ categoryNames, Plain n.toList := forall_plain (by decide)

theorem plain_booleanNames : ∀ n ∈ booleanNames, Plain n.toList := forall_plain (by decide)

theorem plain_valueNames :
    ∀ n ∈ ageNames ++ graphemeBreakNames ++ wordBreakNames ++ sentenceBreakNames, Plain n.toList :=
  forall_plain (by decide)

theorem plain_valuedProperties : ∀ e ∈ valuedProperties,
    (∀ n ∈ e.1, Plain n.toList) ∧ ∀ n ∈ e.2, Plain n.toList := by
  have hnames : ∀ n ∈ valuedProperties.flatMap Prod.fst, Plain n.toList := forall_plain (by decide)
  have hvalues := plain_valueNames
  simp only [List.forall_mem_append] at hvalues
  obtain ⟨⟨⟨hage, hgrapheme⟩, hword⟩, hsentence⟩ := hvalues
  intro e he
  refine ⟨fun n hn => hnames n (List.mem_flatMap.mpr ⟨e, he, hn⟩), ?_⟩
  simp only [valuedProperties, List.mem_cons, List.not_mem_nil, or_false] at he
  rcases he with rfl | rfl | rfl | rfl | rfl | rfl | rfl
  · exact plain_categoryNames
  · exact plain_scriptNames
  · exact plain_scriptNames
  · exact hage
  · exact hgrapheme
  · exact hword
  · exact hsentence

/-- Small letters are made of capital letters only. -/
theorem toLower_eq_iff {c d : Char} (hd : d = '[' ∨ d = '\\') : c.toLower = d ↔ c = d := by
  have hval : d.val.toNat = 91 ∨ d.val.toNat = 92 := by
    rcases hd with rfl | rfl
    · exact .inl rfl
    · exact .inr rfl
  by_cases hupper : c.val ≥ 'A'.val ∧ c.val ≤ 'Z'.val
  · have hc : c.toLower.val = c.val + ('a'.val - 'A'.val) := congrArg Char.val (dif_pos hupper)
    simp only [ge_iff_le, UInt32.le_iff_toNat_le, Char.reduceVal, UInt32.reduceToNat] at hupper
    constructor
    · rintro rfl
      have hshift : ('a'.val - 'A'.val).toNat = 32 := rfl
      rw [hc, UInt32.toNat_add, hshift] at hval
      omega
    · rintro rfl
      omega
  · rw [show c.toLower = c from dif_neg hupper]

theorem mem_nameChars_iff {d : Char} (hd : d = '[' ∨ d = '\\') (cs : List Char) :
    d ∈ nameChars cs ↔ d ∈ cs := by
  have hkept : (d.toNat < 0x80 && d ≠ ' ' && d ≠ '_' && d ≠ '-') = true := by
    rcases hd with rfl | rfl <;> decide
  rw [nameChars, List.mem_map]
  constructor
  · rintro ⟨c, hc, hlower⟩
    exact (toLower_eq_iff hd).mp hlower ▸ List.mem_of_mem_filter hc
  · intro h
    exact ⟨d, List.mem_filter.mpr ⟨h, hkept⟩, (toLower_eq_iff hd).mpr rfl⟩

/-- A name in loose form has its brackets and backslashes still. -/
theorem mem_looseName_iff {d : Char} (hd : d = '[' ∨ d = '\\') (name : String) :
    d ∈ looseName name ↔ d ∈ name.toList := by
  unfold looseName
  split
  · next i s rest hname =>
    rw [hname]
    split
    · next hprefix =>
      have hi : d ≠ i := by
        rintro rfl
        rcases hd with rfl | rfl <;> exact absurd hprefix.1 (by decide)
      have hs : d ≠ s := by
        rintro rfl
        rcases hd with rfl | rfl <;> exact absurd hprefix.2 (by decide)
      rw [List.mem_cons, List.mem_cons, or_iff_right hi, or_iff_right hs, ← mem_nameChars_iff hd rest]
      dsimp only
      split
      · next hkept =>
        rw [hkept]
        rcases hd with rfl | rfl <;> decide
      · exact Iff.rfl
    · exact mem_nameChars_iff hd _
  · exact mem_nameChars_iff hd _

theorem plain_looseName_iff (name : String) : Plain (looseName name) ↔ Plain name.toList := by
  have hplain (cs : List Char) : Plain cs ↔ '[' ∉ cs ∧ '\\' ∉ cs := by
    constructor
    · exact fun h => ⟨fun hc => (h _ hc).1 rfl, fun hc => (h _ hc).2 rfl⟩
    · rintro ⟨hbracket, hbackslash⟩ c hc
      exact ⟨fun h => hbracket (h ▸ hc), fun h => hbackslash (h ▸ hc)⟩
  rw [hplain, hplain, mem_looseName_iff (.inl rfl), mem_looseName_iff (.inr rfl)]

/-- A name that is among plain names is plain. -/
theorem plain_of_isAmong {name : String} {names : List String} (hnames : ∀ n ∈ names, Plain n.toList)
    (h : isAmong (looseName name) names = true) : Plain name.toList := by
  obtain ⟨n, hn, heq⟩ := List.any_eq_true.mp h
  rw [beq_iff_eq] at heq
  rw [← plain_looseName_iff, ← heq, plain_looseName_iff]
  exact hnames n hn

theorem eq_of_splitAt? {mark cs before after : List Char}
    (h : Text.splitAt? mark cs = some (before, after)) : cs = before ++ mark ++ after := by
  induction cs generalizing before with
  | nil => cases h
  | cons c rest ih =>
    unfold Text.splitAt? at h
    split at h
    · next hmark =>
      obtain ⟨tail, htail⟩ := List.isPrefixOf_iff_prefix.mp hmark
      cases h
      rw [← htail, List.drop_left, List.nil_append]
    · obtain ⟨⟨b, a⟩, hrest, heq⟩ := Option.map_eq_some_iff.mp h
      cases heq
      rw [ih hrest]
      rfl

theorem plain_of_checkNamed {name : String} (h : checkNamed (looseName name) = .ok ()) :
    Plain name.toList := by
  unfold checkNamed at h
  dsimp only at h
  split at h
  · next hboolean =>
    rw [Bool.and_eq_true] at hboolean
    exact plain_of_isAmong plain_booleanNames hboolean.2
  split at h
  · cases h
  split at h
  · next hvalue =>
    exact plain_of_isAmong (List.forall_mem_append.mpr ⟨plain_categoryNames, plain_scriptNames⟩) hvalue
  split at h <;> cases h

theorem plain_of_checkValued {name value : String}
    (h : checkValued (looseName name) (looseName value) = .ok ()) :
    Plain name.toList ∧ Plain value.toList := by
  unfold checkValued at h
  split at h
  · next names values hfind =>
    obtain ⟨hnames, hvalues⟩ := plain_valuedProperties _ (List.mem_of_find?_eq_some hfind)
    have hname : isAmong (looseName name) names = true := by simpa using List.find?_some hfind
    split at h
    · next hvalue => exact ⟨plain_of_isAmong hnames hname, plain_of_isAmong hvalues hvalue⟩
    · cases h
  · split at h <;> cases h

/-- The text that names a property which there is, is plain. -/
theorem plain_of_check_propertyOf {cs : List Char} (h : (propertyOf cs).check = .ok ()) : Plain cs := by
  have hvalued {mark before after : List Char} (hmark : Plain mark)
      (hsplit : Text.splitAt? mark cs = some (before, after))
      (hcheck : (Property.valued (String.ofList before) (String.ofList after)).check = .ok ()) :
      Plain cs := by
    obtain ⟨hname, hvalue⟩ := plain_of_checkValued hcheck
    rw [String.toList_ofList] at hname hvalue
    rw [eq_of_splitAt? hsplit]
    exact (hname.append hmark).append hvalue
  unfold propertyOf at h
  split at h
  · next hsplit => exact hvalued (by decide) hsplit h
  split at h
  · next hsplit => exact hvalued (by decide) hsplit h
  split at h
  · next hsplit => exact hvalued (by decide) hsplit h
  · have hname := plain_of_checkNamed h
    rwa [String.toList_ofList] at hname

/-- The property that an atom asks for, if it does. -/
def Atom.properties : Atom → List Property
  | property _ p => [p]
  | _ => []

mutual

/-- The properties that a class asks for. -/
def ClassSet.properties : ClassSet → List Property
  | .property _ p => [p]
  | .bracketed _ set => set.properties
  | .union items => propertiesOf items
  | .operation _ left right => left.properties ++ right.properties
  | _ => []

/-- The properties that several classes ask for. -/
def ClassSet.propertiesOf : List ClassSet → List Property
  | [] => []
  | set :: rest => set.properties ++ propertiesOf rest

end

mutual

/-- The properties that a pattern asks for. -/
def Ast.properties : Ast → List Property
  | .atom a => a.properties
  | .bracket _ set => set.properties
  | .flags _ => []
  | .repetition _ _ body => body.properties
  | .group _ _ body => body.properties
  | .sequence items => propertiesOf items
  | .choice branches => propertiesOf branches

/-- The properties that several patterns ask for. -/
def Ast.propertiesOf : List Ast → List Property
  | [] => []
  | a :: rest => a.properties ++ propertiesOf rest

end

theorem ClassSet.propertiesOf_eq (items : List ClassSet) :
    propertiesOf items = items.flatMap properties := by
  induction items with
  | nil => rfl
  | cons set rest ih => rw [propertiesOf, ih, List.flatMap_cons]

theorem Ast.propertiesOf_eq (items : List Ast) : propertiesOf items = items.flatMap properties := by
  induction items with
  | nil => rfl
  | cons a rest ih => rw [propertiesOf, ih, List.flatMap_cons]

/-- Whether there are all these properties. -/
def Known (ps : List Property) : Prop := ∀ p ∈ ps, p.check = .ok ()

theorem Known.nil : Known [] := List.forall_mem_nil _

theorem known_append {ps qs : List Property} : Known (ps ++ qs) ↔ Known ps ∧ Known qs :=
  List.forall_mem_append

theorem known_flatMap {α : Type} {items : List α} {f : α → List Property} :
    Known (items.flatMap f) ↔ ∀ item ∈ items, Known (f item) := by
  constructor
  · exact fun h item hi p hp => h p (List.mem_flatMap.mpr ⟨item, hi, hp⟩)
  · intro h p hp
    obtain ⟨item, hi, hp⟩ := List.mem_flatMap.mp hp
    exact h item hi p hp

theorem known_of_checkProperty {mode : Mode} {p : Property} (h : checkProperty mode p = .ok ()) :
    p.check = .ok () := by
  unfold checkProperty at h
  split at h
  · exact h
  · cases h

mutual

theorem known_of_checkClass {mode : Mode} :
    ∀ {set : ClassSet}, checkClass mode set = .ok () → Known set.properties
  | .literal _, _ | .range .., _ | .named .., _ | .shorthand .., _ => Known.nil
  | .property _ p, h => List.forall_mem_singleton.mpr (known_of_checkProperty h)
  | .bracketed _ set, h => by
    obtain ⟨⟨⟩, hset, -⟩ := exists_of_bind_eq_ok h
    rw [ClassSet.properties]
    exact known_of_checkClass hset
  | .union items, h => known_of_checkClasses h
  | .operation _ left right, h => by
    obtain ⟨⟨⟩, hleft, hright⟩ := exists_of_bind_eq_ok h
    exact known_append.mpr ⟨known_of_checkClass hleft, known_of_checkClass hright⟩

theorem known_of_checkClasses {mode : Mode} :
    ∀ {items : List ClassSet}, checkClasses mode items = .ok () →
      Known (ClassSet.propertiesOf items)
  | [], _ => Known.nil
  | set :: rest, h => by
    obtain ⟨⟨⟩, hset, hrest⟩ := exists_of_bind_eq_ok h
    exact known_append.mpr ⟨known_of_checkClass hset, known_of_checkClasses hrest⟩

end

theorem known_of_checkAtom {mode : Mode} {a : Atom} (h : checkAtom mode a = .ok ()) :
    Known a.properties := by
  cases a with
  | property negated p => exact List.forall_mem_singleton.mpr (known_of_checkProperty h)
  | literal | dot | assertion | shorthand => exact Known.nil

mutual

/-- A pattern that means something asks for properties that there are. -/
theorem known_of_checkIn {mode after : Mode} :
    ∀ {a : Ast}, checkIn mode a = .ok after → Known a.properties
  | .atom a, h => by
    obtain ⟨⟨⟩, hatom, -⟩ := exists_of_bind_eq_ok h
    exact known_of_checkAtom hatom
  | .bracket _ set, h => by
    obtain ⟨⟨⟩, hset, -⟩ := exists_of_bind_eq_ok h
    exact known_of_checkClass hset
  | .flags _, _ => Known.nil
  | .repetition _ _ body, h => by
    rw [checkIn] at h
    rw [Ast.properties]
    exact known_of_checkIn h
  | .group _ _ body, h => by
    obtain ⟨m, hbody, -⟩ := exists_of_bind_eq_ok h
    rw [Ast.properties]
    exact known_of_checkIn hbody
  | .sequence items, h => known_of_checkAllIn h
  | .choice branches, h => known_of_checkAllIn h

theorem known_of_checkAllIn {mode after : Mode} :
    ∀ {items : List Ast}, checkAllIn mode items = .ok after → Known (Ast.propertiesOf items)
  | [], _ => Known.nil
  | a :: rest, h => by
    obtain ⟨m, ha, hrest⟩ := exists_of_bind_eq_ok h
    exact known_append.mpr ⟨known_of_checkIn ha, known_of_checkAllIn hrest⟩

end

theorem exists_known_of_check [SizeLimit] {pattern : String} (h : check pattern = .ok ()) :
    ∃ ast, read pattern = .ok ast ∧ Known ast.properties := by
  obtain ⟨ast, hread, h⟩ := exists_of_bind_eq_ok h
  obtain ⟨after, hmeaning, -⟩ := exists_of_bind_eq_ok h
  exact ⟨ast, hread, known_of_checkIn hmeaning⟩

end Scaffold.Pattern
