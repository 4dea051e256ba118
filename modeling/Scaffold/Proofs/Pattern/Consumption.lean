import Mathlib.Data.List.TakeWhile
import Scaffold.Proofs.Pattern.Known

/-!
What the readers of patterns consume. Where no comment hides text from them, every piece of a pattern is
text that leaves no class open: an escape takes what stands behind its backslash, a class ends with a
bracket, and everything else is plain.
-/

namespace Scaffold.Pattern

open ClassScan (Plain Even Closed Leaves)

variable {ignoreSpace : Bool} {cs rest : Input}

theorem plain_of_isBlank {c : Char} (h : Text.isBlank c = true) : c ≠ '[' ∧ c ≠ '\\' := by
  constructor
  · rintro rfl
    exact absurd h (by decide)
  · rintro rfl
    exact absurd h (by decide)

theorem leaves_skipComments (hcs : '#' ∉ cs) : Leaves Plain cs (skipComments false cs) := by
  induction cs with
  | nil => exact .refl .nil
  | cons c rest ih =>
    rw [List.mem_cons, not_or] at hcs
    unfold skipComments
    simp only [Bool.false_eq_true, if_false]
    split
    · next hblank => exact .cons_plain (plain_of_isBlank hblank) (ih hcs.2)
    · rw [if_neg (Ne.symm hcs.1)]
      exact .refl .nil

theorem leaves_skipSpace (ignoreSpace : Bool) (hcs : '#' ∉ cs) : Leaves Plain cs (skipSpace ignoreSpace cs) := by
  unfold skipSpace
  split
  · exact leaves_skipComments hcs
  · exact .refl .nil

/-- A reader that passes over blanks first may be looked at behind them. -/
theorem leaves_of_skipSpace (ignoreSpace : Bool) (hcs : '#' ∉ cs)
    (h : '#' ∉ skipSpace ignoreSpace cs → Leaves Plain (skipSpace ignoreSpace cs) rest) :
    Leaves Plain cs rest :=
  have hskip := leaves_skipSpace ignoreSpace hcs
  hskip.trans .append (h (hskip.not_mem hcs))

theorem leaves_dropWhile_isBlank (cs : Input) : Leaves Plain cs (cs.dropWhile Text.isBlank) :=
  ⟨cs.takeWhile Text.isBlank, List.takeWhile_append_dropWhile.symm,
    fun _ hc => plain_of_isBlank (List.mem_takeWhile_imp hc)⟩

/-- A character that is read as something is plain if the two that are not plain are read as nothing. -/
theorem plain_of_eq_some {α : Type} {f : Char → Option α} (hopen : f '[' = none) (hbackslash : f '\\' = none)
    {c : Char} {a : α} (h : f c = some a) : c ≠ '[' ∧ c ≠ '\\' := by
  constructor
  · rintro rfl
    rw [hopen] at h
    cases h
  · rintro rfl
    rw [hbackslash] at h
    cases h

theorem plain_of_hexValue? {c : Char} {d : Nat} (h : hexValue? c = some d) : c ≠ '[' ∧ c ≠ '\\' :=
  plain_of_eq_some (by decide) (by decide) h

theorem leaves_readHexDigits {count before n : Nat}
    (h : readHexDigits ignoreSpace count before cs = .ok (n, rest)) (hcs : '#' ∉ cs) :
    Leaves Plain cs rest := by
  induction count generalizing before cs with
  | zero =>
    cases h
    exact .refl .nil
  | succ count ih =>
    cases cs with
    | nil => cases h
    | cons c tail =>
      rw [List.mem_cons, not_or] at hcs
      unfold readHexDigits at h
      split at h
      · next d hd =>
        exact .cons_plain (plain_of_hexValue? hd) (leaves_of_skipSpace ignoreSpace hcs.2 (ih h))
      · cases h

theorem leaves_readHexBraces {fuel n : Nat} {before : Option Nat}
    (h : readHexBraces ignoreSpace fuel before cs = .ok (n, rest)) (hcs : '#' ∉ cs) :
    Leaves Plain cs rest := by
  induction fuel generalizing before cs with
  | zero => cases h
  | succ fuel ih =>
    -- Blanks are skipped first, so the rest of the proof is about what stands behind them.
    refine leaves_of_skipSpace ignoreSpace hcs fun hds => ?_
    unfold readHexBraces at h
    generalize skipSpace ignoreSpace cs = ds at h hds
    cases ds with
    | nil => cases h
    | cons c tail =>
      rw [List.mem_cons, not_or] at hds
      dsimp only at h
      split at h
      · next hbrace =>
        split at h
        · cases h
        · cases h
          exact .cons_plain (by rw [hbrace]; decide) (leaves_skipSpace ignoreSpace hds.2)
      · split at h
        · next d hd => exact .cons_plain (plain_of_hexValue? hd) (ih h hds.2)
        · cases h

theorem leaves_readHex {count : Nat} {a : Atom} (h : readHex ignoreSpace count cs = .ok (a, rest))
    (hcs : '#' ∉ cs) : Leaves Plain cs rest := by
  refine leaves_of_skipSpace ignoreSpace hcs fun hds => ?_
  unfold readHex at h
  generalize skipSpace ignoreSpace cs = ds at h hds
  split at h
  · cases h
  · rw [List.mem_cons, not_or] at hds
    obtain ⟨⟨n, after⟩, hbraces, h⟩ := exists_of_bind_eq_ok h
    obtain ⟨l, -, h⟩ := exists_of_bind_eq_ok h
    cases h
    exact .cons_plain (by decide) (leaves_readHexBraces hbraces hds.2)
  · obtain ⟨⟨n, after⟩, hdigits, h⟩ := exists_of_bind_eq_ok h
    obtain ⟨l, -, h⟩ := exists_of_bind_eq_ok h
    cases h
    exact leaves_readHexDigits hdigits hds

/-- Text between braces is consumed with its blanks. -/
theorem leaves_readBraced {fuel : Nat} {text : List Char}
    (h : readBraced ignoreSpace fuel cs = .ok (text, rest)) (hcs : '#' ∉ cs) (htext : Plain text) :
    Leaves Plain cs rest := by
  induction fuel generalizing cs text with
  | zero => cases h
  | succ fuel ih =>
    refine leaves_of_skipSpace ignoreSpace hcs fun hds => ?_
    unfold readBraced at h
    generalize skipSpace ignoreSpace cs = ds at h hds
    cases ds with
    | nil => cases h
    | cons c tail =>
      rw [List.mem_cons, not_or] at hds
      dsimp only at h
      split at h
      · next hbrace =>
        cases h
        exact .cons_plain (by rw [hbrace]; decide) (.refl .nil)
      · obtain ⟨⟨text, after⟩, htail, h⟩ := exists_of_bind_eq_ok h
        cases h
        obtain ⟨hc, htext⟩ := List.forall_mem_cons.mp htext
        exact .cons_plain hc (ih htail hds.2 htext)

theorem leaves_readProperty {negated : Bool} {a : Atom}
    (h : readProperty ignoreSpace negated cs = .ok (a, rest)) (hcs : '#' ∉ cs)
    (ha : Known a.properties) : Leaves Plain cs rest := by
  refine leaves_of_skipSpace ignoreSpace hcs fun hds => ?_
  unfold readProperty at h
  generalize skipSpace ignoreSpace cs = ds at h hds
  cases ds with
  | nil => cases h
  | cons c tail =>
    rw [List.mem_cons, not_or] at hds
    dsimp only at h
    split at h
    · next hbrace =>
      obtain ⟨⟨text, after⟩, hbraced, h⟩ := exists_of_bind_eq_ok h
      cases h
      have htext : Plain text := plain_of_check_propertyOf (ha _ List.mem_cons_self)
      exact .cons_plain (by rw [hbrace]; decide) (leaves_readBraced hbraced hds.2 htext)
    split at h
    · cases h
    · cases h
      have hname := plain_of_checkNamed (ha _ List.mem_cons_self)
      rw [String.toList_ofList] at hname
      exact .cons_plain (hname c List.mem_cons_self) (leaves_skipSpace ignoreSpace hds.2)

theorem plain_of_isBoundaryChar {c : Char} (h : isBoundaryChar c = true) : c ≠ '[' ∧ c ≠ '\\' := by
  constructor
  · rintro rfl
    exact absurd h (by decide)
  · rintro rfl
    exact absurd h (by decide)

theorem leaves_readBoundaryName (ignoreSpace : Bool) (fuel : Nat) (hcs : '#' ∉ cs) :
    Leaves Plain cs (readBoundaryName ignoreSpace fuel cs).2 := by
  induction fuel generalizing cs with
  | zero => exact .refl .nil
  | succ fuel ih =>
    cases cs with
    | nil => exact .refl .nil
    | cons c tail =>
      rw [List.mem_cons, not_or] at hcs
      unfold readBoundaryName
      split
      · next hc =>
        exact .cons_plain (plain_of_isBoundaryChar hc) (leaves_of_skipSpace ignoreSpace hcs.2 ih)
      · exact .refl .nil

theorem leaves_readBoundary {a : Atom} (h : readBoundary ignoreSpace cs = .ok (a, rest))
    (hcs : '#' ∉ cs) : Leaves Plain cs rest := by
  unfold readBoundary at h
  split at h
  · next inside =>
    rw [List.mem_cons, not_or] at hcs
    split at h
    · cases h
    · next c tail hskip =>
      split at h
      · cases h
        exact .refl .nil
      -- The brace opens a name here, up to the brace that closes it.
      · refine .cons_plain (by decide) (leaves_of_skipSpace ignoreSpace hcs.2 fun hds => ?_)
        have hname := leaves_readBoundaryName ignoreSpace (tail.length + 1) (hskip ▸ hds)
        rw [hskip]
        dsimp only at h
        split at h
        · next after hafter =>
          rw [hafter] at hname
          refine hname.trans .append (.cons_plain (by decide) ?_)
          split at h <;> cases h <;> exact .refl .nil
        · cases h
  · cases h
    exact .refl .nil

/-- Behind a backslash stand a character and plain text. -/
theorem exists_leaves_readEscape {a : Atom} (h : readEscape ignoreSpace cs = .ok (a, rest))
    (hcs : '#' ∉ cs) (ha : Known a.properties) : ∃ c tail, cs = c :: tail ∧ Leaves Plain tail rest := by
  cases cs with
  | nil => cases h
  | cons c tail =>
    rw [List.mem_cons, not_or] at hcs
    refine ⟨c, tail, rfl, ?_⟩
    unfold readEscape at h
    dsimp only at h
    split at h
    · cases h
    split at h
    · cases h
      exact .refl .nil
    split at h
    -- Only the numbers of characters, properties and boundaries take more than one character.
    case h_1 | h_2 | h_3 => exact leaves_readHex h hcs.2
    case h_4 | h_5 => exact leaves_readProperty h hcs.2 ha
    case h_20 => exact leaves_readBoundary h hcs.2
    all_goals cases h <;> exact .refl .nil

theorem leaves_escape {P : List Char → Prop} (hescape : ∀ c, P ['\\', c])
    (happend : ∀ {a b}, P a → P b → P (a ++ b)) (hplain : ∀ w, Plain w → P w) {a : Atom}
    (h : readEscape ignoreSpace cs = .ok (a, rest)) (hcs : '#' ∉ cs) (ha : Known a.properties) :
    Leaves P ('\\' :: cs) rest := by
  obtain ⟨c, tail, rfl, htail⟩ := exists_leaves_readEscape h hcs ha
  have hfirst : Leaves P ('\\' :: c :: tail) tail := ⟨['\\', c], rfl, hescape c⟩
  exact hfirst.trans happend (htail.mono hplain)

theorem leaves_advance {ds : Input} (h : advance ignoreSpace cs = .ok ds) (hcs : '#' ∉ cs) :
    Leaves Plain cs ds := by
  refine leaves_of_skipSpace ignoreSpace hcs fun _ => ?_
  unfold advance at h
  split at h
  · cases h
  · cases h
    exact .refl .nil

theorem leaves_readClassAtom {a : Atom} (h : readClassAtom ignoreSpace cs = .ok (a, rest))
    (hcs : '#' ∉ cs) (ha : Known a.properties) : Leaves Even cs rest := by
  cases cs with
  | nil => cases h
  | cons c tail =>
    rw [List.mem_cons, not_or] at hcs
    rw [readClassAtom] at h
    split at h
    · next hc =>
      rw [hc]
      exact leaves_escape ClassScan.even_escape .append (fun _ => Plain.even) h hcs.2 ha
    · next hc =>
      cases h
      exact ⟨[c], rfl, ClassScan.even_of_not_mem fun hmem => hc (List.mem_singleton.mp hmem).symm⟩

theorem Atom.properties_toItem {a : Atom} {item : ClassSet} (h : a.toItem = .ok item) :
    item.properties = a.properties := by
  cases a <;> cases h <;> rfl

theorem Atom.properties_of_toBound {a : Atom} {l : Literal} (h : a.toBound = .ok l) :
    a.properties = [] := by
  cases a <;> cases h
  rfl

theorem leaves_readRange {item : ClassSet} (h : readRange ignoreSpace cs = .ok (item, rest))
    (hcs : '#' ∉ cs) (hitem : Known item.properties) : Leaves Even cs rest := by
  obtain ⟨⟨first, after⟩, hfirst, h⟩ := exists_of_bind_eq_ok h
  obtain ⟨ds, hadvance, h⟩ := exists_of_bind_eq_ok h
  -- Without a dash behind it the first item is all there is to the range.
  have hto (hknown : Known first.properties) : Leaves Even cs ds := by
    have hleaves := leaves_readClassAtom hfirst hcs hknown
    exact hleaves.trans .append ((leaves_advance hadvance (hleaves.not_mem hcs)).mono fun _ => Plain.even)
  split at h
  · next tail =>
    split at h
    · obtain ⟨i, hi, h⟩ := exists_of_bind_eq_ok h
      cases h
      exact hto (Atom.properties_toItem hi ▸ hitem)
    · obtain ⟨es, hsecond, h⟩ := exists_of_bind_eq_ok h
      obtain ⟨⟨last, behind⟩, hlast, h⟩ := exists_of_bind_eq_ok h
      obtain ⟨l, hl, h⟩ := exists_of_bind_eq_ok h
      obtain ⟨m, hm, h⟩ := exists_of_bind_eq_ok h
      split at h
      · cases h
        have hdash := hto (Atom.properties_of_toBound hl ▸ Known.nil)
        have htail := (hdash.not_mem hcs)
        rw [List.mem_cons, not_or] at htail
        have hes := leaves_advance hsecond htail.2
        have hlast := leaves_readClassAtom hlast (hes.not_mem htail.2)
          (Atom.properties_of_toBound hm ▸ Known.nil)
        have hplain : Leaves Plain ('-' :: tail) es := .cons_plain (by decide) hes
        exact hdash.trans .append ((hplain.mono fun _ => Plain.even).trans .append hlast)
      · cases h
  · obtain ⟨i, hi, h⟩ := exists_of_bind_eq_ok h
    cases h
    exact hto (Atom.properties_toItem hi ▸ hitem)

theorem leaves_readDashes {fuel : Nat} {items : List ClassSet}
    (h : readDashes ignoreSpace fuel cs = .ok (items, rest)) (hcs : '#' ∉ cs) :
    Leaves Plain cs rest := by
  induction fuel generalizing cs items with
  | zero =>
    cases h
    exact .refl .nil
  | succ fuel ih =>
    unfold readDashes at h
    split at h
    · next tail =>
      rw [List.mem_cons, not_or] at hcs
      obtain ⟨ds, hadvance, h⟩ := exists_of_bind_eq_ok h
      obtain ⟨⟨dashes, after⟩, hdashes, h⟩ := exists_of_bind_eq_ok h
      cases h
      have hds := leaves_advance hadvance hcs.2
      exact .cons_plain (by decide) (hds.trans .append (ih hdashes (hds.not_mem hcs.2)))
    · cases h
      exact .refl .nil

/-- The dashes at the start of a class, or else the bracket. -/
theorem leaves_afterCaret {minus negated : Bool} {items : List ClassSet}
    (h : (do
      let (dashes, ds) ← readDashes ignoreSpace (cs.length + 1) cs
      match dashes, ds with
      | [], ']' :: rest => return (minus, [plainItem ']'], ← advance ignoreSpace rest)
      | _, _ => return (minus, dashes, ds)) = Except.ok (negated, items, rest)) (hcs : '#' ∉ cs) :
    Leaves Plain cs rest := by
  obtain ⟨⟨dashes, ds⟩, hdashes, h⟩ := exists_of_bind_eq_ok h
  have hds := leaves_readDashes hdashes hcs
  dsimp only at h
  split at h
  · next tail =>
    obtain ⟨es, hadvance, h⟩ := exists_of_bind_eq_ok h
    cases h
    have htail := hds.not_mem hcs
    rw [List.mem_cons, not_or] at htail
    exact hds.trans .append (.cons_plain (by decide) (leaves_advance hadvance htail.2))
  · cases h
    exact hds

theorem leaves_readClassStart {negated : Bool} {items : List ClassSet}
    (h : readClassStart ignoreSpace cs = .ok (negated, items, rest)) (hcs : '#' ∉ cs) :
    Leaves Plain cs rest := by
  obtain ⟨ds, hadvance, h⟩ := exists_of_bind_eq_ok h
  have hds := leaves_advance hadvance hcs
  have hnot := hds.not_mem hcs
  dsimp only at h
  split at h
  · next tail =>
    obtain ⟨es, hafter, h⟩ := exists_of_bind_eq_ok h
    rw [List.mem_cons, not_or] at hnot
    have hes := leaves_advance hafter hnot.2
    exact hds.trans .append
      (.cons_plain (by decide) (hes.trans .append (leaves_afterCaret h (hes.not_mem hnot.2))))
  · exact hds.trans .append (leaves_afterCaret h hnot)

/-- The name of a class up to its bracket. -/
theorem leaves_className {minus : Bool} {item : ClassSet}
    (h : (do
      let (name, ds) ← Text.splitAt? [':'] cs
      match ds with
      | ']' :: rest =>
        let name := String.ofList name
        if asciiNames.contains name then return (.named minus name, rest) else none
      | _ => none) = some (item, rest)) : Leaves Even cs rest := by
  obtain ⟨⟨name, ds⟩, hsplit, h⟩ := Option.bind_eq_some_iff.mp h
  dsimp only at h
  split at h
  · next tail =>
    split at h
    · next hname =>
      cases h
      have hnames : ∀ n ∈ asciiNames, '\\' ∉ n.toList := by decide
      have hbackslash := hnames _ (List.contains_iff_mem.mp hname)
      rw [String.toList_ofList] at hbackslash
      refine ⟨name ++ [':', ']'], ?_, ClassScan.even_of_not_mem ?_⟩
      · rw [eq_of_splitAt? hsplit]
        simp only [List.append_assoc, List.cons_append, List.nil_append]
      · rw [List.mem_append, not_or]
        exact ⟨hbackslash, by decide⟩
    · cases h
  · cases h

theorem leaves_readNamedClass? {item : ClassSet} (h : readNamedClass? cs = some (item, rest)) :
    Leaves Even cs rest := by
  unfold readNamedClass? at h
  split at h
  · next tail =>
    have hopen : Leaves Even ('[' :: ':' :: tail) tail :=
      ⟨['[', ':'], rfl, ClassScan.even_of_not_mem (by decide)⟩
    have hcaret (ds : Input) : Leaves Even ('^' :: ds) ds :=
      ⟨['^'], rfl, ClassScan.even_of_not_mem (by decide)⟩
    dsimp only at h
    split at h
    · exact hopen.trans .append ((hcaret _).trans .append (leaves_className h))
    · exact hopen.trans .append (leaves_className h)
  · cases h

theorem leaves_readOperation? {o : SetOperation} (h : readOperation? cs = some (o, rest)) :
    Leaves Plain cs rest := by
  unfold readOperation? at h
  split at h
  · next c d tail =>
    obtain ⟨o, ho, heq⟩ := Option.map_eq_some_iff.mp h
    cases heq
    unfold operationOf? at ho
    split at ho
    · next hcd => exact ⟨[c, d], rfl, by rw [hcd.1, hcd.2]; decide⟩
    split at ho
    · next hcd => exact ⟨[c, d], rfl, by rw [hcd.1, hcd.2]; decide⟩
    split at ho
    · next hcd => exact ⟨[c, d], rfl, by rw [hcd.1, hcd.2]; decide⟩
    · cases ho
  · cases h

theorem ClassSet.properties_inUnion (items : List ClassSet) :
    (inUnion items).properties = items.flatMap properties := by
  match items with
  | [] | _ :: _ :: _ => rw [inUnion, properties, propertiesOf_eq]; rintro _ ⟨⟩
  | [item] => rw [inUnion, List.flatMap_singleton]

theorem known_applyWaiting {waiting : Option (SetOperation × ClassSet)} {items : List ClassSet} :
    Known (applyWaiting waiting (ClassSet.inUnion items.reverse)).properties ↔
      (∀ item ∈ items, Known item.properties) ∧ ∀ w ∈ waiting, Known w.2.properties := by
  have hitems : Known (ClassSet.inUnion items.reverse).properties ↔
      ∀ item ∈ items, Known item.properties := by
    rw [ClassSet.properties_inUnion, known_flatMap]
    simp only [List.mem_reverse]
  cases waiting with
  | none => simp [applyWaiting, hitems]
  | some w => simp [applyWaiting, ClassSet.properties, known_append, hitems, and_comm]

/-- What has been read of a class stays in it, so its properties are known if those of the class are. -/
theorem known_of_readClassItems {fuel : Nat} {waiting : Option (SetOperation × ClassSet)}
    {items : List ClassSet} {set : ClassSet}
    (h : readClassItems ignoreSpace fuel waiting items cs = .ok (set, rest))
    (hset : Known set.properties) :
    (∀ item ∈ items, Known item.properties) ∧ ∀ w ∈ waiting, Known w.2.properties := by
  induction fuel generalizing waiting items set cs rest with
  | zero => cases h
  | succ fuel ih =>
    unfold readClassItems at h
    obtain ⟨ds, -, h⟩ := exists_of_bind_eq_ok h
    split at h
    · cases h
      exact known_applyWaiting.mp hset
    · split at h
      · obtain ⟨hitems, hwaiting⟩ := ih h hset
        exact ⟨fun i hi => hitems i (List.mem_cons_of_mem _ hi), hwaiting⟩
      · obtain ⟨⟨negated, inner, es⟩, -, h⟩ := exists_of_bind_eq_ok h
        obtain ⟨⟨nested, fs⟩, -, h⟩ := exists_of_bind_eq_ok h
        obtain ⟨hitems, hwaiting⟩ := ih h hset
        exact ⟨fun i hi => hitems i (List.mem_cons_of_mem _ hi), hwaiting⟩
    · split at h
      · obtain ⟨-, hwaiting⟩ := ih h hset
        exact known_applyWaiting.mp (hwaiting _ rfl)
      · obtain ⟨⟨item, es⟩, -, h⟩ := exists_of_bind_eq_ok h
        obtain ⟨hitems, hwaiting⟩ := ih h hset
        exact ⟨fun i hi => hitems i (List.mem_cons_of_mem _ hi), hwaiting⟩

/-- The items of a class are read up to a bracket that closes it. -/
theorem exists_of_readClassItems {fuel : Nat} {waiting : Option (SetOperation × ClassSet)}
    {items : List ClassSet} {set : ClassSet}
    (h : readClassItems ignoreSpace fuel waiting items cs = .ok (set, rest)) (hcs : '#' ∉ cs)
    (hset : Known set.properties) : ∃ ws, cs = ws ++ ']' :: rest ∧ Even ws := by
  induction fuel generalizing waiting items set cs rest with
  | zero => cases h
  | succ fuel ih =>
    unfold readClassItems at h
    obtain ⟨ds, hadvance, h⟩ := exists_of_bind_eq_ok h
    have hds := leaves_advance hadvance hcs
    have hnot := hds.not_mem hcs
    -- An item of any kind is even text, and the rest of the class stands behind it.
    have hmore {es : Input} {is : List ClassSet} {w : Option (SetOperation × ClassSet)}
        (hread : Leaves Even ds es) (hrest : readClassItems ignoreSpace fuel w is es = .ok (set, rest)) :
        ∃ ws, cs = ws ++ ']' :: rest ∧ Even ws := by
      obtain ⟨ws, hws, heven⟩ := ih hrest (hread.not_mem hnot) hset
      obtain ⟨vs, hvs, hbefore⟩ := (hds.mono fun _ => Plain.even).trans .append hread
      exact ⟨vs ++ ws, by rw [hvs, hws, List.append_assoc], hbefore.append heven⟩
    split at h
    · cases h
      obtain ⟨ws, hws, hplain⟩ := hds
      exact ⟨ws, hws, hplain.even⟩
    · next tail =>
      split at h
      · next hnamed => exact hmore (leaves_readNamedClass? hnamed) h
      · obtain ⟨⟨negated, inner, es⟩, hstart, h⟩ := exists_of_bind_eq_ok h
        obtain ⟨⟨nested, fs⟩, hnested, h⟩ := exists_of_bind_eq_ok h
        have hknown := (known_of_readClassItems h hset).1 _ List.mem_cons_self
        rw [ClassSet.properties] at hknown
        rw [List.mem_cons, not_or] at hnot
        have hes := leaves_readClassStart hstart hnot.2
        obtain ⟨ws, hws, heven⟩ := ih hnested (hes.not_mem hnot.2) hknown
        obtain ⟨vs, hvs, hplain⟩ := hes
        refine hmore ⟨'[' :: (vs ++ ws) ++ [']'], ?_, ?_⟩ h
        · rw [hvs, hws]
          simp only [List.append_assoc, List.cons_append, List.nil_append]
        · have hopen : Even ['['] := ClassScan.even_of_not_mem (by decide)
          have hclose : Even [']'] := ClassScan.even_of_not_mem (by decide)
          exact (hopen.append (hplain.even.append heven)).append hclose
    · split at h
      · next hoperation => exact hmore ((leaves_readOperation? hoperation).mono fun _ => Plain.even) h
      · obtain ⟨⟨item, es⟩, hrange, h⟩ := exists_of_bind_eq_ok h
        have hknown := (known_of_readClassItems h hset).1 _ List.mem_cons_self
        exact hmore (leaves_readRange hrange hnot hknown) h

/-- A class is text that a scanner closes again. -/
theorem leaves_readClass {a : Ast} (h : readClass ignoreSpace cs = .ok (a, rest)) (hcs : '#' ∉ cs)
    (ha : Known a.properties) : Leaves Closed ('[' :: cs) rest := by
  obtain ⟨⟨negated, items, ds⟩, hstart, h⟩ := exists_of_bind_eq_ok h
  obtain ⟨⟨set, es⟩, hitems, h⟩ := exists_of_bind_eq_ok h
  cases h
  have hds := leaves_readClassStart hstart hcs
  obtain ⟨ws, hws, heven⟩ := exists_of_readClassItems hitems (hds.not_mem hcs) ha
  obtain ⟨vs, hvs, hplain⟩ := hds
  refine ⟨'[' :: ((vs ++ ws) ++ [']']), ?_, ClassScan.closed_bracket (hplain.even.append heven)⟩
  rw [hvs, hws]
  simp only [List.append_assoc, List.cons_append, List.nil_append]

theorem plain_of_flagOf? {c : Char} {f : Flag} (h : flagOf? c = some f) : c ≠ '[' ∧ c ≠ '\\' :=
  plain_of_eq_some (by decide) (by decide) h

theorem leaves_readFlags {negated dangling : Bool} {changes found : List FlagChange} {mark : Char}
    (h : readFlags negated dangling changes cs = .ok (found, mark, rest)) : Leaves Plain cs rest := by
  induction cs generalizing negated dangling changes with
  | nil => cases h
  | cons c tail ih =>
    unfold readFlags at h
    split at h
    · next hmark =>
      have hplain : c ≠ '[' ∧ c ≠ '\\' := by rcases hmark with rfl | rfl <;> decide
      split at h
      · cases h
      · cases h
        exact .cons_plain hplain (.refl .nil)
    split at h
    · next hdash =>
      split at h
      · cases h
      · exact .cons_plain (by rw [hdash]; decide) (ih h)
    split at h
    · cases h
    · next flag hflag =>
      split at h
      · cases h
      · exact .cons_plain (plain_of_flagOf? hflag) (ih h)

/-- The name of a group holds no backslash. -/
theorem leaves_readGroupName {first : Bool} {name : List Char}
    (h : readGroupName first cs = .ok (name, rest)) (hname : '[' ∉ name) : Leaves Plain cs rest := by
  induction cs generalizing first name with
  | nil => cases h
  | cons c tail ih =>
    unfold readGroupName at h
    split at h
    · next hend =>
      cases h
      exact .cons_plain (by rw [hend]; decide) (.refl .nil)
    split at h
    · cases h
    · next hchar =>
      obtain ⟨⟨ds, after⟩, htail, h⟩ := exists_of_bind_eq_ok h
      cases h
      rw [List.mem_cons, not_or] at hname
      refine .cons_plain ⟨Ne.symm hname.1, ?_⟩ (ih htail hname.2)
      rintro rfl
      have hnot : isNameChar first '\\' = false := by cases first <;> decide
      rw [hnot] at hchar
      exact hchar rfl

/-- The name that an opening gives its group. -/
def Opening.name? : Opening → Option String
  | flags _ => none
  | group _ name _ => name

theorem leaves_readNamedOpening {names : List String} {o : Opening}
    (h : readNamedOpening names cs = .ok (o, rest)) (ho : ∀ n ∈ o.name?, '[' ∉ n.toList) :
    Leaves Plain cs rest := by
  obtain ⟨⟨name, after⟩, hread, h⟩ := exists_of_bind_eq_ok h
  dsimp only at h
  split at h
  · cases h
  split at h
  · cases h
  · cases h
    have hname := ho _ rfl
    rw [String.toList_ofList] at hname
    exact leaves_readGroupName hread hname

theorem leaves_readOpening {st : State} {o : Opening} (h : readOpening st cs = .ok (o, rest))
    (hcs : '#' ∉ cs) (ho : ∀ n ∈ o.name?, '[' ∉ n.toList) : Leaves Plain cs rest := by
  refine leaves_of_skipSpace st.ignoreSpace hcs fun _ => ?_
  unfold readOpening at h
  generalize skipSpace st.ignoreSpace cs = ds at h
  dsimp only at h
  split at h
  · cases h
  split at h
  · exact .cons_plain (by decide)
      (.cons_plain (by decide) (.cons_plain (by decide) (leaves_readNamedOpening h ho)))
  · exact .cons_plain (by decide) (.cons_plain (by decide) (leaves_readNamedOpening h ho))
  · cases h
  · obtain ⟨⟨changes, mark, after⟩, hflags, h⟩ := exists_of_bind_eq_ok h
    have hleaves := leaves_readFlags hflags
    dsimp only at h
    split at h
    · cases h
      exact .cons_plain (by decide) hleaves
    split at h
    · cases h
    · cases h
      exact .cons_plain (by decide) hleaves
  · cases h
    exact .refl .nil

theorem eq_cons_of_takeRepeated {items items' : List Ast} {item : Ast}
    (h : takeRepeated items = .ok (item, items')) : items = item :: items' := by
  unfold takeRepeated at h
  split at h <;> cases h
  rfl

theorem leaves_dropLazyMark (cs : Input) : Leaves Plain cs (dropLazyMark cs) := by
  unfold dropLazyMark
  split
  · exact .cons_plain (by decide) (.refl .nil)
  · exact .refl .nil

theorem plain_of_isDigit {c : Char} (h : c.isDigit = true) : c ≠ '[' ∧ c ≠ '\\' := by
  constructor
  · rintro rfl
    exact absurd h (by decide)
  · rintro rfl
    exact absurd h (by decide)

theorem leaves_readDigits (ignoreSpace : Bool) (fuel : Nat) (hcs : '#' ∉ cs) :
    Leaves Plain cs (readDigits ignoreSpace fuel cs).2 := by
  induction fuel generalizing cs with
  | zero => exact .refl .nil
  | succ fuel ih =>
    cases cs with
    | nil => exact .refl .nil
    | cons c tail =>
      rw [List.mem_cons, not_or] at hcs
      unfold readDigits
      split
      · next hc => exact .cons_plain (plain_of_isDigit hc) (leaves_of_skipSpace ignoreSpace hcs.2 ih)
      · exact .refl .nil

theorem leaves_skipBlanks (ignoreSpace : Bool) (hcs : '#' ∉ cs) :
    Leaves Plain cs (skipBlanks ignoreSpace cs) := by
  cases cs with
  | nil => exact .refl .nil
  | cons c tail =>
    rw [List.mem_cons, not_or] at hcs
    unfold skipBlanks
    dsimp only
    split
    · next hc =>
      refine .cons_plain (plain_of_isBlank hc) ?_
      split
      · exact leaves_skipComments hcs.2
      · exact leaves_dropWhile_isBlank tail
    · exact .refl .nil

theorem leaves_readCountNumber (ignoreSpace : Bool) (hcs : '#' ∉ cs) :
    Leaves Plain cs (readCountNumber ignoreSpace cs).2 := by
  have hblanks := leaves_dropWhile_isBlank cs
  have hdigits := hblanks.trans .append (leaves_readDigits ignoreSpace
    ((cs.dropWhile Text.isBlank).length + 1) (hblanks.not_mem hcs))
  have hend := hdigits.trans .append (leaves_skipBlanks ignoreSpace (hdigits.not_mem hcs))
  unfold readCountNumber
  dsimp only
  split
  · exact hend
  split <;> exact hend

theorem leaves_advanceCount {ds : Input} (h : advanceCount ignoreSpace cs = .ok ds) (hcs : '#' ∉ cs) :
    Leaves Plain cs ds := by
  refine leaves_of_skipSpace ignoreSpace hcs fun _ => ?_
  unfold advanceCount at h
  split at h
  · cases h
  · cases h
    exact .refl .nil

/-- The brace that ends a count, and the mark behind it. -/
theorem leaves_countEnd {least n : Nat} {most m : Option Nat}
    (h : (match cs with
      | '\x7d' :: rest =>
        let rest := dropLazyMark (skipSpace ignoreSpace rest)
        if most.any (· < least) then throw .countOrder else return (least, most, rest)
      | _ => throw .countUnclosed : Except Problem (Nat × Option Nat × Input)) = .ok (n, m, rest))
    (hcs : '#' ∉ cs) : Leaves Plain cs rest := by
  split at h
  · next tail =>
    rw [List.mem_cons, not_or] at hcs
    dsimp only at h
    split at h
    · cases h
    · cases h
      exact .cons_plain (by decide) ((leaves_skipSpace ignoreSpace hcs.2).trans .append
        (leaves_dropLazyMark _))
  · cases h

theorem leaves_readCount {least : Nat} {most : Option Nat}
    (h : readCount ignoreSpace cs = .ok (least, most, rest)) (hcs : '#' ∉ cs) :
    Leaves Plain cs rest := by
  obtain ⟨ds, hadvance, h⟩ := exists_of_bind_eq_ok h
  have hds := leaves_advanceCount hadvance hcs
  have hfirst := hds.trans .append (leaves_readCountNumber ignoreSpace (hds.not_mem hcs))
  have hnot := hfirst.not_mem hcs
  refine hfirst.trans .append ?_
  dsimp only at h
  generalize (readCountNumber ignoreSpace ds).2 = es at h hnot
  split at h
  · cases h
  · next tail =>
    rw [List.mem_cons, not_or] at hnot
    obtain ⟨fs, hafter, h⟩ := exists_of_bind_eq_ok h
    have hfs := leaves_advanceCount hafter hnot.2
    have hnotfs := hfs.not_mem hnot.2
    -- Behind the comma stands the end of the count, or a number and then the end.
    refine .cons_plain (by decide) (hfs.trans .append ?_)
    split at h
    · obtain ⟨n, -, h⟩ := exists_of_bind_eq_ok h
      obtain ⟨numbers, hnumbers, h⟩ := exists_of_bind_eq_ok h
      cases hnumbers
      exact leaves_countEnd h hnotfs
    · obtain ⟨n, -, h⟩ := exists_of_bind_eq_ok h
      obtain ⟨m, -, h⟩ := exists_of_bind_eq_ok h
      have hlast := leaves_readCountNumber ignoreSpace hnotfs
      exact hlast.trans .append (leaves_countEnd h (hlast.not_mem hnotfs))
  · obtain ⟨n, -, h⟩ := exists_of_bind_eq_ok h
    exact leaves_countEnd h hnot

/-- A piece of a branch: what it makes of the items before it, and the state and the input it leaves.
The reader of branches takes one such piece after the other. -/
inductive Piece (fuel : Nat) (st : State) : List Ast → Input → State → List Ast → Input → Prop
  | flags {items : List Ast} {changes : List FlagChange} {cs rest : Input}
      (h : readOpening st cs = .ok (.flags changes, rest)) :
      Piece fuel st items ('(' :: cs)
        { st with ignoreSpace := flagAfter .ignoreSpace st.ignoreSpace changes }
        (.flags changes :: items) rest
  | group {items : List Ast} {captures : Bool} {name : Option String} {changes : List FlagChange}
      {body : Ast} {after : State} {cs inside rest : Input}
      (h : readOpening st cs = .ok (.group captures name changes, inside))
      (hbody : readBranches fuel
        ⟨flagAfter .ignoreSpace st.ignoreSpace changes, name.toList ++ st.names⟩ [] [] inside =
          .ok (body, after, ')' :: rest)) :
      Piece fuel st items ('(' :: cs) ⟨st.ignoreSpace, after.names⟩
        (.group captures changes body :: items) rest
  | bracket {items : List Ast} {item : Ast} {cs rest : Input}
      (h : readClass st.ignoreSpace cs = .ok (item, rest)) :
      Piece fuel st items ('[' :: cs) st (item :: items) rest
  | repetition {items : List Ast} {item : Ast} {least : Nat} {most : Option Nat} {c : Char} {cs : Input}
      (hc : c ≠ '[' ∧ c ≠ '\\') :
      Piece fuel st (item :: items) (c :: cs) st (.repetition least most item :: items) (dropLazyMark cs)
  | count {items : List Ast} {item : Ast} {least : Nat} {most : Option Nat} {cs rest : Input}
      (h : readCount st.ignoreSpace cs = .ok (least, most, rest)) :
      Piece fuel st (item :: items) ('\x7b' :: cs) st (.repetition least most item :: items) rest
  | escape {items : List Ast} {a : Atom} {cs rest : Input}
      (h : readEscape st.ignoreSpace cs = .ok (a, rest)) :
      Piece fuel st items ('\\' :: cs) st (.atom a :: items) rest
  | character {items : List Ast} {a : Atom} {c : Char} {cs : Input} (hc : c ≠ '[' ∧ c ≠ '\\') :
      Piece fuel st items (c :: cs) st (.atom a :: items) cs

variable {fuel : Nat} {st st' : State} {branches items : List Ast} {a : Ast}

/-- Reading branches ends, goes on with another branch or takes a piece. -/
theorem readBranches_cases (h : readBranches (fuel + 1) st branches items cs = .ok (a, st', rest)) :
    (a = finish branches items ∧ st' = st ∧ rest = skipSpace st.ignoreSpace cs) ∨
      (∃ tail, skipSpace st.ignoreSpace cs = '|' :: tail ∧
        readBranches fuel st (Ast.inSequence items.reverse :: branches) [] tail = .ok (a, st', rest)) ∨
      ∃ st₁ items₁ ds, Piece fuel st items (skipSpace st.ignoreSpace cs) st₁ items₁ ds ∧
        readBranches fuel st₁ branches items₁ ds = .ok (a, st', rest) := by
  unfold readBranches at h
  dsimp only at h
  generalize skipSpace st.ignoreSpace cs = ds at h
  split at h
  · cases h
    exact .inl ⟨rfl, rfl, rfl⟩
  · cases h
    exact .inl ⟨rfl, rfl, rfl⟩
  · exact .inr (.inl ⟨_, rfl, h⟩)
  · refine .inr (.inr ?_)
    obtain ⟨⟨opening, inside⟩, hopening, h⟩ := exists_of_bind_eq_ok h
    cases opening with
    | flags changes => exact ⟨_, _, _, .flags hopening, h⟩
    | group captures name changes =>
      obtain ⟨⟨body, after, es⟩, hbody, h⟩ := exists_of_bind_eq_ok h
      dsimp only at h
      split at h
      · exact ⟨_, _, _, .group hopening hbody, h⟩
      · cases h
  · obtain ⟨⟨item, es⟩, hclass, h⟩ := exists_of_bind_eq_ok h
    exact .inr (.inr ⟨_, _, _, .bracket hclass, h⟩)
  case h_6 | h_7 | h_8 =>
    -- A mark of repetition takes the last item back from those that have been read.
    obtain ⟨⟨item, items'⟩, htake, h⟩ := exists_of_bind_eq_ok h
    rw [eq_cons_of_takeRepeated htake]
    exact .inr (.inr ⟨_, _, _, .repetition (by decide), h⟩)
  · obtain ⟨⟨item, items'⟩, htake, h⟩ := exists_of_bind_eq_ok h
    obtain ⟨⟨least, most, es⟩, hcount, h⟩ := exists_of_bind_eq_ok h
    rw [eq_cons_of_takeRepeated htake]
    exact .inr (.inr ⟨_, _, _, .count hcount, h⟩)
  · obtain ⟨⟨atom, es⟩, hescape, h⟩ := exists_of_bind_eq_ok h
    exact .inr (.inr ⟨_, _, _, .escape hescape, h⟩)
  case h_11 | h_12 | h_13 => exact .inr (.inr ⟨_, _, _, .character (by decide), h⟩)
  · next c tail _ _ _ hbracket _ _ _ _ hbackslash _ _ _ =>
    exact .inr (.inr ⟨_, _, _, .character ⟨hbracket, hbackslash⟩, h⟩)

theorem Ast.properties_inSequence (items : List Ast) :
    (inSequence items).properties = items.flatMap properties := by
  match items with
  | [] | _ :: _ :: _ => rw [inSequence, properties, propertiesOf_eq]; rintro _ ⟨⟩
  | [item] => rw [inSequence, List.flatMap_singleton]

theorem Ast.properties_inChoice (items : List Ast) :
    (inChoice items).properties = items.flatMap properties := by
  match items with
  | [] | _ :: _ :: _ => rw [inChoice, properties, propertiesOf_eq]; rintro _ ⟨⟩
  | [item] => rw [inChoice, List.flatMap_singleton]

theorem known_inSequence : Known (Ast.inSequence items.reverse).properties ↔
    ∀ item ∈ items, Known item.properties := by
  rw [Ast.properties_inSequence, known_flatMap]
  simp only [List.mem_reverse]

theorem known_finish : Known (finish branches items).properties ↔
    (∀ b ∈ branches, Known b.properties) ∧ ∀ item ∈ items, Known item.properties := by
  rw [finish, Ast.properties_inChoice, known_flatMap]
  simp only [List.mem_reverse, List.forall_mem_cons, known_inSequence]
  exact and_comm

/-- A piece keeps the items before it, but for the one that it repeats. -/
theorem Piece.known {st₁ : State} {items₁ : List Ast} {ds : Input}
    (h : Piece fuel st items cs st₁ items₁ ds) (hitems : ∀ item ∈ items₁, Known item.properties) :
    ∀ item ∈ items, Known item.properties := by
  cases h with
  | flags | group | bracket | escape | character => exact (List.forall_mem_cons.mp hitems).2
  | repetition | count =>
    obtain ⟨hfirst, hrest⟩ := List.forall_mem_cons.mp hitems
    rw [Ast.properties] at hfirst
    exact List.forall_mem_cons.mpr ⟨hfirst, hrest⟩

/-- What has been read of a pattern stays in it, so its properties are known if those of the pattern
are. -/
theorem known_of_readBranches (h : readBranches fuel st branches items cs = .ok (a, st', rest))
    (ha : Known a.properties) :
    (∀ b ∈ branches, Known b.properties) ∧ ∀ item ∈ items, Known item.properties := by
  induction fuel generalizing st branches items cs with
  | zero => cases h
  | succ fuel ih =>
    rcases readBranches_cases h with ⟨rfl, -, -⟩ | ⟨tail, -, h⟩ | ⟨st₁, items₁, ds, hpiece, h⟩
    · exact known_finish.mp ha
    · obtain ⟨hbranches, -⟩ := ih h
      rw [List.forall_mem_cons, known_inSequence] at hbranches
      exact hbranches.symm
    · obtain ⟨hbranches, hitems⟩ := ih h
      exact ⟨hbranches, hpiece.known hitems⟩

/-- The names of groups are kept. -/
theorem names_subset (h : readBranches fuel st branches items cs = .ok (a, st', rest)) :
    st.names ⊆ st'.names := by
  induction fuel generalizing st branches items cs a st' rest with
  | zero => cases h
  | succ fuel ih =>
    rcases readBranches_cases h with ⟨-, rfl, -⟩ | ⟨tail, -, h⟩ | ⟨st₁, items₁, ds, hpiece, h⟩
    · exact fun _ hn => hn
    · exact ih h
    · refine fun n hn => ih h ?_
      generalize skipSpace st.ignoreSpace cs = es at hpiece
      cases hpiece with
      | group _ hbody => exact ih hbody (List.mem_append_right _ hn)
      | flags | bracket | repetition | count | escape | character => exact hn

/-- A piece leaves no class open if what stands in its group does not. -/
theorem Piece.leaves {st₁ : State} {items₁ : List Ast} {ds : Input}
    (h : Piece fuel st items cs st₁ items₁ ds) (hcs : '#' ∉ cs)
    (hitems : ∀ item ∈ items₁, Known item.properties) (hnames : ∀ n ∈ st₁.names, '[' ∉ n.toList)
    (hinside : ∀ {inner after : State} {body : Ast} {inside rest : Input},
      readBranches fuel inner [] [] inside = .ok (body, after, rest) → '#' ∉ inside →
        Known body.properties → (∀ n ∈ after.names, '[' ∉ n.toList) → Leaves Closed inside rest) :
    Leaves Closed cs ds := by
  cases h with
  | flags h =>
    rw [List.mem_cons, not_or] at hcs
    have hopening := leaves_readOpening h hcs.2 (by simp [Opening.name?])
    exact (Leaves.cons_plain (by decide) hopening).mono fun _ => Plain.closed
  | @group _ _ name _ _ _ _ _ _ h hbody =>
    rw [List.mem_cons, not_or] at hcs
    -- The name of a group is among the names that the reader has kept.
    have hname : ∀ n ∈ name, '[' ∉ n.toList := by
      intro n hn
      exact hnames n (names_subset hbody (List.mem_append_left _ (Option.mem_toList.mpr hn)))
    have hopening := leaves_readOpening h hcs.2 hname
    have hknown := (List.forall_mem_cons.mp hitems).1
    rw [Ast.properties] at hknown
    have hbodyClosed := hinside hbody (hopening.not_mem hcs.2) hknown hnames
    have hbefore := (Leaves.cons_plain (c := '(') (by decide) hopening).mono fun _ => Plain.closed
    have hafter : Leaves Closed (')' :: ds) ds := ⟨[')'], rfl, rfl⟩
    exact hbefore.trans .append (hbodyClosed.trans .append hafter)
  | bracket h =>
    rw [List.mem_cons, not_or] at hcs
    exact leaves_readClass h hcs.2 (List.forall_mem_cons.mp hitems).1
  | repetition hc =>
    exact (Leaves.cons_plain hc (leaves_dropLazyMark _)).mono fun _ => Plain.closed
  | count h =>
    rw [List.mem_cons, not_or] at hcs
    exact (Leaves.cons_plain (by decide) (leaves_readCount h hcs.2)).mono fun _ => Plain.closed
  | escape h =>
    rw [List.mem_cons, not_or] at hcs
    exact leaves_escape ClassScan.closed_escape .append (fun _ => Plain.closed) h hcs.2
      (List.forall_mem_cons.mp hitems).1
  | character hc => exact (Leaves.cons_plain hc (.refl .nil)).mono fun _ => Plain.closed

/-- A pattern without comments, and without brackets in the names of its groups, is read in pieces that
leave no class open. -/
theorem leaves_readBranches (h : readBranches fuel st branches items cs = .ok (a, st', rest))
    (hcs : '#' ∉ cs) (ha : Known a.properties) (hnames : ∀ n ∈ st'.names, '[' ∉ n.toList) :
    Leaves Closed cs rest := by
  induction fuel generalizing st branches items cs a st' rest with
  | zero => cases h
  | succ fuel ih =>
    have hskip := leaves_skipSpace st.ignoreSpace hcs
    have hnot := hskip.not_mem hcs
    refine (hskip.mono fun _ => Plain.closed).trans .append ?_
    rcases readBranches_cases h with ⟨-, -, rfl⟩ | ⟨tail, htail, h⟩ | ⟨st₁, items₁, ds, hpiece, h⟩
    · exact .refl .nil
    · rw [htail, List.mem_cons, not_or] at hnot
      have hbar : Leaves Plain ('|' :: tail) tail := .cons_plain (by decide) (.refl .nil)
      rw [htail]
      exact (hbar.mono fun _ => Plain.closed).trans .append (ih h hnot.2 ha hnames)
    · have hitems := (known_of_readBranches h ha).2
      have hnames₁ : ∀ n ∈ st₁.names, '[' ∉ n.toList := fun n hn => hnames n (names_subset h hn)
      have hleaves := hpiece.leaves hnot hitems hnames₁ ih
      exact hleaves.trans .append (ih h (hleaves.not_mem hnot) ha hnames)

/-- The names of the groups of a pattern. -/
def groupNames (pattern : String) : List String :=
  match readBranches (pattern.toList.length + 1) {} [] [] pattern.toList with
  | .ok (_, st, _) => st.names
  | .error _ => []

/-- A pattern that leaves a class open has a comment, or a bracket in the name of a group. -/
theorem exists_of_inClass [Pattern.SizeLimit] {pattern : String} (h : check pattern = .ok ())
    (hopen : (ClassScan.outside.run pattern.toList).inClass = true) :
    '#' ∈ pattern.toList ∨ ∃ n ∈ groupNames pattern, '[' ∈ n.toList := by
  by_contra hnot
  simp only [not_or, not_exists, not_and] at hnot
  obtain ⟨hcomment, hnames⟩ := hnot
  obtain ⟨ast, hread, hast⟩ := exists_known_of_check h
  obtain ⟨⟨a, st, rest⟩, hbranches, hread⟩ := exists_of_bind_eq_ok hread
  dsimp only at hread
  split at hread
  · cases hread
  · next hrest =>
    split at hread
    · cases hread
    · cases hread
      rw [groupNames, hbranches] at hnames
      obtain ⟨w, hw, hclosed⟩ := leaves_readBranches hbranches hcomment hast hnames
      rw [Bool.not_eq_true, Bool.not_eq_false', List.isEmpty_iff] at hrest
      rw [hw, hrest, List.append_nil, hclosed] at hopen
      cases hopen

/-- No pattern begins with an asterisk: it would repeat nothing. -/
theorem head?_ne_of_check [Pattern.SizeLimit] {pattern : String} (h : check pattern = .ok ()) :
    pattern.toList.head? ≠ some '*' := by
  intro hhead
  obtain ⟨rest, hrest⟩ : ∃ rest, pattern.toList = '*' :: rest := by
    cases hcs : pattern.toList with
    | nil =>
      rw [hcs] at hhead
      cases hhead
    | cons c rest =>
      rw [hcs, List.head?_cons] at hhead
      exact ⟨rest, by rw [Option.some.inj hhead]⟩
  obtain ⟨ast, hread, -⟩ := exists_known_of_check h
  obtain ⟨⟨a, st, ds⟩, hbranches, -⟩ := exists_of_bind_eq_ok hread
  rw [hrest] at hbranches
  cases hbranches

end Scaffold.Pattern
