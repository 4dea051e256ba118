import Scaffold.Json.Reader
import Scaffold.Proofs.Json.Decoding

namespace Scaffold.Json

/-- Nothing but characters that may stand between the pieces of a text. -/
def Blank (cs : Input) : Prop := ∀ c ∈ cs, isSpace c = true

theorem blank_nil : Blank [] := fun _ h => absurd h List.not_mem_nil

/-- Where a text has blanks. -/
structure Layout where
  /-- The blanks in front of a part between brackets, or of the bracket that closes, so many levels deep. -/
  gap : Nat → Input
  /-- The blanks behind the colon of a member. -/
  colon : Input
  blank_gap (k : Nat) : Blank (gap k)
  blank_colon : Blank colon

theorem skipSpace_blank {ws : Input} (h : Blank ws) (cs : Input) : skipSpace (ws ++ cs) = skipSpace cs :=
  List.dropWhile_append_of_pos h

theorem mem_itemEnds_of_isSpace {c : Char} (h : isSpace c = true) : c ∈ itemEnds := by
  simp only [isSpace, Bool.or_eq_true, decide_eq_true_eq] at h
  rcases h with ((rfl | rfl) | rfl) | rfl <;> decide

/-- Blanks in front of a mark end an item as the mark does. -/
theorem delimited_blank {ws cs : Input} (h : Blank ws) (hcs : Delimited cs) : Delimited (ws ++ cs) := by
  cases ws with
  | nil => exact hcs
  | cons c ws => exact delimited_cons (mem_itemEnds_of_isSpace (h c List.mem_cons_self)) (ws ++ cs)

section Blanks

variable {ws : Input} (hws : Blank ws)
include hws

theorem nextItem_first {c : Char} (hc : isSpace c = false) (hclose : c ≠ ']') (tail : Input) :
    nextItem true (ws ++ c :: tail) = .ok (true, c :: tail) := by
  rw [nextItem, skipSpace_blank hws, skipSpace_cons hc]
  split
  · next heq => cases heq
  · next heq => exact absurd (List.cons.inj heq).1 hclose
  · next heq =>
    rw [← heq]
    rfl

theorem nextItem_next {c : Char} (hc : isSpace c = false) (hclose : c ≠ ']') (tail : Input) :
    nextItem false (',' :: (ws ++ c :: tail)) = .ok (true, c :: tail) := by
  rw [nextItem, skipSpace_cons (by decide)]
  split
  · next heq => cases heq
  · next heq => exact absurd (List.cons.inj heq).1 (by decide)
  · next heq =>
    -- The comma is there, so the choice is made by what follows it.
    obtain ⟨rfl, rfl⟩ := List.cons.inj heq
    simp only [Bool.false_eq_true, if_false, if_true, skipSpace_blank hws, skipSpace_cons hc]
    split
    · next heq => cases heq
    · next heq => exact absurd (List.cons.inj heq).1 hclose
    · rfl

theorem nextItem_close (first : Bool) (rest : Input) :
    nextItem first (ws ++ ']' :: rest) = .ok (false, ']' :: rest) := by
  rw [nextItem, skipSpace_blank hws]
  rfl

theorem nextKey_first (tail : Input) : nextKey true (ws ++ '"' :: tail) = .ok (true, tail) := by
  rw [nextKey, skipSpace_blank hws]
  rfl

theorem nextKey_next (tail : Input) : nextKey false (',' :: (ws ++ '"' :: tail)) = .ok (true, tail) := by
  have hskip : skipSpace (ws ++ '"' :: tail) = '"' :: tail := skipSpace_blank hws _
  have hcomma : skipSpace (',' :: (ws ++ '"' :: tail)) = ',' :: (ws ++ '"' :: tail) := rfl
  rw [nextKey, hcomma]
  simp [hskip]

theorem nextKey_close (first : Bool) (rest : Input) :
    nextKey first (ws ++ '\x7d' :: rest) = .ok (false, '\x7d' :: rest) := by
  rw [nextKey, skipSpace_blank hws]
  rfl

theorem readValue_blank (fuel depth : Nat) (cs : Input) :
    readValue fuel depth (ws ++ cs) = readValue fuel depth cs := by
  cases fuel with
  | zero => rfl
  | succ fuel => rw [readValue, readValue, skipSpace_blank hws]

end Blanks

/-- One item is read in front of the others. -/
theorem readItems_cons {fuel depth : Nat} {first : Bool} {cs next after rest : Input} {item : Json}
    {items : List Json} (hnext : nextItem first cs = .ok (true, next))
    (hitem : readValue fuel depth next = .ok (item, after))
    (hitems : readItems fuel depth false after = .ok (items, rest)) :
    readItems (fuel + 1) depth first cs = .ok (item :: items, rest) := by
  rw [readItems, hnext]
  change ((readValue fuel depth next).bind fun r =>
    (readItems fuel depth false r.2).bind fun rs => .ok (r.1 :: rs.1, rs.2)) = _
  rw [hitem, Except.bind, hitems, Except.bind]

/-- One member with a new key is read and put behind those before. -/
theorem readMembers_cons {fuel depth : Nat} {first : Bool} {before : List (String × Json)}
    {cs tail behind after : Input} {key : String} {value : Json}
    (hnext : nextKey first cs = .ok (true, tail)) (hkey : readString tail = .ok (key, ':' :: behind))
    (hvalue : readValue fuel depth behind = .ok (value, after)) (hnew : key ∉ before.map Prod.fst) :
    readMembers (fuel + 1) depth first before cs =
      readMembers fuel depth false (before ++ [(key, value)]) after := by
  have hcolon : readColon (':' :: behind) = .ok behind := rfl
  -- One bind of the reader after the other.
  rw [readMembers, hnext]
  dsimp only [bind, Except.bind]
  rw [if_pos rfl, hkey]
  dsimp only
  rw [hcolon]
  dsimp only
  rw [hvalue]
  dsimp only
  rw [Keyed.put_of_not_mem hnew]

theorem readValue_array {fuel depth : Nat} {cs rest : Input} {items : List Json}
    (h : readItems fuel depth true cs = .ok (items, ']' :: rest)) :
    readValue (fuel + 1) (depth + 1) ('[' :: cs) = .ok (array items, rest) := by
  change ((readItems fuel depth true cs).bind fun r =>
    (closeList r.2).bind fun rest => .ok (array r.1, rest)) = _
  rw [h]
  rfl

theorem readValue_object {fuel depth : Nat} {cs rest : Input} {members : List (String × Json)}
    (h : readMembers fuel depth true [] cs = .ok (members, '\x7d' :: rest)) :
    readValue (fuel + 1) (depth + 1) ('\x7b' :: cs) = .ok (object members, rest) := by
  change ((readMembers fuel depth true [] cs).bind fun r =>
    (closeObject r.2).bind fun rest => .ok (object r.1, rest)) = _
  rw [h]
  rfl

namespace Layout

variable (l : Layout)

/-- What stands in front of a part, `k` levels deep: blanks, and a comma unless the part is the first one. -/
def lead (first : Bool) (k : Nat) : Input := if first then l.gap k else ',' :: l.gap k

/-- The parts behind the first one, `k` levels deep. -/
def behind (k : Nat) (parts : List Input) : Input := parts.flatMap fun p => l.lead false k ++ p

theorem behind_cons (k : Nat) (p : Input) (ps : List Input) :
    l.behind k (p :: ps) = l.lead false k ++ (p ++ l.behind k ps) := by
  rw [behind, behind, List.flatMap_cons, List.append_assoc]

/-- Parts between brackets that stand `k` levels deep. -/
def bracket (opening closing : Char) (k : Nat) : List Input → Input
  | [] => [opening, closing]
  | p :: ps => opening :: (l.lead true (k + 1) ++ (p ++ (l.behind (k + 1) ps ++ (l.gap k ++ [closing]))))

/-- The text of a member whose value has a text. -/
def spellMember (key : String) (value : Input) : Input :=
  (Text.jsonQuote key).toList ++ ':' :: (l.colon ++ value)

mutual

/-- The text of a value that stands `k` levels deep. -/
def spell (k : Nat) : Json → Input
  | array items => l.bracket '[' ']' k (spellItems (k + 1) items)
  | object members => l.bracket '\x7b' '\x7d' k (spellMembers (k + 1) members)
  | scalar => line scalar

/-- The texts of the items of a list. -/
def spellItems (k : Nat) : List Json → List Input
  | [] => []
  | item :: rest => spell k item :: spellItems k rest

/-- The texts of the members of an object. -/
def spellMembers (k : Nat) : List (String × Json) → List Input
  | [] => []
  | (key, value) :: rest => l.spellMember key (spell k value) :: spellMembers k rest

end

end Layout

mutual

/-- Whether a value can be read back from a text of it: its numbers can, no object has two members of one
key, and it nests no deeper than `levels`. -/
def Readable : Nat → Json → Prop
  | _, number n => n.ReadsBack
  | levels + 1, array items => ReadableItems levels items
  | levels + 1, object members => (members.map Prod.fst).Nodup ∧ ReadableMembers levels members
  | 0, array _ | 0, object _ => False
  | _, null | _, bool _ | _, string _ => True

/-- Whether all items of a list can be read back. -/
def ReadableItems : Nat → List Json → Prop
  | _, [] => True
  | levels, item :: rest => Readable levels item ∧ ReadableItems levels rest

/-- Whether all members of an object can be read back. -/
def ReadableMembers : Nat → List (String × Json) → Prop
  | _, [] => True
  | levels, (_, value) :: rest => Readable levels value ∧ ReadableMembers levels rest

end

variable {l : Layout} {k levels : Nat}

theorem Layout.length_lead_pos (k : Nat) : 0 < (l.lead false k).length := Nat.zero_lt_succ _

theorem Layout.bracket_cons_append (opening closing : Char) (k : Nat) (p : Input) (ps : List Input)
    (rest : Input) :
    l.bracket opening closing k (p :: ps) ++ rest =
      opening :: (l.lead true (k + 1) ++ (p ++ (l.behind (k + 1) ps ++ (l.gap k ++ closing :: rest)))) := by
  simp [Layout.bracket]

theorem Layout.length_bracket_nil (opening closing : Char) (k : Nat) :
    (l.bracket opening closing k []).length = 2 := rfl

theorem Layout.length_bracket_cons (opening closing : Char) (k : Nat) (p : Input) (ps : List Input) :
    p.length + (l.behind (k + 1) ps).length + 2 ≤ (l.bracket opening closing k (p :: ps)).length := by
  simp only [Layout.bracket, List.length_cons, List.length_append]
  omega

theorem Layout.length_spellMember (key : String) (value : Input) :
    value.length < (l.spellMember key value).length := by
  rw [Layout.spellMember, List.length_append, List.length_cons, List.length_append]
  omega

/-- What stands behind the last part of a list or an object ends it. -/
theorem Layout.delimited_behind (k j : Nat) (ps : List Input) {closing : Char} (h : closing ∈ itemEnds)
    (rest : Input) : Delimited (l.behind k ps ++ (l.gap j ++ closing :: rest)) := by
  cases ps with
  | nil =>
    have hblank : Delimited (l.gap j ++ closing :: rest) :=
      delimited_blank (l.blank_gap j) (delimited_cons h rest)
    exact hblank
  | cons p ps => exact delimited_cons (by decide) _

/-- The text of a value begins with no blank, and with no bracket that ends a list. -/
theorem Layout.exists_spell_eq_cons (k : Nat) {v : Json} (h : Readable levels v) :
    ∃ c tail, l.spell k v = c :: tail ∧ isSpace c = false ∧ c ≠ ']' := by
  cases v with
  | null => exact ⟨'n', ['u', 'l', 'l'], rfl, by decide⟩
  | bool b =>
    cases b with
    | true => exact ⟨'t', ['r', 'u', 'e'], rfl, by decide⟩
    | false => exact ⟨'f', ['a', 'l', 's', 'e'], rfl, by decide⟩
  | number n =>
    have hn : n.ReadsBack := by cases levels <;> exact h
    obtain ⟨c, tail, hline, hspace, -, hclose⟩ := (takes_aNumber hn "f64").opens
    exact ⟨c, tail, hline, hspace, hclose⟩
  | string s =>
    obtain ⟨cs, hline, -⟩ := exists_line_string s
    exact ⟨'"', cs, hline, by decide⟩
  | array items =>
    rw [Layout.spell]
    cases l.spellItems (k + 1) items with
    | nil => exact ⟨'[', _, rfl, by decide⟩
    | cons p ps => exact ⟨'[', _, rfl, by decide⟩
  | object members =>
    rw [Layout.spell]
    cases l.spellMembers (k + 1) members with
    | nil => exact ⟨'\x7b', _, rfl, by decide⟩
    | cons p ps => exact ⟨'\x7b', _, rfl, by decide⟩

/-- An item is read with what stands in front of it, and then the others. -/
theorem Layout.readItems_lead (first : Bool) {item : Json} (h : Readable levels item) {items : List Json}
    {fuel depth : Nat} {after rest : Input}
    (hitem : readValue fuel depth (l.spell k item ++ after) = .ok (item, after))
    (hitems : readItems fuel depth false after = .ok (items, rest)) :
    readItems (fuel + 1) depth first (l.lead first k ++ (l.spell k item ++ after)) =
      .ok (item :: items, rest) := by
  obtain ⟨c, tail, hopens, hspace, hclose⟩ := l.exists_spell_eq_cons k h
  refine readItems_cons ?_ hitem hitems
  rw [hopens]
  cases first with
  | true => exact nextItem_first (l.blank_gap k) hspace hclose _
  | false => exact nextItem_next (l.blank_gap k) hspace hclose _

/-- A member is read with what stands in front of it. -/
theorem Layout.readMembers_lead (first : Bool) {before : List (String × Json)} {key : String}
    (hnew : key ∉ before.map Prod.fst) {value : Json} {fuel depth : Nat} {after : Input}
    (hvalue : readValue fuel depth (l.spell k value ++ after) = .ok (value, after)) :
    readMembers (fuel + 1) depth first before (l.lead first k ++ (l.spellMember key (l.spell k value) ++ after)) =
      readMembers fuel depth false (before ++ [(key, value)]) after := by
  obtain ⟨cs, hquote, hread⟩ := exists_toList_jsonQuote key
  rw [← readValue_blank l.blank_colon] at hvalue
  rw [Layout.spellMember, hquote, List.cons_append, List.cons_append, List.append_assoc, List.cons_append,
    List.append_assoc]
  refine readMembers_cons ?_ (hread _) hvalue hnew
  cases first with
  | true => exact nextKey_first (l.blank_gap k) _
  | false => exact nextKey_next (l.blank_gap k) _

mutual

/-- A value is read back from its text in any layout, whatever follows that ends an item. -/
theorem readValue_spell (k : Nat) (v : Json) (levels : Nat) (h : Readable levels v) {fuel depth : Nat}
    {rest : Input} (hfuel : (l.spell k v).length ≤ fuel) (hlevels : levels ≤ depth)
    (hrest : Delimited rest) : readValue fuel depth (l.spell k v ++ rest) = .ok (v, rest) := by
  -- The recursion is that of the value. Each step of the reader takes a character off the text at least, so
  -- what is left of the fuel is enough for what is left of the text.
  have hpos : 0 < fuel := by
    obtain ⟨c, tail, hopens, -, -⟩ := l.exists_spell_eq_cons k h
    rw [hopens, List.length_cons] at hfuel
    omega
  obtain ⟨fuel, rfl⟩ := Nat.exists_eq_add_one_of_ne_zero (Nat.ne_of_gt hpos)
  cases v with
  | null => rfl
  | bool b => cases b <;> rfl
  | number n =>
    have hn : n.ReadsBack := by cases levels <;> exact h
    exact readValue_number hn hpos hrest
  | string s =>
    obtain ⟨cs, hline, hread⟩ := exists_line_string s
    have hspell : l.spell k (string s) = '"' :: cs := hline
    rw [hspell, List.cons_append]
    change ((readString (cs ++ rest)).bind fun r => .ok (string r.1, r.2)) = _
    rw [hread]
    rfl
  | array items =>
    cases levels with
    | zero => cases h
    | succ levels =>
      obtain ⟨depth, rfl⟩ : ∃ d, depth = d + 1 := ⟨depth - 1, by omega⟩
      cases items with
      | nil =>
        rw [Layout.spell, Layout.spellItems, Layout.length_bracket_nil] at hfuel
        obtain ⟨fuel, rfl⟩ : ∃ f, fuel = f + 1 := ⟨fuel - 1, by omega⟩
        rfl
      | cons item items =>
        have hlength := l.length_bracket_cons '[' ']' k (l.spell (k + 1) item) (l.spellItems (k + 1) items)
        -- The items behind are read with one step less again, which the first item has to pay for.
        obtain ⟨c, tail, hitem, -, -⟩ := l.exists_spell_eq_cons (k + 1) h.1
        have hitem_pos : 0 < (l.spell (k + 1) item).length := by simp [hitem]
        rw [Layout.spell, Layout.spellItems] at hfuel ⊢
        obtain ⟨fuel, rfl⟩ : ∃ f, fuel = f + 1 := ⟨fuel - 1, by omega⟩
        have hdelimited := l.delimited_behind (k + 1) k (l.spellItems (k + 1) items)
          (by decide : ']' ∈ itemEnds) rest
        have hitems := readItems_behind (k + 1) k items levels h.2 rest (by omega : _ < fuel)
          (by omega : levels ≤ depth)
        have hitem := readValue_spell (k + 1) item levels h.1 (by omega : _ ≤ fuel)
          (by omega : levels ≤ depth) hdelimited
        rw [Layout.bracket_cons_append]
        exact readValue_array (l.readItems_lead true h.1 hitem hitems)
  | object members =>
    cases levels with
    | zero => cases h
    | succ levels =>
      obtain ⟨depth, rfl⟩ : ∃ d, depth = d + 1 := ⟨depth - 1, by omega⟩
      cases members with
      | nil =>
        rw [Layout.spell, Layout.spellMembers, Layout.length_bracket_nil] at hfuel
        obtain ⟨fuel, rfl⟩ : ∃ f, fuel = f + 1 := ⟨fuel - 1, by omega⟩
        rfl
      | cons member members =>
        obtain ⟨key, value⟩ := member
        have hlength := l.length_bracket_cons '\x7b' '\x7d' k (l.spellMember key (l.spell (k + 1) value))
          (l.spellMembers (k + 1) members)
        have hmember := l.length_spellMember key (l.spell (k + 1) value)
        rw [Layout.spell, Layout.spellMembers] at hfuel ⊢
        obtain ⟨fuel, rfl⟩ : ∃ f, fuel = f + 1 := ⟨fuel - 1, by omega⟩
        have hdelimited := l.delimited_behind (k + 1) k (l.spellMembers (k + 1) members)
          (by decide : '\x7d' ∈ itemEnds) rest
        have hmembers := readMembers_behind (k + 1) k members levels h.2.2 [(key, value)] h.1 rest
          (by omega : _ < fuel) (by omega : levels ≤ depth)
        have hvalue := readValue_spell (k + 1) value levels h.2.1 (by omega : _ ≤ fuel)
          (by omega : levels ≤ depth) hdelimited
        rw [Layout.bracket_cons_append]
        refine readValue_object ?_
        rw [l.readMembers_lead true List.not_mem_nil hvalue]
        exact hmembers

/-- The items of a list behind the first one. -/
theorem readItems_behind (k j : Nat) (items : List Json) (levels : Nat) (h : ReadableItems levels items)
    {fuel depth : Nat} (rest : Input) (hfuel : (l.behind k (l.spellItems k items)).length < fuel)
    (hlevels : levels ≤ depth) :
    readItems fuel depth false (l.behind k (l.spellItems k items) ++ (l.gap j ++ ']' :: rest)) =
      .ok (items, ']' :: rest) := by
  obtain ⟨fuel, rfl⟩ := Nat.exists_eq_add_one_of_ne_zero (Nat.ne_of_gt (Nat.zero_lt_of_lt hfuel))
  match items with
  | [] =>
    rw [Layout.spellItems, Layout.behind, List.flatMap_nil, List.nil_append, readItems,
      nextItem_close (l.blank_gap j)]
    rfl
  | item :: items =>
    have hlead := l.length_lead_pos k
    rw [Layout.spellItems, Layout.behind_cons, List.length_append, List.length_append] at hfuel
    have hdelimited := l.delimited_behind k j (l.spellItems k items) (by decide : ']' ∈ itemEnds) rest
    have hitems := readItems_behind k j items levels h.2 rest (by omega : _ < fuel) hlevels
    have hitem := readValue_spell k item levels h.1 (by omega : _ ≤ fuel) hlevels hdelimited
    rw [Layout.spellItems, Layout.behind_cons, List.append_assoc, List.append_assoc]
    exact l.readItems_lead false h.1 hitem hitems

/-- The members of an object behind the first one. -/
theorem readMembers_behind (k j : Nat) (members : List (String × Json)) (levels : Nat)
    (h : ReadableMembers levels members) (before : List (String × Json))
    (hkeys : ((before ++ members).map Prod.fst).Nodup) {fuel depth : Nat} (rest : Input)
    (hfuel : (l.behind k (l.spellMembers k members)).length < fuel) (hlevels : levels ≤ depth) :
    readMembers fuel depth false before
        (l.behind k (l.spellMembers k members) ++ (l.gap j ++ '\x7d' :: rest)) =
      .ok (before ++ members, '\x7d' :: rest) := by
  obtain ⟨fuel, rfl⟩ := Nat.exists_eq_add_one_of_ne_zero (Nat.ne_of_gt (Nat.zero_lt_of_lt hfuel))
  match members with
  | [] =>
    rw [Layout.spellMembers, Layout.behind, List.flatMap_nil, List.nil_append, readMembers,
      nextKey_close (l.blank_gap j), List.append_nil]
    rfl
  | (key, value) :: members =>
    have hlead := l.length_lead_pos k
    have hvalue_le := l.length_spellMember key (l.spell k value)
    rw [Layout.spellMembers, Layout.behind_cons, List.length_append, List.length_append] at hfuel
    rw [List.append_cons] at hkeys
    -- The reader puts a member that has a key from before in the place of the other one.
    have hnew : key ∉ before.map Prod.fst := by
      rw [List.map_append, List.map_append] at hkeys
      have hfront := (List.nodup_append.mp hkeys).1
      exact fun hmem => (List.nodup_append.mp hfront).2.2 key hmem key List.mem_cons_self rfl
    have hdelimited := l.delimited_behind k j (l.spellMembers k members) (by decide : '\x7d' ∈ itemEnds) rest
    have hvalue := readValue_spell k value levels h.1 (by omega : _ ≤ fuel) hlevels hdelimited
    rw [Layout.spellMembers, Layout.behind_cons, List.append_assoc, List.append_assoc,
      l.readMembers_lead false hnew hvalue,
      readMembers_behind k j members levels h.2 _ hkeys rest (by omega : _ < fuel) hlevels,
      ← List.append_cons]

end

/-- A text that is a value in some layout, and blanks, is parsed to the value. -/
theorem Layout.parse_eq (l : Layout) {v : Json} (h : Readable depthLimit v) {text : String} {ws : Input}
    (htext : text.toList = l.spell 0 v ++ ws) (hws : Blank ws) : parse text = .ok v := by
  have hfuel : (l.spell 0 v).length ≤ stepLimit text.toList := by
    rw [stepLimit, htext, List.length_append]
    omega
  have hdelimited : Delimited ws := by
    simpa using delimited_blank hws delimited_nil
  have hread := readValue_spell 0 v depthLimit h hfuel (Nat.le_refl _) hdelimited
  have hskip : skipSpace ws = [] := List.dropWhile_eq_nil_iff.mpr hws
  rw [parse, readText]
  dsimp only [bind, Except.bind]
  rw [htext] at hread ⊢
  rw [hread]
  dsimp only
  rw [hskip]
  rfl

/-- Each part on a line of its own, two spaces further in for each level. -/
def Layout.indented : Layout where
  gap k := '\n' :: List.replicate (2 * k) ' '
  colon := [' ']
  blank_gap _ := List.forall_mem_cons.mpr ⟨rfl, fun _ h => List.eq_of_mem_replicate h ▸ rfl⟩
  blank_colon := List.forall_mem_singleton.mpr rfl

theorem toList_layOut {opening closing : String} {o c : Char} (ho : opening.toList = [o])
    (hc : closing.toList = [c]) (k : Nat) (parts : List String) :
    (layOut opening closing k parts).toList = Layout.indented.bracket o c k (parts.map String.toList) := by
  unfold layOut
  cases parts with
  | nil => simp [Layout.bracket, ho, hc]
  | cons p ps =>
    have hcomma : ",\n".toList = [',', '\n'] := rfl
    have hline : "\n".toList = ['\n'] := rfl
    have hgap (j : Nat) : Layout.indented.gap j = '\n' :: (indentation j).toList := by
      rw [indentation, String.toList_ofList]
      rfl
    simp only [List.isEmpty_cons, Bool.false_eq_true, if_false, String.toList_append,
      String.toList_intercalate, ho, hc, hcomma, hline, List.map_cons, intercalate_cons_flatMap]
    simp [Layout.bracket, Layout.behind, Layout.lead, hgap, List.flatMap_map]

mutual

theorem toList_prettyAt (k : Nat) (v : Json) : (prettyAt k v).toList = Layout.indented.spell k v := by
  match v with
  | null | bool true | bool false | number _ | string _ =>
    rw [prettyAt, Layout.spell, line, compact] <;> simp
  | array items =>
    rw [prettyAt, Layout.spell, ← map_toList_prettyItems]
    exact toList_layOut rfl rfl k _
  | object members =>
    rw [prettyAt, Layout.spell, ← map_toList_prettyMembers]
    exact toList_layOut rfl rfl k _

theorem map_toList_prettyItems (k : Nat) (items : List Json) :
    (prettyItems k items).map String.toList = Layout.indented.spellItems k items := by
  match items with
  | [] => rfl
  | item :: items =>
    rw [prettyItems, Layout.spellItems, List.map_cons, toList_prettyAt, map_toList_prettyItems]

theorem map_toList_prettyMembers (k : Nat) (members : List (String × Json)) :
    (prettyMembers k members).map String.toList = Layout.indented.spellMembers k members := by
  match members with
  | [] => rfl
  | (key, value) :: members =>
    rw [prettyMembers, Layout.spellMembers, List.map_cons, map_toList_prettyMembers,
      String.toList_append, String.toList_append, toList_prettyAt, List.append_assoc]
    rfl

end

/-- A value is read back from its text over several lines, whatever blanks end it. -/
theorem parse_pretty_append {v : Json} (h : Readable depthLimit v) {ws : String} (hws : Blank ws.toList) :
    parse (v.pretty ++ ws) = .ok v := by
  refine Layout.indented.parse_eq h ?_ hws
  rw [String.toList_append, pretty, toList_prettyAt]

end Scaffold.Json
