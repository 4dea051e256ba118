import Scaffold.Proofs.Number.Reading
import Scaffold.Proofs.Source.Literal
import Scaffold.Proofs.Text.LiteralList

/-!
A reader of object literals whose keys are identifiers and whose values are truth values, numbers, string
literals and arrays of string literals. Layout may stand between any two pieces. A piece is read alike
whatever stands behind it, as long as that begins with a mark that continues no piece.
-/

namespace Scaffold.ObjectLiteral

/-- Reads a piece from the beginning of a text and leaves what stands behind it. -/
abbrev Reader (α : Type) := List Char → Option (α × List Char)

/-- The text without the layout in front. -/
def skipLayout (cs : List Char) : List Char := cs.dropWhile Char.isWhitespace

/-- Reads a string literal. -/
def readText? : Reader String
  | '"' :: cs => (Text.readBody? cs).map fun (text, rest) => (String.ofList text, rest)
  | _ => none

/-- Reads items with a comma between each two up to the closing mark, which may also stand behind a
comma. `fuel` bounds the number of items. -/
def readItems? {α : Type} (item : Reader α) (close : Char) : Nat → Reader (List α)
  | 0, _ => none
  | fuel + 1, cs =>
    match skipLayout cs with
    | [] => none
    | c :: rest =>
      if c = close then some ([], rest)
      else
        match item (c :: rest) with
        | none => none
        | some (x, tail) =>
          match skipLayout tail with
          | [] => none
          | d :: rest =>
            if d = close then some ([x], rest)
            else if d = ',' then (readItems? item close fuel rest).map fun (xs, rest) => (x :: xs, rest)
            else none

/-- Reads items up to the closing mark. There are no more of them than characters. -/
def readList? {α : Type} (item : Reader α) (close : Char) : Reader (List α) := fun cs =>
  readItems? item close cs.length cs

/-- What can stand as a value. -/
inductive Value where
  | flag (b : Bool)
  | number (n : SignedNumeral)
  | text (s : String)
  | texts (values : List String)
deriving DecidableEq, Repr

/-- The value that a word is. -/
def Value.ofWord? (word : List Char) : Option Value :=
  if word = "true".toList then some (.flag true)
  else if word = "false".toList then some (.flag false)
  else (SignedNumeral.read? word).map .number

/-- Reads a value. -/
def readValue? : Reader Value
  | '"' :: cs => (readText? ('"' :: cs)).map fun (s, rest) => (.text s, rest)
  | '[' :: cs => (readList? readText? ']' cs).map fun (values, rest) => (.texts values, rest)
  | cs => (Value.ofWord? (cs.takeWhile Text.isNumberChar)).map fun v =>
    (v, cs.dropWhile Text.isNumberChar)

/-- Whether a text is an identifier that can stand as a key. -/
def isKey : List Char → Bool
  | [] => false
  | c :: rest => (c.isAlpha || c == '_') && rest.all fun d => d.isAlphanum || d == '_'

/-- Reads a key and its value. -/
def readEntry? : Reader (String × Value) := fun cs =>
  let key := cs.takeWhile fun c => c.isAlphanum || c == '_'
  match skipLayout (cs.dropWhile fun c => c.isAlphanum || c == '_') with
  | ':' :: rest =>
    if isKey key then (readValue? (skipLayout rest)).map fun (v, rest) => ((String.ofList key, v), rest)
    else none
  | _ => none

/-- Reads an object literal with nothing behind it. -/
def readObject? : List Char → Option (List (String × Value))
  | '\x7b' :: cs =>
    match readList? readEntry? '\x7d' cs with
    | some (entries, rest) => if skipLayout rest = [] then some entries else none
    | none => none
  | _ => none

/-- Whether a character continues no piece. -/
def isMark (c : Char) : Bool := c == ',' || c == ']' || c == '\x7d' || c.isWhitespace

/-- Whether a text is read as a value wherever a mark stands behind it. The text itself begins with no
mark. -/
structure Reads {α : Type} (read : Reader α) (cs : List Char) (x : α) : Prop where
  exists_cons : ∃ c tail, cs = c :: tail ∧ isMark c = false
  read_eq : ∀ c rest, isMark c = true → read (cs ++ c :: rest) = some (x, c :: rest)

theorem skipLayout_append {before : List Char} (h : ∀ c ∈ before, c.isWhitespace = true) (rest : List Char) :
    skipLayout (before ++ rest) = skipLayout rest := List.dropWhile_append_of_pos h

theorem skipLayout_cons {c : Char} (h : c.isWhitespace = false) (rest : List Char) :
    skipLayout (c :: rest) = c :: rest := by
  rw [skipLayout, List.dropWhile_cons_of_neg]
  rw [h]
  exact Bool.false_ne_true

theorem isMark_eq_false_iff (c : Char) :
    isMark c = false ↔ c ≠ ',' ∧ c ≠ ']' ∧ c ≠ '\x7d' ∧ c.isWhitespace = false := by
  simp only [isMark, Bool.or_eq_false_iff, beq_eq_false_iff_ne, and_assoc, ne_eq]

/-- Layout and the closing mark behind it stop every piece. -/
theorem exists_cons_mark {close : Char} (hclose : isMark close = true) {behind : List Char}
    (hbehind : ∀ c ∈ behind, c.isWhitespace = true) (rest : List Char) :
    ∃ c tail, behind ++ close :: rest = c :: tail ∧ isMark c = true := by
  cases behind with
  | nil => exact ⟨close, rest, rfl, hclose⟩
  | cons c behind =>
    refine ⟨c, _, rfl, ?_⟩
    rw [isMark, hbehind c List.mem_cons_self, Bool.or_true]

section Items

variable {α : Type} {item : Reader α} {close : Char} {texts : List (List Char)} {xs : List α}

/-- Items with a comma and a space between each two are read one by one. -/
theorem readItems?_intercalate (hclose : close = ']' ∨ close = '\x7d')
    (h : List.Forall₂ (Reads item) texts xs) {behind : List Char}
    (hbehind : ∀ c ∈ behind, c.isWhitespace = true) (rest : List Char) :
    ∀ {before : List Char} {fuel : ℕ}, (∀ c ∈ before, c.isWhitespace = true) → texts.length < fuel →
      readItems? item close fuel
        (before ++ (List.intercalate [',', ' '] texts ++ (behind ++ close :: rest))) = some (xs, rest) := by
  have hmark : isMark close = true := by rcases hclose with rfl | rfl <;> rfl
  have hlayout : close.isWhitespace = false := by rcases hclose with rfl | rfl <;> rfl
  have hcomma : ',' ≠ close := by rcases hclose with rfl | rfl <;> decide
  have hend : skipLayout (behind ++ close :: rest) = close :: rest := by
    rw [skipLayout_append hbehind, skipLayout_cons hlayout]
  -- Induction on the items: each step reads one of them and the comma behind it.
  induction h with
  | nil =>
    intro before fuel hbefore hfuel
    obtain ⟨fuel, rfl⟩ : ∃ n, fuel = n + 1 := ⟨fuel - 1, by omega⟩
    rw [readItems?, skipLayout_append hbefore]
    simp only [List.intercalate_nil, List.nil_append, hend, if_true]
  | @cons cs x texts xs hx htail ih =>
    intro before fuel hbefore hfuel
    obtain ⟨fuel, rfl⟩ : ∃ n, fuel = n + 1 := ⟨fuel - 1, by omega⟩
    obtain ⟨c, tail, rfl, hc⟩ := hx.exists_cons
    obtain ⟨-, hsquare, hcurly, hspace⟩ := (isMark_eq_false_iff c).mp hc
    have hne : c ≠ close := by rcases hclose with rfl | rfl <;> assumption
    have hread := hx.read_eq
    cases htail with
    | nil =>
      obtain ⟨d, after, hcons, hd⟩ := exists_cons_mark hmark hbehind rest
      have hitem := hread d after hd
      rw [← hcons, List.cons_append] at hitem
      rw [readItems?, skipLayout_append hbefore, List.intercalate_singleton, List.cons_append,
        skipLayout_cons hspace]
      simp only [hne, if_false, hitem, hend, if_true]
    | @cons cs' x' texts xs hx' htail =>
      have hsplit : List.intercalate [',', ' '] ((c :: tail) :: cs' :: texts) =
          c :: (tail ++ ',' :: ' ' :: List.intercalate [',', ' '] (cs' :: texts)) := by
        simp only [List.intercalate_cons_cons, List.cons_append, List.nil_append, List.append_assoc]
      have hitem := hread ',' (' ' :: (List.intercalate [',', ' '] (cs' :: texts) ++
        (behind ++ close :: rest))) rfl
      have hblank : ∀ c ∈ [' '], c.isWhitespace = true := List.forall_mem_singleton.mpr rfl
      have hless : (cs' :: texts).length < fuel := by
        rw [List.length_cons] at hfuel
        omega
      have hnext := ih hblank hless
      rw [List.cons_append] at hitem
      rw [readItems?, skipLayout_append hbefore, hsplit, List.cons_append, List.append_assoc,
        List.cons_append, List.cons_append, skipLayout_cons hspace]
      rw [List.singleton_append] at hnext
      have hcommaLayout : (',' : Char).isWhitespace = false := rfl
      simp only [hne, if_false, hitem, skipLayout_cons hcommaLayout, hcomma, if_true, hnext, Option.map_some]

theorem ne_nil_of_reads (h : List.Forall₂ (Reads item) texts xs) : ∀ cs ∈ texts, cs ≠ [] := by
  induction h with
  | nil => exact List.forall_mem_nil _
  | cons hx _ ih =>
    obtain ⟨c, tail, rfl, -⟩ := hx.exists_cons
    exact List.forall_mem_cons.mpr ⟨List.cons_ne_nil c tail, ih⟩

theorem readList?_intercalate (hclose : close = ']' ∨ close = '\x7d')
    (h : List.Forall₂ (Reads item) texts xs) {before behind : List Char}
    (hbefore : ∀ c ∈ before, c.isWhitespace = true) (hbehind : ∀ c ∈ behind, c.isWhitespace = true)
    (rest : List Char) :
    readList? item close (before ++ (List.intercalate [',', ' '] texts ++ (behind ++ close :: rest))) =
      some (xs, rest) := by
  apply readItems?_intercalate hclose h hbehind rest hbefore
  have hlength := Text.length_le_length_intercalate [',', ' '] (ne_nil_of_reads h)
  simp only [List.length_append, List.length_cons]
  omega

end Items

/-- A quoted text is read as the text. -/
theorem reads_quote (s : String) : Reads readText? (Text.quote s).toList s where
  exists_cons := ⟨'"', _, Text.toList_quote s, rfl⟩
  read_eq c rest _ := by
    have hbody := (Text.spells_flatMap_sourceChar s.toList).readBody?_eq (c :: rest)
    rw [Text.toList_quote, List.cons_append, List.append_assoc, List.singleton_append, readText?, hbody]
    simp only [Option.map_some, String.ofList_toList]

theorem reads_text (s : String) : Reads readValue? (Text.quote s).toList (.text s) where
  exists_cons := (reads_quote s).exists_cons
  read_eq c rest hc := by
    have hread := (reads_quote s).read_eq c rest hc
    rw [Text.toList_quote, List.cons_append] at hread ⊢
    rw [readValue?, hread, Option.map_some]

theorem forall₂_quote (values : List String) :
    List.Forall₂ (Reads readText?) ((quoteAll values).map String.toList) values := by
  induction values with
  | nil => exact .nil
  | cons v vs ih => exact .cons (reads_quote v) ih

/-- A list of quoted texts is read as the texts. -/
theorem reads_texts (values : List String) :
    Reads readValue? ("[" ++ ", ".intercalate (quoteAll values) ++ "]").toList (.texts values) := by
  have hlist : ("[" ++ ", ".intercalate (quoteAll values) ++ "]").toList =
      '[' :: (List.intercalate [',', ' '] ((quoteAll values).map String.toList) ++ [']']) := by
    rw [String.toList_append, String.toList_append, String.toList_intercalate]
    rfl
  refine ⟨⟨'[', _, hlist, rfl⟩, fun c rest _ => ?_⟩
  have hnone : ∀ c ∈ ([] : List Char), c.isWhitespace = true := List.forall_mem_nil _
  have hread := readList?_intercalate (.inl rfl) (forall₂_quote values) hnone hnone (c :: rest)
  rw [List.nil_append, List.nil_append] at hread
  rw [hlist, List.cons_append, List.append_assoc, List.singleton_append, readValue?, hread, Option.map_some]

/-- A word is read as the value that it is. -/
theorem reads_word {word : List Char} (hword : NumberText word) {v : Value}
    (hv : Value.ofWord? word = some v) : Reads readValue? word v := by
  have hstart : ∃ c tail, word = c :: tail := by
    cases word with
    | nil => cases hv
    | cons c tail => exact ⟨c, tail, rfl⟩
  obtain ⟨c, tail, rfl⟩ := hstart
  have hc := hword c List.mem_cons_self
  refine ⟨⟨c, tail, rfl, ?_⟩, fun d rest hd => ?_⟩
  · have hall := Text.forall_of_isNumberChar (P := fun c => !isMark c) (by decide) hc
    simpa using hall
  · have hstop : ¬Text.isNumberChar d = true := by
      intro hnumber
      have hall := Text.forall_of_isNumberChar (P := fun c => !isMark c) (by decide) hnumber
      rw [hd] at hall
      cases hall
    -- A word begins no text and no list, so it is taken up to the next mark.
    have hquote : c ≠ '"' := by
      rintro rfl
      cases hc
    have hopen : c ≠ '[' := by
      rintro rfl
      cases hc
    rw [List.cons_append, readValue?.eq_3 _ (fun _ h => hquote (List.cons_eq_cons.mp h).1)
      fun _ h => hopen (List.cons_eq_cons.mp h).1, ← List.cons_append,
      List.takeWhile_append_of_pos hword, List.dropWhile_append_of_pos hword,
      List.takeWhile_cons_of_neg hstop, List.dropWhile_cons_of_neg hstop, List.append_nil, hv,
      Option.map_some]

/-- A key and a piece behind it are read as an entry. -/
theorem reads_entry {key : String} (hkey : isKey key.toList = true) {cs : List Char} {v : Value}
    (h : Reads readValue? cs v) :
    Reads readEntry? (key.toList ++ (':' :: ' ' :: cs)) (key, v) := by
  obtain ⟨c, tail, hcons, hc⟩ := h.exists_cons
  obtain ⟨-, -, -, hspace⟩ := (isMark_eq_false_iff c).mp hc
  obtain ⟨k, ks, hk⟩ : ∃ k ks, key.toList = k :: ks := by
    cases hk : key.toList with
    | nil =>
      rw [hk] at hkey
      cases hkey
    | cons k ks => exact ⟨k, ks, rfl⟩
  -- The key goes up to the colon, as none of its characters is one.
  have hfirst : k.isAlpha = true ∨ k = '_' := by
    rw [hk, isKey, Bool.and_eq_true, Bool.or_eq_true, beq_iff_eq] at hkey
    exact hkey.1
  have hall : ∀ d ∈ key.toList, (d.isAlphanum || d == '_') = true := by
    rw [hk, isKey, Bool.and_eq_true, List.all_eq_true] at hkey
    rw [hk]
    refine List.forall_mem_cons.mpr ⟨?_, hkey.2⟩
    rcases hfirst with hfirst | rfl
    · rw [Char.isAlphanum, hfirst, Bool.true_or, Bool.true_or]
    · rfl
  refine ⟨⟨k, ks ++ ':' :: ' ' :: cs, by rw [hk, List.cons_append], ?_⟩, fun d rest hd => ?_⟩
  · rcases hfirst with hfirst | rfl
    · have hmark := Text.forall_of_isNumberChar (P := fun c => !isMark c) (by decide)
        (Text.isNumberChar_of_isAlpha hfirst)
      simpa using hmark
    · rfl
  · have hread := h.read_eq d rest hd
    have hcolon : (':' : Char).isWhitespace = false := rfl
    have hblank : skipLayout (' ' :: (cs ++ d :: rest)) = cs ++ d :: rest := by
      rw [← List.singleton_append, skipLayout_append (List.forall_mem_singleton.mpr rfl), hcons,
        List.cons_append, skipLayout_cons hspace]
    rw [List.append_assoc, List.cons_append, List.cons_append, readEntry?,
      List.takeWhile_append_of_pos hall, List.dropWhile_append_of_pos hall,
      List.takeWhile_cons_of_neg (by decide), List.dropWhile_cons_of_neg (by decide), List.append_nil,
      skipLayout_cons hcolon]
    simp only [hkey, if_true, hblank, hread, Option.map_some, String.ofList_toList]

/-- Entries between braces are read as an object. -/
theorem readObject?_intercalate {texts : List (List Char)} {entries : List (String × Value)}
    (h : List.Forall₂ (Reads readEntry?) texts entries) :
    readObject? ('\x7b' :: ' ' :: (List.intercalate [',', ' '] texts ++ [' ', '\x7d'])) = some entries := by
  have hspace : ∀ c ∈ [' '], c.isWhitespace = true := List.forall_mem_singleton.mpr rfl
  have hread := readList?_intercalate (.inr rfl) h hspace hspace []
  rw [List.singleton_append, List.singleton_append] at hread
  rw [readObject?, hread]
  rfl

end Scaffold.ObjectLiteral
