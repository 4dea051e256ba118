import Scaffold.Proofs.TypeScript.FreeText
import Scaffold.Proofs.TypeScript.SourceLines

namespace Scaffold.TypeScript

variable {limits : Limits} {p : Parameter}

theorem unbroken_quoteAll {sep : String} (hsep : unbroken sep = true) (values : List String) :
    unbroken (sep.intercalate (quoteAll values)) = true := by
  refine unbroken_intercalate hsep fun x hx => ?_
  obtain ⟨v, -, rfl⟩ := List.mem_map.mp hx
  exact unbroken_quote v

/-- A call with an argument. -/
theorem unbroken_call {before after : List Char} {argument : String}
    (hbefore : (before.all fun c => !isLineTerminator c) = true)
    (hafter : (after.all fun c => !isLineTerminator c) = true) (h : unbroken argument = true) :
    unbroken (String.ofList before ++ argument ++ String.ofList after) = true := by
  rw [unbroken_append, unbroken_append, unbroken_literal, unbroken_literal, hbefore, hafter, h]
  rfl

theorem tame_call {before after : List Char} {argument : String}
    (hbefore : (before.all fun c => c != ':' && c != '\x7d') = true)
    (hafter : (after.all fun c => c != ':' && c != '\x7d') = true) (h : tame argument = true) :
    tame (String.ofList before ++ argument ++ String.ofList after) = true := by
  rw [tame_append, tame_append, tame_literal, tame_literal, hbefore, hafter, h]
  rfl

/-- The schema of a type that takes text is written on one line. -/
theorem unbroken_validator (ht : p.type.isTextual = true) :
    unbroken (declare p).validator = true := by
  have hbase : unbroken ((fragment p).resolve (baseSchema p.type)) = true := by
    simp only [fragment, Fragment.resolve]
    cases p.alternatives with
    | none => cases p.type <;> exact unbroken_literal _
    | some values => exact unbroken_call (by decide) (by decide) (unbroken_quoteAll (unbroken_literal _) values)
  have hcalls : unbroken (fragment p).splice = true := by
    refine unbroken_join fun x hx => ?_
    obtain ⟨k, -, rfl⟩ := mem_parts_iff.mp hx
    cases k with
    | minLength n => exact unbroken_call (by decide) (by decide) (unbroken_number (numberText_toString _))
    | maxLength n => exact unbroken_call (by decide) (by decide) (unbroken_number (numberText_toString _))
    | pattern x => exact unbroken_call (by decide) (by decide) (unbroken_regexBody x)
    | atLeast x => exact unbroken_call (by decide) (by decide) (unbroken_number x.numberText_text)
    | atMost x => exact unbroken_call (by decide) (by decide) (unbroken_number x.numberText_text)
    | default v =>
      simp only [call, defaultCall, DefaultValue.literal, ht, if_true]
      split <;> exact unbroken_call (by decide) (by decide) (unbroken_quote _)
    | email | url | whole | omissible =>
      simp only [call]
      exact unbroken_literal _
  simp only [declare, unbroken_append, hbase, hcalls, Bool.and_self]

/-- The schema of any other type holds no text of the author, but for a default without quotes. -/
theorem tame_validator [Pattern.SizeLimit] (hp : p.Valid limits) (ht : p.type.isTextual = false) :
    tame (declare p).validator = true := by
  have hnumber {s : String} (h : NumberText s.toList) : tame s = true := tame_token h.tokenText
  have hbase : tame ((fragment p).resolve (baseSchema p.type)) = true := by
    have hnone : p.alternatives = none := by
      refine if_neg fun henum => ?_
      rw [henum] at ht
      cases ht
    simp only [fragment, Fragment.resolve, hnone]
    cases p.type <;> exact tame_literal _
  have hcalls : tame (fragment p).splice = true := by
    refine tame_join fun x hx => ?_
    obtain ⟨k, hk, rfl⟩ := mem_parts_iff.mp hx
    cases k with
    | minLength n => exact tame_call (by decide) (by decide) (hnumber (numberText_toString _))
    | maxLength n => exact tame_call (by decide) (by decide) (hnumber (numberText_toString _))
    | pattern x =>
      -- Only types that take text have a pattern.
      have hs := Parameter.isStringLike_of_mem_checks hk
      cases htype : p.type <;> rw [htype] at ht hs <;> cases ht <;> cases hs
    | atLeast x => exact tame_call (by decide) (by decide) (hnumber x.numberText_text)
    | atMost x => exact tame_call (by decide) (by decide) (hnumber x.numberText_text)
    | default v =>
      have hspell (b : Bool) : NumberText (boolText b).toList := by
        cases b <;> exact numberText_of_all (by decide)
      obtain ⟨c, hv⟩ := hp.suits (Parameter.default_of_mem_checks hk)
      have hliteral := tame_token (hv.tokenText_literal ht hspell)
      simp only [call, defaultCall]
      split <;> exact tame_call (by decide) (by decide) hliteral
    | email | url | whole | omissible =>
      simp only [call]
      exact tame_literal _
  simp only [declare, tame_append, hbase, hcalls, Bool.and_self]

theorem unbroken_or_tame_validator [Pattern.SizeLimit] (hp : p.Valid limits) :
    unbroken (declare p).validator = true ∨ tame (declare p).validator = true := by
  cases ht : p.type.isTextual with
  | true => exact .inl (unbroken_validator ht)
  | false => exact .inr (tame_validator hp ht)

/-- The key of a parameter in its schema. -/
theorem declares_keyLine [Pattern.SizeLimit] (hp : p.Valid limits) :
    Declares .schema .schema (Line.render indentUnit
      ⟨1, (declare p).name ++ ": " ++ (declare p).validator ++ ","⟩) [.key p.identifier] :=
  declares_schemaMember hp.bindable.isIdentifier (unbroken_or_tame_validator hp)

/-- The line that opens a schema. -/
theorem declares_schemaHead {n : String} (hn : Text.IsIdentifier n) :
    Declares .outside .schema (Line.render indentUnit
      ⟨0, "const " ++ (n ++ "_schema") ++ " = z.object(\x7b"⟩) [.schema (n ++ "_schema")] := by
  have hschema : Text.IsIdentifier (n ++ "_schema") := hn.append (by decide)
  have hunbroken : unbroken ("const " ++ (n ++ "_schema") ++ " = z.object(\x7b") = true :=
    unbroken_call (by decide) (by decide) (unbroken_name hschema)
  have hline := declares_line hunbroken .outside
  have hchars : ("const " ++ (n ++ "_schema") ++ " = z.object(\x7b").toList =
      "const ".toList ++ ((n ++ "_schema").toList ++ " = z.object(\x7b".toList) := by
    rw [String.toList_append, String.toList_append, List.append_assoc]
  have hword : word ' ' ((n ++ "_schema").toList ++ " = z.object(\x7b".toList) = n ++ "_schema" :=
    word_name List.all_nil hschema (by decide) rfl
  have hrest : ((n ++ "_schema").toList ++ " = z.object(\x7b".toList).dropWhile (· != ' ') =
      " = z.object(\x7b".toList := by
    refine List.dropWhile_append_of_pos fun c hc => ?_
    rw [bne_iff_ne]
    exact Text.ne_layout_of_isNameChar (hschema.isNameChar c hc) (by decide)
  have hbehind : behind? " = z.object(\x7b" " = z.object(\x7b".toList = some [] := by decide
  have hread : readLine .outside ("const ".toList ++
      ((n ++ "_schema").toList ++ " = z.object(\x7b".toList)) =
        (.schema, [.schema (n ++ "_schema")]) := by
    rw [readLine, outsideLine, behind?_append]
    simp only [hrest, hbehind, hword, if_true]
  rw [hchars, hread] at hline
  rw [Line.render_zero]
  exact hline

/-- The schema that validates the input of a tool. -/
theorem declares_schemaLines [Pattern.SizeLimit] {t : Tool} (ht : t.Valid limits) :
    Declares .outside .outside (Line.renderAll indentUnit (schemaLines (t.declare .typeScript)))
      (.schema (t.identifier ++ "_schema") :: t.parameterIdentifiers.map .key) := by
  have hid : Text.IsIdentifier t.identifier := ht.bindable.isIdentifier
  have hcomment : Declares .outside .outside (Line.render indentUnit
      ⟨0, "// Parameter validation schema for " ++ t.identifier⟩) [] := by
    rw [Line.render_zero]
    exact declares_otherLine (by decide) (by decide) (unbroken_name hid)
  have hhead := Cutting.tells_cons hcomment
    (Cutting.tells_cons (declares_schemaHead hid) (Cutting.tells_nil _ _ _))
  have hkeys : Declares .schema .schema (Line.renderAll indentUnit
      ((t.declare .typeScript).params.map fun p => ⟨1, p.name ++ ": " ++ p.validator ++ ","⟩))
      (t.parameterIdentifiers.map .key) := by
    simp only [Tool.declare, Tool.parameterIdentifiers, List.map_map]
    exact Cutting.tells_map fun p hp => declares_keyLine (ht.parameters_valid p hp)
  have hend : Declares .schema .outside (Line.renderAll indentUnit [⟨0, "\x7d);"⟩, .blank]) [] :=
    Cutting.tells_cons (declares_idleLine (y := .outside) (by decide)) (declares_quietLines (by decide))
  have h := (hhead.append hkeys).append hend
  unfold schemaLines
  rw [Line.renderAll_append, Line.renderAll_append]
  simp only [List.nil_append, List.append_nil, List.cons_append] at h
  exact h

theorem unbroken_boolText (b : Bool) : unbroken (boolText b) = true := by
  cases b <;> exact unbroken_literal _

/-- Each constraint is shown on the line it begins on. -/
theorem unbroken_constraintEchoes {c : Constraints} {e : String × String}
    (h : e ∈ constraintEchoes c) : unbroken e.1 = true ∧ unbroken e.2 = true := by
  have hentry {k v : String} (hk : unbroken k = true) (hv : unbroken v = true) :
      unbroken (k, v).1 = true ∧ unbroken (k, v).2 = true := ⟨hk, hv⟩
  simp only [constraintEchoes, List.mem_append, Option.mem_toList, Option.map_eq_some_iff] at h
  rcases h with ((((((⟨n, -, rfl⟩ | ⟨n, -, rfl⟩) | ⟨x, -, rfl⟩) | ⟨x, -, rfl⟩) | ⟨x, -, rfl⟩) |
    ⟨vs, -, rfl⟩) | ⟨v, -, rfl⟩) | ⟨b, -, rfl⟩
  · exact hentry (unbroken_literal _) (unbroken_number (numberText_toString _))
  · exact hentry (unbroken_literal _) (unbroken_number (numberText_toString _))
  · exact hentry (unbroken_literal _) (unbroken_quote x)
  · exact hentry (unbroken_literal _) (unbroken_number x.numberText_text)
  · exact hentry (unbroken_literal _) (unbroken_number x.numberText_text)
  · exact hentry (unbroken_literal _)
      (unbroken_call (by decide) (by decide) (unbroken_quoteAll (unbroken_literal _) vs))
  · refine hentry (unbroken_literal _) ?_
    cases v with
    | bool b => exact unbroken_boolText b
    | number n => exact unbroken_number n.numberText_text
    | string x => exact unbroken_quote x
  · exact hentry (unbroken_literal _) (unbroken_boolText b)

/-- The metadata of a parameter are written on one line. -/
theorem unbroken_metadataEntry (p : ParamDecl) : unbroken (metadataEntry p) = true := by
  unfold metadataEntry
  refine unbroken_call (by decide) (by decide) (unbroken_intercalate (unbroken_literal _) fun x hx => ?_)
  obtain ⟨⟨k, v⟩, hkv, rfl⟩ := List.mem_map.mp hx
  have hentry : unbroken k = true ∧ unbroken v = true := by
    rw [List.mem_cons, List.mem_cons] at hkv
    rcases hkv with heq | heq | hkv
    · cases heq
      exact ⟨unbroken_literal _, unbroken_quote _⟩
    · cases heq
      exact ⟨unbroken_literal _, unbroken_quote _⟩
    · exact unbroken_constraintEchoes hkv
  have hcolon : unbroken ": " = true := unbroken_literal _
  simp only [unbroken_append, hentry, hcolon, Bool.and_self]

/-- The key of a parameter in the metadata. -/
theorem declares_entryLine [Pattern.SizeLimit] (hp : p.Valid limits) :
    Declares .metadata .metadata (Line.render indentUnit
      ⟨2, (declare p).name ++ ": " ++ metadataEntry (declare p) ++ ","⟩) [.entry p.identifier] := by
  have hid : Text.IsIdentifier p.identifier := hp.bindable.isIdentifier
  have htext : Line.render indentUnit ⟨2, p.identifier ++ ": " ++ metadataEntry (declare p) ++ ","⟩ =
      "    " ++ p.identifier ++ ": " ++ metadataEntry (declare p) ++ "," ++ "\n" := by
    have hindent : indentUnit ++ indentUnit = "    " := by decide
    rw [Line.render_two indentUnit (by simp), hindent]
    simp only [String.append_assoc]
  have hunbroken : unbroken ("    " ++ p.identifier ++ ": " ++ metadataEntry (declare p) ++ ",") =
      true := by
    simp only [unbroken_append, unbroken_name hid, unbroken_metadataEntry]
    decide
  have hline := declares_line hunbroken .metadata
  have hchars : ("    " ++ p.identifier ++ ": " ++ metadataEntry (declare p) ++ ",").toList =
      [' ', ' ', ' ', ' '] ++ p.identifier.toList ++
        ':' :: ' ' :: ((metadataEntry (declare p)).toList ++ [',']) := by
    simp only [String.toList_append, List.append_assoc]
    repeat rw [String.toList_ofList]
    simp only [List.cons_append, List.nil_append]
  have hread : readLine .metadata ([' ', ' ', ' ', ' '] ++ p.identifier.toList ++
      ':' :: ' ' :: ((metadataEntry (declare p)).toList ++ [','])) =
        (.metadata, [.entry p.identifier]) := by
    -- The line is indented further than the end of the metadata, so it is read for its key.
    have hend : behind? "  \x7d," ([' ', ' ', ' ', ' '] ++ (p.identifier.toList ++
        ':' :: ' ' :: ((metadataEntry (declare p)).toList ++ [',']))) = none :=
      behind?_eq_none (by decide) _
    rw [← List.append_assoc] at hend
    rw [readLine, hend, keyOf?_member (by decide) hid]
    rfl
  rw [hchars, hread] at hline
  have hname : (declare p).name = p.identifier := rfl
  rw [hname, htext]
  exact hline

theorem unbroken_typeToken (p : Parameter) : unbroken (declare p).typeToken = true := by
  simp only [declare]
  cases p.alternatives with
  | none => cases p.type <;> exact unbroken_literal _
  | some values => exact unbroken_quoteAll (unbroken_literal _) values

/-- The documentation of a parameter stands on one line. -/
theorem exists_paramTag_eq [Pattern.SizeLimit] (hp : p.Valid limits) :
    ∃ body, unbroken body = true ∧ paramTag (declare p) = " * @param \x7b" ++ body := by
  have hid : unbroken (declare p).name = true := unbroken_name hp.bindable.isIdentifier
  have htype := unbroken_docCommentText (unbroken_typeToken p)
  have hdescription := unbroken_docCommentText (unbroken_flatten (declare p).description)
  have hbrace : unbroken "\x7d " = true := unbroken_literal _
  have hdash : unbroken " - " = true := unbroken_literal _
  unfold paramTag
  dsimp only
  split
  · refine ⟨_, ?_, by simp only [String.append_assoc]; rfl⟩
    simp only [unbroken_append, htype, hbrace, hid, Bool.and_self]
  · refine ⟨_, ?_, by simp only [String.append_assoc]; rfl⟩
    simp only [unbroken_append, htype, hbrace, hid, hdash, hdescription, Bool.and_self]

/-- It declares nothing. -/
theorem declares_paramTag [Pattern.SizeLimit] (hp : p.Valid limits) :
    Declares .outside .outside (Line.render indentUnit ⟨0, paramTag (declare p)⟩) [] := by
  obtain ⟨body, hbody, htag⟩ := exists_paramTag_eq hp
  rw [Line.render_zero, htag]
  exact declares_otherLine (by decide) (by decide) hbody

/-- The documentation of a tool declares nothing. -/
theorem declares_docLines [Pattern.SizeLimit] {t : Tool} (ht : t.Valid limits) :
    Declares .outside .outside (Line.renderAll indentUnit (docLines (t.declare .typeScript))) [] := by
  have hdescription : Declares .outside .outside (Line.render indentUnit
      ⟨0, " * " ++ Text.docCommentText (Text.flatten t.description)⟩) [] := by
    rw [Line.render_zero]
    exact declares_otherLine (by decide) (by decide) (unbroken_docCommentText (unbroken_flatten _))
  have hopen : Declares .outside .outside (Line.render indentUnit ⟨0, "/**"⟩) [] :=
    declares_quietLine (by decide)
  have htags : Declares .outside .outside (Line.renderAll indentUnit
      ((t.declare .typeScript).params.map fun p => ⟨0, paramTag p⟩)) [] := by
    refine Cutting.tells_idle fun l hl => ?_
    obtain ⟨d, hd, rfl⟩ := List.mem_map.mp hl
    obtain ⟨p, hp, rfl⟩ := List.mem_map.mp hd
    exact declares_paramTag (ht.parameters_valid p hp)
  have hclose : Declares .outside .outside (Line.renderAll indentUnit [⟨0, " */"⟩]) [] :=
    declares_quietLines (by decide)
  have h := ((Cutting.tells_cons hopen
    (Cutting.tells_cons hdescription (Cutting.tells_nil _ _ _))).append htags).append hclose
  unfold docLines
  rw [Line.renderAll_append, Line.renderAll_append]
  exact h

/-- Names in a row are split at the commas. -/
theorem map_word_splitOnP {first : String} {rest : List String}
    (h : ∀ n ∈ first :: rest, Text.IsIdentifier n) :
    ((' ' :: ((", ".intercalate (first :: rest)).toList ++ [' '])).splitOnP (· == ',')).map (word ' ') =
      first :: rest := by
  have hspace : Text.isNameChar ' ' = false := by decide
  have hcomma {n : String} (hn : Text.IsIdentifier n) : ∀ c ∈ ' ' :: n.toList, (c == ',') = false := by
    refine List.forall_mem_cons.mpr ⟨by decide, fun c hc => ?_⟩
    exact beq_eq_false_iff_ne.mpr (Text.ne_of_isNameChar (hn.isNameChar c hc) (by decide))
  -- By induction on the names behind the first one, which take the comma in front of them.
  induction rest generalizing first with
  | nil =>
    have hfirst := h first List.mem_cons_self
    have hpart : ∀ c ∈ ' ' :: (first.toList ++ [' ']), (c == ',') = false := by
      rw [← List.cons_append, List.forall_mem_append]
      exact ⟨hcomma hfirst, List.forall_iff_forall_mem.mp (by decide)⟩
    have hword : word ' ' (' ' :: (first.toList ++ [' '])) = first :=
      word_name (by decide : [' '].all (· == ' ') = true) hfirst hspace rfl
    rw [String.intercalate_singleton, List.splitOnP_eq_singleton hpart, List.map_singleton, hword]
  | cons second rest ih =>
    obtain ⟨hfirst, hrest⟩ := List.forall_mem_cons.mp h
    have htext : ' ' :: ((", ".intercalate (first :: second :: rest)).toList ++ [' ']) =
        (' ' :: first.toList) ++ ',' ::
          (' ' :: ((", ".intercalate (second :: rest)).toList ++ [' '])) := by
      rw [String.intercalate_cons_cons, String.toList_append, String.toList_append]
      simp only [List.append_assoc, List.cons_append]
      rfl
    have hword : word ' ' (' ' :: first.toList) = first := by
      have hname := word_name (by decide : [' '].all (· == ' ') = true) hfirst hspace
        (rfl : ([] : List Char).takeWhile (· != ' ') = [])
      rwa [List.append_nil] at hname
    rw [htext, List.splitOnP_append_cons_of_forall_mem (hcomma hfirst) _ (beq_self_eq_true _),
      List.map_cons, hword, ih hrest]

/-- Nothing but names, commas and spaces stands in a list of names. -/
theorem mem_names {names : List String} (h : ∀ n ∈ names, Text.IsIdentifier n) :
    ∀ c ∈ (", ".intercalate names).toList, Text.isNameChar c = true ∨ c = ',' ∨ c = ' ' := by
  intro c hc
  rcases Text.mem_intercalate hc with hc | ⟨n, hn, hc⟩
  · right
    simpa using hc
  · exact .inl ((h n hn).isNameChar c hc)

/-- A list of names between braces. -/
def braced (names : List String) : List Char :=
  '\x7b' :: (' ' :: ((", ".intercalate names).toList ++ [' '])) ++ ['\x7d']

theorem mem_braced {names : List String} (h : ∀ n ∈ names, Text.IsIdentifier n) {c : Char}
    (hc : c ∈ braced names) : Text.isNameChar c = true ∨ c ∈ [',', ' ', '\x7b', '\x7d'] := by
  simp only [braced, List.cons_append, List.mem_cons, List.mem_append, List.not_mem_nil, or_false,
    or_assoc] at hc
  rcases hc with rfl | rfl | hc | rfl | rfl
  · exact .inr (by decide)
  · exact .inr (by decide)
  · rcases mem_names h c hc with hname | rfl | rfl
    · exact .inl hname
    · exact .inr (by decide)
    · exact .inr (by decide)
  · exact .inr (by decide)
  · exact .inr (by decide)

/-- What stands between the braces goes on to the closing one. -/
theorem ne_brace_of_mem_inner {names : List String} (h : ∀ n ∈ names, Text.IsIdentifier n) :
    ∀ c ∈ ' ' :: ((", ".intercalate names).toList ++ [' ']), (c != '\x7d') = true := by
  intro c hc
  rw [bne_iff_ne]
  rcases List.mem_cons.mp hc with rfl | hc
  · decide
  rcases List.mem_append.mp hc with hc | hc
  · rcases mem_names h c hc with hname | rfl | rfl
    · exact Text.ne_of_isNameChar hname (by decide)
    · decide
    · decide
  · rw [List.mem_singleton.mp hc]
    decide

/-- A list that begins with a name is not made of spaces. -/
theorem inner_all_space_eq_false {first : String} (hfirst : Text.IsIdentifier first)
    (rest : List String) :
    (' ' :: ((", ".intercalate (first :: rest)).toList ++ [' '])).all (· == ' ') = false := by
  obtain ⟨c, hc⟩ := List.exists_mem_of_ne_nil _ hfirst.ne_nil
  have hmem : c ∈ (", ".intercalate (first :: rest)).toList := by
    cases rest with
    | nil => rwa [String.intercalate_singleton]
    | cons second rest =>
      rw [String.intercalate_cons_cons, String.toList_append, String.toList_append]
      exact List.mem_append_left _ (List.mem_append_left _ hc)
  have hspace : c ≠ ' ' := Text.ne_layout_of_isNameChar (hfirst.isNameChar c hc) (by decide)
  refine List.all_eq_false.mpr ⟨c, List.mem_cons_of_mem _ (List.mem_append_left _ hmem), ?_⟩
  simpa using hspace

/-- A list of names between braces is read back. -/
theorem namesIn_braced {before : List Char} (hbefore : ∀ c ∈ before, (c != '\x7b') = true)
    {names : List String} (h : ∀ n ∈ names, Text.IsIdentifier n) (hne : names ≠ [])
    (after : List Char) : namesIn (before ++ braced names ++ after) = names := by
  obtain ⟨first, rest, rfl⟩ := List.exists_cons_of_ne_nil hne
  -- The reader goes to the opening brace, takes what stands before the closing one, and splits it.
  have hdrop : (before ++ braced (first :: rest) ++ after).dropWhile (· != '\x7b') =
      braced (first :: rest) ++ after := by
    rw [List.append_assoc, List.dropWhile_append_of_pos hbefore]
    exact List.dropWhile_cons_of_neg (by decide)
  have hinside : ((braced (first :: rest) ++ after).drop 1).takeWhile (· != '\x7d') =
      ' ' :: ((", ".intercalate (first :: rest)).toList ++ [' ']) := by
    have hshape : (braced (first :: rest) ++ after).drop 1 =
        (' ' :: ((", ".intercalate (first :: rest)).toList ++ [' '])) ++ '\x7d' :: after := by
      simp only [braced, List.cons_append, List.append_assoc, List.drop_one, List.tail_cons,
        List.nil_append]
    rw [hshape, List.takeWhile_append_of_pos (ne_brace_of_mem_inner h),
      List.takeWhile_cons_of_neg (by decide), List.append_nil]
  have hspaces := inner_all_space_eq_false (h first List.mem_cons_self) rest
  simp only [namesIn, hdrop, hinside, hspaces, Bool.false_eq_true, if_false]
  exact map_word_splitOnP h

/-- The head of a handler that takes parameters. -/
theorem declares_handlerLine {names : List String} (h : ∀ n ∈ names, Text.IsIdentifier n)
    (hne : names ≠ []) :
    Declares .outside .outside (Line.render indentUnit
      ⟨1, "handler: async (\x7b " ++ ", ".intercalate names ++ " \x7d) => \x7b"⟩) [.handler names] := by
  have hunbroken : unbroken ("  handler: async (\x7b " ++ ", ".intercalate names ++
      " \x7d) => \x7b") = true :=
    unbroken_call (by decide) (by decide)
      (unbroken_intercalate (unbroken_literal _) fun n hn => unbroken_name (h n hn))
  have hline := declares_line hunbroken .outside
  have hchars : ("  handler: async (\x7b " ++ ", ".intercalate names ++ " \x7d) => \x7b").toList =
      "  handler: async (".toList ++ (braced names ++ ") => \x7b".toList) := by
    simp only [String.toList_append, braced, List.append_assoc, List.cons_append, List.nil_append]
    repeat rw [String.toList_ofList]
    rfl
  have hparen : ∀ c ∈ braced names, (c != ')') = true := by
    intro c hc
    rw [bne_iff_ne]
    rcases mem_braced h hc with hname | hmem
    · exact Text.ne_of_isNameChar hname (by decide)
    · rintro rfl
      exact absurd hmem (by decide)
  have htake : (braced names ++ ") => \x7b".toList).takeWhile (· != ')') = braced names := by
    rw [List.takeWhile_append_of_pos hparen]
    exact List.append_nil _
  have hnames : namesIn (braced names) = names := by
    have hread := namesIn_braced (List.forall_mem_nil _) h hne []
    rwa [List.append_nil] at hread
  have hread : readLine .outside ("  handler: async (".toList ++
      (braced names ++ ") => \x7b".toList)) = (.outside, [.handler names]) := by
    rw [readLine_handler, htake, hnames]
  rw [hchars, hread] at hline
  rw [Line.render_one indentUnit (by simp), ← String.append_assoc, ← String.append_assoc]
  exact hline

theorem declares_parseLine {schema : String} (hschema : Text.IsIdentifier schema)
    {names : List String} (h : ∀ n ∈ names, Text.IsIdentifier n) (hne : names ≠ []) :
    Declares .outside .outside (Line.render indentUnit
      ⟨2, "const params = " ++ schema ++ ".parse(\x7b " ++ ", ".intercalate names ++ " \x7d);"⟩)
      [.parse schema names] := by
  have hunbroken : unbroken ("    const params = " ++ schema ++
      (".parse(\x7b " ++ ", ".intercalate names ++ " \x7d);")) = true := by
    have hlist : unbroken (".parse(\x7b " ++ ", ".intercalate names ++ " \x7d);") = true :=
      unbroken_call (by decide) (by decide)
        (unbroken_intercalate (unbroken_literal _) fun n hn => unbroken_name (h n hn))
    have hlead : unbroken "    const params = " = true := unbroken_literal _
    rw [unbroken_append, unbroken_append, hlead, unbroken_name hschema, hlist]
    rfl
  have hline := declares_line hunbroken .outside
  have hchars : ("    const params = " ++ schema ++
      (".parse(\x7b " ++ ", ".intercalate names ++ " \x7d);")).toList =
        "    const params = ".toList ++ (schema.toList ++ ".parse(".toList ++ braced names ++
          ");".toList) := by
    simp only [String.toList_append, braced, List.append_assoc, List.cons_append, List.nil_append]
    repeat rw [String.toList_ofList]
    rfl
  have hword : word '.' (schema.toList ++ ".parse(".toList ++ braced names ++ ");".toList) =
      schema := by
    rw [List.append_assoc, List.append_assoc]
    exact word_name List.all_nil hschema (by decide) rfl
  -- The names are those in the first braces, and the name of the schema has none.
  have hbefore : ∀ c ∈ schema.toList ++ ".parse(".toList, (c != '\x7b') = true := by
    refine List.forall_mem_append.mpr ⟨fun c hc => ?_, List.all_eq_true.mp (by decide)⟩
    rw [bne_iff_ne]
    exact Text.ne_of_isNameChar (hschema.isNameChar c hc) (by decide)
  have hread : readLine .outside ("    const params = ".toList ++ (schema.toList ++
      ".parse(".toList ++ braced names ++ ");".toList)) = (.outside, [.parse schema names]) := by
    rw [readLine_parse, hword, namesIn_braced hbefore h hne]
  have htext : Line.render indentUnit
      ⟨2, "const params = " ++ schema ++ ".parse(\x7b " ++ ", ".intercalate names ++ " \x7d);"⟩ =
        "    const params = " ++ schema ++ (".parse(\x7b " ++ ", ".intercalate names ++ " \x7d);") ++
          "\n" := by
    have hlead : "    const params = " = indentUnit ++ indentUnit ++ "const params = " := by decide
    rw [Line.render_two indentUnit (by simp), hlead]
    simp only [String.append_assoc]
  rw [hchars, hread] at hline
  rw [htext]
  exact hline

theorem unbroken_echo {t : ToolDecl} (ht : Text.IsIdentifier t.name)
    (hp : ∀ n ∈ t.paramNames, Text.IsIdentifier n) : unbroken (echo t) = true := by
  have hlist : unbroken (", ".intercalate (t.paramNames.map fun n => "$\x7b" ++ n ++ "\x7d")) = true := by
    refine unbroken_intercalate (unbroken_literal _) fun x hx => ?_
    obtain ⟨n, hn, rfl⟩ := List.mem_map.mp hx
    exact unbroken_call (by decide) (by decide) (unbroken_name (hp n hn))
  have hlead : unbroken " executed with parameters: " = true := unbroken_literal _
  have hnone : unbroken " executed with no parameters" = true := unbroken_literal _
  have htick : unbroken "\x60" = true := unbroken_literal _
  unfold echo
  rw [templateText_eq_self ht.isNameChar]
  split
  · simp only [unbroken_append, unbroken_name ht, hlist, hlead, htick, Bool.and_self]
  · simp only [unbroken_append, unbroken_name ht, hnone, htick, Bool.and_self]

/-- What a handler answers. -/
theorem declares_returnLine {t : ToolDecl} (ht : Text.IsIdentifier t.name)
    (hp : ∀ n ∈ t.paramNames, Text.IsIdentifier n) :
    Declares .outside .outside
      (Line.render indentUnit ⟨2, "return \x7b result: " ++ echo t ++ " \x7d;"⟩)
      [.answer t.paramNames] := by
  have hunbroken : unbroken ("    return \x7b result: " ++ echo t ++ " \x7d;") = true :=
    unbroken_call (by decide) (by decide) (unbroken_echo ht hp)
  have hline := declares_line hunbroken .outside
  have hchars : ("    return \x7b result: " ++ echo t ++ " \x7d;").toList =
      "    return \x7b result: ".toList ++ ((echo t).toList ++ " \x7d;".toList) := by
    simp only [String.toList_append, List.append_assoc]
  have hclose : lexer.run .start " \x7d;".toList = (.start, Mark.ofCode " \x7d;") := by decide
  have hrun := lexer.run_append_of_run (run_echo ht hp) hclose
  -- Of the marks of the template only the names are in holes, and the code behind it has none.
  have hnames : Mark.holes (lexer.run .start ((echo t).toList ++ " \x7d;".toList)).2 =
      t.paramNames := by
    rw [hrun]
    have htext : ∀ m ∈ [Mark.text], Mark.isHoleless m = true := by decide
    refine Mark.holes_flatMap (fun n hn => ⟨?_, fun m hm => ?_⟩) htext (by decide)
    · have hchar : Mark.char ∘ Mark.code = id := rfl
      rw [Mark.ofCode, List.map_map, hchar, List.map_id]
    · obtain ⟨c, -, rfl⟩ := List.mem_map.mp hm
      rfl
  have hread : readLine .outside ("    return \x7b result: ".toList ++
      ((echo t).toList ++ " \x7d;".toList)) = (.outside, [.answer t.paramNames]) := by
    rw [readLine_answer, hnames]
  have htext : Line.render indentUnit ⟨2, "return \x7b result: " ++ echo t ++ " \x7d;"⟩ =
      "    return \x7b result: " ++ echo t ++ " \x7d;" ++ "\n" := by
    have hlead : "    return \x7b result: " = indentUnit ++ indentUnit ++ "return \x7b result: " := by decide
    rw [Line.render_two indentUnit (by simp), hlead]
    simp only [String.append_assoc]
  rw [hchars, hread] at hline
  rw [htext]
  exact hline

/-- A line with a setting of the server or of a tool declares nothing. -/
theorem declares_settingLine {key : List Char}
    (hkey : ([' ', ' '] ++ key).all (fun c => !isLineTerminator c) = true)
    (hother : openings.all (parts ([' ', ' '] ++ key)) = true) (value : String) :
    Declares .outside .outside
      (Line.render indentUnit ⟨1, String.ofList key ++ Text.quote value ++ ","⟩) [] := by
  have hcomma : unbroken "," = true := unbroken_literal _
  have htext : Line.render indentUnit ⟨1, String.ofList key ++ Text.quote value ++ ","⟩ =
      String.ofList ([' ', ' '] ++ key) ++ (Text.quote value ++ ",") ++ "\n" := by
    rw [Line.render_one indentUnit (by simp), String.ofList_append]
    simp only [indentUnit, String.append_assoc]
  rw [htext]
  refine declares_otherLine hkey hother ?_
  rw [unbroken_append, unbroken_quote, hcomma, Bool.and_self]

/-- What the source of a tool declares. -/
def toolItems (t : Tool) : List Item :=
  let names := t.parameterIdentifiers
  (if names.isEmpty then [] else .schema (t.identifier ++ "_schema") :: names.map .key) ++
    names.map .entry ++ [.handler names] ++
    (if names.isEmpty then [] else [.parse (t.identifier ++ "_schema") names]) ++ [.answer names]

/-- Without parameters the metadata are empty and the handler takes nothing. -/
theorem declares_bareHead :
    Declares .outside .outside (Line.renderAll indentUnit
      [⟨1, "parameters: \x7b\x7d,"⟩, ⟨1, "handler: async () => \x7b"⟩]) [.handler []] := by
  have hhandler := declares_line (s := "  handler: async () => \x7b") (by decide) .outside
  have hread : readLine .outside "  handler: async () => \x7b".toList = (.outside, [.handler []]) := by
    decide
  rw [hread] at hhandler
  have hlast : Declares .outside .outside
      (Line.render indentUnit ⟨1, "handler: async () => \x7b"⟩) [.handler []] := by
    rw [Line.render_one indentUnit (by decide)]
    exact hhandler
  exact Cutting.tells_cons (y := .outside) (declares_idleLine (by decide))
    (Cutting.tells_cons hlast (Cutting.tells_nil _ _ _))

/-- The metadata of a tool and the head of its handler. -/
theorem declares_handlerHead [Pattern.SizeLimit] {t : Tool} (ht : t.Valid limits) :
    Declares .outside .outside (Line.renderAll indentUnit (handlerHead (t.declare .typeScript)))
      (t.parameterIdentifiers.map Item.entry ++ [Item.handler t.parameterIdentifiers] ++
        if t.parameterIdentifiers.isEmpty then []
        else [Item.parse (t.identifier ++ "_schema") t.parameterIdentifiers]) := by
  have hschema : Text.IsIdentifier (t.identifier ++ "_schema") :=
    ht.bindable.isIdentifier.append (by decide)
  have hids := ht.isIdentifier_paramNames .typeScript
  have hnames := t.paramNames_declare .typeScript
  have hparams := (t.declare .typeScript).hasParams_eq
  rw [hnames] at hparams hids
  -- The entries are read inside of the metadata; their braces lead in and out.
  have hentries : Declares .metadata .metadata (Line.renderAll indentUnit
      ((t.declare .typeScript).params.map fun p => ⟨2, p.name ++ ": " ++ metadataEntry p ++ ","⟩))
      (t.parameterIdentifiers.map Item.entry) := by
    simp only [Tool.declare, Tool.parameterIdentifiers, List.map_map]
    exact Cutting.tells_map fun p hp => declares_entryLine (ht.parameters_valid p hp)
  unfold handlerHead signature
  rw [hparams, hnames]
  by_cases hempty : t.parameterIdentifiers = []
  · rw [hempty]
    exact declares_bareHead
  · have hopen : Declares .outside .metadata (Line.renderAll indentUnit [⟨1, "parameters: \x7b"⟩]) [] :=
      Cutting.tells_cons (y := .metadata) (declares_idleLine (by decide)) (Cutting.tells_nil _ _ _)
    have hclose : Declares .metadata .outside (Line.render indentUnit ⟨1, "\x7d,"⟩) [] :=
      declares_idleLine (by decide)
    have hcomment : Declares .outside .outside (Line.render indentUnit ⟨2, "// Validate parameters"⟩)
        [] := declares_quietLine (by decide)
    have hblank : Declares .outside .outside (Line.render indentUnit .blank) [] :=
      declares_quietLine (by decide)
    have hrest := Cutting.tells_cons hclose (Cutting.tells_cons (declares_handlerLine hids hempty)
      (Cutting.tells_cons hcomment (Cutting.tells_cons (declares_parseLine hschema hids hempty)
        (Cutting.tells_cons hblank (Cutting.tells_nil _ _ _)))))
    have h := (hopen.append hentries).append hrest
    have hfalse : t.parameterIdentifiers.isEmpty = false := by simpa using hempty
    simp only [hfalse, Bool.not_false, if_true, Bool.false_eq_true, if_false]
    rw [Line.renderAll_append, Line.renderAll_append]
    simp only [List.nil_append, List.append_nil, List.append_assoc] at h ⊢
    exact h

/-- The lines of a tool. -/
theorem declares_toolLines [Pattern.SizeLimit] {t : Tool} (ht : t.Valid limits) :
    Declares .outside .outside (Line.renderAll indentUnit (toolLines (t.declare .typeScript)))
      (toolItems t) := by
  have hid : Text.IsIdentifier (t.declare .typeScript).name := ht.bindable.isIdentifier
  have hids := ht.isIdentifier_paramNames .typeScript
  have hnames := t.paramNames_declare .typeScript
  have hparams := (t.declare .typeScript).hasParams_eq
  rw [hnames] at hparams
  have hblank : Declares .outside .outside (Line.renderAll indentUnit [.blank]) [] :=
    declares_quietLines (by decide)
  -- The schema is there if there are parameters.
  have hschema : Declares .outside .outside (Line.renderAll indentUnit
      (if (t.declare .typeScript).hasParams then schemaLines (t.declare .typeScript) else []))
      (if t.parameterIdentifiers.isEmpty then []
        else .schema (t.identifier ++ "_schema") :: t.parameterIdentifiers.map .key) := by
    rw [hparams]
    cases t.parameterIdentifiers.isEmpty with
    | true => exact Cutting.tells_nil _ _ _
    | false => exact declares_schemaLines ht
  have hregister : Declares .outside .outside (Line.renderAll indentUnit [⟨0, "server.tool(\x7b"⟩,
      ⟨1, "name: " ++ Text.quote (t.declare .typeScript).name ++ ","⟩,
      ⟨1, "description: " ++ Text.quote (t.declare .typeScript).description ++ ","⟩]) [] :=
    Cutting.tells_cons (declares_quietLine (by decide))
      (Cutting.tells_cons (declares_settingLine (by decide) (by decide) _)
        (Cutting.tells_cons (declares_settingLine (by decide) (by decide) _) (Cutting.tells_nil _ _ _)))
  have hhints : Declares .outside .outside (Line.renderAll indentUnit hintLines) [] := by
    refine declares_quietLines ?_
    simp only [hintLines, Line.block, List.map_cons, List.map_nil]
    repeat rw [String.toList_ofList]
    decide
  have hclose : Declares .outside .outside (Line.renderAll indentUnit [⟨1, "\x7d,"⟩, ⟨0, "\x7d);"⟩]) [] :=
    declares_quietLines (by decide)
  have hanswer := Cutting.tells_cons (declares_returnLine hid hids) hclose
  have h := (((((hblank.append hschema).append (declares_docLines ht)).append hregister).append
    (declares_handlerHead ht)).append hhints).append hanswer
  rw [hnames] at h
  unfold toolLines
  rw [Line.renderAll_append, Line.renderAll_append, Line.renderAll_append, Line.renderAll_append,
    Line.renderAll_append, Line.renderAll_append]
  simp only [toolItems, List.append_nil, List.nil_append, List.append_assoc] at h ⊢
  exact h

/-- The lines after the tools declare nothing. -/
theorem declares_epilogue :
    Declares .outside .outside (Line.renderAll indentUnit epilogue) [] := by
  refine declares_quietLines ?_
  simp only [epilogue, Line.block, List.map_append, List.map_cons, List.map_nil]
  repeat rw [String.toList_ofList]
  decide

/-- The lines of the tools and after them. -/
theorem declares_body [Pattern.SizeLimit] {s : Server} (h : ∀ t ∈ s.tools, t.Valid limits) :
    Declares .outside .outside (Line.renderAll indentUnit
      ((s.moduleIn .typeScript).tools.flatMap toolLines ++ epilogue)) (s.tools.flatMap toolItems) := by
  have htools : Declares .outside .outside
      (Line.renderAll indentUnit ((s.moduleIn .typeScript).tools.flatMap toolLines))
      (s.tools.flatMap toolItems) := by
    simp only [Server.moduleIn, List.flatMap_map]
    exact Cutting.tells_flatMap fun t ht => declares_toolLines (h t ht)
  have hall := htools.append declares_epilogue
  rwa [List.append_nil, ← Line.renderAll_append] at hall

/-- A comment in the heading declares nothing. -/
theorem declares_comment (text : String) :
    Declares .outside .outside (Line.renderAll indentUnit (Line.comment 0 "//" text)) [] := by
  refine Cutting.tells_idle fun l hl => ?_
  obtain ⟨line, hline, rfl⟩ := List.mem_map.mp hl
  have hbody := unbroken_of_oneLine (Text.oneLine_of_mem_commentLines hline)
  split
  · exact declares_quietLine (by decide)
  · rw [Line.render_zero]
    have hmark : "//" ++ " " = String.ofList ['/', '/', ' '] := String.ofList_append.symm
    rw [hmark]
    exact declares_otherLine (by decide) (by decide) hbody

/-- The lines before the tools declare nothing. -/
theorem declares_preamble (m : Module) {settings : Settings} (hs : settings.OneLine) :
    Declares .outside .outside (Line.renderAll indentUnit (preamble m settings)) [] := by
  -- Comments, imports and the call that makes the server are lines of no kind that the outline shows.
  have hsection (text : String) : Declares .outside .outside
      (Line.renderAll indentUnit (Line.comment 0 "//" text ++ [⟨0, "//"⟩])) [] := by
    have hend : Declares .outside .outside (Line.renderAll indentUnit [⟨0, "//"⟩]) [] :=
      declares_quietLines (by decide)
    rw [Line.renderAll_append]
    exact (declares_comment text).append hend
  have hdescription : Declares .outside .outside (Line.renderAll indentUnit
      (if m.description.isEmpty then [] else Line.comment 0 "//" m.description ++ [⟨0, "//"⟩])) [] := by
    split
    · exact Cutting.tells_nil _ _ _
    · exact hsection m.description
  have hversions : Declares .outside .outside (Line.render indentUnit
      ⟨0, "// MCP protocol version " ++ (settings.protocolVersion ++
        (", TypeScript SDK @modelcontextprotocol/sdk@" ++ (settings.typeScriptSdkVersion ++
          (", zod@" ++ settings.zodVersion))))⟩) [] := by
    rw [Line.render_zero]
    exact declares_otherLine (by decide) (by decide) (unbroken_of_oneLine hs.typeScriptVersions)
  have himports : Declares .outside .outside (Line.renderAll indentUnit (Line.block 0 ["",
      "import \x7b MCPServer \x7d from \"@modelcontextprotocol/sdk\";",
      "import \x7b z \x7d from \"zod\";",
      "",
      "// Initialize the MCP server with security options",
      "const server = new MCPServer(\x7b"])) [] := by
    refine declares_idleLines ?_
    simp only [Line.block, List.map_cons, List.map_nil]
    repeat rw [String.toList_ofList]
    decide
  have hcomments : Declares .outside .outside (Line.renderAll indentUnit (Line.block 1 [
      "// Uncomment to enable authentication",
      "// auth: \x7b",
      "//   apiKeys: [\"your-secret-key\"], // Replace with actual API keys or use environment variables",
      "// \x7d,"])) [] := by
    refine declares_quietLines ?_
    simp only [Line.block, List.map_cons, List.map_nil]
    repeat rw [String.toList_ofList]
    decide
  have hend : Declares .outside .outside (Line.renderAll indentUnit [⟨0, "\x7d);"⟩, .blank]) [] :=
    declares_quietLines (by decide)
  have hname : Declares .outside .outside
      (Line.render indentUnit ⟨1, "name: " ++ Text.quote m.serverName ++ ","⟩) [] :=
    declares_settingLine (by decide) (by decide) _
  have htext : Declares .outside .outside
      (Line.render indentUnit ⟨1, "description: " ++ Text.quote m.description ++ ","⟩) [] :=
    declares_settingLine (by decide) (by decide) _
  have h := ((((hsection m.serverName).append hdescription).append
    (Cutting.tells_cons hversions himports)).append
      (Cutting.tells_cons hname (Cutting.tells_cons htext hcomments))).append hend
  unfold preamble
  rw [Line.renderAll_append, Line.renderAll_append, Line.renderAll_append, Line.renderAll_append]
  simp only [String.append_assoc, List.append_nil] at h ⊢
  exact h

/-- A source whose lines declare these items has them for its outline. -/
theorem outline_of_declares {source : String} {items : List Item}
    (h : Declares .outside .outside source items) : outline source = items := by
  obtain ⟨ls, hls, hrun⟩ := h
  have hlines : sourceLines source.toList = ls ++ [[]] := by
    have hall := hls []
    rwa [List.append_nil] at hall
  have hlast : outliner.run .outside [[]] = (.outside, []) := by decide
  rw [outline, hlines, outliner.run_append_of_run hrun hlast, List.append_nil]

end Scaffold.TypeScript
