import Scaffold.Proofs.Json.Record
import Scaffold.Proofs.Number.Whole

/-!
Server descriptions written as JSON and read back. What is read back is the description that was written,
as far as its floating point numbers are read back: the reader rounds a number twice, so that is a
condition on the numbers in it.
-/

namespace Scaffold

open Json

/-- The floating point number that a default value is, if it is one. -/
def DefaultValue.fraction? : DefaultValue → Option Binary64
  | .number (.fraction sign m) => some (.finite sign m)
  | _ => none

/-- The floating point numbers in constraints. -/
def Constraints.floats (c : Constraints) : List Binary64 :=
  c.minimum.toList ++ c.maximum.toList ++ (c.default.bind DefaultValue.fraction?).toList

/-- The floating point numbers in a parameter. -/
def Parameter.floats (p : Parameter) : List Binary64 := p.constraints.toList.flatMap Constraints.floats

/-- The floating point numbers in a server description. -/
def Server.floats (s : Server) : List Binary64 :=
  s.tools.flatMap fun t => t.parameters.flatMap Parameter.floats

/-- Both bounds, where there are any, are finite. -/
def Constraints.BoundsFinite (c : Constraints) : Prop :=
  (∀ x ∈ c.minimum, x.isFinite = true) ∧ ∀ x ∈ c.maximum, x.isFinite = true

/-- All bounds on a parameter are finite. -/
def Parameter.BoundsFinite (p : Parameter) : Prop := ∀ c ∈ p.constraints, c.BoundsFinite

/-- All bounds in a tool are finite. -/
def Tool.BoundsFinite (t : Tool) : Prop := ∀ p ∈ t.parameters, p.BoundsFinite

/-- All bounds in a server description are finite. -/
def Server.BoundsFinite (s : Server) : Prop := ∀ t ∈ s.tools, t.BoundsFinite

instance (c : Constraints) : Decidable c.BoundsFinite := inferInstanceAs (Decidable (_ ∧ _))

instance (p : Parameter) : Decidable p.BoundsFinite :=
  inferInstanceAs (Decidable (∀ c ∈ p.constraints, c.BoundsFinite))

instance (t : Tool) : Decidable t.BoundsFinite :=
  inferInstanceAs (Decidable (∀ p ∈ t.parameters, p.BoundsFinite))

instance (s : Server) : Decidable s.BoundsFinite :=
  inferInstanceAs (Decidable (∀ t ∈ s.tools, t.BoundsFinite))

theorem Language.takes_decode (l : Language) : Language.decode.Takes 0 (.string l.name) l := by
  refine takes_aVariant ?_
  rw [Language.ofName?_name]

theorem ParamType.takes_decode (t : ParamType) : ParamType.decode.Takes 0 (.string t.name) t := by
  refine takes_aVariant ?_
  rw [ParamType.ofName_name]

theorem Binary64.takes_decode {x : Binary64} (hfinite : x.isFinite = true) (h : x.ReadsBack) :
    aBinary64.Takes 0 x.toJson x := by
  cases x with
  | finite sign m =>
    have hnumber : (JsonNumber.fraction sign m).ReadsBack := h
    exact takes_aBinary64 hnumber
  | infinite => cases hfinite
  | nan => cases hfinite

/-- A default value is read back as what it is: no truth value, number or text stands for another. -/
theorem DefaultValue.takes_decode {v : DefaultValue} (h : ∀ x ∈ v.fraction?, x.ReadsBack) :
    DefaultValue.decode.Takes 0 v.toJson v := by
  cases v with
  | bool b =>
    have hopens := (takes_aBool b).opens
    refine ⟨hopens, fun {fuel depth rest} hfuel _ _ => ?_⟩
    have hpos : 0 < fuel := Nat.lt_of_lt_of_le hopens.length_pos hfuel
    obtain ⟨fuel, rfl⟩ := Nat.exists_eq_add_one_of_ne_zero (Nat.ne_of_gt hpos)
    cases b <;> rfl
  | number n =>
    have hnumber : n.ReadsBack := by
      cases n with
      | fraction sign m => exact h _ rfl
      | _ => trivial
    have hopens := (takes_aNumber hnumber "f64").opens
    refine ⟨hopens, fun {fuel depth rest} hfuel _ hrest => ?_⟩
    have hpos : 0 < fuel := Nat.lt_of_lt_of_le hopens.length_pos hfuel
    unfold DefaultValue.decode
    change ((readValue fuel depth (line (.number n) ++ rest)).bind _) = _
    rw [readValue_number hnumber hpos hrest]
    rfl
  | string s =>
    obtain ⟨cs, hline, hread⟩ := exists_line_string s
    have hopens := (takes_aString s).opens
    refine ⟨hopens, fun {fuel depth rest} hfuel _ _ => ?_⟩
    have hpos : 0 < fuel := Nat.lt_of_lt_of_le hopens.length_pos hfuel
    obtain ⟨fuel, rfl⟩ := Nat.exists_eq_add_one_of_ne_zero (Nat.ne_of_gt hpos)
    have hscalar : readValue (fuel + 1) depth ('"' :: (cs ++ rest)) =
        (readString (cs ++ rest)).bind fun r => .ok (.string r.1, r.2) := by
      rw [readValue]
      rfl
    unfold DefaultValue.decode
    change ((readValue (fuel + 1) depth (line (.string s) ++ rest)).bind _) = _
    rw [hline, List.cons_append, hscalar, hread]
    rfl

theorem keys_member?_sublist {α : Type} (key : String) (encode : α → Json) (o : Option α) :
    ((member? key encode o).map Prod.fst).Sublist [key] := by
  cases o with
  | none => exact List.nil_sublist _
  | some v => exact List.Sublist.refl _

theorem Constraints.takes_decode {c : Constraints} (hfinite : c.BoundsFinite)
    (h : ∀ x ∈ c.floats, x.ReadsBack) : Constraints.decode.Takes 2 c.toJson c := by
  obtain ⟨minLength, maxLength, pattern, minimum, maximum, allowed, default, required⟩ := c
  have hmin (x) (hx : x ∈ minimum) : x.ReadsBack :=
    h x (List.mem_append_left _ (List.mem_append_left _ (Option.mem_toList.mpr hx)))
  have hmax (x) (hx : x ∈ maximum) : x.ReadsBack :=
    h x (List.mem_append_left _ (List.mem_append_right _ (Option.mem_toList.mpr hx)))
  have hdefault (v) (hv : v ∈ default) (x) (hx : x ∈ v.fraction?) : x.ReadsBack :=
    h x (List.mem_append_right _ (Option.mem_toList.mpr (Option.bind_eq_some_iff.mpr ⟨v, hv, hx⟩)))
  -- The record after each of the members, in the order in which they are written.
  have hfill : Fills shape 1 (member? "minLength" (fun n => .number (.natural n)) minLength)
      ⟨none, none, none, none, none, none, none, none⟩
      ⟨minLength, none, none, none, none, none, none, none⟩ :=
    .optional rfl (fun n _ => (takes_aNatural "u64" n).mono (Nat.zero_le 1)) rfl rfl
  have hfill : Fills shape 1 (_ ++ member? "maxLength" (fun n => .number (.natural n)) maxLength) _
      ⟨minLength, maxLength, none, none, none, none, none, none⟩ :=
    hfill.append (.optional rfl (fun n _ => (takes_aNatural "u64" n).mono (Nat.zero_le 1)) rfl rfl)
  have hfill : Fills shape 1 (_ ++ member? "pattern" .string pattern) _
      ⟨minLength, maxLength, pattern, none, none, none, none, none⟩ :=
    hfill.append (.optional rfl (fun s _ => (takes_aString s).mono (Nat.zero_le 1)) rfl rfl)
  have hfill : Fills shape 1 (_ ++ member? "minimum" Binary64.toJson minimum) _
      ⟨minLength, maxLength, pattern, minimum, none, none, none, none⟩ :=
    hfill.append (.optional rfl (fun x hx =>
      (Binary64.takes_decode (hfinite.1 x hx) (hmin x hx)).mono (Nat.zero_le 1)) rfl rfl)
  have hfill : Fills shape 1 (_ ++ member? "maximum" Binary64.toJson maximum) _
      ⟨minLength, maxLength, pattern, minimum, maximum, none, none, none⟩ :=
    hfill.append (.optional rfl (fun x hx =>
      (Binary64.takes_decode (hfinite.2 x hx) (hmax x hx)).mono (Nat.zero_le 1)) rfl rfl)
  have hfill : Fills shape 1 (_ ++ member? "enum" (fun vs => .array (vs.map .string)) allowed) _
      ⟨minLength, maxLength, pattern, minimum, maximum, allowed, none, none⟩ :=
    hfill.append (.optional rfl (fun vs _ => takes_aList fun s _ => takes_aString s) rfl rfl)
  have hfill : Fills shape 1 (_ ++ member? "default" DefaultValue.toJson default) _
      ⟨minLength, maxLength, pattern, minimum, maximum, allowed, default, none⟩ :=
    hfill.append (.optional rfl (fun v hv =>
      (DefaultValue.takes_decode (hdefault v hv)).mono (Nat.zero_le 1)) rfl rfl)
  have hfill : Fills shape 1 (_ ++ member? "required" .bool required) _
      ⟨minLength, maxLength, pattern, minimum, maximum, allowed, default, required⟩ :=
    hfill.append (.optional rfl (fun b _ => (takes_aBool b).mono (Nat.zero_le 1)) rfl rfl)
  refine takes_aRecord hfill ?_ (List.nil_subset _)
  simp only [List.map_append]
  have hkeys {α : Type} := @keys_member?_sublist α
  exact List.Nodup.sublist ((((((((hkeys ..).append (hkeys ..)).append (hkeys ..)).append
    (hkeys ..)).append (hkeys ..)).append (hkeys ..)).append (hkeys ..)).append (hkeys ..)) (by decide)

theorem Parameter.takes_decode {p : Parameter} (hfinite : p.BoundsFinite)
    (h : ∀ x ∈ p.floats, x.ReadsBack) : Parameter.decode.Takes 3 p.toJson p := by
  obtain ⟨id, name, type, description, constraints⟩ := p
  have hconstraints (c) (hc : c ∈ constraints) : Constraints.decode.Takes 2 c.toJson c :=
    Constraints.takes_decode (hfinite c hc) fun x hx =>
      h x (List.mem_flatMap.mpr ⟨c, Option.mem_toList.mpr hc, hx⟩)
  have hfill : Fills shape 2 [("id", .string id)] ⟨"", "", .unknown, "", none⟩
      ⟨id, "", .unknown, "", none⟩ :=
    .one rfl ((takes_aString id).mono (Nat.zero_le 2)) rfl
  have hfill : Fills shape 2 (_ ++ [("name", .string name)]) _ ⟨id, name, .unknown, "", none⟩ :=
    hfill.append (.one rfl ((takes_aString name).mono (Nat.zero_le 2)) rfl)
  have hfill : Fills shape 2 (_ ++ [("type", .string type.name)]) _ ⟨id, name, type, "", none⟩ :=
    hfill.append (.one rfl ((ParamType.takes_decode type).mono (Nat.zero_le 2)) rfl)
  have hfill : Fills shape 2 (_ ++ [("description", .string description)]) _
      ⟨id, name, type, description, none⟩ :=
    hfill.append (.one rfl ((takes_aString description).mono (Nat.zero_le 2)) rfl)
  have hfill : Fills shape 2 (_ ++ member? "constraints" Constraints.toJson constraints) _
      ⟨id, name, type, description, constraints⟩ :=
    hfill.append (.optional rfl hconstraints rfl rfl)
  have hkeys : ["id", "name", "type", "description", "constraints"].Nodup := by decide
  have hnamed : ["name", "type"] ⊆ ["id", "name", "type", "description"] := by decide
  refine takes_aRecord hfill ?_ ?_
  · rw [List.map_append]
    exact List.Nodup.sublist ((List.Sublist.refl _).append (keys_member?_sublist ..)) hkeys
  · rw [List.map_append]
    exact List.Subset.trans hnamed (List.subset_append_left _ _)

theorem Tool.takes_decode {t : Tool} (hfinite : t.BoundsFinite)
    (h : ∀ p ∈ t.parameters, ∀ x ∈ p.floats, x.ReadsBack) : Tool.decode.Takes 5 t.toJson t := by
  obtain ⟨id, name, description, parameters⟩ := t
  have hparameters : (aList Parameter.decode).Takes 4 (.array (parameters.map Parameter.toJson))
      parameters :=
    takes_aList fun p hp => Parameter.takes_decode (hfinite p hp) (h p hp)
  have hfill : Fills shape 4 [("id", .string id)] ⟨"", "", "", []⟩ ⟨id, "", "", []⟩ :=
    .one rfl ((takes_aString id).mono (Nat.zero_le 4)) rfl
  have hfill : Fills shape 4 (_ ++ [("name", .string name)]) _ ⟨id, name, "", []⟩ :=
    hfill.append (.one rfl ((takes_aString name).mono (Nat.zero_le 4)) rfl)
  have hfill : Fills shape 4 (_ ++ [("description", .string description)]) _
      ⟨id, name, description, []⟩ :=
    hfill.append (.one rfl ((takes_aString description).mono (Nat.zero_le 4)) rfl)
  have hfill : Fills shape 4 (_ ++ [("parameters", .array (parameters.map Parameter.toJson))]) _
      ⟨id, name, description, parameters⟩ :=
    hfill.append (.one rfl hparameters rfl)
  have hkeys : ["id", "name", "description", "parameters"].Nodup := by decide
  have hnamed : ["name"] ⊆ ["id", "name", "description", "parameters"] := by decide
  exact takes_aRecord hfill hkeys hnamed

theorem Server.takes_decode {s : Server} (hfinite : s.BoundsFinite) (h : ∀ x ∈ s.floats, x.ReadsBack) :
    Server.decode.Takes 7 s.toJson s := by
  obtain ⟨name, description, language, tools⟩ := s
  have htools : (aList Tool.decode).Takes 6 (.array (tools.map Tool.toJson)) tools :=
    takes_aList fun t ht => Tool.takes_decode (hfinite t ht) fun p hp x hx =>
      h x (List.mem_flatMap.mpr ⟨t, ht, List.mem_flatMap.mpr ⟨p, hp, hx⟩⟩)
  have hfill : Fills shape 6 [("serverName", .string name)] ⟨"", "", .python, []⟩
      ⟨name, "", .python, []⟩ :=
    .one rfl ((takes_aString name).mono (Nat.zero_le 6)) rfl
  have hfill : Fills shape 6 (_ ++ [("description", .string description)]) _
      ⟨name, description, .python, []⟩ :=
    hfill.append (.one rfl ((takes_aString description).mono (Nat.zero_le 6)) rfl)
  have hfill : Fills shape 6 (_ ++ [("serverType", .string language.name)]) _
      ⟨name, description, language, []⟩ :=
    hfill.append (.one rfl ((Language.takes_decode language).mono (Nat.zero_le 6)) rfl)
  have hfill : Fills shape 6 (_ ++ [("tools", .array (tools.map Tool.toJson))]) _
      ⟨name, description, language, tools⟩ :=
    hfill.append (.one rfl htools rfl)
  have hkeys : ["serverName", "description", "serverType", "tools"].Nodup := by decide
  have hnamed : ["serverName", "serverType"] ⊆ ["serverName", "description", "serverType", "tools"] := by
    decide
  exact takes_aRecord hfill hkeys hnamed

theorem aBinary64_yields : aBinary64.Yields fun x => x.isFinite = true := by
  intro fuel depth cs rest x h
  obtain ⟨⟨n, after⟩, -, hanswer⟩ := exists_of_bind_eq_ok h
  cases hanswer
  exact n.isFinite_toBinary64

/-- Bounds that are read from JSON are finite. -/
theorem Constraints.yields_decode : Constraints.decode.Yields Constraints.BoundsFinite := by
  have hbound := yields_optional aBinary64_yields
  have hblank : shape.blank.BoundsFinite := ⟨fun x hx => (by cases hx), fun x hx => (by cases hx)⟩
  refine yields_aRecord ?_ hblank
  simp only [shape, List.forall_mem_cons]
  refine ⟨keeps_other ?_ _ _, keeps_other ?_ _ _,
    keeps_other ?_ _ _, keeps_field hbound (fun _ _ hv hc => ⟨hv, hc.2⟩) _ _,
    keeps_field hbound (fun _ _ hv hc => ⟨hc.1, hv⟩) _ _, keeps_other ?_ _ _,
    keeps_other ?_ _ _, keeps_other ?_ _ _,
    fun f hf => absurd hf List.not_mem_nil⟩
  all_goals exact fun _ _ h => h

theorem Parameter.yields_decode : Parameter.decode.Yields Parameter.BoundsFinite := by
  have hblank : shape.blank.BoundsFinite := fun c hc => (by cases hc)
  refine yields_aRecord ?_ hblank
  simp only [shape, List.forall_mem_cons]
  refine ⟨keeps_other ?_ _ _, keeps_other ?_ _ _,
    keeps_other ?_ _ _, keeps_other ?_ _ _,
    keeps_field (yields_optional Constraints.yields_decode) (fun _ _ hv _ => hv) _ _,
    fun f hf => absurd hf List.not_mem_nil⟩
  all_goals exact fun _ _ h => h

theorem Tool.yields_decode : Tool.decode.Yields Tool.BoundsFinite := by
  have hblank : shape.blank.BoundsFinite := fun p hp => absurd hp List.not_mem_nil
  refine yields_aRecord ?_ hblank
  simp only [shape, List.forall_mem_cons]
  refine ⟨keeps_other ?_ _ _, keeps_other ?_ _ _,
    keeps_other ?_ _ _,
    keeps_field (yields_aList Parameter.yields_decode) (fun _ _ hv _ => hv) _ _,
    fun f hf => absurd hf List.not_mem_nil⟩
  all_goals exact fun _ _ h => h

theorem Server.yields_decode : Server.decode.Yields Server.BoundsFinite := by
  have hblank : shape.blank.BoundsFinite := fun t ht => absurd ht List.not_mem_nil
  refine yields_aRecord ?_ hblank
  simp only [shape, List.forall_mem_cons]
  refine ⟨keeps_other ?_ _ _, keeps_other ?_ _ _,
    keeps_other ?_ _ _,
    keeps_field (yields_aList Tool.yields_decode) (fun _ _ hv _ => hv) _ _,
    fun f hf => absurd hf List.not_mem_nil⟩
  all_goals exact fun _ _ h => h

/-- The text of a value is read as a whole by a decoder that takes it. -/
theorem Json.readText_compact {α : Type} {decode : Decoder α} {levels : Nat} {j : Json} {v : α}
    (h : decode.Takes levels j v) (hlevels : levels ≤ depthLimit) :
    readText decode j.compact = .ok v := by
  have hsteps : (line j).length ≤ stepLimit (line j) := by
    rw [stepLimit]
    omega
  have hread := h.reads hsteps hlevels delimited_nil
  rw [List.append_nil] at hread
  change ((decode (stepLimit (line j)) depthLimit (line j)).bind _) = _
  rw [hread]
  rfl

/-- What is read from a text has finite bounds only. -/
theorem Server.boundsFinite_of_ofText {text : String} {s : Server} (h : ofText text = .ok s) :
    s.BoundsFinite := by
  unfold ofText at h
  split at h
  · next s' hread =>
    cases h
    obtain ⟨⟨s', rest⟩, hdecode, h⟩ := exists_of_bind_eq_ok hread
    dsimp only at h
    split at h
    · cases h
      exact yields_decode hdecode
    · cases h
  · cases h

theorem Server.isFinite_of_mem_floats {s : Server} (h : s.BoundsFinite) {x : Binary64}
    (hx : x ∈ s.floats) : x.isFinite = true := by
  obtain ⟨t, ht, hx⟩ := List.mem_flatMap.mp hx
  obtain ⟨p, hp, hx⟩ := List.mem_flatMap.mp hx
  obtain ⟨c, hc, hx⟩ := List.mem_flatMap.mp hx
  obtain ⟨hmin, hmax⟩ := h t ht p hp c (Option.mem_toList.mp hc)
  rcases List.mem_append.mp hx with hx | hx
  · rcases List.mem_append.mp hx with hx | hx
    · exact hmin x (Option.mem_toList.mp hx)
    · exact hmax x (Option.mem_toList.mp hx)
  · obtain ⟨v, -, hv⟩ := Option.bind_eq_some_iff.mp (Option.mem_toList.mp hx)
    unfold DefaultValue.fraction? at hv
    split at hv <;> cases hv
    rfl

theorem Server.ofText_of_boundsFinite {s : Server} (hfinite : s.BoundsFinite)
    (h : ∀ x ∈ s.floats, x.isFinite = true → x.ReadsBack) : ofText s.toJson.compact = .ok s := by
  have hback : ∀ x ∈ s.floats, x.ReadsBack := fun x hx => h x hx (isFinite_of_mem_floats hfinite hx)
  have hread : readText Server.decode s.toJson.compact = .ok s :=
    readText_compact (takes_decode hfinite hback) (by decide)
  rw [ofText, hread]

/-- A server description with finite bounds is read back from its JSON text as it was. So what is read
from any text is read back from the text that it is then written as, and writing it again gives that text. -/
theorem Server.ofText_compact_toJson :
    (∀ s : Server, s.BoundsFinite → (∀ x ∈ s.floats, x.isFinite = true → x.ReadsBack) →
      ofText s.toJson.compact = .ok s) ∧
    ∀ (text : String) (s : Server), ofText text = .ok s →
      (∀ x ∈ s.floats, x.isFinite = true → x.ReadsBack) →
        ofText s.toJson.compact = .ok s ∧
          (ofText s.toJson.compact).map (fun s => s.toJson.compact) = .ok s.toJson.compact := by
  refine ⟨fun s => ofText_of_boundsFinite, fun text s h hback => ?_⟩
  have hread := ofText_of_boundsFinite (boundsFinite_of_ofText h) hback
  refine ⟨hread, ?_⟩
  rw [hread]
  rfl

/-- A server whose parameters have empty constraints, no allowed values, no known type and defaults of each
kind. -/
def Server.mixed : Server where
  name := "mixed \"server\"\n\u2028"
  language := .typeScript
  tools := [{
    id := "1"
    name := "measure"
    parameters := [
      { name := "plain", type := .unknown, constraints := some {} },
      { name := "choice", type := .enum, constraints := some { allowed := some [] } },
      { name := "count", type := .integer, constraints := some {
          maxLength := some 18446744073709551615
          default := some (.number (.natural 1)) } },
      { name := "debt", type := .integer, constraints := some {
          default := some (.number (.negative 9223372036854775808 (by decide))) } },
      { name := "rate", type := .number, constraints := some {
          minimum := some (.finite true ⟨2 ^ 52 + 2 ^ 51, -52, by decide⟩)
          maximum := some (.finite false ⟨2 ^ 52, -51, by decide⟩)
          default := some (.number (.fraction false ⟨2 ^ 52, -52, by decide⟩)) } },
      { name := "word", type := .string, constraints := some {
          default := some (.string "1")
          required := some false } }] }]

/-- The defaults `1`, `1.0` and `"1"` stay apart, and what is absent stays absent. -/
theorem Server.ofText_compact_toJson_mixed :
    ofText mixed.toJson.compact = .ok mixed ∧
      (ofText mixed.toJson.compact).map (fun s => s.toJson.compact) = .ok mixed.toJson.compact := by
  have hfinite : mixed.BoundsFinite := by decide
  have hback : ∀ x ∈ mixed.floats, x.isFinite = true → x.ReadsBack := by decide +kernel
  have hread := ofText_compact_toJson.1 mixed hfinite hback
  exact ⟨hread, (ofText_compact_toJson.2 _ mixed hread hback).2⟩

end Scaffold
