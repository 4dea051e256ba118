import Mathlib.Data.List.Forall2
import Scaffold.Proofs.Source.Machine
import Scaffold.Proofs.Text.Alphabet
import Scaffold.Source.Line
import Scaffold.Source.Module

/-!
Texts that a machine cannot tell apart. The judgment compares two runs, so what a piece of source is
read as never has to be written out: it is enough that the piece is read the same whatever free text
stands in it, and that the reader is then back in a state from which the next piece can be judged.
-/

namespace Scaffold.Machine

variable {State Out : Type}

/-- From states with `P` the machine reads both texts alike: it comes to states with `Q`, and it
writes the same, whichever states with `P` it has begun in. -/
def Alike (m : Machine Char State Out) (P Q : State → Prop) (a b : String) : Prop :=
  ∀ s s', P s → P s' → Q (m.run s a.toList).1 ∧ Q (m.run s' b.toList).1 ∧
    (m.run s a.toList).2 = (m.run s' b.toList).2

variable {m : Machine Char State Out} {P Q R : State → Prop} {a b c d : String}

theorem Alike.append (h : m.Alike P Q a b) (k : m.Alike Q R c d) :
    m.Alike P R (a ++ c) (b ++ d) := by
  intro s s' hs hs'
  obtain ⟨ha, hb, hout⟩ := h s s' hs hs'
  obtain ⟨hc, hd, hout'⟩ := k _ _ ha hb
  simp only [String.toList_append, m.run_append]
  exact ⟨hc, hd, by rw [hout, hout']⟩

theorem Alike.mono {P' Q' : State → Prop} (h : m.Alike P Q a b) (hP : ∀ s, P' s → P s)
    (hQ : ∀ s, Q s → Q' s) : m.Alike P' Q' a b := by
  intro s s' hs hs'
  obtain ⟨ha, hb, hout⟩ := h s s' (hP s hs) (hP s' hs')
  exact ⟨hQ _ ha, hQ _ hb, hout⟩

theorem alike_empty : m.Alike P P "" "" := fun _ _ hs hs' => ⟨hs, hs', rfl⟩

/-- Two texts that are read alike from one state. -/
theorem alike_of_run {s : State} {out : List Out} (ha : Q (m.run s a.toList).1)
    (hb : Q (m.run s b.toList).1) (hao : (m.run s a.toList).2 = out)
    (hbo : (m.run s b.toList).2 = out) : m.Alike (· = s) Q a b := by
  rintro _ _ rfl rfl
  exact ⟨ha, hb, hao.trans hbo.symm⟩

/-- A text that leads from one state to the right one is read like itself. -/
theorem alike_self {s : State} (h : Q (m.run s a.toList).1) : m.Alike (· = s) Q a a :=
  alike_of_run h h rfl rfl

/-- A state that each piece leads back to is the state after all of them. -/
theorem alike_join {as bs : List String} (h : List.Forall₂ (m.Alike P P) as bs) :
    m.Alike P P (String.join as) (String.join bs) := by
  induction h with
  | nil => exact alike_empty
  | cons hab _ ih =>
    simp only [String.join_cons]
    exact hab.append ih

/-- Pieces with a separator between them. Behind the last piece there is none. -/
theorem alike_intercalate {sep : String} {as bs : List String} (hsep : m.Alike Q P sep sep)
    (hPQ : ∀ s, P s → Q s) (h : List.Forall₂ (m.Alike P Q) as bs) :
    m.Alike P Q (sep.intercalate as) (sep.intercalate bs) := by
  induction h with
  | nil =>
    simp only [String.intercalate_nil]
    exact alike_empty.mono (fun _ hs => hs) hPQ
  | @cons a b as bs hab hrest ih =>
    cases hrest with
    | nil => simpa only [String.intercalate_singleton] using hab
    | cons _ _ =>
      simp only [String.intercalate_cons_cons] at ih ⊢
      exact (hab.append hsep).append ih

/-- From states with `P` the machine reads a text to states with `Q` and writes `out`. -/
def Reads (m : Machine Char State Out) (P Q : State → Prop) (a : String) (out : List Out) : Prop :=
  ∀ s, P s → Q (m.run s a.toList).1 ∧ (m.run s a.toList).2 = out

theorem Reads.append {x y : List Out} (h : m.Reads P Q a x) (k : m.Reads Q R b y) :
    m.Reads P R (a ++ b) (x ++ y) := by
  intro s hs
  obtain ⟨ha, hx⟩ := h s hs
  obtain ⟨hb, hy⟩ := k _ ha
  simp only [String.toList_append, m.run_append]
  exact ⟨hb, by rw [hx, hy]⟩

theorem Reads.mono {P' Q' : State → Prop} {x : List Out} (h : m.Reads P Q a x)
    (hP : ∀ s, P' s → P s) (hQ : ∀ s, Q s → Q' s) : m.Reads P' Q' a x :=
  fun s hs => ⟨hQ _ (h s (hP s hs)).1, (h s (hP s hs)).2⟩

theorem reads_of_run {s t : State} {x : List Out} (h : m.run s a.toList = (t, x)) :
    m.Reads (· = s) (· = t) a x := by
  rintro _ rfl
  rw [h]
  exact ⟨rfl, rfl⟩

/-- Texts that leave the same are read alike. -/
theorem Reads.alike {x : List Out} (h : m.Reads P Q a x) (k : m.Reads P Q b x) :
    m.Alike P Q a b := by
  intro s s' hs hs'
  obtain ⟨ha, hout⟩ := h s hs
  obtain ⟨hb, hout'⟩ := k s' hs'
  exact ⟨ha, hb, hout.trans hout'.symm⟩

/-- Texts that leave nothing, one after the other. -/
theorem reads_join_nil {as : List String} (h : ∀ a ∈ as, m.Reads P P a []) :
    m.Reads P P (String.join as) [] := by
  induction as with
  | nil => exact fun _ hs => ⟨hs, rfl⟩
  | cons a as ih =>
    obtain ⟨ha, has⟩ := List.forall_mem_cons.mp h
    rw [String.join_cons]
    exact ha.append (ih has)

/-- A piece that leads from a state back to it, any number of times. -/
theorem run_join_of_run {s : State} {out : Out} {as : List String}
    (h : ∀ a ∈ as, m.run s a.toList = (s, [out])) :
    m.run s (String.join as).toList = (s, List.replicate as.length out) := by
  induction as with
  | nil => rfl
  | cons a as ih =>
    obtain ⟨ha, has⟩ := List.forall_mem_cons.mp h
    simp only [String.join_cons, String.toList_append]
    exact m.run_append_of_run ha (ih has)

/-- Pieces that each lead from a state back to it, with something between them that leaves nothing. -/
theorem run_intercalate_of_run {α : Type} {s : State} {sep : String} {f : α → String} {out : α → List Out}
    {as : List α} (hsep : m.run s sep.toList = (s, []))
    (h : ∀ a ∈ as, m.run s (f a).toList = (s, out a)) :
    m.run s (sep.intercalate (as.map f)).toList = (s, as.flatMap out) := by
  induction as with
  | nil => rfl
  | cons a rest ih =>
    obtain ⟨ha, hrest⟩ := List.forall_mem_cons.mp h
    cases rest with
    | nil => simpa only [List.map_cons, List.map_nil, String.intercalate_singleton,
        List.flatMap_cons, List.flatMap_nil, List.append_nil] using ha
    | cons b rest =>
      have hall := m.run_append_of_run (m.run_append_of_run ha hsep) (ih hrest)
      rw [List.append_nil, ← String.toList_append, ← String.toList_append] at hall
      rw [List.map_cons, List.map_cons, String.intercalate_cons_cons, List.flatMap_cons]
      exact hall

/-- What a tool says of its parameters leaves what their names leave. -/
theorem run_executed (t : ToolDecl) {s : State} {f : String → String} {out : String → List Out}
    (hlead : m.run s " executed with parameters: ".toList = (s, []))
    (hcomma : m.run s ", ".toList = (s, []))
    (hnone : m.run s " executed with no parameters".toList = (s, []))
    (h : ∀ n ∈ t.paramNames, m.run s (f n).toList = (s, out n)) :
    m.run s (if t.hasParams then " executed with parameters: " ++ ", ".intercalate (t.paramNames.map f)
      else " executed with no parameters").toList = (s, t.paramNames.flatMap out) := by
  split
  · rw [String.toList_append]
    exact m.run_append_of_run hlead (run_intercalate_of_run hcomma h)
  · next hparams =>
    have hempty : t.paramNames = [] := by
      simpa [ToolDecl.hasParams, ToolDecl.paramNames] using hparams
    rw [hempty]
    exact hnone

/-- Two texts that are read alike but for some number of equal marks before the rest. -/
def AlikeBelow (m : Machine Char State Out) (s : State) (gap : Out) (a b : String) : Prop :=
  ∃ j k out, m.run s a.toList = (s, List.replicate j gap ++ out) ∧
    m.run s b.toList = (s, List.replicate k gap ++ out)

theorem AlikeBelow.append {s : State} {gap : Out} (h : m.AlikeBelow s gap a b)
    (k : m.Alike (· = s) (· = s) c d) : m.AlikeBelow s gap (a ++ c) (b ++ d) := by
  obtain ⟨i, j, out, ha, hb⟩ := h
  obtain ⟨hc, hd, hout⟩ := k s s rfl rfl
  refine ⟨i, j, out ++ (m.run s c.toList).2, ?_, ?_⟩
  · rw [String.toList_append, m.run_append_of_run ha (Prod.ext hc rfl), List.append_assoc]
  · rw [String.toList_append, m.run_append_of_run hb (Prod.ext hd hout.symm), List.append_assoc]

end Scaffold.Machine

namespace Scaffold.Line

section

variable {State Out : Type} {m : Machine Char State Out} {P Q : State → Prop} {unit : String}

/-- Two lines whose texts are read alike. -/
theorem alike_render {depth : Nat} {text text' : String} (hunit : m.Alike P P unit unit)
    (hbreak : m.Alike Q P "\n" "\n") (h : m.Alike P Q text text') (hne : text ≠ "")
    (hne' : text' ≠ "") : m.Alike P P (render unit ⟨depth, text⟩) (render unit ⟨depth, text'⟩) := by
  rw [render_of_ne_empty unit hne, render_of_ne_empty unit hne']
  refine (Machine.Alike.append (Machine.alike_join ?_) h).append hbreak
  exact List.forall₂_same.mpr fun x hx => by rwa [List.eq_of_mem_replicate hx]

/-- A line without any free text, if the end of it leads back to where it begins. -/
theorem alike_fixedLine {s : State} (hunit : m.Alike (· = s) (· = s) unit unit)
    (hbreak : m.Alike Q (· = s) "\n" "\n") (hs : Q s) {l : Line}
    (h : Q (m.run s l.text.toList).1) : m.Alike (· = s) (· = s) (render unit l) (render unit l) := by
  by_cases hempty : l.text = ""
  · have hrender : render unit l = "\n" := by
      simp only [render, hempty, String.isEmpty_iff, if_true]
    rw [hrender]
    exact hbreak.mono (fun _ h => h ▸ hs) fun _ h => h
  · exact alike_render hunit hbreak (Machine.alike_self h) hempty hempty

theorem alike_renderAll {ls ls' : List Line}
    (h : List.Forall₂ (fun l l' => m.Alike P P (render unit l) (render unit l')) ls ls') :
    m.Alike P P (renderAll unit ls) (renderAll unit ls') := by
  refine Machine.alike_join ?_
  rw [List.forall₂_map_left_iff, List.forall₂_map_right_iff]
  exact h

theorem alike_renderAll_cons {l l' : Line} {ls ls' : List Line}
    (h : m.Alike P P (render unit l) (render unit l'))
    (k : m.Alike P P (renderAll unit ls) (renderAll unit ls')) :
    m.Alike P P (renderAll unit (l :: ls)) (renderAll unit (l' :: ls')) := by
  simp only [renderAll, List.map_cons, String.join_cons]
  exact h.append k

theorem alike_renderAll_append {ls ls' ks ks' : List Line}
    (h : m.Alike P P (renderAll unit ls) (renderAll unit ls'))
    (k : m.Alike P P (renderAll unit ks) (renderAll unit ks')) :
    m.Alike P P (renderAll unit (ls ++ ks)) (renderAll unit (ls' ++ ks')) := by
  simp only [renderAll_append]
  exact h.append k

theorem alike_renderAll_flatMap {α β : Type} {f : α → List Line} {g : β → List Line} {as : List α}
    {bs : List β}
    (h : List.Forall₂ (fun x y => m.Alike P P (renderAll unit (f x)) (renderAll unit (g y))) as bs) :
    m.Alike P P (renderAll unit (as.flatMap f)) (renderAll unit (bs.flatMap g)) := by
  induction h with
  | nil => exact Machine.alike_empty
  | cons hxy _ ih =>
    rw [List.flatMap_cons, List.flatMap_cons]
    exact alike_renderAll_append hxy ih

/-- A comment, if the machine passes over every line of it in the same way. -/
theorem run_comment {s : State} {out : Out} {marker : String}
    (h : ∀ body, Text.OneLine body → m.run s (marker ++ body ++ "\n").toList = (s, [out]))
    (text : String) :
    ∃ n, m.run s (renderAll unit (comment 0 marker text)).toList = (s, List.replicate n out) := by
  refine ⟨_, Machine.run_join_of_run fun a ha => ?_⟩
  simp only [comment, List.map_map, List.mem_map, Function.comp_apply] at ha
  obtain ⟨l, hl, rfl⟩ := ha
  have hline := Text.oneLine_of_mem_commentLines hl
  have hempty : Text.OneLine "" := fun c hc => absurd hc List.not_mem_nil
  have hspace : Text.OneLine " " := Text.oneLine_of_all (by decide)
  rw [render_zero]
  split
  · simpa only [String.append_empty] using h "" hempty
  · have htext : marker ++ " " ++ l = marker ++ (" " ++ l) := String.append_assoc
    rw [htext]
    exact h (" " ++ l) (hspace.append hline)

/-- The heading of a source file: the name of the server, and its description if there is one. -/
theorem run_heading {s : State} {out : Out} {marker : String}
    (h : ∀ body, Text.OneLine body → m.run s (marker ++ body ++ "\n").toList = (s, [out]))
    (name description : String) :
    ∃ n, m.run s (renderAll unit (comment 0 marker name ++ [⟨0, marker⟩] ++
      if description.isEmpty then [] else comment 0 marker description ++ [⟨0, marker⟩])).toList =
        (s, List.replicate n out) := by
  have hmarker : m.run s (renderAll unit [⟨0, marker⟩]).toList = (s, List.replicate 1 out) := by
    have hempty : Text.OneLine "" := fun c hc => absurd hc List.not_mem_nil
    have hrun := h "" hempty
    rw [String.append_empty] at hrun
    simpa only [renderAll, List.map_cons, List.map_nil, String.join_cons, String.join_nil,
      String.append_empty, render_zero, List.replicate_one] using hrun
  have hsection (text : String) : ∃ n, m.run s
      (renderAll unit (comment 0 marker text ++ [⟨0, marker⟩])).toList =
        (s, List.replicate n out) := by
    obtain ⟨n, hn⟩ := run_comment h text
    refine ⟨n + 1, ?_⟩
    rw [renderAll_append, String.toList_append, m.run_append_of_run hn hmarker,
      List.replicate_append_replicate]
  -- The description has a section of its own, unless it is empty.
  obtain ⟨n, hn⟩ := hsection name
  split
  · refine ⟨n, ?_⟩
    rw [List.append_nil]
    exact hn
  · obtain ⟨k, hk⟩ := hsection description
    refine ⟨n + k, ?_⟩
    rw [renderAll_append, String.toList_append, m.run_append_of_run hn hk,
      List.replicate_append_replicate]

/-- The headings of two source files, each as long as its server needs it. -/
theorem alikeBelow_heading {s : State} {out : Out} {marker : String}
    (h : ∀ body, Text.OneLine body → m.run s (marker ++ body ++ "\n").toList = (s, [out]))
    (name name' description description' : String) :
    m.AlikeBelow s out
      (renderAll unit (comment 0 marker name ++ [⟨0, marker⟩] ++
        if description.isEmpty then [] else comment 0 marker description ++ [⟨0, marker⟩]))
      (renderAll unit (comment 0 marker name' ++ [⟨0, marker⟩] ++
        if description'.isEmpty then [] else comment 0 marker description' ++ [⟨0, marker⟩])) := by
  obtain ⟨j, hj⟩ := run_heading h name description
  obtain ⟨k, hk⟩ := run_heading h name' description'
  exact ⟨j, k, [], by rw [hj, List.append_nil], by rw [hk, List.append_nil]⟩

theorem alikeBelow_append {s : State} {out : Out} {ls ls' ks ks' : List Line}
    (h : m.AlikeBelow s out (renderAll unit ls) (renderAll unit ls'))
    (k : m.Alike (· = s) (· = s) (renderAll unit ks) (renderAll unit ks')) :
    m.AlikeBelow s out (renderAll unit (ls ++ ks)) (renderAll unit (ls' ++ ks')) := by
  simp only [renderAll_append]
  exact h.append k

end

end Scaffold.Line
