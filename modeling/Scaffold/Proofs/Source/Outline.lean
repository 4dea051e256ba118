import Scaffold.Proofs.Source.Alike
import Scaffold.Proofs.Source.Mark

namespace Scaffold

/-- A way to cut texts into pieces that agrees with writing one text after the other. -/
structure Cutting (Piece : Type) where
  /-- The text amounts to these pieces, whatever stands behind it. -/
  Cuts : String → List Piece → Prop
  empty : Cuts "" []
  append {s t : String} {as bs : List Piece} : Cuts s as → Cuts t bs → Cuts (s ++ t) (as ++ bs)

namespace Cutting

variable {Piece State Item : Type} {c : Cutting Piece} {m : Machine Piece State Item}
  {x y z : State} {s t : String} {items items' : List Item}

/-- A machine that reads the pieces of the text goes from one state to another and writes these items. -/
def Tells (c : Cutting Piece) (m : Machine Piece State Item) (x y : State) (s : String)
    (items : List Item) : Prop :=
  ∃ pieces, c.Cuts s pieces ∧ m.run x pieces = (y, items)

theorem Tells.append (hs : c.Tells m x y s items) (ht : c.Tells m y z t items') :
    c.Tells m x z (s ++ t) (items ++ items') := by
  obtain ⟨as, has, hrun⟩ := hs
  obtain ⟨bs, hbs, hrun'⟩ := ht
  exact ⟨as ++ bs, c.append has hbs, m.run_append_of_run hrun hrun'⟩

theorem tells_empty (c : Cutting Piece) (m : Machine Piece State Item) (x : State) :
    c.Tells m x x "" [] := ⟨[], c.empty, rfl⟩

/-- A text of one piece. -/
theorem tells_piece {piece : Piece} (h : c.Cuts s [piece]) :
    c.Tells m x (m.step x piece).1 s (m.step x piece).2 := by
  refine ⟨_, h, ?_⟩
  rw [Machine.run_cons, Machine.run_nil, List.append_nil]

/-- A text of one piece, where it is known what the machine makes of the piece. -/
theorem tells_piece_of_step {piece : Piece} (h : c.Cuts s [piece]) (hstep : m.step x piece = (y, items)) :
    c.Tells m x y s items := by
  have htells := tells_piece (m := m) (x := x) h
  rwa [hstep] at htells

/-- A text of no piece. -/
theorem tells_nothing (h : c.Cuts s []) : c.Tells m x x s [] := ⟨[], h, rfl⟩

section

variable {unit : String}

theorem tells_nil (c : Cutting Piece) (m : Machine Piece State Item) (x : State) :
    c.Tells m x x (Line.renderAll unit []) [] := tells_empty c m x

theorem tells_cons {l : Line} {ls : List Line} (hl : c.Tells m x y (Line.render unit l) items)
    (hls : c.Tells m y z (Line.renderAll unit ls) items') :
    c.Tells m x z (Line.renderAll unit (l :: ls)) (items ++ items') := by
  simp only [Line.renderAll, List.map_cons, String.join_cons]
  exact hl.append hls

/-- Lines that each write one item. -/
theorem tells_map {α : Type} {f : α → Line} {g : α → Item} {as : List α}
    (h : ∀ a ∈ as, c.Tells m x x (Line.render unit (f a)) [g a]) :
    c.Tells m x x (Line.renderAll unit (as.map f)) (as.map g) := by
  induction as with
  | nil => exact tells_nil c m x
  | cons a as ih =>
    obtain ⟨ha, has⟩ := List.forall_mem_cons.mp h
    exact tells_cons ha (ih has)

/-- Lines that write nothing. -/
theorem tells_idle {ls : List Line} (h : ∀ l ∈ ls, c.Tells m x x (Line.render unit l) []) :
    c.Tells m x x (Line.renderAll unit ls) [] := by
  induction ls with
  | nil => exact tells_nil c m x
  | cons l ls ih =>
    obtain ⟨hl, hls⟩ := List.forall_mem_cons.mp h
    exact tells_cons hl (ih hls)

/-- Blocks of lines one after the other. -/
theorem tells_flatMap {α : Type} {f : α → List Line} {g : α → List Item} {as : List α}
    (h : ∀ a ∈ as, c.Tells m x x (Line.renderAll unit (f a)) (g a)) :
    c.Tells m x x (Line.renderAll unit (as.flatMap f)) (as.flatMap g) := by
  induction as with
  | nil => exact tells_nil c m x
  | cons a as ih =>
    obtain ⟨ha, has⟩ := List.forall_mem_cons.mp h
    rw [List.flatMap_cons, List.flatMap_cons, Line.renderAll_append]
    exact ha.append (ih has)

end

end Cutting

namespace Line

/-- The characters of a line as it is written, without its end. -/
def chars (unit : String) (depth : Nat) (cs : List Char) : List Char :=
  if cs.isEmpty then [] else (List.replicate depth unit.toList).flatten ++ cs

theorem render_eq (unit : String) (l : Line) :
    render unit l = String.ofList (chars unit l.depth l.text.toList) ++ "\n" := by
  by_cases h : l.text = ""
  · simp only [render, chars, h]
    rfl
  · have hlist : l.text.toList ≠ [] := fun he => h (String.toList_eq_nil_iff.mp he)
    rw [render_of_ne_empty unit h, chars, if_neg (by simpa using hlist), String.ofList_append,
      String.ofList_toList]
    congr 2
    rw [← String.toList_inj, String.toList_join, String.toList_ofList, List.flatMap_replicate]

/-- A line that is indented once. -/
theorem render_one (unit : String) {text : String} (h : text ≠ "") :
    render unit ⟨1, text⟩ = unit ++ text ++ "\n" := by
  rw [render_of_ne_empty unit h, List.replicate_one, String.join_cons, String.join_nil,
    String.append_empty]

/-- A line that is indented twice. -/
theorem render_two (unit : String) {text : String} (h : text ≠ "") :
    render unit ⟨2, text⟩ = unit ++ unit ++ text ++ "\n" := by
  rw [render_of_ne_empty unit h, List.replicate_succ, List.replicate_one, String.join_cons,
    String.join_cons, String.join_nil, String.append_empty]

end Line

namespace Mark

/-- The name behind the brace that opens a substitution. -/
def hole? (piece : List Mark) : Option String :=
  match piece.dropWhile (· != .field '\x7b') with
  | [] => none
  | _ :: name => some (String.ofList (name.map char))

/-- The names between the braces of substitutions. -/
def holes (ms : List Mark) : List String :=
  (ms.splitOnP (· == .field '\x7d')).filterMap hole?

/-- Whether the mark is no brace around a substitution. -/
def isHoleless (m : Mark) : Bool := m != .field '\x7b' && m != .field '\x7d'

theorem isHoleless_iff {m : Mark} :
    isHoleless m = true ↔ (m != .field '\x7b') = true ∧ (m == .field '\x7d') = false := by
  simp only [isHoleless, bne, Bool.and_eq_true, Bool.not_eq_true']

theorem hole?_eq_none {ms : List Mark} (h : ∀ m ∈ ms, isHoleless m = true) : hole? ms = none := by
  have hdrop : ms.dropWhile (· != .field '\x7b') = [] :=
    List.dropWhile_eq_nil_iff.mpr fun m hm => (isHoleless_iff.mp (h m hm)).1
  rw [hole?, hdrop]

theorem holes_eq_nil {ms : List Mark} (h : ∀ m ∈ ms, isHoleless m = true) : holes ms = [] := by
  have hsplit : ms.splitOnP (· == .field '\x7d') = [ms] :=
    List.splitOnP_eq_singleton fun m hm => (isHoleless_iff.mp (h m hm)).2
  rw [holes, hsplit, List.filterMap_cons, hole?_eq_none h, List.filterMap_nil]

/-- The first substitution is read first. -/
theorem holes_append {before name : List Mark} (hbefore : ∀ m ∈ before, isHoleless m = true)
    (hname : ∀ m ∈ name, isHoleless m = true) (rest : List Mark) :
    holes (before ++ Mark.field '\x7b' :: name ++ Mark.field '\x7d' :: rest) =
      String.ofList (name.map char) :: holes rest := by
  have hpiece : ∀ m ∈ before ++ Mark.field '\x7b' :: name, (m == Mark.field '\x7d') = false := by
    intro m hm
    rcases List.mem_append.mp hm with hm | hm
    · exact (isHoleless_iff.mp (hbefore m hm)).2
    rcases List.mem_cons.mp hm with rfl | hm
    · decide
    · exact (isHoleless_iff.mp (hname m hm)).2
  have hdrop : (before ++ Mark.field '\x7b' :: name).dropWhile (· != Mark.field '\x7b') =
      Mark.field '\x7b' :: name := by
    rw [List.dropWhile_append_of_pos fun m hm => (isHoleless_iff.mp (hbefore m hm)).1]
    exact List.dropWhile_cons_of_neg (by decide)
  have hhole : hole? (before ++ Mark.field '\x7b' :: name) = some (String.ofList (name.map char)) := by
    rw [hole?, hdrop]
  rw [holes, List.splitOnP_append_cons_of_forall_mem hpiece _ (beq_self_eq_true _),
    List.filterMap_cons, hhole, holes]

/-- Names in substitutions are read back, however a name is marked and whatever stands around them. -/
theorem holes_flatMap {f : String → List Mark} {names : List String}
    (hf : ∀ n ∈ names, (f n).map char = n.toList ∧ ∀ m ∈ f n, isHoleless m = true)
    {before after : List Mark} (hbefore : ∀ m ∈ before, isHoleless m = true)
    (hafter : ∀ m ∈ after, isHoleless m = true) :
    holes (before ++ (names.flatMap fun n => Mark.field '\x7b' :: f n ++ [Mark.field '\x7d']) ++ after) =
      names := by
  induction names generalizing before with
  | nil =>
    rw [List.flatMap_nil, List.append_nil]
    exact holes_eq_nil fun m hm => (List.mem_append.mp hm).elim (hbefore m) (hafter m)
  | cons n rest ih =>
    obtain ⟨⟨hchars, hname⟩, hrest⟩ := List.forall_mem_cons.mp hf
    have hnil : ∀ m ∈ ([] : List Mark), isHoleless m = true := List.forall_mem_nil _
    have htail := ih hrest hnil
    have harrange : before ++
        ((n :: rest).flatMap fun n => Mark.field '\x7b' :: f n ++ [Mark.field '\x7d']) ++ after =
          before ++ Mark.field '\x7b' :: f n ++ Mark.field '\x7d' ::
            ([] ++ (rest.flatMap fun n => Mark.field '\x7b' :: f n ++ [Mark.field '\x7d']) ++ after) := by
      simp only [List.flatMap_cons, List.append_assoc, List.cons_append, List.nil_append]
    rw [harrange, holes_append hbefore hname, htail, hchars, String.ofList_toList]

end Mark

end Scaffold
