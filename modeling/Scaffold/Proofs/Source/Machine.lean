import Mathlib.Data.List.Basic

/-!
Machines that read a text one character at a time, or a source one line at a time. A text is read piece
by piece: reading two texts in a row is reading the second from where the first one ends.
-/

namespace Scaffold

/-- A machine that reads inputs: each takes it from a state to a state and makes it write. -/
structure Machine (In State Out : Type) where
  step : State → In → State × List Out

namespace Machine

variable {In State Out : Type}

/-- The state after a text and all that has been written. -/
def run (m : Machine In State Out) : State → List In → State × List Out
  | s, [] => (s, [])
  | s, c :: rest =>
    let (next, first) := m.step s c
    let (last, others) := run m next rest
    (last, first ++ others)

variable (m : Machine In State Out)

@[simp] theorem run_nil (s : State) : m.run s [] = (s, []) := rfl

theorem run_cons (s : State) (c : In) (rest : List In) :
    m.run s (c :: rest) =
      ((m.run (m.step s c).1 rest).1, (m.step s c).2 ++ (m.run (m.step s c).1 rest).2) := rfl

/-- A step that writes nothing. -/
theorem run_cons_of_step {s t : State} {c : In} (h : m.step s c = (t, [])) (rest : List In) :
    m.run s (c :: rest) = m.run t rest := by
  rw [run_cons, h]
  rfl

/-- Two texts in a row are read one after the other. -/
theorem run_append (s : State) (a b : List In) :
    m.run s (a ++ b) =
      ((m.run (m.run s a).1 b).1, (m.run s a).2 ++ (m.run (m.run s a).1 b).2) := by
  induction a generalizing s with
  | nil => rfl
  | cons c rest ih => simp only [List.cons_append, run_cons, ih, List.append_assoc]

theorem run_append_of_run {s t u : State} {a b : List In} {x y : List Out}
    (ha : m.run s a = (t, x)) (hb : m.run t b = (u, y)) : m.run s (a ++ b) = (u, x ++ y) := by
  rw [run_append, ha, hb]

/-- A state that each piece leads back to, without writing, is the state after all of them. -/
theorem run_flatMap_of_run {s : State} {α : Type} {f : α → List In} {cs : List α}
    (h : ∀ c ∈ cs, m.run s (f c) = (s, [])) : m.run s (cs.flatMap f) = (s, []) := by
  induction cs with
  | nil => rfl
  | cons c rest ih =>
    obtain ⟨hc, hrest⟩ := List.forall_mem_cons.mp h
    rw [List.flatMap_cons]
    exact m.run_append_of_run hc (ih hrest)

/-- A state that each character leads back to, without writing, is the state after all of them. -/
theorem run_of_forall_step {s : State} {cs : List In} (h : ∀ c ∈ cs, m.step s c = (s, [])) :
    m.run s cs = (s, []) := by
  induction cs with
  | nil => rfl
  | cons c rest ih =>
    obtain ⟨hc, hrest⟩ := List.forall_mem_cons.mp h
    rw [m.run_cons_of_step hc, ih hrest]

end Machine

end Scaffold
