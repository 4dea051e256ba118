import Mathlib.Data.List.Basic

/-!
Classes in the text of a regular expression, as a scanner finds them that knows no more of the syntax
than backslashes and brackets: a bracket opens a class, the next one the other way around closes it, and
a backslash takes the character behind it. Brackets do not nest.
-/

namespace Scaffold

/-- Where a scanner stands. -/
structure ClassScan where
  /-- Whether a class is open. -/
  inClass : Bool
  /-- Whether a backslash takes the next character. -/
  escaped : Bool
deriving DecidableEq, Repr

namespace ClassScan

/-- Outside of classes and behind no backslash. -/
def outside : ClassScan := ⟨false, false⟩

/-- The scanner after one more character. -/
def step (s : ClassScan) (c : Char) : ClassScan :=
  if s.escaped then ⟨s.inClass, false⟩
  else if c = '\\' then ⟨s.inClass, true⟩
  else if s.inClass then ⟨c ≠ ']', false⟩
  else ⟨c = '[', false⟩

/-- The scanner after a text. -/
def run (s : ClassScan) (cs : List Char) : ClassScan := cs.foldl step s

@[simp] theorem run_nil (s : ClassScan) : s.run [] = s := rfl

@[simp] theorem run_cons (s : ClassScan) (c : Char) (cs : List Char) :
    s.run (c :: cs) = (s.step c).run cs := rfl

theorem run_append (s : ClassScan) (a b : List Char) : s.run (a ++ b) = (s.run a).run b :=
  List.foldl_append

/-- Text without the two characters that a scanner outside of classes heeds. -/
def Plain (cs : List Char) : Prop := ∀ c ∈ cs, c ≠ '[' ∧ c ≠ '\\'

theorem plain_iff {cs : List Char} : (cs.all fun c => c != '[' && c != '\\') = true ↔ Plain cs := by
  simp only [List.all_eq_true, Bool.and_eq_true, bne_iff_ne, Plain]

instance : DecidablePred Plain := fun _ => decidable_of_iff _ plain_iff

/-- Text in which every backslash takes a character of the text. -/
def Even (cs : List Char) : Prop := ∀ inClass, (run ⟨inClass, false⟩ cs).escaped = false

/-- Text that leaves no class open. -/
def Closed (cs : List Char) : Prop := outside.run cs = outside

variable {a b cs : List Char} {c : Char}

theorem Plain.nil : Plain [] := List.forall_mem_nil _

theorem Plain.append (ha : Plain a) (hb : Plain b) : Plain (a ++ b) :=
  List.forall_mem_append.mpr ⟨ha, hb⟩

theorem Even.nil : Even [] := fun _ => rfl

theorem Even.append (ha : Even a) (hb : Even b) : Even (a ++ b) := by
  intro inClass
  obtain ⟨k, hk⟩ : ∃ k, run ⟨inClass, false⟩ a = ⟨k, false⟩ :=
    ⟨_, congrArg (ClassScan.mk _) (ha inClass)⟩
  rw [run_append, hk]
  exact hb k

theorem Closed.nil : Closed [] := rfl

theorem Closed.append (ha : Closed a) (hb : Closed b) : Closed (a ++ b) := by
  rw [Closed, run_append, ha]
  exact hb

/-- Without a backslash nothing is escaped. -/
theorem even_of_not_mem (h : '\\' ∉ cs) : Even cs := by
  intro inClass
  induction cs generalizing inClass with
  | nil => rfl
  | cons c rest ih =>
    rw [List.mem_cons, not_or] at h
    obtain ⟨hc, hrest⟩ := h
    rw [run_cons]
    cases inClass <;> simp only [step, Ne.symm hc, Bool.false_eq_true, if_false, if_true] <;>
      exact ih hrest _

theorem Plain.even (h : Plain cs) : Even cs := even_of_not_mem fun hc => (h _ hc).2 rfl

theorem Plain.closed (h : Plain cs) : Closed cs := by
  induction cs with
  | nil => rfl
  | cons c rest ih =>
    obtain ⟨⟨hbracket, hbackslash⟩, hrest⟩ := List.forall_mem_cons.mp h
    have hstep : outside.step c = outside := by simp [step, outside, hbracket, hbackslash]
    rw [Closed, run_cons, hstep]
    exact ih hrest

/-- A backslash takes the character behind it, whichever it is. -/
theorem run_escape (s : ClassScan) (hs : s.escaped = false) (c : Char) : s.run ['\\', c] = s := by
  obtain ⟨inClass, escaped⟩ := s
  subst hs
  rfl

theorem even_escape (c : Char) : Even ['\\', c] := fun inClass => by rw [run_escape _ rfl]

theorem closed_escape (c : Char) : Closed ['\\', c] := run_escape _ rfl c

/-- A bracket closes whatever class is open, and the brackets before it do not matter. -/
theorem closed_bracket (h : Even cs) : Closed ('[' :: (cs ++ [']'])) := by
  have hopen : outside.step '[' = ⟨true, false⟩ := by decide
  obtain ⟨k, hk⟩ : ∃ k, run ⟨true, false⟩ cs = ⟨k, false⟩ := ⟨_, congrArg (ClassScan.mk _) (h true)⟩
  rw [Closed, run_cons, hopen, run_append, hk]
  cases k <;> decide

/-- A reader that leaves `rest` has consumed text with the property `P`. -/
def Leaves (P : List Char → Prop) (cs rest : List Char) : Prop := ∃ w, cs = w ++ rest ∧ P w

section Leaves

variable {P Q : List Char → Prop} {cs ds es : List Char}

theorem Leaves.mono (hPQ : ∀ w, P w → Q w) (h : Leaves P cs ds) : Leaves Q cs ds :=
  h.imp fun w hw => ⟨hw.1, hPQ w hw.2⟩

theorem Leaves.refl (hP : P []) : Leaves P cs cs := ⟨[], rfl, hP⟩

theorem Leaves.trans (hP : ∀ {a b}, P a → P b → P (a ++ b)) (h : Leaves P cs ds)
    (h' : Leaves P ds es) : Leaves P cs es := by
  obtain ⟨w, rfl, hw⟩ := h
  obtain ⟨v, rfl, hv⟩ := h'
  exact ⟨w ++ v, (List.append_assoc ..).symm, hP hw hv⟩

theorem Leaves.cons_plain {c : Char} (hc : c ≠ '[' ∧ c ≠ '\\') (h : Leaves Plain cs ds) :
    Leaves Plain (c :: cs) ds := by
  obtain ⟨w, rfl, hw⟩ := h
  exact ⟨c :: w, rfl, List.forall_mem_cons.mpr ⟨hc, hw⟩⟩

/-- What is not in the input is not in what is left of it. -/
theorem Leaves.not_mem (h : Leaves P cs ds) {c : Char} (hc : c ∉ cs) : c ∉ ds := by
  obtain ⟨w, rfl, -⟩ := h
  exact fun hd => hc (List.mem_append_right w hd)

end Leaves

end ClassScan

end Scaffold
