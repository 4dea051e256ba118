import Scaffold.Proofs.Files.Directories

namespace Scaffold

/-- The name leads one step down from a directory. -/
def Path.IsName (name : String) : Prop :=
  name ≠ "" ∧ '/' ∉ name.toList ∧ name ≠ "." ∧ name ≠ ".."

instance (name : String) : Decidable (Path.IsName name) :=
  inferInstanceAs (Decidable (_ ∧ _))

namespace Path

variable {directory name : String}

theorem IsName.toList_ne_nil (h : IsName name) : name.toList ≠ [] := by
  intro hnil
  exact h.1 (String.toList_eq_nil_iff.mp hnil)

theorem IsName.splitWhere (h : IsName name) :
    Text.splitWhere (· = '/') name.toList = [name.toList] := by
  apply Text.splitWhere_of_forall
  intro c hc
  apply decide_eq_false
  rintro rfl
  exact h.2.1 hc

theorem IsName.names_eq (h : IsName name) : names name = [name] := by
  simp [names, h.splitWhere, h.toList_ne_nil]

/-- The characters of the path of a name below a directory. -/
theorem toList_join (name : String) (hd : directory ≠ "") :
    ∃ before, (join directory name).toList = before ++ '/' :: name.toList ∧
      (before = directory.toList ∨ directory.toList = before ++ ['/']) := by
  have he : directory.isEmpty = false := by simpa [String.isEmpty_iff] using hd
  simp only [join, he, Bool.false_eq_true, if_false]
  split
  · next hlast =>
    obtain ⟨before, hbefore⟩ := List.getLast?_eq_some_iff.mp hlast
    refine ⟨before, ?_, .inr hbefore⟩
    rw [String.toList_append, hbefore, List.append_assoc, List.singleton_append]
  · refine ⟨directory.toList, ?_, .inl rfl⟩
    simp [String.toList_append]

theorem names_join (h : IsName name) : names (join directory name) = names directory ++ [name] := by
  by_cases hd : directory = ""
  · subst hd
    exact h.names_eq
  · obtain ⟨before, hjoin, hbefore⟩ := toList_join name hd
    have hsplit := Text.splitWhere_append_cons (p := (· = '/')) (c := '/') rfl before name.toList
    have hbehind : names (join directory name) =
        ((Text.splitWhere (· = '/') before).filter fun n => !n.isEmpty).map String.ofList ++ [name] := by
      simp [names, hjoin, hsplit, h.splitWhere, h.toList_ne_nil]
    rw [hbehind]
    congr 1
    rcases hbefore with rfl | hslash
    · rfl
    · -- The slash at the end of a directory leaves an empty piece, which is no name.
      have hempty := Text.splitWhere_append_cons (p := (· = '/')) (c := '/') rfl before []
      simp [names, hslash, hempty, Text.splitWhere]

theorem steps_join (h : IsName name) : steps (join directory name) = names directory ++ [name] := by
  have hlast : (join directory name).toList.getLast? ≠ some '/' := by
    obtain ⟨c, hc⟩ : ∃ c, name.toList.getLast? = some c :=
      ⟨_, List.getLast?_eq_some_getLast h.toList_ne_nil⟩
    have hslash : c ≠ '/' := by
      rintro rfl
      exact h.2.1 (List.mem_of_getLast? hc)
    by_cases hd : directory = ""
    · subst hd
      simpa [join, hc] using hslash
    · obtain ⟨before, hjoin, -⟩ := toList_join name hd
      rw [hjoin, List.getLast?_append, List.getLast?_cons, hc]
      simpa using hslash
  rw [steps, if_neg hlast, names_join h]

theorem isAbsolute_join (h : IsName name) : isAbsolute (join directory name) = isAbsolute directory := by
  by_cases hd : directory = ""
  · subst hd
    obtain ⟨c, cs, hcs⟩ := List.exists_cons_of_ne_nil h.toList_ne_nil
    have hslash : c ≠ '/' := by
      rintro rfl
      exact h.2.1 (hcs ▸ List.mem_cons_self)
    simpa [isAbsolute, join, hcs] using hslash
  · obtain ⟨before, hjoin, hbefore⟩ := toList_join name hd
    rcases hbefore with rfl | hslash
    · have hne : directory.toList ≠ [] := fun hnil => hd (String.toList_eq_nil_iff.mp hnil)
      obtain ⟨c, cs, hcs⟩ := List.exists_cons_of_ne_nil hne
      simp [isAbsolute, hjoin, hcs]
    · cases before <;> simp [isAbsolute, hjoin, hslash]

end Path

namespace FileTree

/-- The place of a name below a directory. -/
def below (tree : FileTree) (directory name : String) : Place :=
  goal (tree.start directory) (Path.names directory) ++ [name]

variable {tree after : FileTree} {directory name content : String}

theorem below_inj {other : String} (h : tree.below directory name = tree.below directory other) :
    name = other := by
  simpa [below] using h

theorem below_congr (h : after.here = tree.here) (directory name : String) :
    after.below directory name = tree.below directory name := by
  simp only [below, start, h]

theorem directoriesOf_congr (h : after.here = tree.here) (directory : String) :
    after.directoriesOf directory = tree.directoriesOf directory := by
  simp only [directoriesOf, start, h]

/-- The path of a name below a directory leads there if the way to the directory is there. -/
theorem locate_join_eq_ok_iff (h : Path.IsName name) {place : Place} :
    tree.locate (Path.join directory name) = .ok place ↔
      (∀ p ∈ tree.directoriesOf directory, tree.find? p = some .directory) ∧
        tree.below directory name = place := by
  have hstart : tree.start (Path.join directory name) = tree.start directory := by
    simp only [start, Path.isAbsolute_join h]
  rw [locate, hstart, Path.steps_join h, walk_eq_ok_iff, route_concat, List.dropLast_concat, goal_concat,
    step, if_neg h.2.2.1, if_neg h.2.2.2]
  rfl

theorem locate_join (h : Path.IsName name)
    (hway : ∀ p ∈ tree.directoriesOf directory, tree.find? p = some .directory) :
    tree.locate (Path.join directory name) = .ok (tree.below directory name) :=
  (locate_join_eq_ok_iff h).mpr ⟨hway, rfl⟩

/-- Whether there is a file at a place that may be run. -/
def isExecutable (tree : FileTree) (place : Place) : Bool :=
  match tree.find? place with
  | some (.file _ executable) => executable
  | _ => false

/-- One tree comes of another by writing a file at a place where no directory is. -/
structure Wrote (place : Place) (content : String) (executable : Bool) (before after : FileTree) : Prop where
  here : after.here = before.here
  file : after.find? place = some (.file content executable)
  vacant : before.find? place ≠ some .directory
  others : ∀ p, p ≠ place → after.find? p = before.find? p

theorem Wrote.put {place : Place} (h : tree.find? place ≠ some .directory) (content : String)
    (executable : Bool) : Wrote place content executable tree (tree.put place (.file content executable)) where
  here := rfl
  file := by
    have hroot : place ≠ [] := by
      rintro rfl
      exact h rfl
    rw [find?_put, if_pos ⟨hroot, rfl⟩]
  vacant := h
  others p hp := by rw [find?_put, if_neg fun hand => hp hand.2]

theorem Wrote.trans {place : Place} {content content' : String} {executable executable' : Bool}
    {before middle after : FileTree} (h : Wrote place content executable before middle)
    (h' : Wrote place content' executable' middle after) :
    Wrote place content' executable' before after where
  here := h'.here.trans h.here
  file := h'.file
  vacant := h.vacant
  others p hp := (h'.others p hp).trans (h.others p hp)

/-- The way to a directory stays, for no directory is written. -/
theorem Wrote.way {place : Place} {executable : Bool} {before after : FileTree}
    (h : Wrote place content executable before after)
    (hway : ∀ p ∈ before.directoriesOf directory, before.find? p = some .directory) :
    ∀ p ∈ after.directoriesOf directory, after.find? p = some .directory := by
  rw [directoriesOf_congr h.here]
  intro p hp
  have hne : p ≠ place := by
    rintro rfl
    exact h.vacant (hway p hp)
  rw [h.others p hne, hway p hp]

/-- Writing a file leaves it as executable as it was. -/
theorem wrote_of_write (h : Path.IsName name)
    (hwrite : tree.write (Path.join directory name) content = .ok after) :
    Wrote (tree.below directory name) content (tree.isExecutable (tree.below directory name)) tree after := by
  obtain ⟨place, hplace, hwrite⟩ := exists_of_bind_eq_ok hwrite
  obtain ⟨-, rfl⟩ := (locate_join_eq_ok_iff h).mp hplace
  split at hwrite
  · next executable hfile =>
    cases hwrite
    have hrun : tree.isExecutable (tree.below directory name) = executable := by
      rw [isExecutable, hfile]
    rw [hrun]
    exact Wrote.put (by simp [hfile]) content executable
  · cases hwrite
  · next hnone =>
    cases hwrite
    have hrun : tree.isExecutable (tree.below directory name) = false := by
      rw [isExecutable, hnone]
    rw [hrun]
    exact Wrote.put (by simp [hnone]) content false

/-- A file can be written if the way to it is there and it is no directory. -/
theorem exists_write (h : Path.IsName name)
    (hway : ∀ p ∈ tree.directoriesOf directory, tree.find? p = some .directory)
    (hvacant : tree.find? (tree.below directory name) ≠ some .directory) (content : String) :
    ∃ after, tree.write (Path.join directory name) content = .ok after := by
  rw [write, locate_join h hway]
  simp only [bind, Except.bind]
  cases hentry : tree.find? (tree.below directory name) with
  | none => exact ⟨_, rfl⟩
  | some entry =>
    cases entry with
    | directory => exact absurd hentry hvacant
    | file old executable => exact ⟨_, rfl⟩

/-- A file can be marked. -/
theorem exists_markExecutable (h : Path.IsName name)
    (hway : ∀ p ∈ tree.directoriesOf directory, tree.find? p = some .directory) {executable : Bool}
    (hfile : tree.find? (tree.below directory name) = some (.file content executable)) :
    ∃ after, tree.markExecutable (Path.join directory name) = .ok after := by
  rw [markExecutable, locate_join h hway]
  simp only [bind, Except.bind, hfile]
  exact ⟨_, rfl⟩

/-- Marking a file leaves its content. -/
theorem wrote_of_markExecutable (h : Path.IsName name) {executable : Bool}
    (hfile : tree.find? (tree.below directory name) = some (.file content executable))
    (hmark : tree.markExecutable (Path.join directory name) = .ok after) :
    Wrote (tree.below directory name) content true tree after := by
  obtain ⟨place, hplace, hmark⟩ := exists_of_bind_eq_ok hmark
  obtain ⟨-, rfl⟩ := (locate_join_eq_ok_iff h).mp hplace
  rw [hfile] at hmark
  cases hmark
  exact Wrote.put (by simp [hfile]) content true

/-- A file is read from the path of its name, if the way to it is there. -/
theorem read_join (h : Path.IsName name)
    (hway : ∀ p ∈ tree.directoriesOf directory, tree.find? p = some .directory) {executable : Bool}
    (hfile : tree.find? (tree.below directory name) = some (.file content executable)) :
    tree.read (Path.join directory name) = .ok content := by
  rw [read, locate_join h hway]
  simp only [bind, Except.bind, hfile]
  rfl

end FileTree

end Scaffold
