import Mathlib.Data.List.Induction
import Mathlib.Tactic.ByContra
import Scaffold.Proofs.Files.Names

namespace Scaffold.FileTree

/-- Whatever there is in a tree is in a directory. -/
def Rooted (tree : FileTree) : Prop :=
  ∀ (place : Place) (name : String), tree.find? (place ++ [name]) ≠ none → tree.find? place = some .directory

variable {tree : FileTree} {place : Place} {steps : List String} {directory name : String}

theorem rooted_of_entries (h : ∀ e ∈ tree.entries, tree.find? e.1.dropLast = some .directory) :
    tree.Rooted := by
  intro place name hthere
  rw [find?, if_neg (List.append_ne_nil_of_right_ne_nil _ (List.cons_ne_nil _ _))] at hthere
  obtain ⟨entry, hentry⟩ := Option.ne_none_iff_exists'.mp hthere
  obtain ⟨before, after, hentries, -⟩ := List.lookup_eq_some_iff.mp hentry
  have hparent := h (place ++ [name], entry) (hentries ▸ List.mem_append_right _ List.mem_cons_self)
  rwa [List.dropLast_concat] at hparent

/-- All that is above something that is there is a directory. -/
theorem Rooted.find?_of_prefix (h : tree.Rooted) {above below : Place} (habove : above <+: below)
    (hne : above ≠ below) (hthere : tree.find? below ≠ none) : tree.find? above = some .directory := by
  obtain ⟨rest, rfl⟩ := habove
  -- From below upwards: each name that is taken off leaves a directory.
  induction rest using List.reverseRecOn with
  | nil => exact absurd (List.append_nil above).symm hne
  | append_singleton rest last ih =>
    rw [← List.append_assoc] at hthere
    have hparent := h _ last hthere
    by_cases hrest : rest = []
    · rwa [hrest, List.append_nil] at hparent
    · apply ih
      · simpa using hrest
      · rw [hparent]
        exact Option.some_ne_none _

theorem prefix_step (h : name ≠ "..") (place : Place) : place <+: step place name := by
  unfold step
  split
  · exact List.prefix_refl place
  · exact List.prefix_append place [name]

theorem prefix_goal (h : ".." ∉ steps) (place : Place) : place <+: goal place steps := by
  induction steps generalizing place with
  | nil => exact List.prefix_refl place
  | cons first rest ih =>
    obtain ⟨hfirst, hrest⟩ := not_or.mp (List.mem_cons.not.mp h)
    exact (prefix_step (Ne.symm hfirst) place).trans (ih hrest (step place first))

/-- Steps that go down only pass what is above the place they lead to. -/
theorem prefix_goal_of_mem_route (h : ".." ∉ steps) : ∀ p ∈ route place steps, p <+: goal place steps := by
  induction steps generalizing place with
  | nil => exact fun p hp => absurd hp List.not_mem_nil
  | cons first rest ih =>
    obtain ⟨-, hrest⟩ := not_or.mp (List.mem_cons.not.mp h)
    intro p hp
    rcases List.mem_cons.mp hp with rfl | hp
    · exact prefix_goal hrest (step place first)
    · exact ih hrest p hp

/-- The way to a directory leads to the same place before and after the directories on it are made: either it
has no step up, or they are there. -/
def Straight (tree : FileTree) (directory : String) : Prop :=
  ".." ∉ Path.names directory ∨ ∀ p ∈ tree.directoriesOf directory, tree.find? p = some .directory

theorem straight_of_isName (h : Path.IsName name) (tree : FileTree) : tree.Straight name := by
  apply Or.inl
  rw [Path.IsName.names_eq h, List.mem_singleton]
  exact Ne.symm h.2.2.2

/-- On such a way, what is under the path of a file is what is at the place that it is written to. -/
theorem entryAt?_join (hrooted : tree.Rooted) (hstraight : tree.Straight directory) (hname : Path.IsName name) :
    tree.entryAt? (Path.join directory name) = tree.find? (tree.below directory name) := by
  by_cases hway : ∀ p ∈ tree.directoriesOf directory, tree.find? p = some .directory
  · rw [entryAt?, locate_join hname hway]
  · have hunder : tree.entryAt? (Path.join directory name) = none := by
      unfold entryAt?
      split
      · next place hplace => exact absurd ((locate_join_eq_ok_iff hname).mp hplace).1 hway
      · rfl
    have hup := hstraight.resolve_right hway
    rw [hunder]
    by_contra hthere
    apply hway
    intro p hp
    have habove := prefix_goal_of_mem_route hup p hp
    apply hrooted.find?_of_prefix (habove.trans (List.prefix_append _ [name])) ?_ (Ne.symm hthere)
    -- The place of the file is one step further down.
    intro heq
    have hlength := habove.length_le
    rw [heq, List.length_append, List.length_singleton] at hlength
    omega

end Scaffold.FileTree
