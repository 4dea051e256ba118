import Scaffold.Failure
import Scaffold.Files.Tree

/-!
Directories in a tree of files. Where steps lead is said by the steps alone; the tree only decides whether
they can be gone. Making a directory with those on the way makes every place that the steps pass a directory,
takes the place of no file, and leaves all other places as they are.
-/

namespace Scaffold.FileTree

/-- The places that steps pass, with the one they lead to at the end. -/
def route : Place → List String → List Place
  | _, [] => []
  | place, name :: rest => step place name :: route (step place name) rest

/-- The place that steps lead to. -/
def goal (place : Place) (steps : List String) : Place := steps.foldl step place

theorem route_ne_nil {steps : List String} (h : steps ≠ []) (place : Place) : route place steps ≠ [] := by
  obtain ⟨name, rest, rfl⟩ := List.exists_cons_of_ne_nil h
  exact List.cons_ne_nil _ _

theorem route_concat (place : Place) (steps : List String) (name : String) :
    route place (steps ++ [name]) = route place steps ++ [step (goal place steps) name] := by
  induction steps generalizing place with
  | nil => rfl
  | cons first rest ih =>
    rw [List.cons_append, route, route, ih]
    rfl

theorem goal_concat (place : Place) (steps : List String) (name : String) :
    goal place (steps ++ [name]) = step (goal place steps) name := by
  rw [goal, List.foldl_append]
  rfl

/-- Steps can be gone exactly if all the places before the last one are directories. -/
theorem walk_eq_ok_iff {tree : FileTree} {place target : Place} {steps : List String} :
    tree.walk place steps = .ok target ↔
      (∀ p ∈ (route place steps).dropLast, tree.find? p = some .directory) ∧ goal place steps = target := by
  induction place, steps using walk.induct tree with
  | case1 place => simp [walk, route, goal]
  | case2 place name => simp [walk, route, goal]
  | case3 place name rest hrest hd ih =>
    have hne := route_ne_nil hrest (step place name)
    rw [walk.eq_3 _ _ _ _ hrest, hd]
    dsimp only
    rw [ih, route, List.dropLast_cons_of_ne_nil hne, List.forall_mem_cons, and_iff_right hd]
    rfl
  | case4 place name rest hrest content executable hf =>
    have hne := route_ne_nil hrest (step place name)
    rw [walk.eq_3 _ _ _ _ hrest, hf, route, List.dropLast_cons_of_ne_nil hne, List.forall_mem_cons, hf]
    simp
  | case5 place name rest hrest hn =>
    have hne := route_ne_nil hrest (step place name)
    rw [walk.eq_3 _ _ _ _ hrest, hn, route, List.dropLast_cons_of_ne_nil hne, List.forall_mem_cons, hn]
    simp

/-- One tree comes of another by making directories at some places: no file was there, and nothing else has
changed. -/
structure Made (places : List Place) (before after : FileTree) : Prop where
  here : after.here = before.here
  directory : ∀ p ∈ places, after.find? p = some .directory
  fresh : ∀ p ∈ places, ∀ entry ∈ before.find? p, entry = .directory
  others : ∀ p ∉ places, after.find? p = before.find? p

namespace Made

variable {places larger : List Place} {before middle after tree : FileTree}

theorem refl (h : ∀ p ∈ places, tree.find? p = some .directory) : Made places tree tree where
  here := rfl
  directory := h
  fresh p hp entry hentry := by
    rw [h p hp] at hentry
    exact (Option.some.inj hentry).symm
  others _ _ := rfl

theorem trans (h : Made places before middle) (h' : Made larger middle after)
    (hsub : ∀ p ∈ places, p ∈ larger) : Made larger before after where
  here := h'.here.trans h.here
  directory := h'.directory
  fresh p hp entry hentry := by
    by_cases hplaces : p ∈ places
    · exact h.fresh p hplaces entry hentry
    · rw [← h.others p hplaces] at hentry
      exact h'.fresh p hp entry hentry
  others p hp := by
    rw [h'.others p hp, h.others p fun hplaces => hp (hsub p hplaces)]

/-- A directory is put at the last of some places; those before it are directories already. -/
theorem put {target : Place} (hbefore : ∀ p ∈ places, tree.find? p = some .directory)
    (htarget : tree.find? target = none) :
    Made (places ++ [target]) tree (tree.put target .directory) := by
  have hroot : target ≠ [] := by
    rintro rfl
    cases htarget
  have hne : ∀ p ∈ places, p ≠ target := by
    rintro p hp rfl
    have hdirectory := hbefore p hp
    rw [htarget] at hdirectory
    cases hdirectory
  constructor
  · rfl
  · intro p hp
    rw [find?_put]
    rcases List.mem_append.mp hp with hp | hp
    · rw [if_neg fun h => hne p hp h.2, hbefore p hp]
    · rw [List.mem_singleton] at hp
      rw [if_pos ⟨hp ▸ hroot, hp⟩]
  · intro p hp entry hentry
    rcases List.mem_append.mp hp with hp | hp
    · rw [hbefore p hp] at hentry
      exact (Option.some.inj hentry).symm
    · rw [List.mem_singleton.mp hp, htarget] at hentry
      cases hentry
  · intro p hp
    rw [find?_put, if_neg fun h => hp (List.mem_append_right _ (List.mem_singleton.mpr h.2))]

end Made

variable {tree after : FileTree} {place : Place}

theorem made_of_makeDirectory {steps : List String} {name : String}
    (h : tree.makeDirectory place (steps ++ [name]) = .ok after) :
    Made (route place (steps ++ [name])) tree after := by
  obtain ⟨target, hwalk, hmake⟩ := exists_of_bind_eq_ok h
  obtain ⟨hbefore, rfl⟩ := walk_eq_ok_iff.mp hwalk
  split at hmake
  · cases hmake
  · next hnone =>
    cases hmake
    rw [route_concat, List.dropLast_concat] at hbefore
    rw [route_concat, goal_concat] at *
    exact Made.put hbefore hnone

/-- A path that leads to a directory needs nothing made. -/
theorem made_of_leadsToDirectory {steps : List String} {name : String}
    (h : tree.leadsToDirectory place (steps ++ [name]) = true) :
    Made (route place (steps ++ [name])) tree tree := by
  unfold leadsToDirectory at h
  split at h
  · next target hwalk =>
    obtain ⟨hbefore, rfl⟩ := walk_eq_ok_iff.mp hwalk
    rw [route_concat, List.dropLast_concat] at hbefore
    rw [goal_concat] at h
    apply Made.refl
    intro p hp
    rw [route_concat] at hp
    rcases List.mem_append.mp hp with hp | hp
    · exact hbefore p hp
    · rw [List.mem_singleton.mp hp]
      exact of_decide_eq_true h
  · cases h

/-- Making one directory, as far as it comes to a directory. -/
theorem made_of_settle {steps : List String} {name : String}
    (h : tree.settle place (steps ++ [name]) (tree.makeDirectory place (steps ++ [name])) = (.ok (), after)) :
    Made (route place (steps ++ [name])) tree after := by
  cases hmake : tree.makeDirectory place (steps ++ [name]) with
  | ok changed =>
    rw [hmake] at h
    obtain rfl : changed = after := congrArg Prod.snd h
    exact made_of_makeDirectory hmake
  | error e =>
    rw [hmake] at h
    unfold settle at h
    dsimp only at h
    split at h
    · next hleads =>
      obtain rfl : tree = after := congrArg Prod.snd h
      exact made_of_leadsToDirectory hleads
    · cases congrArg Prod.fst h

/-- Making directories, last step first. -/
theorem made_of_makeAll {reversed : List String} (h : tree.makeAll place reversed = (.ok (), after)) :
    Made (route place reversed.reverse) tree after := by
  induction reversed generalizing after with
  | nil =>
    obtain rfl : tree = after := congrArg Prod.snd h
    exact Made.refl fun p hp => absurd hp List.not_mem_nil
  | cons last before ih =>
    rw [makeAll, List.reverse_cons] at h
    rw [List.reverse_cons]
    split at h
    · -- The directory that the last step leaves is not there, so it is made first.
      split at h
      · next u middle hmiddle =>
        refine (ih hmiddle).trans (made_of_settle h) fun p hp => ?_
        rw [route_concat]
        exact List.mem_append_left _ hp
      · next hfailed =>
        exact absurd h (by simpa using hfailed () after)
    · exact made_of_settle h

/-- The places that become directories when the directory under a path is made. -/
def directoriesOf (tree : FileTree) (path : String) : List Place :=
  route (tree.start path) (Path.names path)

theorem made_of_makeDirectories {path : String} (h : tree.makeDirectories path = (.ok (), after)) :
    Made (tree.directoriesOf path) tree after := by
  have hmade := made_of_makeAll h
  rwa [List.reverse_reverse] at hmade

end Scaffold.FileTree
