import Mathlib.Data.List.Nodup
import Scaffold.Pattern.Estimate
import Scaffold.Proofs.Python.Bindings
import Scaffold.Proofs.Source.Names
import Scaffold.Proofs.Text.SmallLetters
import Scaffold.Proofs.TypeScript.Bindings

/-!
No name that a source declares clashes with another. The identifiers of tools keep apart from each
other, from the names of what belongs to tools, and from the names that every source binds itself: of
the latter some are refused by name, and the others are written with a capital, which no identifier
holds.
-/

namespace Scaffold

/-- A name that belongs to a tool ends like one. -/
theorem append_ne_of_not_suffix {name ending word : String} (h : ¬ ending.toList <:+ word.toList) :
    name ++ ending ≠ word := by
  rintro rfl
  apply h
  rw [String.toList_append]
  exact List.suffix_append _ _

theorem append_left_injective (ending : String) {a b : String} (h : a ++ ending = b ++ ending) : a = b := by
  rw [← String.toList_inj, String.toList_append, String.toList_append] at h
  exact String.toList_inj.mp (List.append_cancel_right h)

namespace Server

variable {limits : Limits} {s : Server}

/-- Tools and what belongs to them keep apart, also where one tool is named like what would belong to a
thing that belongs to another. -/
theorem Valid.nodup_flatMap [Pattern.SizeLimit] (hv : s.Valid limits) {ending : String}
    (hapart : ∀ t ∈ s.tools, ∀ owner ∈ s.tools, t.identifier ≠ owner.identifier ++ ending)
    {names : Tool → List String}
    (hnames : ∀ t, (names t).Sublist [t.identifier ++ ending, t.identifier]) :
    (s.tools.flatMap names).Nodup := by
  rw [List.nodup_flatMap]
  constructor
  · intro t ht
    refine (hnames t).nodup ?_
    simpa using (hapart t ht t ht).symm
  · have hids : s.tools.Pairwise fun t u => t.identifier ≠ u.identifier :=
      List.pairwise_map.mp hv.tools_nodup
    refine hids.imp_of_mem ?_
    intro t u ht hu hne name hname hname'
    have hmem := (hnames t).subset hname
    have hmem' := (hnames u).subset hname'
    simp only [List.mem_cons, List.not_mem_nil, or_false] at hmem hmem'
    -- Either name is a tool or belongs to one; only two of a kind could be the same.
    rcases hmem with rfl | rfl <;> rcases hmem' with h | h
    · exact hne (append_left_injective ending h)
    · exact hapart u hu t ht h.symm
    · exact hapart t ht u hu h
    · exact hne h

/-- A word that no tool is named like: it is refused by name or holds a capital. -/
def isUntaken (word : String) : Bool :=
  generatedNames.contains word || word.toList.any fun c => Text.isCapital c.toNat

theorem ne_of_isUntaken [Pattern.SizeLimit] {t : Tool} (ht : t.Valid limits) {word : String}
    (h : isUntaken word = true) :
    t.identifier ≠ word := by
  rw [isUntaken, Bool.or_eq_true] at h
  rcases h with h | h
  · rintro rfl
    exact ht.bindable.not_generated (List.contains_iff_mem.mp h)
  · exact Text.identifierOf_ne h t.name

/-- The names of the preamble keep apart from the names of tools. -/
theorem Valid.nodup_append [Pattern.SizeLimit] (hv : s.Valid limits) {ending : String}
    (hapart : ∀ t ∈ s.tools, ∀ owner ∈ s.tools, t.identifier ≠ owner.identifier ++ ending)
    {names : Tool → List String}
    (hnames : ∀ t, (names t).Sublist [t.identifier ++ ending, t.identifier])
    {preamble : List String} (hnodup : preamble.Nodup) (huntaken : preamble.all isUntaken = true)
    (hending : ∀ word ∈ preamble, ¬ ending.toList <:+ word.toList) :
    (preamble ++ s.tools.flatMap names).Nodup := by
  refine hnodup.append (hv.nodup_flatMap hapart hnames) ?_
  intro word hword hname
  obtain ⟨t, ht, hname⟩ := List.mem_flatMap.mp hname
  have hmem := (hnames t).subset hname
  simp only [List.mem_cons, List.not_mem_nil, or_false] at hmem
  rcases hmem with h | h
  · exact append_ne_of_not_suffix (hending word hword) h.symm
  · exact ne_of_isUntaken (hv.tools_valid t ht) (List.all_eq_true.mp huntaken word hword) h.symm

end Server

end Scaffold
