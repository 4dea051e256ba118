import Scaffold.Template.Library

namespace Scaffold.Template.Library

theorem lookup_filter_ne {entries : List (String × List Part)} {name other : String}
    (h : other ≠ name) :
    (entries.filter fun (n, _) => n ≠ name).lookup other = entries.lookup other := by
  induction entries with
  | nil => rfl
  | cons entry rest ih =>
    obtain ⟨n, parts⟩ := entry
    by_cases hn : n = name
    · subst hn
      have hother : (other == n) = false := beq_false_of_ne h
      simpa [List.lookup_cons, hother] using ih
    · simp only [ne_eq, List.filter_cons, hn, not_false_eq_true, decide_true, if_true,
        List.lookup_cons, ih]

/-- A text that can be parsed is registered, and the other templates stay. -/
theorem exists_register {text : List Char} {parts : List Part} (h : parse? text = some parts)
    (library : Library) (name : String) :
    ∃ larger, library.register name text = .ok larger ∧ larger.find? name = some parts ∧
      ∀ other, other ≠ name → larger.find? other = library.find? other := by
  refine ⟨⟨(name, parts) :: library.entries.filter fun (n, _) => n ≠ name⟩, ?_, ?_, ?_⟩
  · rw [register, h]
  · exact List.lookup_cons_self
  · intro other hother
    have hne : (other == name) = false := beq_false_of_ne hother
    simp only [find?, List.lookup_cons, hne]
    exact lookup_filter_ne hother

/-- Templates with names of their own are all registered, one after the other. -/
theorem exists_foldlM_register (entries : List (String × List Char)) (library : Library)
    (hnames : (entries.map Prod.fst).Nodup)
    (hparse : ∀ e ∈ entries, (parse? e.2).isSome = true) :
    ∃ larger, entries.foldlM (fun l (name, text) => l.register name text) library = .ok larger ∧
      (∀ e ∈ entries, larger.find? e.1 = parse? e.2) ∧
      ∀ name ∉ entries.map Prod.fst, larger.find? name = library.find? name := by
  induction entries generalizing library with
  | nil => exact ⟨library, rfl, by simp, fun _ _ => rfl⟩
  | cons e rest ih =>
    obtain ⟨name, text⟩ := e
    obtain ⟨hhead, hrest⟩ := List.forall_mem_cons.mp hparse
    obtain ⟨hnew, hnodup⟩ := List.nodup_cons.mp hnames
    obtain ⟨parts, hparts⟩ := Option.isSome_iff_exists.mp hhead
    obtain ⟨next, hnext, hfound, hkept⟩ := exists_register hparts library name
    -- The names behind this one are others, so what is registered under it stays.
    obtain ⟨larger, hlarger, hall, hothers⟩ := ih next hnodup hrest
    refine ⟨larger, ?_, ?_, ?_⟩
    · rw [List.foldlM_cons]
      change library.register name text >>= _ = _
      rw [hnext]
      exact hlarger
    · refine List.forall_mem_cons.mpr ⟨?_, hall⟩
      rw [hothers _ hnew, hfound, hparts]
    · intro other hother
      rw [List.map_cons, List.mem_cons, not_or] at hother
      rw [hothers _ hother.2, hkept _ hother.1]

/-- A template whose parts give a text is rendered. -/
theorem render_eq_ok {library : Library} {name : String} {parts : List Part} {value : Json}
    {text : String} (hfound : library.find? name = some parts)
    (htext : render? parts value = some text) : library.render name value = .ok text := by
  rw [render, hfound, Option.bind_some, htext]

end Scaffold.Template.Library
