import Mathlib.Data.List.Basic
import StateWeave.Import.Hook

/-! Modules that lie below a package. Text and a dot after it open a dotted name just if the
components of the text open the list of its components; so a hook covers packages with all that is in
them, and no neighbour whose name happens to go on after the same letters. -/

namespace StateWeave

namespace Dotted

theorem splitComponents_ne_nil (cs : List Char) : splitComponents cs ≠ [] := by
  cases cs with
  | nil => simp [splitComponents]
  | cons c cs =>
    unfold splitComponents
    split
    · simp
    · split <;> simp

theorem splitComponents_dot (cs : List Char) :
    splitComponents ('.' :: cs) = [] :: splitComponents cs := by
  simp [splitComponents]

theorem splitComponents_letter {c : Char} (h : c ≠ '.') {cs part : List Char}
    {parts : List (List Char)} (rest : splitComponents cs = part :: parts) :
    splitComponents (c :: cs) = (c :: part) :: parts := by
  simp [splitComponents, h, rest]

/-- A dot ends one component and opens the next. -/
theorem splitComponents_append (cs ds : List Char) :
    splitComponents (cs ++ '.' :: ds) = splitComponents cs ++ splitComponents ds := by
  induction cs with
  | nil => exact splitComponents_dot ds
  | cons c cs ih =>
    by_cases h : c = '.'
    · subst h
      rw [List.cons_append, splitComponents_dot, splitComponents_dot, ih, List.cons_append]
    · obtain ⟨part, parts, split⟩ := List.exists_cons_of_ne_nil (splitComponents_ne_nil cs)
      rw [split, List.cons_append] at ih
      rw [List.cons_append, splitComponents_letter h ih, splitComponents_letter h split,
        List.cons_append]

/-- Nothing but the dots is lost. -/
theorem intercalate_splitComponents (cs : List Char) :
    ['.'].intercalate (splitComponents cs) = cs := by
  induction cs with
  | nil => simp [splitComponents]
  | cons c cs ih =>
    obtain ⟨part, parts, split⟩ := List.exists_cons_of_ne_nil (splitComponents_ne_nil cs)
    rw [split] at ih
    by_cases h : c = '.'
    · subst h
      rw [splitComponents_dot, split, List.intercalate_cons_cons, ih]
      rfl
    · rw [splitComponents_letter h split]
      cases parts with
      | nil => simpa using ih
      | cons next parts =>
        rw [List.intercalate_cons_cons] at ih ⊢
        simpa using ih

theorem components_append (package rest : String) :
    components (package ++ "." ++ rest) = components package ++ components rest := by
  simp [components, splitComponents_append]

theorem components_ne_nil (name : String) : components name ≠ [] := by
  simp [components, splitComponents_ne_nil]

/-- A name is its components joined again. -/
theorem join_components (name : String) : join (components name) = name := by
  apply String.toList_inj.1
  simp [join, components, intercalate_splitComponents, Function.comp_def]

theorem components_inj {name other : String} : components name = components other ↔ name = other :=
  ⟨fun h => by rw [← join_components name, h, join_components], fun h => by rw [h]⟩

theorem join_append {parts others : List String} (first : parts ≠ []) (second : others ≠ []) :
    join (parts ++ others) = join parts ++ "." ++ join others :=
  String.intercalate_append_of_ne_nil first second

theorem within_iff {package name : String} :
    within package name = true ↔ name = package ∨ ∃ rest, name = package ++ "." ++ rest := by
  have opens : (package ++ ".").toList <+: name.toList ↔ ∃ rest, name = package ++ "." ++ rest := by
    constructor
    · rintro ⟨rest, same⟩
      refine ⟨String.ofList rest, String.toList_inj.1 ?_⟩
      simpa using same.symm
    · rintro ⟨rest, rfl⟩
      exact ⟨rest.toList, by simp⟩
  rw [within, Bool.or_eq_true, beq_iff_eq, List.isPrefixOf_iff_prefix, opens]

/-- To lie within a package is to go on from all of its components. -/
theorem within_iff_components {package name : String} :
    within package name = true ↔ components package <+: components name := by
  rw [within_iff]
  constructor
  · rintro (rfl | ⟨rest, rfl⟩)
    · exact List.prefix_refl _
    · rw [components_append]
      exact List.prefix_append _ _
  · rintro ⟨others, split⟩
    by_cases h : others = []
    · left
      rw [h, List.append_nil] at split
      exact (components_inj.1 split).symm
    · right
      refine ⟨join others, ?_⟩
      rw [← join_components name, ← split, join_append (components_ne_nil package) h,
        join_components]

/-- What lies within a package of one component has that component in front. -/
theorem within_iff_head {package name : String} (single : components package = [package]) :
    within package name = true ↔ (components name).head? = some package := by
  rw [within_iff_components, single]
  cases components name with
  | nil => simp
  | cons first others => simp [List.cons_prefix_cons, eq_comm]

end Dotted

namespace ImportHook

/-- A hook covers a module just if its first component is not that of the framework and it goes on
from all components of a prefix. To go on after the letters of the prefixes without a dot is not
enough. -/
theorem covers_iff_components (h : ImportHook) (name : String) :
    (h.covers name = true ↔ (Dotted.components name).head? ≠ some "typereload" ∧
      ∃ package ∈ h.prefixes, Dotted.components package <+: Dotted.components name) ∧
    ((∀ package ∈ h.prefixes, ∀ letters, name = package ++ letters →
      letters ≠ "" ∧ letters.toList.head? ≠ some '.') → h.covers name = false) := by
  have own : Dotted.within "typereload" name = true ↔
      (Dotted.components name).head? = some "typereload" :=
    Dotted.within_iff_head (by decide)
  constructor
  · simp only [covers, excluded, List.any_cons, List.any_nil, Bool.or_false, Bool.and_eq_true,
      Bool.not_eq_true', ← Bool.not_eq_true, own, List.any_eq_true, Dotted.within_iff_components]
  · intro apart
    have outside : ∀ package ∈ h.prefixes, Dotted.within package name = false := by
      intro package mem
      rw [← Bool.not_eq_true, Dotted.within_iff]
      rintro (rfl | ⟨rest, rfl⟩)
      · exact (apart name mem "" (by simp)).1 rfl
      · exact (apart package mem ("." ++ rest) (String.append_assoc ..)).2 (by simp)
    have uncovered : h.prefixes.any (Dotted.within · name) = false := by simpa using outside
    rw [covers, uncovered, Bool.and_false]

example : (ImportHook.mk ["app", "lib."]).covers "app.settings" = true ∧
    (ImportHook.mk ["app", "lib."]).covers "application" = false ∧
    (ImportHook.mk ["app", "lib."]).covers "lib.core" = false := by decide

end ImportHook

end StateWeave
