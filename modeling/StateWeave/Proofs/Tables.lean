import Mathlib.Data.List.Nodup
import Mathlib.Tactic.SplitIfs
import StateWeave.Table

/-! Entries of tables: what is found under a key after one was put in or taken away. -/

namespace StateWeave.Table

variable {κ α : Type} [DecidableEq κ] {t : Table κ α}

theorem mem_insert {k : κ} {v : α} {e : κ × α} (mem : e ∈ (t.insert k v).entries) :
    e ∈ t.entries ∨ e.2 = v := by
  unfold insert at mem
  split at mem
  · obtain ⟨e', earlier, same⟩ := List.mem_map.1 mem
    split at same
    · exact .inr (same ▸ rfl)
    · exact .inl (same ▸ earlier)
  · rcases List.mem_append.1 mem with earlier | last
    · exact .inl earlier
    · exact .inr (by rw [List.mem_singleton.1 last])

theorem mem_of_get? {k : κ} {v : α} (found : t.get? k = some v) :
    (k, v) ∈ t.entries := by
  obtain ⟨e, first, rfl⟩ := Option.map_eq_some_iff.1 found
  have same : e.1 = k := by simpa using List.find?_some first
  exact same ▸ List.mem_of_find?_eq_some first

theorem contains_eq (t : Table κ α) (k : κ) : t.contains k = (t.get? k).isSome := by
  rw [contains, get?, Option.isSome_map, List.isSome_find?]

theorem get?_insert_of_absent {k : κ} (absent : t.get? k = none) (v : α) (k' : κ) :
    (t.insert k v).get? k' = if k = k' then some v else t.get? k' := by
  have unused : t.contains k = false := by
    simpa [get?, contains] using absent
  have found : t.entries.find? (·.1 == k) = none := by simpa [get?] using absent
  by_cases same : k = k'
  · subst same
    simp [insert, unused, get?, found]
  · simp [insert, unused, get?, same]

theorem get?_insert_self (t : Table κ α) (k : κ) (v : α) :
    (t.insert k v).get? k = some v := by
  cases found : t.get? k with
  | none => rw [get?_insert_of_absent found, if_pos rfl]
  | some old =>
    obtain ⟨entry, first, -⟩ := Option.map_eq_some_iff.1 found
    have same : entry.1 = k := by simpa using List.find?_some first
    have used : t.contains k = true :=
      List.any_eq_true.2 ⟨entry, List.mem_of_find?_eq_some first, by simp [same]⟩
    have renewed :
        ((·.1 == k) ∘ fun e : κ × α => if e.1 == k then (e.1, v) else e) = (·.1 == k) := by
      funext e
      dsimp only [Function.comp]
      split <;> rfl
    rw [insert, if_pos used, get?, List.find?_map, renewed, first]
    simp [same]

theorem get?_insert_of_ne (t : Table κ α) {k k' : κ} (h : k ≠ k') (v : α) :
    (t.insert k v).get? k' = t.get? k' := by
  unfold insert get?
  split_ifs
  · have renewed : ((·.1 == k') ∘ fun e : κ × α => if e.1 == k then (e.1, v) else e) =
        (·.1 == k') := by
      funext e
      dsimp only [Function.comp]
      split <;> rfl
    rw [List.find?_map, renewed]
    cases found : t.entries.find? (·.1 == k') with
    | none => rfl
    | some e =>
      have same : e.1 = k' := by simpa using List.find?_some found
      have other : e.1 ≠ k := same ▸ h.symm
      simp [other]
  · rw [List.find?_append, List.find?_cons_of_neg (by simpa using h)]
    simp

theorem nodup_insert (distinct : t.keys.Nodup) (k : κ) (v : α) :
    (t.insert k v).keys.Nodup := by
  unfold insert keys
  split_ifs with used
  · have renewed : (t.entries.map fun e => if e.1 == k then (e.1, v) else e).map (·.1) =
        t.entries.map (·.1) := by
      rw [List.map_map]
      refine List.map_congr_left fun e _ => ?_
      dsimp only [Function.comp]
      split <;> rfl
    rw [renewed]
    exact distinct
  · have fresh : k ∉ t.keys := by simpa [contains, keys] using used
    rw [List.map_append]
    refine List.nodup_append.2 ⟨distinct, by simp, fun a mem b last same => fresh ?_⟩
    have last : b = k := List.mem_singleton.1 last
    rwa [← last, ← same]

theorem nodup_erase (distinct : t.keys.Nodup) (k : κ) : (t.erase k).keys.Nodup :=
  distinct.sublist (List.filter_sublist.map _)

theorem get?_erase_self (t : Table κ α) (k : κ) : (t.erase k).get? k = none := by
  simp [erase, get?]

theorem get?_erase_of_ne (t : Table κ α) {k k' : κ} (h : k ≠ k') :
    (t.erase k).get? k' = t.get? k' := by
  rw [erase, get?, List.find?_filter, get?]
  congr 2
  funext e
  by_cases same : e.1 = k'
  · simp [same, h.symm]
  · simp [same]

end StateWeave.Table
