import Mathlib.Data.List.Perm.Basic
import StateWeave.Proofs.Fields

/-! What the inventory of a class leaves out, also of a class that was put together by hand, where
several fields may have one name. Each opted-out property and event takes away at most one field,
the first of its name and only if that is generated, so the fields that are left depend on which
names are taken away and how often, and on no order among them. -/

namespace StateWeave

open StateWeave.Field (ofName)

/-- The second list is the first less some entries, for each of which there is a reason. -/
inductive Pruned {α : Type} (reason : α → Prop) : List α → List α → Prop
  | nil : Pruned reason [] []
  | keep (x : α) {xs ys : List α} : Pruned reason xs ys → Pruned reason (x :: xs) (x :: ys)
  | drop {x : α} {xs ys : List α} : reason x → Pruned reason xs ys → Pruned reason (x :: xs) ys

namespace Pruned

variable {α : Type} {reason reason' : α → Prop} {xs ys zs : List α}

theorem refl (xs : List α) : Pruned reason xs xs := by
  induction xs with
  | nil => exact .nil
  | cons x xs ih => exact .keep x ih

theorem trans (h : Pruned reason xs ys) (h' : Pruned reason ys zs) : Pruned reason xs zs := by
  induction h generalizing zs with
  | nil => exact h'
  | keep x _ ih =>
    cases h' with
    | keep _ h' => exact .keep x (ih h')
    | drop hx h' => exact .drop hx (ih h')
  | drop hx _ ih => exact .drop hx (ih h')

theorem mono (hmono : ∀ x, reason x → reason' x) (h : Pruned reason xs ys) :
    Pruned reason' xs ys := by
  induction h with
  | nil => exact .nil
  | keep x _ ih => exact .keep x ih
  | drop hx _ ih => exact .drop (hmono _ hx) ih

theorem filter (p : α → Bool) (xs : List α) : Pruned (p · = false) xs (xs.filter p) := by
  induction xs with
  | nil => exact .nil
  | cons x xs ih =>
    cases hp : p x with
    | true => rw [List.filter_cons_of_pos hp]; exact .keep x ih
    | false => rw [List.filter_cons_of_neg (by simp [hp])]; exact .drop hp ih

theorem sublist (h : Pruned reason xs ys) : ys.Sublist xs := by
  induction h with
  | nil => exact .slnil
  | keep x _ ih => exact ih.cons_cons x
  | drop _ _ ih => exact ih.cons _

/-- Entries that there is no reason to leave out are all there, in their order. -/
theorem filter_sublist {p : α → Bool} (hp : ∀ x, reason x → p x = false)
    (h : Pruned reason xs ys) : (xs.filter p).Sublist ys := by
  induction h with
  | nil => exact .slnil
  | keep x _ ih =>
    rw [List.filter_cons]
    split_ifs
    · exact ih.cons_cons x
    · exact ih.cons x
  | drop hx _ ih => rwa [List.filter_cons_of_neg (by simp [hp _ hx])]

end Pruned

/-! ### Taking away generated storage -/

theorem pruned_removeGenerated (name : String) (fs : List Field) :
    Pruned (fun f => f.isGenerated = true ∧ f.name = name) fs (removeGenerated name fs) := by
  induction fs with
  | nil => exact .nil
  | cons f fs ih =>
    unfold removeGenerated
    split_ifs with hname hgen
    · exact .drop ⟨hgen, by simpa using hname⟩ (.refl fs)
    · exact .refl _
    · exact .keep f ih

theorem pruned_foldl_removeGenerated (names : List String) (fs : List Field) :
    Pruned (fun f => f.isGenerated = true ∧ f.name ∈ names) fs
      (names.foldl (fun fs name => removeGenerated name fs) fs) := by
  induction names generalizing fs with
  | nil => exact .refl fs
  | cons name names ih =>
    refine .trans ((pruned_removeGenerated name fs).mono fun f hf => ?_)
      ((ih _).mono fun f hf => ⟨hf.1, List.mem_cons_of_mem name hf.2⟩)
    exact ⟨hf.1, hf.2 ▸ List.mem_cons_self⟩

/-- Fields of one name less up to `n` generated ones, as far as those come first. -/
def shed : Nat → List Field → List Field
  | n + 1, f :: fs => if f.isGenerated then shed n fs else f :: fs
  | _, fs => fs

@[simp] theorem shed_zero (fs : List Field) : shed 0 fs = fs := by
  cases fs <;> rfl

@[simp] theorem shed_nil (n : Nat) : shed n [] = [] := by
  cases n <;> rfl

theorem shed_shed_one (n : Nat) (fs : List Field) : shed n (shed 1 fs) = shed (n + 1) fs := by
  cases fs with
  | nil => simp
  | cons f fs =>
    cases hgen : f.isGenerated with
    | true => simp [shed, hgen]
    | false => cases n <;> simp [shed, hgen]

theorem ofName_removeGenerated (n name : String) (fs : List Field) :
    ofName n (removeGenerated name fs)
      = if name = n then shed 1 (ofName n fs) else ofName n fs := by
  induction fs with
  | nil => simp [removeGenerated, ofName]
  | cons f fs ih =>
    unfold removeGenerated
    by_cases hname : f.name = name
    · rw [if_pos (by simpa using hname)]
      by_cases hn : f.name = n
      · rw [if_pos (hname.symm.trans hn), ofName_cons_self hn]
        cases hgen : f.isGenerated <;> simp [shed, hgen, ofName_cons_self hn]
      · have hne : name ≠ n := fun h => hn (hname.trans h)
        rw [if_neg hne, ofName_cons_of_ne hn]
        split_ifs
        · rfl
        · rw [ofName_cons_of_ne hn]
    · rw [if_neg (by simpa using hname)]
      by_cases hn : f.name = n
      · have hne : name ≠ n := fun h => hname (hn.trans h.symm)
        rw [ofName_cons_self hn, ih, if_neg hne, if_neg hne, ofName_cons_self hn]
      · rw [ofName_cons_of_ne hn, ih, ofName_cons_of_ne hn]

/-- Each time that a name is listed takes away one more of its fields. -/
theorem ofName_foldl_removeGenerated (n : String) (names : List String) (fs : List Field) :
    ofName n (names.foldl (fun fs name => removeGenerated name fs) fs)
      = shed (names.count n) (ofName n fs) := by
  induction names generalizing fs with
  | nil => simp
  | cons name names ih =>
    rw [List.foldl_cons, ih, ofName_removeGenerated]
    by_cases hname : name = n
    · rw [if_pos hname, hname, List.count_cons_self, shed_shed_one]
    · rw [if_neg hname, List.count_cons_of_ne hname]

/-- Of two different names each is taken away among fields that the other leaves alone. -/
theorem removeGenerated_comm (name name' : String) (fs : List Field) :
    removeGenerated name (removeGenerated name' fs)
      = removeGenerated name' (removeGenerated name fs) := by
  by_cases hne : name = name'
  · rw [hne]
  induction fs with
  | nil => rfl
  | cons f fs ih =>
    by_cases hf : f.name = name
    · have hf' : f.name ≠ name' := fun h => hne (hf.symm.trans h)
      cases hgen : f.isGenerated <;> simp [removeGenerated, hf, hne, hgen]
    · by_cases hf' : f.name = name'
      · cases hgen : f.isGenerated <;> simp [removeGenerated, hf', Ne.symm hne, hgen]
      · simp [removeGenerated, hf, hf', ih]

theorem foldl_removeGenerated_perm {names names' : List String} (h : names.Perm names')
    (fs : List Field) :
    names.foldl (fun fs name => removeGenerated name fs) fs
      = names'.foldl (fun fs name => removeGenerated name fs) fs :=
  h.foldl_eq' (fun name _ name' _ fs => removeGenerated_comm name' name fs) fs

namespace ClassModel

variable {c : ClassModel} {f : Field}

/-- Why a field of the class is not reset. -/
inductive LeftOut (c : ClassModel) (f : Field) : Prop
  | perObject (hstatic : f.isStatic = false)
  | marked (hmarked : optedOut f.markers = true)
  /-- The storage behind an opted-out property; an accessor may be unknown, but none is known to
  be non-static. -/
  | property (p : Property) (hp : p ∈ c.properties) (hmarked : optedOut p.markers = true)
      (hget : p.getterStatic ≠ some false) (hset : p.setterStatic ≠ some false)
      (hgen : f.isGenerated = true) (hname : f.name = backingName (mangle c.name p.name))
  | event (e : Event) (he : e ∈ c.events) (hmarked : optedOut e.markers = true)
      (hadd : e.addStatic = true) (hremove : e.removeStatic = true)
      (hgen : f.isGenerated = true) (hname : f.name = e.name)

/-- A field that a reload has to reset whatever else the class declares. -/
def mustReset (f : Field) : Bool :=
  f.isStatic && !f.isGenerated && !optedOut f.markers

theorem LeftOut.not_mustReset (h : c.LeftOut f) : mustReset f = false := by
  cases h <;> simp_all [mustReset]

theorem LeftOut.of_retainedStorage (hgen : f.isGenerated = true)
    (hname : f.name ∈ c.retainedStorage) : c.LeftOut f := by
  unfold retainedStorage at hname
  rcases List.mem_append.1 hname with hname | hname
  · obtain ⟨p, hp, hname⟩ := List.mem_map.1 hname
    obtain ⟨hp, hout⟩ := List.mem_filter.1 hp
    obtain ⟨⟨hget, hset⟩, hmarked⟩ : (p.getterStatic ≠ some false ∧ p.setterStatic ≠ some false) ∧
        optedOut p.markers = true := by
      simpa [Property.isStatic] using hout
    exact .property p hp hmarked hget hset hgen hname.symm
  · obtain ⟨e, he, hname⟩ := List.mem_map.1 hname
    obtain ⟨he, hout⟩ := List.mem_filter.1 he
    obtain ⟨⟨hadd, hremove⟩, hmarked⟩ : (e.addStatic = true ∧ e.removeStatic = true) ∧
        optedOut e.markers = true := by
      simpa [Event.isStatic] using hout
    exact .event e he hmarked hadd hremove hgen hname.symm

theorem pruned_inventory (c : ClassModel) : Pruned c.LeftOut c.fields c.inventory := by
  refine .trans ((Pruned.filter _ c.fields).mono fun f hf => ?_)
    ((pruned_foldl_removeGenerated _ _).mono fun f hf => .of_retainedStorage hf.1 hf.2)
  cases hstatic : f.isStatic with
  | false => exact .perObject hstatic
  | true => exact .marked (by simpa [hstatic] using hf)

theorem static_of_mem_inventory (hf : f ∈ c.inventory) :
    f.isStatic = true ∧ optedOut f.markers = false := by
  have hmem := (pruned_foldl_removeGenerated _ _).sublist.subset hf
  simpa using (List.mem_filter.1 hmem).2

theorem retainedStorage_perm {ps : List Property} {es : List Event} (hps : ps.Perm c.properties)
    (hes : es.Perm c.events) :
    ({ c with properties := ps, events := es } : ClassModel).retainedStorage.Perm
      c.retainedStorage :=
  ((hps.filter _).map _).append ((hes.filter _).map _)

/-- The inventory is what a class declares less the fields that there is a reason to leave out: of
each name it lacks as many leading generated fields as opted-out members are stored under it. -/
theorem inventory_exact (c : ClassModel) :
    c.inventory.Sublist c.fields ∧ Pruned c.LeftOut c.fields c.inventory ∧
      (c.fields.filter mustReset).Sublist c.inventory ∧
      (∀ f ∈ c.inventory, f.isStatic = true ∧ optedOut f.markers = false) ∧
      (∀ n, ofName n c.inventory = shed (c.retainedStorage.count n)
        (ofName n (c.fields.filter fun f => f.isStatic && !optedOut f.markers))) ∧
      ∀ (ps : List Property) (es : List Event), ps.Perm c.properties → es.Perm c.events →
        ({ c with properties := ps, events := es } : ClassModel).inventory = c.inventory := by
  have hpruned := c.pruned_inventory
  refine ⟨hpruned.sublist, hpruned, hpruned.filter_sublist fun f hf => hf.not_mustReset,
    fun f hf => static_of_mem_inventory hf, fun n => ofName_foldl_removeGenerated n _ _,
    fun ps es hps hes => ?_⟩
  exact foldl_removeGenerated_perm (retainedStorage_perm hps hes) _

/-- A class whose members share names, as no statement could have declared them: of two opted-out
properties one is not static, and of the storage of either name one field is left. -/
def gauge : ClassModel where
  name := "Gauge"
  fields := [⟨"__rate", "_Gauge__rate", none, [], true, false⟩,
    ⟨"rate__backing__", "rate__backing__", none, [], true, true⟩,
    ⟨"level", "level", none, [], true, true⟩, ⟨"level", "level", none, [], true, false⟩,
    ⟨"rate__backing__", "rate__backing__", none, [], true, true⟩]
  properties := [⟨"rate", [⟨.neverReload, ∅⟩], none, some true⟩,
    ⟨"rate", [⟨.neverReload, ∅⟩], some false, none⟩]
  events := [⟨"level", [], true, true⟩, ⟨"level", [⟨.neverReload, ∅⟩], true, true⟩]

theorem inventory_exact_gauge :
    gauge.inventory.map (fun f => (f.name, f.isGenerated))
        = [("__rate", false), ("level", false), ("rate__backing__", true)] ∧
      ({ gauge with properties := gauge.properties.reverse, events := gauge.events.reverse } :
        ClassModel).inventory = gauge.inventory :=
  ⟨by decide +kernel, gauge.inventory_exact.2.2.2.2.2 _ _ (List.reverse_perm _)
    (List.reverse_perm _)⟩

end ClassModel

end StateWeave
