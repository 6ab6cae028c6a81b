import Mathlib.Data.List.Pairwise
import StateWeave.Class.Inventory
import StateWeave.Proofs.Fields

/-! Storage that a reload resets, and names whose stores it leaves out. Both are computed from the
fields, properties and events of a class by rules of their own; they agree except where one name
stands for several members, of which not all are opted out. -/

namespace StateWeave

open StateWeave.Field (ofName)
open ClassModel (ReadStep)

/-! ### Fields that declarations come to -/

section Settled

variable {ds : List Field} {f d : Field} {cls : String} {s : Stmt}

/-- Every field is a declaration that others of its kind have completed. -/
theorem exists_merged_of_mem_settled (hf : f ∈ settled ds) :
    ∃ d ∈ ds, ∃ es, (∀ e ∈ es, e ∈ ds ∧ e.isGenerated = d.isGenerated) ∧ f = d.merged es := by
  cases ds with
  | nil => cases hf
  | cons d ds =>
    rw [settled] at hf
    split_ifs at hf with hgen hall
    · refine ⟨d, List.mem_cons_self, ds, fun e he => ?_, List.mem_singleton.1 hf⟩
      exact ⟨List.mem_cons_of_mem _ he, (List.all_eq_true.1 hall e he).trans hgen.symm⟩
    · exact ⟨f, List.mem_cons_of_mem _ (List.mem_of_mem_filter hf), [], by simp, rfl⟩
    · refine ⟨d, List.mem_cons_self, _, fun e he => ?_, List.mem_singleton.1 hf⟩
      obtain ⟨hmem, hkind⟩ := List.mem_filter.1 he
      rw [Bool.not_eq_true] at hgen
      exact ⟨List.mem_cons_of_mem _ hmem, hgen ▸ by simpa using hkind⟩

/-- Generated storage is alone under its name. -/
theorem settled_pairwise (ds : List Field) :
    (settled ds).Pairwise fun f g => f.isGenerated = false ∧ g.isGenerated = false := by
  cases ds with
  | nil => exact .nil
  | cons d ds =>
    rw [settled]
    split_ifs
    · exact List.pairwise_singleton ..
    · refine List.pairwise_of_forall_mem_list fun f hf g hg => ?_
      exact ⟨by simpa using (List.mem_filter.1 hf).2, by simpa using (List.mem_filter.1 hg).2⟩
    · exact List.pairwise_singleton ..

/-- Storage is declared by name, or is behind a property or an event. -/
theorem cases_of_mem_storage (hd : d ∈ s.storage cls) :
    (∃ name annot, d = .declared cls name annot) ∨ (∃ name annot, d = .behindProperty cls name annot) ∨
      ∃ name annot, d = .behindEvent cls name annot := by
  unfold Stmt.storage at hd
  split at hd
  · split_ifs at hd
    · cases hd
    · obtain ⟨n, -, rfl⟩ := List.mem_map.1 hd
      exact .inl ⟨n, _, rfl⟩
  · split_ifs at hd
    · exact .inl ⟨_, _, List.mem_singleton.1 hd⟩
    · cases hd
  · split at hd
    · obtain ⟨n, -, rfl⟩ := List.mem_map.1 hd
      exact .inl ⟨n, _, rfl⟩
    · exact .inr (.inl ⟨_, _, List.mem_singleton.1 hd⟩)
    · exact .inr (.inr ⟨_, _, List.mem_singleton.1 hd⟩)

/-- Storage that is declared is static; the markers of a property or an event stay with that. -/
theorem of_mem_storage (hd : d ∈ s.storage cls) :
    d.isStatic = true ∧ (d.isGenerated = true → d.markers = []) := by
  rcases cases_of_mem_storage hd with ⟨_, _, rfl⟩ | ⟨_, _, rfl⟩ | ⟨_, _, rfl⟩
  · exact ⟨rfl, fun hgen => by cases hgen⟩
  · exact ⟨rfl, fun _ => rfl⟩
  · exact ⟨rfl, fun _ => rfl⟩

theorem of_mem_declarations {enums : List String} {h : ClassHeader} {body : Block}
    (hd : d ∈ h.declarations enums body) :
    d.isStatic = true ∧ (d.isGenerated = true → d.markers = []) := by
  unfold ClassHeader.declarations at hd
  split_ifs at hd
  · cases hd
  · obtain ⟨s, -, hd⟩ := List.mem_flatMap.1 hd
    exact of_mem_storage hd

end Settled

/-- Two fields of a class have different names, or statements name both. -/
def Field.Apart (f g : Field) : Prop :=
  f.name = g.name → f.isGenerated = false ∧ g.isGenerated = false

instance : Std.Symm Field.Apart := ⟨fun _ _ h hname => (h hname.symm).symm⟩

namespace ClassModel

variable {c c' : ClassModel} {index : Nat} {s : Stmt}

@[simp] theorem events_addField (c : ClassModel) (f : Field) :
    (c.addField f).events = c.events := by
  obtain ⟨fs, h⟩ := c.addField_eq f
  rw [h]

@[simp] theorem events_afterStores (c : ClassModel) (index : Nat) (s : Stmt)
    (markers : List Marker) : (c.afterStores index s markers).events = c.events := by
  obtain ⟨fs, h⟩ := c.afterStores_eq index s markers
  rw [h]
  rfl

/-- Both accessors of every event are static. -/
def StaticEvents (c : ClassModel) : Prop :=
  ∀ e ∈ c.events, e.isStatic = true

theorem StaticEvents.step (h : c.StaticEvents) (hs : ReadStep c index s c') :
    c'.StaticEvents := by
  cases hs with
  | function | imports | idle | annotated | dunders => exact h
  | declare => exact fun e he => h e (by simpa [declareField, addScope] using he)
  | stores => exact fun e he => h e (by simpa using he)
  | property => exact fun e he => h e (by simpa [addProperty, addScope, addStatement] using he)
  | event =>
    intro e he
    simp only [addEvent, addScope, addStatement, events_addField, List.mem_append,
      List.mem_singleton] at he
    rcases he with he | rfl
    · exact h e he
    · rfl

theorem staticEvents_kept : Kept StaticEvents where
  header _ _ _ _ := by simp [StaticEvents, ofHeader]
  enum _ _ _ _ := by simp [StaticEvents, ofHeader]
  step := StaticEvents.step
  nested _ h := h
  finish h := h

/-- What is known of the members of a class that has been read. -/
structure Regular (c : ClassModel) : Prop where
  isStatic : ∀ f ∈ c.fields, f.isStatic = true
  markers : ∀ f ∈ c.fields, f.isGenerated = true → f.markers = []
  apart : c.fields.Pairwise Field.Apart
  events : c.StaticEvents

end ClassModel

namespace ClassTree

variable {t : ClassTree} {place : List Nat} {outer enums enums' : List String} {h : ClassHeader}
  {body : Block}

theorem exists_declaration (hr : read place outer enums h body = .ok (t, enums')) {f : Field}
    (hf : f ∈ t.cls.fields) : ∃ d ∈ h.declarations enums body, ∃ es,
      (∀ e ∈ es, e ∈ h.declarations enums body ∧ e.isGenerated = d.isGenerated) ∧
        f = d.merged es := by
  have hmem : f ∈ settled (ofName f.name (h.declarations enums body)) :=
    ofName_fields_read hr f.name ▸ mem_ofName.2 ⟨hf, rfl⟩
  obtain ⟨d, hd, es, hes, hmerged⟩ := exists_merged_of_mem_settled hmem
  exact ⟨d, (mem_ofName.1 hd).1, es, fun e he => ⟨(mem_ofName.1 (hes e he).1).1, (hes e he).2⟩,
    hmerged⟩

theorem apart_fields (hr : read place outer enums h body = .ok (t, enums')) :
    t.cls.fields.Pairwise Field.Apart := by
  refine List.pairwise_iff_forall_sublist.2 fun {f g} hsub hname => ?_
  have hpair : [f, g].Sublist (settled (ofName g.name (h.declarations enums body))) := by
    have hfilter := hsub.filter (·.name == g.name)
    rw [List.filter_cons_of_pos (by simp [hname]), List.filter_cons_of_pos (by simp)] at hfilter
    exact ofName_fields_read hr g.name ▸ hfilter
  exact List.pairwise_iff_forall_sublist.1 (settled_pairwise _) hpair

theorem regular (hr : read place outer enums h body = .ok (t, enums')) : t.cls.Regular where
  isStatic f hf := by
    obtain ⟨d, hd, es, -, rfl⟩ := exists_declaration hr hf
    rw [Field.isStatic_merged]
    exact (of_mem_declarations hd).1
  markers f hf hgen := by
    obtain ⟨d, hd, es, hes, rfl⟩ := exists_declaration hr hf
    rw [Field.isGenerated_merged] at hgen
    rw [Field.markers_merged, List.flatMap_eq_nil_iff]
    refine List.forall_mem_cons.2 ⟨(of_mem_declarations hd).2 hgen, fun e he => ?_⟩
    exact (of_mem_declarations (hes e he).1).2 ((hes e he).2.trans hgen)
  apart := apart_fields hr
  events := cls_kept ClassModel.staticEvents_kept hr

end ClassTree

/-! ### What is reset, and what is retained -/

theorem removeGenerated_eq_filter (name : String) {fs : List Field} (h : fs.Pairwise Field.Apart) :
    removeGenerated name fs = fs.filter fun f => !(f.isGenerated && f.name == name) := by
  induction fs with
  | nil => rfl
  | cons f fs ih =>
    obtain ⟨hf, hfs⟩ := List.pairwise_cons.1 h
    -- beside a field of the name, no other field of the name is generated
    have hrest : f.name = name → ∀ g ∈ fs, (!(g.isGenerated && g.name == name)) = true := by
      intro hname g hg
      by_cases heq : g.name = name
      · simp [(hf g hg (hname.trans heq.symm)).2]
      · simp [heq]
    unfold removeGenerated
    by_cases hname : f.name = name
    · rw [if_pos (beq_iff_eq.2 hname)]
      split_ifs with hgen
      · rw [List.filter_cons_of_neg (by simp [hgen, hname])]
        exact (List.filter_eq_self.2 (hrest hname)).symm
      · rw [List.filter_cons_of_pos (by simp [hgen]), List.filter_eq_self.2 (hrest hname)]
    · rw [if_neg (by simpa using hname), List.filter_cons_of_pos (by simp [hname]), ih hfs]

theorem foldl_removeGenerated (names : List String) {fs : List Field}
    (h : fs.Pairwise Field.Apart) :
    names.foldl (fun fs name => removeGenerated name fs) fs =
      fs.filter fun f => !(f.isGenerated && names.contains f.name) := by
  induction names generalizing fs with
  | nil => simp
  | cons n names ih =>
    rw [List.foldl_cons, removeGenerated_eq_filter n h, ih (h.filter _), List.filter_filter]
    refine List.filter_congr fun f _ => ?_
    rw [List.contains_cons, Bool.and_or_distrib_left, Bool.not_or]
    exact Bool.and_comm ..

namespace ClassModel

variable {c : ClassModel} {f : Field} {n : String}

/-- A reload resets the fields that are not opted out, themselves or by what they are behind. -/
theorem Regular.mem_inventory (hc : c.Regular) : f ∈ c.inventory ↔
    f ∈ c.fields ∧ optedOut f.markers = false ∧
      (f.isGenerated = true → f.name ∉ c.retainedStorage) := by
  rw [inventory, foldl_removeGenerated _ (hc.apart.filter _), List.mem_filter, List.mem_filter,
    and_assoc]
  refine and_congr_right fun hf => ?_
  simp [hc.isStatic f hf, imp_iff_not_or]

theorem Regular.isGenerated_eq_false (hc : c.Regular) {g : Field} (hf : f ∈ c.fields)
    (hg : g ∈ c.fields) (hname : f.name = g.name) (hgen : g.isGenerated = false) :
    f.isGenerated = false := by
  by_cases heq : f = g
  · rw [heq, hgen]
  · exact (hc.apart.forall hf hg heq hname).1

theorem Regular.mem_retainedStorage (hc : c.Regular) {e : Event} (he : e ∈ c.events)
    (hout : optedOut e.markers = true) : e.name ∈ c.retainedStorage := by
  refine List.mem_append_right _ (List.mem_map.2 ⟨e, List.mem_filter.2 ⟨he, ?_⟩, rfl⟩)
  rw [hc.events e he, hout]
  rfl

theorem retains_iff : c.retains n = true ↔
    (∃ g ∈ c.fields, g.isGenerated = false ∧ optedOut g.markers = true ∧ g.name = n) ∨
    (∃ p ∈ c.properties, optedOut p.markers = true ∧ p.name = n) ∨
    ∃ e ∈ c.events, optedOut e.markers = true ∧ e.name = n := by
  simp only [retains, optedOutNames, List.contains_iff_mem, List.mem_eraseDups, List.mem_append,
    List.mem_map, List.mem_filter, Bool.and_eq_true, Bool.not_eq_true', and_assoc, or_assoc]

/-- How the name of a field that is not opted out can be retained nevertheless. -/
inductive Clash (c : ClassModel) (f : Field) : Prop
  /-- Its storage is split, and another field of it is opted out. -/
  | field (g : Field) (hg : g ∈ c.fields) (hname : g.name = f.name)
    (hkinds : f.isGenerated = false ∧ g.isGenerated = false) (hout : optedOut g.markers = true)
  /-- Statements name the storage of an opted-out event. -/
  | event (e : Event) (he : e ∈ c.events) (hname : e.name = f.name)
    (hkind : f.isGenerated = false) (hout : optedOut e.markers = true)
  /-- An opted-out property is called like it. -/
  | property (p : Property) (hp : p ∈ c.properties) (hname : p.name = f.name)
    (hbehind : f.isGenerated = true → f.name ∉ c.retainedStorage) (hout : optedOut p.markers = true)

theorem Regular.reset_and_retained_iff (hc : c.Regular) :
    f ∈ c.inventory ∧ c.retains f.name = true ↔
      f ∈ c.fields ∧ optedOut f.markers = false ∧ c.Clash f := by
  rw [hc.mem_inventory, retains_iff]
  constructor
  · rintro ⟨⟨hf, hout, hbehind⟩, ⟨g, hg, hgen, hgout, hname⟩ | ⟨p, hp, hpout, hname⟩ |
      ⟨e, he, heout, hname⟩⟩
    · have hkind := hc.isGenerated_eq_false hf hg hname.symm hgen
      exact ⟨hf, hout, .field g hg hname ⟨hkind, hgen⟩ hgout⟩
    · exact ⟨hf, hout, .property p hp hname hbehind hpout⟩
    · refine ⟨hf, hout, .event e he hname ?_ heout⟩
      rw [← Bool.not_eq_true]
      intro hgen
      exact hbehind hgen (hname ▸ hc.mem_retainedStorage he heout)
  · rintro ⟨hf, hout, hclash⟩
    cases hclash with
    | field g hg hname hkinds hgout =>
      exact ⟨⟨hf, hout, by simp [hkinds.1]⟩, .inl ⟨g, hg, hkinds.2, hgout, hname⟩⟩
    | event e he hname hkind heout =>
      exact ⟨⟨hf, hout, by simp [hkind]⟩, .inr (.inr ⟨e, he, heout, hname⟩)⟩
    | property p hp hname hbehind hpout =>
      exact ⟨⟨hf, hout, hbehind⟩, .inr (.inl ⟨p, hp, hpout, hname⟩)⟩

end ClassModel

section Module

variable {name : String} {tree : Block} {m : ModuleModel} {c : ClassModel}

/-- What a reload resets and what it retains are disjoint exactly if no field that is not opted out
clashes with a member that is; the names that are both are those of the fields that clash. -/
theorem reset_retained_disjoint_iff (hread : ModuleModel.read name tree = .ok m)
    (hc : c ∈ m.allClasses) :
    (∀ f, f ∈ c.inventory ∧ c.retains f.name = true ↔
      f ∈ c.fields ∧ optedOut f.markers = false ∧ c.Clash f) ∧
    ((∀ f ∈ c.inventory, c.retains f.name = false) ↔
      ∀ f ∈ c.fields, optedOut f.markers = false → ¬c.Clash f) := by
  have hregular : c.Regular := ModuleModel.read_each ClassTree.regular hread c hc
  have hboth := fun f => hregular.reset_and_retained_iff (f := f)
  refine ⟨hboth, fun h f hf hout hclash => ?_, fun h f hf => ?_⟩
  · obtain ⟨hreset, hretained⟩ := (hboth f).2 ⟨hf, hout, hclash⟩
    rw [h f hreset] at hretained
    cases hretained
  · rw [← Bool.not_eq_true]
    intro hretained
    obtain ⟨hmem, hout, hclash⟩ := (hboth f).1 ⟨hf, hretained⟩
    exact h f hmem hout hclash

/-- A class that stores to its opted-out event before it declares it. -/
def bus : Block :=
  [.classDef ⟨"Bus", [], [], [], []⟩
    [.assign [.name "changed" .store] (.constant .null),
      .annAssign (.name "changed" .store)
        (.subscript (.name "Annotated" .load)
          (.sequence .tuple [.name "StaticEvent" .load, .name "never_reload" .load] .load) .load)
        (some (.call (.name "static_event" .load) [] [])) (some 1)]]

/-- Its one field is reset, and never stored again. -/
theorem reset_retained_disjoint_iff_bus :
    ∃ m c, ModuleModel.read "app" bus = .ok m ∧ c ∈ m.allClasses ∧
      ∃ f ∈ c.inventory, f.name = "changed" ∧ c.retains "changed" = true := by
  have hmem : ∀ m, ModuleModel.read "app" bus = .ok m → ∃ c ∈ m.allClasses, ∃ f ∈ c.fields,
      f.name = "changed" ∧ optedOut f.markers = false ∧ c.Clash f := by
    rintro _ ⟨⟩
    simp only [ModuleModel.allClasses_eq]
    exact ⟨_, .head _, _, .head _, rfl, rfl, .event _ (.head _) rfl rfl rfl⟩
  obtain ⟨m, hread⟩ : ∃ m, ModuleModel.read "app" bus = .ok m := ⟨_, rfl⟩
  obtain ⟨c, hc, f, hf, hname, hout, hclash⟩ := hmem m hread
  obtain ⟨hreset, hretained⟩ := ((reset_retained_disjoint_iff hread hc).1 f).2 ⟨hf, hout, hclash⟩
  exact ⟨m, c, hread, hc, f, hreset, hname, hname ▸ hretained⟩

end Module

end StateWeave
