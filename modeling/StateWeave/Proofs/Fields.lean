import Mathlib.Data.List.Nodup
import StateWeave.Class.Inventory
import StateWeave.Proofs.Classes

/-! The storage that a class body declares, statement by statement, and the fields that its
declarations come to. The declarations of one name are merged into one field as long as they are of
one kind. When the first of them is of generated storage, each statement that stores to the name
adds a field of its own. -/

namespace StateWeave

open ClassModel (bind_eq_ok declareStored mergeInto storedNames updateFirst)

namespace Annot

/-- The markers of an annotation, none if they cannot be read. -/
def readMarkers (annot : Option Expr) : List Marker :=
  match markersOf annot with
  | .ok markers => markers
  | .error _ => []

/-- Whether a name with this annotation and without a value is storage of the class. -/
def isVariable (annot : Option Expr) : Bool :=
  match isClassVarOf annot with
  | .ok isVar => isVar
  | .error _ => false

theorem readMarkers_of_ok {annot : Option Expr} {markers : List Marker}
    (h : markersOf annot = .ok markers) : readMarkers annot = markers := by
  rw [readMarkers, h]

theorem isVariable_of_ok {annot : Option Expr} {isVar : Bool} (h : isClassVarOf annot = .ok isVar) :
    isVariable annot = isVar := by
  rw [isVariable, h]

end Annot

namespace Field

/-- Storage that statements of the class `cls` name themselves. -/
def declared (cls name : String) (annot : Option Expr) : Field where
  name := name
  runtimeName := mangle cls name
  annot := annot
  markers := Annot.readMarkers annot

/-- The storage behind a static property. -/
def behindProperty (cls name : String) (annot : Option Expr) : Field where
  name := backingName (mangle cls name)
  runtimeName := backingName (mangle cls name)
  annot := annot
  isGenerated := true

/-- The storage behind a static event. -/
def behindEvent (cls name : String) (annot : Option Expr) : Field where
  name := name
  runtimeName := mangle cls name
  annot := annot
  isGenerated := true

/-- Storage that a statement stores to; its annotation belongs to the one target alone. -/
def stored (cls : String) (target : Option SingleTarget) (name : String) : Field :=
  declared cls name (if target.any (·.name == name) then target.bind (·.annot) else none)

/-- A field that further declarations have completed. -/
def merged (f : Field) (ds : List Field) : Field :=
  ds.foldl (fun f d => mergeInto d.annot d.markers f) f

variable (f : Field) (ds : List Field)

@[simp] theorem merged_nil : f.merged [] = f := rfl

theorem merged_cons (d : Field) : f.merged (d :: ds) = (mergeInto d.annot d.markers f).merged ds :=
  rfl

@[simp] theorem name_merged : (f.merged ds).name = f.name := by
  induction ds generalizing f with
  | nil => rfl
  | cons d ds ih => rw [merged_cons, ih, mergeInto]

@[simp] theorem runtimeName_merged : (f.merged ds).runtimeName = f.runtimeName := by
  induction ds generalizing f with
  | nil => rfl
  | cons d ds ih => rw [merged_cons, ih, mergeInto]

@[simp] theorem isGenerated_merged : (f.merged ds).isGenerated = f.isGenerated := by
  induction ds generalizing f with
  | nil => rfl
  | cons d ds ih => rw [merged_cons, ih, mergeInto]

@[simp] theorem isStatic_merged : (f.merged ds).isStatic = f.isStatic := by
  induction ds generalizing f with
  | nil => rfl
  | cons d ds ih => rw [merged_cons, ih, mergeInto]

/-- No marker is lost. -/
theorem markers_merged : (f.merged ds).markers = (f :: ds).flatMap (·.markers) := by
  induction ds generalizing f with
  | nil => simp
  | cons d ds ih => rw [merged_cons, ih]; simp [mergeInto]

end Field

namespace Stmt

/-- Whether a statement is a definition or an import. -/
def isDefinition : Stmt → Bool
  | .functionDef _ _ | .classDef _ _ | .imports _ _ => true
  | _ => false

/-- The storage that a statement in the body of the class `cls` declares. -/
def storage (cls : String) (s : Stmt) : List Field :=
  match s.singleTarget? with
  | none => if s.isDefinition then [] else (storedNames s).map (Field.stored cls none)
  | some ⟨name, annot, none⟩ =>
    if Annot.isVariable annot && !isDunder name then [.declared cls name annot] else []
  | some ⟨name, annot, some value⟩ => match Declaration.ofExpr? value with
    | none => (storedNames s).map (Field.stored cls (some ⟨name, annot, some value⟩))
    | some .property => [.behindProperty cls name annot]
    | some .event => [.behindEvent cls name annot]

section Storage

variable {s : Stmt} {cls name : String} {annot : Option Expr} {value : Expr}

theorem storage_of_none (h : s.singleTarget? = none) : s.storage cls =
    if s.isDefinition then [] else (storedNames s).map (Field.stored cls none) := by
  rw [storage, h]

theorem storage_of_bare (h : s.singleTarget? = some ⟨name, annot, none⟩) : s.storage cls =
    if Annot.isVariable annot && !isDunder name then [.declared cls name annot] else [] := by
  rw [storage, h]

theorem storage_of_stored (h : s.singleTarget? = some ⟨name, annot, some value⟩)
    (hv : Declaration.ofExpr? value = none) :
    s.storage cls = (storedNames s).map (Field.stored cls (some ⟨name, annot, some value⟩)) := by
  rw [storage, h]
  simp only [hv]

theorem storage_of_property (h : s.singleTarget? = some ⟨name, annot, some value⟩)
    (hv : Declaration.ofExpr? value = some .property) :
    s.storage cls = [.behindProperty cls name annot] := by
  rw [storage, h]
  simp only [hv]

theorem storage_of_event (h : s.singleTarget? = some ⟨name, annot, some value⟩)
    (hv : Declaration.ofExpr? value = some .event) :
    s.storage cls = [.behindEvent cls name annot] := by
  rw [storage, h]
  simp only [hv]

end Storage

theorem storage_of_idle {s : Stmt} {index : Nat}
    (h : s.isDocstring index = true ∨ s.isNoop = true) (cls : String) : s.storage cls = [] := by
  have hconstant : ∀ c, (Stmt.expr (.constant c)).storage cls = [] := fun _ => rfl
  rcases h with h | h
  · unfold isDocstring at h
    split at h
    · exact hconstant _
    · cases h
  · unfold isNoop at h
    split at h
    · rfl
    · exact hconstant _
    · cases h

end Stmt

/-- Everything that the body of a class declares, in order, given the enums known so far; the body
of an enum is not read. -/
def ClassHeader.declarations (enums : List String) (h : ClassHeader) (body : Block) : List Field :=
  if h.isEnum enums then [] else body.flatMap (Stmt.storage h.name)

/-- Adds a declaration to the fields of a class. -/
def declare (fs : List Field) (f : Field) : List Field :=
  match fs.find? (·.name == f.name) with
  | some g =>
    if g.isGenerated == f.isGenerated then updateFirst f.name (mergeInto f.annot f.markers) fs
    else fs ++ [f]
  | none => fs ++ [f]

/-- Fields without generated storage that statements name. -/
def unshadowed (fs : List Field) : List Field :=
  fs.filter fun f => !(f.isGenerated && ((fs.filter (!·.isGenerated)).map (·.name)).contains f.name)

/-! ### Fields of one name -/

/-- Those that have a name, in their order. -/
def Field.ofName (n : String) (fs : List Field) : List Field :=
  fs.filter (·.name == n)

/-- What the declarations of one name come to. -/
def settled : List Field → List Field
  | [] => []
  | d :: ds =>
    if d.isGenerated then
      if ds.all (·.isGenerated) then [d.merged ds] else ds.filter (!·.isGenerated)
    else [d.merged (ds.filter (!·.isGenerated))]

open StateWeave.Field (ofName)

section Names

variable {n : String}

theorem mem_ofName {fs : List Field} {f : Field} : f ∈ ofName n fs ↔ f ∈ fs ∧ f.name = n := by
  simp [ofName]

theorem ofName_cons_self {f : Field} (h : f.name = n) (fs : List Field) :
    ofName n (f :: fs) = f :: ofName n fs := by
  simp [ofName, h]

theorem ofName_cons_of_ne {f : Field} (h : f.name ≠ n) (fs : List Field) :
    ofName n (f :: fs) = ofName n fs := by
  simp [ofName, h]

theorem ofName_append (fs gs : List Field) : ofName n (fs ++ gs) = ofName n fs ++ ofName n gs :=
  List.filter_append ..

theorem ofName_updateFirst (m : String) (annot : Option Expr) (markers : List Marker)
    (fs : List Field) : ofName n (updateFirst m (mergeInto annot markers) fs) =
      if m = n then updateFirst m (mergeInto annot markers) (ofName n fs) else ofName n fs := by
  induction fs with
  | nil => simp [ofName, updateFirst]
  | cons f fs ih =>
    have hname : (mergeInto annot markers f).name = f.name := rfl
    rw [updateFirst]
    by_cases hn : f.name = n
    · rw [ofName_cons_self hn]
      split_ifs with hm heq heq
      · rw [ofName_cons_self (hname.trans hn), updateFirst, if_pos hm]
      · exact absurd ((beq_iff_eq.1 hm).symm.trans hn) heq
      · rw [ofName_cons_self hn, ih, if_pos heq, updateFirst, if_neg hm]
      · rw [ofName_cons_self hn, ih, if_neg heq]
    · rw [ofName_cons_of_ne hn]
      split_ifs with hm heq heq
      · exact absurd ((beq_iff_eq.1 hm).trans heq) hn
      · rw [ofName_cons_of_ne (hname ▸ hn)]
      · rw [ofName_cons_of_ne hn, ih, if_pos heq]
      · rw [ofName_cons_of_ne hn, ih, if_neg heq]

/-- The first field of a name is found among the fields of that name. -/
theorem find?_ofName (fs : List Field) :
    (ofName n fs).find? (·.name == n) = fs.find? (·.name == n) := by
  rw [ofName, List.find?_filter]
  simp only [beq_iff_eq, and_self]
  rfl

/-- A declaration matters to the fields of its name alone. -/
theorem ofName_declare (fs : List Field) (f : Field) :
    ofName n (declare fs f) = if f.name = n then declare (ofName n fs) f else ofName n fs := by
  have happend : ofName n (fs ++ [f]) =
      if f.name = n then ofName n fs ++ [f] else ofName n fs := by
    rw [ofName_append]
    split_ifs with hn
    · rw [ofName_cons_self hn]
      rfl
    · rw [ofName_cons_of_ne hn]
      exact List.append_nil _
  unfold declare
  split_ifs with hn
  · subst hn
    rw [find?_ofName]
    split
    · split_ifs
      · rw [ofName_updateFirst, if_pos rfl]
      · rw [happend, if_pos rfl]
    · rw [happend, if_pos rfl]
  · split
    · split_ifs
      · rw [ofName_updateFirst, if_neg hn]
      · rw [happend, if_neg hn]
    · rw [happend, if_neg hn]

theorem ofName_foldl_declare (ds fs : List Field) :
    ofName n (ds.foldl declare fs) = (ofName n ds).foldl declare (ofName n fs) := by
  induction ds generalizing fs with
  | nil => rfl
  | cons d ds ih =>
    rw [List.foldl_cons, ih, ofName_declare]
    split_ifs with hn
    · rw [ofName_cons_self hn, List.foldl_cons]
    · rw [ofName_cons_of_ne hn]

theorem ofName_unshadowed (fs : List Field) :
    ofName n (unshadowed fs) = unshadowed (ofName n fs) := by
  unfold ofName unshadowed
  rw [List.filter_comm]
  refine List.filter_congr fun f hf => ?_
  have hn : f.name = n := by simpa using (List.mem_filter.1 hf).2
  have hsame : ((fs.filter (!·.isGenerated)).map (·.name)).contains f.name =
      (((fs.filter (·.name == n)).filter (!·.isGenerated)).map (·.name)).contains f.name := by
    rw [Bool.eq_iff_iff]
    simp only [List.contains_iff_mem, List.mem_map, List.mem_filter]
    grind
  rw [hsame]

theorem declare_cons {d g : Field} (h : d.name = g.name) (gs : List Field) :
    declare (g :: gs) d =
      if d.isGenerated = g.isGenerated then mergeInto d.annot d.markers g :: gs
      else g :: (gs ++ [d]) := by
  have hname : (g.name == d.name) = true := beq_iff_eq.2 h.symm
  have hfound : (g :: gs).find? (·.name == d.name) = some g := List.find?_cons_of_pos hname
  have hkind : (g.isGenerated == d.isGenerated) = true ↔ d.isGenerated = g.isGenerated :=
    beq_iff_eq.trans eq_comm
  simp only [declare, hfound, updateFirst, if_pos hname, hkind, List.cons_append]

/-- Later declarations of the kind of the first field complete it, all others are added. -/
theorem foldl_declare_cons (ds : List Field) (g : Field) (gs : List Field)
    (hds : ∀ d ∈ ds, d.name = g.name) : ds.foldl declare (g :: gs) =
      g.merged (ds.filter (·.isGenerated == g.isGenerated)) ::
        (gs ++ ds.filter (·.isGenerated != g.isGenerated)) := by
  induction ds generalizing g gs with
  | nil => simp
  | cons d ds ih =>
    obtain ⟨hd, hds⟩ := List.forall_mem_cons.1 hds
    rw [List.foldl_cons, declare_cons hd]
    split_ifs with hkind
    · rw [List.filter_cons_of_pos (by simp [hkind]), List.filter_cons_of_neg (by simp [hkind])]
      exact ih (mergeInto d.annot d.markers g) gs hds
    · rw [ih g (gs ++ [d]) hds, List.filter_cons_of_neg (by simp [hkind]),
        List.filter_cons_of_pos (by simp [hkind]), List.append_assoc]
      rfl

/-- Of the fields of one name the generated ones are dropped, if any is not generated. -/
theorem unshadowed_of_name {fs : List Field} (hfs : ∀ f ∈ fs, f.name = n) :
    unshadowed fs = if fs.all (·.isGenerated) then fs else fs.filter (!·.isGenerated) := by
  unfold unshadowed
  split_ifs with hall
  · have hnone : fs.filter (!·.isGenerated) = [] := by simpa using hall
    rw [hnone]
    simp
  · obtain ⟨g, hg, hgen⟩ : ∃ g ∈ fs, g.isGenerated = false := by simpa using hall
    refine List.filter_congr fun f hf => ?_
    have hmem : f.name ∈ (fs.filter (!·.isGenerated)).map (·.name) :=
      List.mem_map.2 ⟨g, List.mem_filter.2 ⟨hg, by simp [hgen]⟩, (hfs g hg).trans (hfs f hf).symm⟩
    rw [List.contains_iff_mem.2 hmem, Bool.and_true]

/-- Declarations of one name, one after another. -/
theorem unshadowed_foldl_declare (ds : List Field) (hds : ∀ d ∈ ds, d.name = n) :
    unshadowed (ds.foldl declare []) = settled ds := by
  cases ds with
  | nil => rfl
  | cons d ds =>
    obtain ⟨hd, hds⟩ := List.forall_mem_cons.1 hds
    have hfold : (d :: ds).foldl declare [] =
        d.merged (ds.filter (·.isGenerated == d.isGenerated)) ::
          ds.filter (·.isGenerated != d.isGenerated) :=
      foldl_declare_cons ds d [] fun e he => (hds e he).trans hd.symm
    have hnames : ∀ f ∈ (d :: ds).foldl declare [], f.name = n := by
      rw [hfold]
      refine List.forall_mem_cons.2 ⟨(Field.name_merged ..).trans hd, fun f hf => ?_⟩
      exact hds f (List.mem_of_mem_filter hf)
    rw [unshadowed_of_name hnames, hfold, settled]
    cases hgen : d.isGenerated with
    | false => simp [hgen]
    | true =>
      by_cases hall : ∀ e ∈ ds, e.isGenerated = true
      · have hsame : ds.filter (·.isGenerated) = ds := List.filter_eq_self.2 hall
        have hother : ds.filter (!·.isGenerated) = [] := by simpa using hall
        have hkinds : ds.all (·.isGenerated) = true := List.all_eq_true.2 hall
        simp [hsame, hother, hkinds, hgen]
      · have hmixed : (ds.all (·.isGenerated)) = false := by simpa using hall
        simp [hmixed, hgen]

/-- Whether generated storage is declared before several statements that name the storage
themselves. -/
def isSplit : List Field → Bool
  | [] => false
  | d :: ds => d.isGenerated && decide (1 < (ds.filter (!·.isGenerated)).length)

theorem length_settled_le_one (ds : List Field) :
    (settled ds).length ≤ 1 ↔ isSplit ds = false := by
  cases ds with
  | nil => simp [settled, isSplit]
  | cons d ds =>
    rw [settled, isSplit]
    cases d.isGenerated with
    | false => simp
    | true =>
      cases hall : ds.all (·.isGenerated) with
      | false => simp
      | true =>
        have hother : ds.filter (!·.isGenerated) = [] := by simpa using hall
        simp [hother]

/-- A field that statements name has the markers of all of them, unless they are split. -/
theorem markers_of_mem_settled {ds : List Field} {f : Field} (hf : f ∈ settled ds)
    (huser : f.isGenerated = false) (hsplit : isSplit ds = false) :
    f.markers = (ds.filter (!·.isGenerated)).flatMap (·.markers) := by
  cases ds with
  | nil => cases hf
  | cons d ds =>
    rw [settled] at hf
    rw [isSplit] at hsplit
    cases hgen : d.isGenerated with
    | false =>
      simp only [hgen, Bool.false_eq_true, if_false, List.mem_singleton] at hf
      rw [hf, Field.markers_merged, List.filter_cons_of_pos (by simp [hgen])]
    | true =>
      simp only [hgen, if_true] at hf
      split_ifs at hf
      · rw [List.mem_singleton.1 hf, Field.isGenerated_merged, hgen] at huser
        cases huser
      · have hle : (ds.filter (!·.isGenerated)).length ≤ 1 := by simpa [hgen] using hsplit
        rw [List.filter_cons_of_neg (by simp [hgen])]
        obtain ⟨g, hg⟩ := List.length_eq_one_iff.1
          (Nat.le_antisymm hle (List.length_pos_of_mem hf))
        rw [hg] at hf ⊢
        rw [List.mem_singleton.1 hf]
        simp

theorem nodup_names_iff (fs : List Field) :
    (fs.map (·.name)).Nodup ↔ ∀ n, (ofName n fs).length ≤ 1 := by
  rw [List.nodup_iff_count_le_one]
  refine forall_congr' fun n => ?_
  rw [List.count, List.countP_map, List.countP_eq_length_filter]
  rfl

end Names

namespace ClassModel

variable {c c' : ClassModel} {index : Nat} {s : Stmt}

theorem fields_addField (c : ClassModel) (f : Field) :
    (c.addField f).fields = declare c.fields f := by
  unfold addField findField? declare
  cases c.fields.find? (·.name == f.name) with
  | none => rfl
  | some existing =>
    dsimp only
    split_ifs <;> rfl

theorem fields_foldl_declareStored {target : Option SingleTarget} {markers : List Marker}
    (hm : Annot.markersOf (target.bind (·.annot)) = .ok markers) (names : List String)
    (c : ClassModel) :
    (names.foldl (declareStored target markers) c).fields =
      (names.map (Field.stored c.name target)).foldl declare c.fields := by
  induction names generalizing c with
  | nil => rfl
  | cons n names ih =>
    have hfield : declareStored target markers c n = c.addField (.stored c.name target n) := by
      unfold declareStored Field.stored
      split_ifs
      · rw [Field.declared, Annot.readMarkers_of_ok hm]
        rfl
      · rfl
    have hname : (c.addField (.stored c.name target n)).name = c.name :=
      name_of_bare (bare_addField c _)
    rw [List.foldl_cons, ih, hfield, hname, fields_addField]
    rfl

theorem storedNames_of_bindsDunders (h : bindsDunders s = true) : storedNames s = [] := by
  unfold bindsDunders at h
  simp only [Bool.and_eq_true] at h
  exact List.isEmpty_iff.1 h.1.1

theorem fields_readStores {c' : ClassModel} (h : c.readStores index s = .ok c') :
    c'.fields =
      ((storedNames s).map (Field.stored c.name s.singleTarget?)).foldl declare c.fields := by
  rw [readStores_eq] at h
  split_ifs at h with hd
  · cases h
    rw [storedNames_of_bindsDunders hd]
    rfl
  · obtain ⟨markers, hm, he⟩ := bind_eq_ok.1 h
    cases he
    exact fields_foldl_declareStored hm (storedNames s) c

theorem fields_readDeclared {name : String} {annot : Option Expr}
    (h : c.readDeclared name annot = .ok c') :
    c'.fields = (if Annot.isVariable annot && !isDunder name then [Field.declared c.name name annot]
      else []).foldl declare c.fields := by
  obtain ⟨isVar, hvar, h⟩ := bind_eq_ok.1 h
  rw [Annot.isVariable_of_ok hvar]
  split_ifs at h ⊢ with hcond
  · obtain ⟨markers, hm, he⟩ := bind_eq_ok.1 h
    cases he
    rw [Field.declared, Annot.readMarkers_of_ok hm]
    exact fields_addField c _
  · cases h
    rfl

theorem fields_readState (hs : s.isDefinition = false) (h : c.readState index s = .ok c') :
    c'.fields = (s.storage c.name).foldl declare c.fields := by
  unfold readState at h
  split at h
  next hnone =>
    rw [Stmt.storage_of_none hnone, hs, fields_readStores h, hnone]
    rfl
  next name annot hsome =>
    rw [Stmt.storage_of_bare hsome]
    exact fields_readDeclared h
  next name annot value hsome =>
    split at h
    next hv => rw [Stmt.storage_of_stored hsome hv, fields_readStores h, hsome]
    next hv =>
      obtain ⟨markers, -, he⟩ := bind_eq_ok.1 h
      cases he
      rw [Stmt.storage_of_property hsome hv]
      exact fields_addField _ _
    next hv =>
      obtain ⟨markers, -, he⟩ := bind_eq_ok.1 h
      cases he
      rw [Stmt.storage_of_event hsome hv]
      exact fields_addField _ _

/-- A statement adds the storage that it declares to the fields, and nothing else. -/
theorem fields_readOther (hs : s.isClass = false) (h : c.readOther index s = .ok c') :
    c'.fields = (s.storage c.name).foldl declare c.fields := by
  unfold readOther at h
  split at h
  next => cases h; rfl
  next => cases h; rfl
  next hfunction himports =>
    split_ifs at h with hidle
    · cases h
      rw [Stmt.storage_of_idle (by simpa using hidle)]
      rfl
    · refine fields_readState ?_ h
      cases s with
      | functionDef header body => exact (hfunction header body rfl).elim
      | imports source names => exact (himports source names rfl).elim
      | classDef header body => cases hs
      | _ => rfl

end ClassModel

namespace ClassTree

variable {t t' : ClassTree} {place : List Nat} {outer enums enums' : List String} {h : ClassHeader}
  {body : Block}

theorem fields_readBody (b : Block) :
    ∀ {t t' : ClassTree} {enums enums' : List String} {index : Nat},
      readBody t enums index b = .ok (t', enums') →
      t'.cls.fields = (b.flatMap (Stmt.storage t.cls.name)).foldl declare t.cls.fields := by
  induction b with
  | nil =>
    intro t t' enums enums' index hr
    cases hr
    rfl
  | cons s rest ih =>
    intro t t' enums enums' index hr
    rcases readBody_cons_cases hr with
      ⟨hs, c, hstep, hc, hrest⟩ | ⟨h, body, n, later, rfl, -, hrest⟩
    · have hname : c.name = t.cls.name := ClassModel.name_of_bare hstep.bare_eq
      rw [ih hrest, hname, ClassModel.fields_readOther hs hc, List.flatMap_cons, List.foldl_append]
    · rw [ih hrest, List.flatMap_cons]
      rfl

/-- The fields of a class are what its declarations come to one after another, less generated
storage that is shadowed. -/
theorem fields_read (hr : read place outer enums h body = .ok (t, enums')) :
    t.cls.fields = unshadowed ((h.declarations enums body).foldl declare []) := by
  obtain ⟨params, -, ⟨henum, -, rfl⟩ | ⟨henum, u, hu, rfl⟩⟩ := read_cases hr
  · rw [ClassHeader.declarations, if_pos henum]
    rfl
  · rw [ClassHeader.declarations, if_neg (by simp [henum])]
    exact congrArg unshadowed (fields_readBody body hu)

/-- The fields of a name are what its own declarations come to. -/
theorem ofName_fields_read (hr : read place outer enums h body = .ok (t, enums')) (n : String) :
    ofName n t.cls.fields = settled (ofName n (h.declarations enums body)) := by
  rw [fields_read hr, ofName_unshadowed, ofName_foldl_declare]
  exact unshadowed_foldl_declare _ fun d hd => (mem_ofName.1 hd).2

/-- The fields of a class have pairwise distinct names exactly if no storage is split, and a field
that statements name carries the markers of all of them if its storage is not split. -/
theorem one_field_each (hr : read place outer enums h body = .ok (t, enums')) :
    ((t.cls.fields.map (·.name)).Nodup ↔
      ∀ n, isSplit (ofName n (h.declarations enums body)) = false) ∧
    (∀ n, ofName n t.cls.fields = settled (ofName n (h.declarations enums body))) ∧
    ∀ f ∈ t.cls.fields, f.isGenerated = false →
      isSplit (ofName f.name (h.declarations enums body)) = false → f.markers =
        ((ofName f.name (h.declarations enums body)).filter (!·.isGenerated)).flatMap
          (·.markers) := by
  refine ⟨?_, ofName_fields_read hr, fun f hf huser hsplit => ?_⟩
  · rw [nodup_names_iff]
    refine forall_congr' fun n => ?_
    rw [ofName_fields_read hr, length_settled_le_one]
  · have hmem : f ∈ settled (ofName f.name (h.declarations enums body)) :=
      ofName_fields_read hr f.name ▸ mem_ofName.2 ⟨hf, rfl⟩
    exact markers_of_mem_settled hmem huser hsplit

/-- The body of a class whose event is shadowed by two statements. -/
def theme : Block :=
  [.assign [.name "color" .store] (.call (.name "static_event" .load) [] []),
    .annAssign (.name "color" .store)
      (.subscript (.name "Annotated" .load)
        (.sequence .tuple [.name "str" .load, .name "never_reload" .load] .load) .load)
      (some (.constant (.str "dark"))) (some 1),
    .assign [.name "color" .store] (.constant (.str "light"))]

/-- Only one of its two fields is opted out. -/
theorem one_field_each_theme :
    ∃ t, read [0] [] [] ⟨"Theme", [], [], [], []⟩ theme = .ok (t, []) ∧
      ¬(t.cls.fields.map (·.name)).Nodup ∧
      (ofName "color" t.cls.fields).map (fun f => (f.isGenerated, optedOut f.markers)) =
        [(false, true), (false, false)] := by
  obtain ⟨t, hr⟩ : ∃ t, read [0] [] [] ⟨"Theme", [], [], [], []⟩ theme = .ok (t, []) := ⟨_, rfl⟩
  obtain ⟨hnodup, hfields, -⟩ := one_field_each hr
  refine ⟨t, hr, fun h => ?_, ?_⟩
  · exact absurd (hnodup.1 h "color") (by decide +kernel)
  · rw [hfields]
    rfl

end ClassTree

end StateWeave
