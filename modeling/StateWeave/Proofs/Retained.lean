import StateWeave.Proofs.Enumeration
import StateWeave.Proofs.Frame
import StateWeave.Proofs.OwnerWrites
import StateWeave.Proofs.Straight

/-! Storage that keeps its value, and storage that a copied initializer stores again. The copy drops
or diverts the changes of retained names one form at a time, and drops some statements as a whole;
what is written here says which changes of a class body reach the class, and which do not. -/

namespace StateWeave

namespace ClassModel

variable {c c' : ClassModel} {names : List String} {index : Nat} {s : Stmt}

/-- Declared storage, properties and events all go by one of these names. -/
structure NamedIn (names : List String) (c : ClassModel) : Prop where
  fields : ∀ f ∈ c.fields, f.isGenerated = false → f.name ∈ names
  properties : ∀ p ∈ c.properties, p.name ∈ names
  events : ∀ e ∈ c.events, e.name ∈ names

/-- They all go by names that the class body binds. -/
def Named (c : ClassModel) : Prop :=
  c.NamedIn c.scopeNames

namespace NamedIn

theorem mono (h : c.NamedIn names) {names' : List String} (hsub : ∀ n ∈ names, n ∈ names') :
    c.NamedIn names' where
  fields f hf hgen := hsub _ (h.fields f hf hgen)
  properties p hp := hsub _ (h.properties p hp)
  events e he := hsub _ (h.events e he)

/-- Scope and statements of a class do not matter here. -/
theorem same {d : ClassModel} (h : d.NamedIn names) (hfields : c.fields = d.fields)
    (hproperties : c.properties = d.properties) (hevents : c.events = d.events) :
    c.NamedIn names where
  fields := hfields ▸ h.fields
  properties := hproperties ▸ h.properties
  events := hevents ▸ h.events

theorem addField (h : c.NamedIn names) {f : Field} (hf : f.isGenerated = false → f.name ∈ names) :
    (c.addField f).NamedIn names := by
  have hfields := forall_mem_addField (P := fun g => g.isGenerated = false → g.name ∈ names)
    (fun _ hg => hg) h.fields hf
  obtain ⟨fs, hfs⟩ := c.addField_eq f
  rw [hfs] at hfields ⊢
  exact ⟨hfields, h.properties, h.events⟩

theorem addFunction (h : c.NamedIn names) {header : FunctionHeader} (hname : header.name ∈ names) :
    (c.addFunction header).NamedIn names := by
  have hproperties : ∀ (ds : List Expr) (ps : List Property), (∀ p ∈ ps, p.name ∈ names) →
      ∀ p ∈ ds.foldl (readAccessor header) ps, p.name ∈ names := by
    intro ds
    induction ds with
    | nil => exact fun ps hps => hps
    | cons d ds ih => exact fun ps hps => ih _ (Storage.name_readAccessor header d hps hname)
  exact ⟨h.fields, hproperties _ _ h.properties, h.events⟩

theorem addProperty (h : c.NamedIn names) {name : String} (hname : name ∈ names)
    (annot : Option Expr) (markers : List Marker) :
    (c.addProperty name annot markers).NamedIn names := by
  have hproperty : NamedIn names { c with properties := c.properties ++
      [⟨name, markers, some true, some true⟩] } := by
    refine ⟨h.fields, ?_, h.events⟩
    rw [List.forall_mem_append]
    exact ⟨h.properties, by simpa using hname⟩
  exact (hproperty.addField (f := ⟨backingName (mangle c.name name), _, annot, _, _, true⟩)
    (fun hgen => by cases hgen)).same rfl rfl rfl

theorem addEvent (h : c.NamedIn names) {name : String} (hname : name ∈ names)
    (annot : Option Expr) (markers : List Marker) :
    (c.addEvent name annot markers).NamedIn names := by
  have hevent : NamedIn names { c with events := c.events ++ [⟨name, markers, true, true⟩] } := by
    refine ⟨h.fields, h.properties, ?_⟩
    rw [List.forall_mem_append]
    exact ⟨h.events, by simpa using hname⟩
  exact (hevent.addField (f := ⟨name, _, annot, _, _, true⟩)
    (fun hgen => by cases hgen)).same rfl rfl rfl

theorem foldl_declareStored (target : Option SingleTarget) (markers : List Marker)
    (stored : List String) (h : c.NamedIn names) (hstored : ∀ n ∈ stored, n ∈ names) :
    (stored.foldl (declareStored target markers) c).NamedIn names := by
  induction stored generalizing c with
  | nil => exact h
  | cons n stored ih =>
    obtain ⟨hn, hrest⟩ := List.forall_mem_cons.1 hstored
    refine ih ?_ hrest
    unfold declareStored
    split_ifs
    · exact h.addField fun _ => hn
    · exact h.addField fun _ => hn

end NamedIn

/-- Each statement binds the names that it declares. -/
theorem Named.step (h : c.Named) (hs : ReadStep c index s c') : c'.Named := by
  have hbefore : c.NamedIn c'.scopeNames := NamedIn.mono h hs.grows.scopeNames
  have hscope : ∀ (d : ClassModel) (name : String), name ∈ (d.addScope [name]).scopeNames := by
    intro d name
    rw [mem_scopeNames_addScope]
    exact .inr (List.mem_singleton_self name)
  unfold Named at h ⊢
  cases hs with
  | function header body => exact (hbefore.addFunction (hscope _ _)).same rfl rfl rfl
  | imports => exact hbefore.same rfl rfl rfl
  | idle | annotated | dunders => exact h
  | declare => exact (hbefore.addField fun _ => hscope _ _).same rfl rfl rfl
  | @stores _ markers =>
    refine (hbefore.foldl_declareStored s.singleTarget? markers (storedNames s) fun n hn =>
      ?_).same rfl rfl rfl
    have hstored : n ∈ Binding.stores s.bindings := (List.mem_filter.1 hn).1
    refine ((c.declareAll s markers).mem_scopeNames_addScope _ n).2 (.inr ?_)
    exact List.mem_append_left _ hstored
  | property => exact (hbefore.addProperty (hscope _ _) _ _).same rfl rfl rfl
  | event => exact (hbefore.addEvent (hscope _ _) _ _).same rfl rfl rfl

theorem named_kept : Kept Named where
  header _ _ _ _ := ⟨by simp [ofHeader], by simp [ofHeader], by simp [ofHeader]⟩
  enum _ _ _ _ := ⟨by simp [ofHeader], by simp [ofHeader], by simp [ofHeader]⟩
  step := Named.step
  nested name h :=
    (NamedIn.mono h fun _ hn => (mem_scopeNames_addScope _ [name] _).2 (.inl hn)).same rfl rfl rfl
  finish h := ⟨fun f hf => h.fields f (List.mem_filter.1 hf).1, h.properties, h.events⟩

theorem ownerExpr_eq_path (c : ClassModel) : ∃ head attrs, c.ownerExpr = .path head attrs := by
  unfold ownerExpr
  split_ifs
  · exact ⟨ReloadUnit.classParameter, [], rfl⟩
  · cases c.path with
    | nil => exact ⟨c.name, [], rfl⟩
    | cons head attrs => exact ⟨head, attrs, rfl⟩

/-- Whatever is opted out is a name of the class body. -/
theorem Named.inScope_of_retains (h : c.Named) {name : String} (hname : c.retains name = true) :
    c.inScope name = true := by
  simp only [retains, optedOutNames, List.contains_iff_mem, List.mem_eraseDups, List.mem_append,
    List.mem_map, List.mem_filter, Bool.and_eq_true, Bool.not_eq_true'] at hname
  rw [inScope, List.contains_iff_mem]
  rcases hname with (⟨f, ⟨hf, hgen, -⟩, rfl⟩ | ⟨p, ⟨hp, -⟩, rfl⟩) | ⟨e, ⟨he, -⟩, rfl⟩
  · exact h.fields f hf hgen
  · exact h.properties p hp
  · exact h.events e he

theorem Named.grounded (h : c.Named) (runtimeAlias : String) :
    (c.copyScope runtimeAlias).Grounded where
  owner := c.ownerExpr_eq_path
  retained _ hname := h.inScope_of_retains hname

/-- Every change that the state statements of the class make. -/
def stateChanges (c : ClassModel) : List Change :=
  Stmt.changesBlock (c.initializer.map (·.2))

/-- What a state statement is written out as. -/
def copyOf (c : ClassModel) (runtimeAlias : String) (x : Stmt) : Block :=
  filledBlock ((c.copyScope runtimeAlias).rewriteStmt x)

theorem copiedBody_eq (runtimeAlias : String) (c : ClassModel) :
    Weave.copiedBody runtimeAlias c =
      orPass (c.initializer.flatMap fun p => c.copyOf runtimeAlias p.2) := by
  rw [Weave.copiedBody, filledBlock_eq_map, ClassScope.rewriteBlock_eq_flatMap, List.flatMap_map,
    List.map_flatMap]
  simp only [copyOf, filledBlock_eq_map]

end ClassModel

/-- A copy that can be written out is the function of the copied statements. -/
theorem ReloadUnit.render_copy {c : ClassModel} {u v : ReloadUnit} {f : Stmt}
    {runtimeAlias : String} (hu : u ∈ copy? c) (hv : u.qualify = .ok v)
    (hf : v.render runtimeAlias = .ok f) :
    f = Weave.unitFunction runtimeAlias c initCopyName (Weave.copiedBody runtimeAlias c) := by
  obtain ⟨hhome, hlocal⟩ := Weave.copy?_local hu
  obtain rfl : u.written runtimeAlias = f := by
    have hrendered : (u.qualify >>= (·.render runtimeAlias)) = .ok f :=
      ClassModel.bind_eq_ok.2 ⟨v, hv, hf⟩
    rw [render_of_local hlocal] at hrendered
    split_ifs at hrendered
    exact Except.ok.inj hrendered
  have hwritten := Weave.copy?_written runtimeAlias c
  have hcopy : c.hasCopy = true := by
    unfold copy? at hu
    unfold ClassModel.hasCopy
    split_ifs at hu with hempty
    · cases hu
    · simpa using hempty
  rw [Option.mem_def.1 hu, hcopy] at hwritten
  exact List.singleton_inj.1 hwritten

/-- Whether an effect deletes a name that is part of a larger target. -/
def Effect.isRemoval : Effect → Bool
  | .removed _ => true
  | _ => false

/-- The name that an effect stores to. -/
def Effect.storedName? : Effect → Option String
  | .sole name | .walrus name | .target name => some name
  | _ => none

namespace ClassScope

variable {s : ClassScope} {x : Change} {n : String}

/-- Whether a copied statement drops what stands at a place, or leaves its names as they are. -/
def drops (s : ClassScope) : Position → Bool
  | .code => false
  | .assigned name => s.retains name
  | .annot | .unassigned | .signature => true

/-- The write that a store to the class is. -/
def storeOf (s : ClassScope) : Effect → Option OwnerWrite
  | .sole name | .walrus name => some (.static (mangle s.className name))
  | .target name => some (.attribute name .store)
  | _ => none

theorem becomes_of_name? (hn : x.effect.name? = some n) :
    s.becomes x = if s.drops x.place then none else s.writeFor x.effect := by
  obtain ⟨effect, place⟩ := x
  cases place with
  | signature =>
    cases effect with
    | spelled e => cases hn
    | _ => rfl
  | _ => rfl

/-- A change of a retained name comes to nothing, unless it is a deletion in a larger target. -/
theorem becomes_of_retains (hs : s.Grounded) (hn : x.effect.name? = some n)
    (hret : s.retains n = true) :
    s.becomes x =
      if x.effect.isRemoval && !s.drops x.place then some (.attribute n .del) else none := by
  have hstores : s.stores n = false := by simp [stores, hret]
  have hscope : s.inScope n = true := hs.retained n hret
  rw [becomes_of_name? hn]
  cases s.drops x.place with
  | true => simp
  | false =>
    obtain ⟨effect, place⟩ := x
    cases effect with
    | spelled e => cases hn
    | captured name => rfl
    | removed name =>
      obtain rfl := Option.some.inj hn
      simp [writeFor, hscope, Effect.isRemoval]
    | _ =>
      obtain rfl := Option.some.inj hn
      simp [writeFor, hstores, Effect.isRemoval]

/-- A store to any other name of the class is a store to the class, unless it is dropped. -/
theorem becomes_of_stores (hn : x.effect.storedName? = some n) (hstores : s.stores n = true) :
    s.becomes x = if s.drops x.place then none else s.storeOf x.effect := by
  have hname : x.effect.name? = some n := by
    obtain ⟨effect, place⟩ := x
    cases effect <;> first | exact hn | cases hn
  rw [becomes_of_name? hname]
  cases s.drops x.place with
  | true => rfl
  | false =>
    obtain ⟨effect, place⟩ := x
    cases effect with
    | sole name | walrus name | target name =>
      obtain rfl := Option.some.inj hn
      simp [writeFor, storeOf, hstores]
    | _ => cases hn

end ClassScope

section Copy

variable {name : String} {tree : Block} {m : ModuleModel} {c : ClassModel} {u v : ReloadUnit}
  {f : Stmt} {runtimeAlias : String}

/-- The copy of an initializer writes to its class what the changes of the state statements become,
in their order. Of the changes of opted-out names nothing reaches the class but deletions inside
larger targets: `del (x, y)` deletes opted-out storage, which `del x, y` keeps. Without such a
deletion every write is about names that are not opted out, or is written out in the source. -/
theorem copy_spares_retained (hread : ModuleModel.read name tree = .ok m)
    (hc : c ∈ m.allClasses) (hu : u ∈ ReloadUnit.copy? c) (hv : u.qualify = .ok v)
    (hf : v.render runtimeAlias = .ok f) :
    ∃ header body, f = .functionDef header body ∧
      (c.copyScope runtimeAlias).writes body =
        c.stateChanges.filterMap (c.copyScope runtimeAlias).becomes ∧
      (∀ x ∈ c.stateChanges, ∀ n, x.effect.name? = some n → c.retains n = true →
        (c.copyScope runtimeAlias).becomes x =
          if x.effect.isRemoval && !(c.copyScope runtimeAlias).drops x.place then
            some (.attribute n .del)
          else none) ∧
      ((∀ x ∈ c.stateChanges, ∀ n, x.effect = .removed n → c.retains n = false) →
        ∀ w ∈ (c.copyScope runtimeAlias).writes body, ∃ x ∈ c.stateChanges,
          (c.copyScope runtimeAlias).becomes x = some w ∧
            ∀ n, x.effect.name? = some n → c.retains n = false) := by
  have hnamed := ModuleModel.read_kept ClassModel.named_kept hread c hc
  have hs := hnamed.grounded runtimeAlias
  have hwrites : (c.copyScope runtimeAlias).writes (Weave.copiedBody runtimeAlias c) =
      c.stateChanges.filterMap (c.copyScope runtimeAlias).becomes :=
    ClassScope.writes_filled_rewriteBlock hs _
  have hretained : ∀ x ∈ c.stateChanges, ∀ n, x.effect.name? = some n → c.retains n = true →
      (c.copyScope runtimeAlias).becomes x =
        if x.effect.isRemoval && !(c.copyScope runtimeAlias).drops x.place then
          some (.attribute n .del)
        else none :=
    fun x _ n hn hret => ClassScope.becomes_of_retains hs hn hret
  refine ⟨_, _, ReloadUnit.render_copy hu hv hf, hwrites, hretained, fun hnone w hw => ?_⟩
  rw [hwrites] at hw
  obtain ⟨x, hx, hbecomes⟩ := List.mem_filterMap.1 hw
  refine ⟨x, hx, hbecomes, fun n hn => ?_⟩
  cases hret : c.retains n with
  | false => rfl
  | true =>
    -- only a deletion in a larger target is left, and there is none
    have hkept := hretained x hx n hn hret
    rw [hbecomes] at hkept
    split_ifs at hkept with hremoval
    have hremoval := (Bool.and_eq_true_iff.1 hremoval).1
    cases heffect : x.effect with
    | removed m =>
      rw [heffect] at hn
      obtain rfl := Option.some.inj hn
      rw [← hret]
      exact hnone x hx m heffect
    | _ =>
      rw [heffect] at hremoval
      cases hremoval

/-- `T` with the marker that opts out. -/
def optedOutOf (type : String) : Expr :=
  .subscript (.name "Annotated" .load)
    (.sequence .tuple [.name type .load, .name "never_reload" .load] .load) .load

/-- Two names, the first one opted out, that one tuple deletes. -/
def pair : Block :=
  [.classDef ⟨"Pair", [], [], [], []⟩
    [.annAssign (.name "left" .store) (optedOutOf "int") (some (.constant (.int 1))) (some 1),
      .assign [.name "right" .store] (.constant (.int 2)),
      .delete [.sequence .tuple [.name "left" .del, .name "right" .del] .del]]]

/-- The copy deletes the storage that is opted out. -/
theorem copy_spares_retained_pair :
    ∃ m c u v f header body, ModuleModel.read "app" pair = .ok m ∧ c ∈ m.allClasses ∧
      u ∈ ReloadUnit.copy? c ∧ u.qualify = .ok v ∧ v.render "__typereload__" = .ok f ∧
      f = .functionDef header body ∧ c.retains "left" = true ∧
      OwnerWrite.attribute "left" .del ∈ (c.copyScope "__typereload__").writes body := by
  have hmem : ∀ m, ModuleModel.read "app" pair = .ok m → ∃ c ∈ m.allClasses,
      c.retains "left" = true ∧ OwnerWrite.attribute "left" .del ∈
        c.stateChanges.filterMap (c.copyScope "__typereload__").becomes ∧
      ∃ u ∈ ReloadUnit.copy? c, ∃ v, u.qualify = .ok v ∧
        ∃ f, v.render "__typereload__" = .ok f := by
    rintro _ ⟨⟩
    simp only [ModuleModel.allClasses_eq]
    exact ⟨_, .head _, by decide +kernel, by decide +kernel, _, rfl, _, rfl, _, rfl⟩
  obtain ⟨m, hread⟩ : ∃ m, ModuleModel.read "app" pair = .ok m := ⟨_, rfl⟩
  obtain ⟨c, hc, hleft, hdeleted, u, hu, v, hv, f, hf⟩ := hmem m hread
  obtain ⟨header, body, hbody, hwrites, -⟩ := copy_spares_retained hread hc hu hv hf
  exact ⟨m, c, u, v, f, header, body, hread, hc, hu, hv, hf, hbody, hleft, hwrites ▸ hdeleted⟩

/-- Every state statement has a copy of its own, which writes to the class what the changes of the
statement become. A store to a name of the class that is not opted out is a store to the class,
unless the copy drops it: with an assignment to an opted-out name all that its value stores is lost,
and annotations are not evaluated, nor are targets without a value. -/
theorem copy_stores_again (hread : ModuleModel.read name tree = .ok m)
    (hc : c ∈ m.allClasses) (hu : u ∈ ReloadUnit.copy? c) (hv : u.qualify = .ok v)
    (hf : v.render runtimeAlias = .ok f) :
    ∃ header, f = .functionDef header
        (orPass (c.initializer.flatMap fun p => c.copyOf runtimeAlias p.2)) ∧
      ∀ p ∈ c.initializer,
        (c.copyScope runtimeAlias).writes (c.copyOf runtimeAlias p.2) =
          p.2.changes.filterMap (c.copyScope runtimeAlias).becomes ∧
        Change.Covers p.2.changes p.2.bindings ∧
        ∀ x ∈ p.2.changes, ∀ n, x.effect.storedName? = some n → c.inScope n = true →
          c.retains n = false → (c.copyScope runtimeAlias).becomes x =
            if (c.copyScope runtimeAlias).drops x.place then none
            else (c.copyScope runtimeAlias).storeOf x.effect := by
  have hnamed := ModuleModel.read_kept ClassModel.named_kept hread c hc
  have hs := hnamed.grounded runtimeAlias
  have hrendered := ReloadUnit.render_copy hu hv hf
  rw [ClassModel.copiedBody_eq] at hrendered
  refine ⟨_, hrendered, fun p _ => ⟨?_, Stmt.covers_bindings p.2, ?_⟩⟩
  · exact ClassScope.writes_filled_rewriteStmt hs p.2
  · intro x _ n hn hscope hret
    have hstores : (c.copyScope runtimeAlias).stores n = true :=
      Bool.and_eq_true_iff.2 ⟨hscope, congrArg not hret⟩
    exact ClassScope.becomes_of_stores hn hstores

/-- An assignment to an opted-out name whose value stores to another name. -/
def walrus : Block :=
  [.classDef ⟨"Walrus", [], [], [], []⟩
    [.annAssign (.name "a" .store) (optedOutOf "int")
      (some (.walrus "b" (.constant (.int 5)))) (some 1)]]

/-- The copy never stores to the other name. -/
theorem copy_stores_again_walrus :
    ∃ m c u v f header copies, ModuleModel.read "app" walrus = .ok m ∧ c ∈ m.allClasses ∧
      u ∈ ReloadUnit.copy? c ∧ u.qualify = .ok v ∧ v.render "__typereload__" = .ok f ∧
      f = .functionDef header (orPass copies) ∧ c.retains "b" = false ∧
      (∃ p ∈ c.initializer, "b" ∈ Binding.stores p.2.bindings) ∧
      (c.copyScope "__typereload__").writes copies = [] := by
  have hmem : ∀ m, ModuleModel.read "app" walrus = .ok m → ∃ c ∈ m.allClasses,
      c.retains "b" = false ∧ (∃ x, c.initializer = [x] ∧ "b" ∈ Binding.stores x.2.bindings ∧
        x.2.changes.filterMap (c.copyScope "__typereload__").becomes = []) ∧
      ∃ u ∈ ReloadUnit.copy? c, ∃ v, u.qualify = .ok v ∧
        ∃ f, v.render "__typereload__" = .ok f := by
    rintro _ ⟨⟩
    simp only [ModuleModel.allClasses_eq]
    exact ⟨_, .head _, by decide +kernel, ⟨_, rfl, by decide +kernel, by decide +kernel⟩, _, rfl,
      _, rfl, _, rfl⟩
  obtain ⟨m, hread⟩ : ∃ m, ModuleModel.read "app" walrus = .ok m := ⟨_, rfl⟩
  obtain ⟨c, hc, hb, ⟨x, hx, hstores, hlost⟩, u, hu, v, hv, f, hf⟩ := hmem m hread
  obtain ⟨header, hbody, hcopies⟩ := copy_stores_again hread hc hu hv hf
  refine ⟨m, c, u, v, f, header, _, hread, hc, hu, hv, hf, hbody, hb, ⟨x, by simp [hx], hstores⟩, ?_⟩
  rw [hx, List.flatMap_singleton, (hcopies x (by simp [hx])).1, hlost]

end Copy

end StateWeave
