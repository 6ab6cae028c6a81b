import StateWeave.Proofs.Copied

/-! Loading sets the state of a class up as its body would. The resets leave all storage at its zero
value, and the copy of the initializer then overwrites the names that the body stores. -/

namespace StateWeave

open ReloadUnit Weave

namespace ClassModel

variable {V : Type} {c : ClassModel} {body : Block} {start : Attributes V}

theorem classParams_unitHeader (c : ClassModel) (runtimeAlias name : String) :
    Surroundings.classParams (c.unitHeader runtimeAlias name) = c.unitParams := by
  unfold Surroundings.classParams FunctionHeader.kind unitHeader unitParams
  cases c.isGeneric <;> rfl

theorem mem_functionNames {n : String} (h : n ∈ Stmt.functionNames body) :
    ∃ s ∈ body, s.assignment? = none ∧ n ∈ s.binds := by
  obtain ⟨s, hs, hname⟩ := List.mem_filterMap.1 h
  refine ⟨s, hs, ?_⟩
  cases s with
  | functionDef header fn =>
    cases hname
    exact ⟨rfl, by simp [Stmt.binds, FunctionHeader.binds]⟩
  | _ => cases hname

/-- No function of the class has the name of its storage. -/
theorem Undisturbed.not_defined (h : c.Undisturbed body) {n : String}
    (hn : n ∈ c.fieldNames) : n ∉ Stmt.functionNames body := by
  intro hdef
  obtain ⟨s, hs, hnone, hbinds⟩ := mem_functionNames hdef
  exact h.alone s hs hnone n hn hbinds

/-- Names that are retained are names of the class. -/
theorem used_of_retains (hreads : c.ReadsStraight body) {n : String}
    (hn : c.retains n = true) : n ∈ c.used body := by
  rcases hreads.storage.opted_or_defined hn with ⟨f, hf, rfl, -⟩ | hdef
  · exact used_of_field (List.mem_map_of_mem hf)
  · obtain ⟨s, hs, -, hbinds⟩ := mem_functionNames hdef
    exact used_of_binds hs hbinds

theorem mem_fieldNames_of_inventory (hreads : c.ReadsStraight body) {f : Field}
    (hf : f ∈ c.inventory) : f.name ∈ c.fieldNames := by
  rw [hreads.storage.inventory_eq] at hf
  exact List.mem_map_of_mem (List.mem_filter.1 hf).1

theorem mem_fieldNames_of_assignments (hreads : c.ReadsStraight body) {x : Assignment}
    (hx : x ∈ c.assignments) : x.name ∈ c.fieldNames := by
  rw [c.assignments_eq hreads] at hx
  obtain ⟨s, hs, hsx⟩ := List.mem_filterMap.1 hx
  exact (hreads.stored s hs x hsx).2

/-- What is reset is not retained. -/
theorem Undisturbed.retains_of_inventory (h : c.Undisturbed body)
    (hreads : c.ReadsStraight body) {f : Field} (hf : f ∈ c.inventory) :
    c.retains f.name = false := by
  have hdef := h.not_defined (mem_fieldNames_of_inventory hreads hf)
  rw [hreads.storage.inventory_eq] at hf
  obtain ⟨hf, hopted⟩ := List.mem_filter.1 hf
  rw [Bool.eq_false_iff, ne_eq, hreads.storage.retains_iff hf hdef]
  simpa using hopted

/-- Storage that is reset is stored apart. -/
theorem StraightLine.nodup_inventory (h : c.StraightLine body start)
    (hreads : c.ReadsStraight body) :
    (c.inventory.map fun f => mangle c.name f.name).Nodup := by
  have hnames : (c.inventory.map (·.name)).Nodup := by
    rw [hreads.storage.inventory_eq]
    exact hreads.storage.nodup.sublist (List.filter_sublist.map _)
  have hmap : c.inventory.map (fun f => mangle c.name f.name) =
      (c.inventory.map (·.name)).map (mangle c.name) := by
    rw [List.map_map]
    rfl
  rw [hmap]
  refine hnames.map_on fun n hn m hm hsame => ?_
  obtain ⟨f, hf, rfl⟩ := List.mem_map.1 hn
  obtain ⟨g, hg, rfl⟩ := List.mem_map.1 hm
  exact h.apart _ (used_of_field (mem_fieldNames_of_inventory hreads hf)) _
    (used_of_field (mem_fieldNames_of_inventory hreads hg)) hsame

end ClassModel

namespace Weave

/-- What a class that takes part is given when nothing is wrong with it. -/
theorem addition_eq {zeros : ZeroTable} {runtimeAlias : String} {c : ClassModel}
    {resets : List Instruction} {r : TypeRef}
    (hsettled : c.analysisFault? = none)
    (heligible : c.analysis.eligible = true) (hresets : resetsFor zeros c c.inventory = .ok resets)
    (hqualified : c.qualified = .ok r) :
    (addition zeros runtimeAlias c).run.1 = .ok (hookWith runtimeAlias c resets) := by
  rw [(addition_settles zeros runtimeAlias c).run_fst, appended_eq, hsettled, heligible,
    hresets, hqualified]
  rfl

end Weave

namespace Surroundings

variable {V : Type} [DecidableEq V] {W : Surroundings V} {c : ClassModel} {body : Block}
  {runtimeAlias : String} {zeros : ZeroTable} {start ns st : Attributes V}

/-- A reset stores its zero value to the class. -/
theorem exec_reset (hserves : W.Serves runtimeAlias c)
    (invoke : V → Attributes V → Option (Attributes V)) (target : MemberRef) (zero : Constant) :
    W.execStmt c.name invoke c.unitParams st
      (Instruction.written c.ownerExpr (.reset target zero)) =
        some (st.set (mangle c.name target.name) (W.constant zero)) := by
  have howner := hserves.owner st
  have hzero : W.evalUnit c.name c.unitParams st (.constant zero) = some (W.constant zero) := rfl
  simp only [Instruction.written, execStmt, hzero, howner, storeTo, if_true, Option.bind_some]

/-- The resets of fields that are stored apart: each field holds its zero value after them, and
nothing else changes. -/
theorem exec_resets (hserves : W.Serves runtimeAlias c) {fs : List Field}
    {resets : List Instruction} (h : resetsFor zeros c fs = .ok resets)
    (hapart : (fs.map fun f => mangle c.name f.name).Nodup) (st : Attributes V) :
    ∃ st', (∀ invoke, W.execBlock c.name invoke c.unitParams
        (resets.map (Instruction.written c.ownerExpr)) st = some st') ∧
      (∀ f ∈ fs, ∃ zero, zeros.valueFor f.annot = .ok zero ∧
        st' (mangle c.name f.name) = some (W.constant zero)) ∧
      ∀ a, (∀ f ∈ fs, a ≠ mangle c.name f.name) → st' a = st a := by
  induction fs generalizing resets st with
  | nil =>
    cases h
    exact ⟨st, fun _ => rfl, by simp, fun _ _ => rfl⟩
  | cons f fs ih =>
    obtain ⟨zero, hzero, h⟩ := ClassModel.bind_eq_ok.1 h
    obtain ⟨rest, hrest, h⟩ := ClassModel.bind_eq_ok.1 h
    cases h
    obtain ⟨hnew, hapart⟩ := List.nodup_cons.1 hapart
    obtain ⟨st', hexec, hzeroed, hframe⟩ :=
      ih hrest hapart (st.set (mangle c.name f.name) (W.constant zero))
    have hlater : ∀ g ∈ fs, mangle c.name f.name ≠ mangle c.name g.name :=
      fun g hg hsame => hnew (List.mem_map.2 ⟨g, hg, hsame.symm⟩)
    refine ⟨st', fun invoke => ?_, List.forall_mem_cons.2 ⟨⟨zero, hzero, ?_⟩, hzeroed⟩,
      fun a ha => ?_⟩
    · rw [List.map_cons, execBlock, exec_reset hserves]
      exact hexec invoke
    · rw [hframe _ hlater, Attributes.set_self]
    · obtain ⟨hne, ha⟩ := List.forall_mem_cons.1 ha
      rw [hframe a ha, Attributes.set_of_ne _ _ hne]

/-- The class holds these functions under their names. -/
def Carries (W : Surroundings V) (c : ClassModel) (b : Block) (st : Attributes V) : Prop :=
  ∀ h fn, .functionDef h fn ∈ b → ∃ f, st (mangle c.name h.name) = some f ∧ W.code f = some (h, fn)

/-- A load unit runs the resets and then calls the copy. -/
theorem invoke_load {resets : List Instruction} {f : V}
    (hcode : W.code f = some (c.unitHeader runtimeAlias loadName, loadBody c resets)) (depth : Nat)
    (st : Attributes V) :
    W.invoke c.name (depth + 1) f st =
      (W.execBlock c.name (W.invoke c.name depth) c.unitParams
        (resets.map (Instruction.written c.ownerExpr)) st).bind
          (W.execBlock c.name (W.invoke c.name depth) c.unitParams
            (((copy? c).map fun u => Instruction.call u.ref).toList.map
              (Instruction.written c.ownerExpr))) := by
  rw [invoke, hcode, Option.bind_some, ClassModel.classParams_unitHeader, loadBody,
    execBlock_orPass, List.map_append, execBlock_append]

theorem mem_oneIf {α : Type} {wanted : Bool} {a b : α} :
    b ∈ oneIf wanted a ↔ wanted = true ∧ b = a := by
  cases wanted <;> simp [oneIf]

theorem copyCall_eq (h : c.hasCopy = true) :
    ((copy? c).map fun u => Instruction.call u.ref).toList.map (Instruction.written c.ownerExpr) =
      [.expr (.call (.attribute c.ownerExpr initCopyName .load) [] [])] := by
  rw [ClassModel.hasCopy, Bool.not_eq_true'] at h
  rw [copy?, h]
  rfl

/-- The copy of an initializer of assignments is the copies of the assignments. -/
theorem exec_copiedBody (hreads : c.ReadsStraight body)
    (invoke : V → Attributes V → Option (Attributes V)) (params : List String) :
    W.execBlock c.name invoke params (copiedBody runtimeAlias c) st =
      W.execBlock c.name invoke params
        ((body.filterMap (·.assignment?)).flatMap (c.copyScope runtimeAlias).copied) st := by
  have hstatements : ∀ t ∈ c.initializer.map (·.2),
      ∃ x, t.assignment? = some x ∧ (c.copyScope runtimeAlias).inScope x.name = true := by
    rw [hreads.initializer]
    intro t ht
    obtain ⟨ht, hsome⟩ := List.mem_filter.1 ht
    obtain ⟨x, hx⟩ := Option.isSome_iff_exists.1 hsome
    exact ⟨x, hx, List.contains_iff_mem.2 (hreads.stored t ht x hx).1⟩
  have hcopied : (c.initializer.map (·.2)).filterMap (·.assignment?) =
      body.filterMap (·.assignment?) := by
    rw [← c.assignments_eq hreads, ClassModel.assignments, List.filterMap_map]
    rfl
  rw [copiedBody, execBlock_orPass, ClassScope.filledBlock_rewriteBlock _ _ hstatements, hcopied]

/-- The call at the end of a load unit runs the copies of the assignments, if there are any. -/
theorem exec_copyCall (hserves : W.Serves runtimeAlias c) (hreads : c.ReadsStraight body)
    (depth : Nat)
    (hcopy : W.Carries c
      (oneIf c.hasCopy (unitFunction runtimeAlias c initCopyName (copiedBody runtimeAlias c))) st) :
    W.execBlock c.name (W.invoke c.name (depth + 1)) c.unitParams
        (((copy? c).map fun u => Instruction.call u.ref).toList.map
          (Instruction.written c.ownerExpr)) st =
      W.execBlock c.name (W.invoke c.name depth) c.unitParams
        ((body.filterMap (·.assignment?)).flatMap (c.copyScope runtimeAlias).copied) st := by
  have hinit := c.assignments_eq hreads
  cases hempty : c.initializer.isEmpty with
  | true =>
    have hnil : c.initializer = [] := List.isEmpty_iff.1 hempty
    rw [ClassModel.assignments, hnil] at hinit
    rw [← hinit, copy?, hempty]
    rfl
  | false =>
    have hwanted : c.hasCopy = true := by simp [ClassModel.hasCopy, hempty]
    rw [hwanted] at hcopy
    obtain ⟨f, hheld, hcode⟩ := hcopy _ _ (List.mem_singleton.2 rfl)
    have hmember : W.member c.name st W.cls initCopyName = some f := by
      rw [member, if_pos rfl]
      exact hheld
    rw [copyCall_eq hwanted, execBlock, execStmt, hserves.owner st, Option.bind_some, hmember,
      Option.bind_some, invoke, hcode, Option.bind_some, ClassModel.classParams_unitHeader,
      exec_copiedBody hreads]
    cases W.execBlock c.name (W.invoke c.name depth) c.unitParams
      ((body.filterMap (·.assignment?)).flatMap (c.copyScope runtimeAlias).copied) st <;> rfl

/-- What loading makes of the state of a class whose body stores what `ns` holds: names that the
body stores hold what the body stores, names that it only declares hold the zero values of their
annotations, and retained names and all other attributes hold what they held. -/
structure Restores (W : Surroundings V) (zeros : ZeroTable) (c : ClassModel)
    (ns st st' : Attributes V) : Prop where
  stored : ∀ x ∈ c.assignments, c.retains x.name = false →
    ∃ v, ns (mangle c.name x.name) = some v ∧ st' (mangle c.name x.name) = some v
  declared : ∀ f ∈ c.inventory, (∀ x ∈ c.assignments, x.name ≠ f.name) →
    ∃ zero, (zeroValue zeros f.annot).run.1 = .ok zero ∧
      st' (mangle c.name f.name) = some (W.constant zero)
  retained : ∀ n, c.retains n = true → st' (mangle c.name n) = st (mangle c.name n)
  others : ∀ a, (∀ n ∈ c.fieldNames, a ≠ mangle c.name n) → st' a = st a

omit [DecidableEq V] in
/-- A state is restored that comes of the resets by storing what the body stores. -/
theorem Restores.of_runs {st₀ st' : Attributes V} (hreads : c.ReadsStraight body)
    (hline : c.StraightLine body start) (hundisturbed : c.Undisturbed body)
    (hzeroed : ∀ f ∈ c.inventory, ∃ zero, zeros.valueFor f.annot = .ok zero ∧
      st₀ (mangle c.name f.name) = some (W.constant zero))
    (hframe₀ : ∀ a, (∀ f ∈ c.inventory, a ≠ mangle c.name f.name) → st₀ a = st a)
    (hholds : Holds c c.assignments ns st')
    (hframe : ∀ a, (∀ x ∈ c.assignments, c.retains x.name = false → a ≠ mangle c.name x.name) →
      st' a = st₀ a) : W.Restores zeros c ns st st' := by
  have hassigned : ∀ x ∈ c.assignments, x.name ∈ c.used body := fun x hx =>
    ClassModel.used_of_field (ClassModel.mem_fieldNames_of_assignments hreads hx)
  have hreset : ∀ f ∈ c.inventory, f.name ∈ c.used body := fun f hf =>
    ClassModel.used_of_field (ClassModel.mem_fieldNames_of_inventory hreads hf)
  refine ⟨hholds, fun f hf hdeclared => ?_, fun n hn => ?_, fun a ha => ?_⟩
  · obtain ⟨zero, hzero, hheld⟩ := hzeroed f hf
    refine ⟨zero, (zeroValue_settles zeros f.annot).run_fst.trans hzero, ?_⟩
    rw [hframe, hheld]
    intro x hx _ hsame
    exact hdeclared x hx (hline.apart _ (hassigned x hx) _ (hreset f hf) hsame.symm)
  · have hused := ClassModel.used_of_retains hreads hn
    rw [hframe, hframe₀]
    · intro f hf hsame
      have hlost := hundisturbed.retains_of_inventory hreads hf
      rw [← hline.apart _ hused _ (hreset f hf) hsame, hn] at hlost
      cases hlost
    · intro x hx hretains hsame
      rw [← hline.apart _ hused _ (hassigned x hx) hsame, hn] at hretains
      cases hretains
  · rw [hframe, hframe₀]
    · exact fun f hf => ha _ (ClassModel.mem_fieldNames_of_inventory hreads hf)
    · exact fun x hx _ => ha _ (ClassModel.mem_fieldNames_of_assignments hreads hx)

/-- Resets followed by copies of the assignments restore the state. -/
theorem exec_load (hserves : W.Serves runtimeAlias c) (hreads : c.ReadsStraight body)
    (hline : c.StraightLine body start) (hundisturbed : c.Undisturbed body)
    {resets : List Instruction} (h : resetsFor zeros c c.inventory = .ok resets)
    (hrun : W.BodyRun c.name body start ns) (st : Attributes V) :
    ∃ st₀ st', (∀ invoke, W.execBlock c.name invoke c.unitParams
        (resets.map (Instruction.written c.ownerExpr)) st = some st₀) ∧
      (∀ invoke, W.execBlock c.name invoke c.unitParams
        ((body.filterMap (·.assignment?)).flatMap (c.copyScope runtimeAlias).copied) st₀ =
          some st') ∧
      st₀ (mangle c.name initCopyName) = st (mangle c.name initCopyName) ∧
      W.Restores zeros c ns st st' := by
  obtain ⟨st₀, hreset, hzeroed, hframe₀⟩ :=
    exec_resets hserves h (hline.nodup_inventory hreads) st
  have hbegin : InStep c body start [] start st₀ := ⟨by simp [Holds], fun n _ hn => hn.2.2⟩
  obtain ⟨st', hcopy, hstep, hframe⟩ :=
    exec_copied hserves hreads hline hundisturbed hrun rfl hbegin
  have hholds := hstep.holds
  rw [← c.assignments_eq hreads] at hholds hframe
  refine ⟨st₀, st', hreset, hcopy, hframe₀ _ fun f hf hsame => ?_,
    .of_runs hreads hline hundisturbed hzeroed hframe₀ hholds hframe⟩
  exact hundisturbed.stores _ (ClassModel.mem_fieldNames_of_inventory hreads hf) hsame.symm

/-- The load unit of a class whose state is straight-line sets the state up as the body does,
whatever the class held before. -/
theorem load_restores {place : List Nat} {outer enums enums' : List String} {h : ClassHeader}
    {nested : List ClassTree} {b fn : Block} {header : FunctionHeader}
    (hread : ClassTree.read place outer enums h body = .ok (⟨c, nested⟩, enums'))
    (hadded : (Weave.addition zeros runtimeAlias c).run.1 = .ok b)
    (hunit : Stmt.functionDef header fn ∈ b) (hname : header.name = loadName)
    (hline : c.StraightLine body start) (hundisturbed : c.Undisturbed body)
    (hserves : W.Serves runtimeAlias c) (hcarries : W.Carries c b st)
    (hrun : W.BodyRun c.name body start ns) :
    ∃ f st', st (mangle c.name loadName) = some f ∧
      (∀ depth, W.invoke c.name (depth + 2) f st = some st') ∧ W.Restores zeros c ns st st' := by
  rw [(addition_settles zeros runtimeAlias c).run_fst] at hadded
  rcases Weave.appended_eq_ok hadded with ⟨heligible, resets, hresets, rfl⟩ | ⟨-, rfl⟩
  · have hreads := ClassTree.read_straight hread (isEnum_eq_false_of_eligible heligible)
      (hline.isStraight hundisturbed)
    rw [hookWith_eq] at hunit hcarries
    -- the units of a class have different names
    obtain ⟨rfl, rfl⟩ : header = c.unitHeader runtimeAlias loadName ∧ fn = loadBody c resets := by
      simp only [List.mem_append, mem_oneIf, List.mem_singleton, unitFunction, registrationOf,
        Stmt.functionDef.injEq, reduceCtorEq, or_false] at hunit
      rcases hunit with (⟨-, rfl, -⟩ | ⟨-, rfl, -⟩) | ⟨-, hload⟩
      · exact absurd hname (by decide : initCopyName ≠ loadName)
      · exact absurd hname (by decide : unloadName ≠ loadName)
      · exact hload
    obtain ⟨f, hheld, hcode⟩ := hcarries _ _ hunit
    obtain ⟨st₀, st', hreset, hcopy, hkept, hrestores⟩ :=
      exec_load hserves hreads hline hundisturbed hresets hrun st
    refine ⟨f, st', hheld, fun depth => ?_, hrestores⟩
    -- the resets have left the copy alone, so it is still there to be called
    have hcopyHeld : W.Carries c
        (oneIf c.hasCopy (unitFunction runtimeAlias c initCopyName (copiedBody runtimeAlias c)))
        st₀ := by
      intro header fn hmem
      obtain ⟨g, hheld, hcode⟩ := hcarries header fn (by simp [hmem])
      obtain ⟨-, hcopied⟩ := mem_oneIf.1 hmem
      cases hcopied
      exact ⟨g, hkept.trans hheld, hcode⟩
    rw [invoke_load hcode, hreset, Option.bind_some, exec_copyCall hserves hreads depth hcopyHeld]
    exact hcopy _
  · cases hunit

/-- What is no function cannot be called, however deep calls may be. -/
theorem invoke_of_code_eq_none {cls : String} {f : V} (h : W.code f = none) (depth : Nat)
    (st : Attributes V) : W.invoke cls depth f st = none := by
  cases depth with
  | zero => rfl
  | succ depth => rw [invoke, h, Option.bind_none]

/-- A class that stores the name of its copy loses the copy to the resets. -/
theorem load_of_replaced {resets : List Instruction} {f : V} {field : Field}
    (hserves : W.Serves runtimeAlias c) (hcopy : c.hasCopy = true)
    (hresets : resetsFor zeros c c.inventory = .ok resets)
    (hapart : (c.inventory.map fun f => mangle c.name f.name).Nodup)
    (hcode : W.code f = some (c.unitHeader runtimeAlias loadName, loadBody c resets))
    (hfield : field ∈ c.inventory) (hname : mangle c.name field.name = mangle c.name initCopyName)
    (hconstant : ∀ k, W.code (W.constant k) = none) (depth : Nat) (st : Attributes V) :
    W.invoke c.name depth f st = none := by
  cases depth with
  | zero => rfl
  | succ depth =>
    obtain ⟨st₀, hreset, hzeroed, -⟩ := exec_resets hserves hresets hapart st
    obtain ⟨zero, -, hheld⟩ := hzeroed field hfield
    have hmember : W.member c.name st₀ W.cls initCopyName = some (W.constant zero) := by
      rw [member, if_pos rfl, ← hname]
      exact hheld
    rw [invoke_load hcode, hreset, Option.bind_some, copyCall_eq hcopy, execBlock, execStmt,
      hserves.owner st₀, Option.bind_some, hmember, Option.bind_some,
      invoke_of_code_eq_none (hconstant zero), Option.bind_none]

/-- A class that is not found cannot be loaded. -/
theorem load_of_unfound {resets : List Instruction} {f : V} {st : Attributes V}
    (howner : W.evalUnit c.name c.unitParams st c.ownerExpr = none)
    (hinventory : c.inventory ≠ []) (hresets : resetsFor zeros c c.inventory = .ok resets)
    (hcode : W.code f = some (c.unitHeader runtimeAlias loadName, loadBody c resets))
    (depth : Nat) : W.invoke c.name depth f st = none := by
  cases depth with
  | zero => rfl
  | succ depth =>
    obtain ⟨field, fields, hfields⟩ := List.exists_cons_of_ne_nil hinventory
    rw [hfields] at hresets
    obtain ⟨zero, -, hresets⟩ := ClassModel.bind_eq_ok.1 hresets
    obtain ⟨rest, -, hresets⟩ := ClassModel.bind_eq_ok.1 hresets
    cases hresets
    have hzero : W.evalUnit c.name c.unitParams st (.constant zero) = some (W.constant zero) := rfl
    rw [invoke_load hcode, List.map_cons, execBlock, Instruction.written, execStmt, hzero, howner]
    rfl

/-! Small modules around a class that is called `A`. -/

/-- The values of small modules: a class, the runtime, the units of the class, and constants. -/
inductive Token
  | cls
  | runtime
  | unit (name : String)
  | constant (value : Constant)
deriving DecidableEq

def one : Expr := .constant (.int 1)

def assigning (name : String) (value : Expr) : Stmt :=
  .assign [.name name .store] value

/-- A class statement as it is read on its own. -/
def readAlone (h : ClassHeader) (body : Block) : ClassModel :=
  ((ClassTree.read [0] [] [] h body).toOption.map (·.1.cls)).getD (.ofHeader [0] [] h [])

def plainA : ClassHeader := ⟨"A", [], [], [], []⟩

def genericA : ClassHeader := ⟨"A", [], [], [], ["T"]⟩

def bound : List (String × Token) :=
  [("A", .cls), ("_runtime", .runtime), ("cls", .constant .ellipsis),
    ("__class__", .constant .ellipsis)]

/-- The resets of a class, by the standard zero values. -/
def standardResets (c : ClassModel) : List Instruction :=
  (resetsFor .standard c c.inventory).toOption.getD []

/-- A module that binds these names, around a class with its units. -/
def around (c : ClassModel) (names : List (String × Token)) : Surroundings Token where
  constant := .constant
  unary _ v := v
  binary _ v _ := v
  display _ _ := .constant .null
  cls := .cls
  runtime := .runtime
  globals n := names.lookup n
  members _ _ := none
  code
    | .unit name =>
      ([(initCopyName, copiedBody "_runtime" c), (unloadName, unloadBody c),
        (loadName, loadBody c (standardResets c))].lookup name).map
          fun fn => (c.unitHeader "_runtime" name, fn)
    | _ => none

/-- A class that holds its units and nothing else. -/
def bare (cls : String) : Attributes Token :=
  fun a => (unitNames.find? fun n => mangle cls n = a).map .unit

/-- The namespace that a class body starts from. -/
def opened : Attributes Token :=
  fun a => if a = "__module__" ∨ a = "__qualname__" then some (.constant .null) else none

theorem carries_around {c : ClassModel} {names : List (String × Token)} {st : Attributes Token}
    (h : ∀ n ∈ unitNames, st (mangle c.name n) = some (.unit n)) :
    (around c names).Carries c (hookWith "_runtime" c (standardResets c)) st := by
  intro header fn hmem
  simp only [hookWith_eq, List.mem_append, mem_oneIf, List.mem_singleton, unitFunction,
    registrationOf, Stmt.functionDef.injEq, reduceCtorEq, or_false] at hmem
  rcases hmem with (⟨-, rfl, rfl⟩ | ⟨-, rfl, rfl⟩) | ⟨-, rfl, rfl⟩
  · exact ⟨_, h initCopyName (by decide), rfl⟩
  · exact ⟨_, h unloadName (by decide), rfl⟩
  · exact ⟨_, h loadName (by decide), rfl⟩

theorem code_around (c : ClassModel) (names : List (String × Token)) :
    (around c names).code (.unit loadName) =
      some (c.unitHeader "_runtime" loadName, loadBody c (standardResets c)) := rfl

theorem serves_around {c : ClassModel} {names : List (String × Token)} {id : String}
    (howner : c.ownerExpr = .name id .load)
    (h : (around c names).readUnit c.name c.unitParams id = some .cls ∧
      (around c names).readUnit c.name c.unitParams "_runtime" = some .runtime) :
    (around c names).Serves "_runtime" c :=
  ⟨fun _ => by rw [howner]; exact h.1, h.2⟩

/-- A class statement that is read as `c` and given `b`, with straight-line state. Its body stores
`ns` in a module that binds these names. -/
structure Sample (h : ClassHeader) (body : Block) (names : List (String × Token)) (c : ClassModel)
    (b : Block) (ns : Attributes Token) : Prop where
  read : ∃ nested enums', ClassTree.read [0] [] [] h body = .ok (⟨c, nested⟩, enums')
  added : (Weave.addition .standard "_runtime" c).run.1 = .ok b
  load : c.hasLoad = true
  line : c.StraightLine body opened
  run : (around c names).BodyRun c.name body opened ns
  carries : (around c names).Carries c b (bare c.name)

/-- What can be computed of a sample. -/
def Checks (c : ClassModel) (body : Block) : Prop :=
  c.analysisFault? = none ∧ c.analysis.eligible = true ∧
    c.hasLoad = true ∧ (∀ p ∈ c.initializer, p.2.assignment?.any (·.value.isPlain) = true) ∧
    (∀ x ∈ c.assignments, ∀ n ∈ x.value.names, c.Unbound body opened n) ∧
    (∀ n ∈ c.used body, ∀ m ∈ c.used body, mangle c.name n = mangle c.name m → n = m) ∧
    ∀ n ∈ unitNames, bare c.name (mangle c.name n) = some (.unit n)

instance (c : ClassModel) (body : Block) : Decidable (Checks c body) :=
  inferInstanceAs (Decidable (_ ∧ _ ∧ _ ∧ _ ∧ _ ∧ _ ∧ _))

theorem sample_of {h : ClassHeader} {body : Block} {names : List (String × Token)}
    {c : ClassModel} {ns : Attributes Token} {nested : List ClassTree} {enums' : List String}
    {r : TypeRef} (hread : ClassTree.read [0] [] [] h body = .ok (⟨c, nested⟩, enums'))
    (hchecks : Checks c body)
    (hresets : resetsFor .standard c c.inventory = .ok (standardResets c))
    (hqualified : c.qualified = .ok r)
    (hrun : (around c names).BodyRun c.name body opened ns) :
    Sample h body names c (hookWith "_runtime" c (standardResets c)) ns := by
  obtain ⟨horder, heligible, hload, hstraight, hunbound, hapart, hbare⟩ := hchecks
  exact ⟨⟨_, _, hread⟩, addition_eq horder heligible hresets hqualified, hload,
    ⟨fun p hp => (Option.any_eq_true _ _).1 (hstraight p hp),
      fun before x after h n hn => .inr (hunbound x (by simp [h]) n hn), hapart⟩, hrun,
    carries_around hbare⟩

/-- A class with a stored name, one that is stored from it, and one that is only declared. -/
def metered : Block :=
  [.annAssign (.name "total" .store) (.name "int" .load) (some (.constant (.int 3))) (some 1),
    assigning "limit" (.name "total" .load),
    .annAssign (.name "seen" .store)
      (.subscript (.name "ClassVar" .load) (.name "int" .load) .load) none (some 1)]

theorem metered_straightLine : (readAlone plainA metered).StraightLine metered opened := by
  have hassigned : (readAlone plainA metered).assignments =
      [⟨"total", some (.name "int" .load), .constant (.int 3)⟩,
        ⟨"limit", none, .name "total" .load⟩] := rfl
  have hstraight : ∀ p ∈ (readAlone plainA metered).initializer,
      p.2.assignment?.any (·.value.isPlain) = true := by decide +kernel
  refine ⟨fun p hp => (Option.any_eq_true _ _).1 (hstraight p hp), ?_, by decide +kernel⟩
  intro before x after h n hn
  rw [hassigned] at h
  rcases before with _ | ⟨y, _ | ⟨z, before⟩⟩
  · cases h
    cases hn
  · cases h
    refine .inl ⟨by revert n; decide +kernel, _, .head _, ?_⟩
    exact (List.mem_singleton.1 hn).symm
  · simp at h

theorem metered_undisturbed : (readAlone plainA metered).Undisturbed metered where
  annots := by decide +kernel
  alone := by decide +kernel
  stores := by decide +kernel
  reads := by decide +kernel

/-- The zero value stands in for what is only declared. -/
theorem load_restores_metered :
    ∃ f st', (∀ depth, (around (readAlone plainA metered) bound).invoke "A" (depth + 2) f
        (bare "A") = some st') ∧
      st' "limit" = some (.constant (.int 3)) ∧ st' "seen" = some (.constant (.int 0)) := by
  have hrun : (around (readAlone plainA metered) bound).BodyRun "A" metered opened
      ((opened.set "total" (.constant (.int 3))).set "limit" (.constant (.int 3))) :=
    .assign rfl rfl (fun _ _ => rfl) (.assign rfl rfl (fun _ _ => rfl)
      (.other rfl (fun _ _ => rfl) .nil))
  have hresets : resetsFor .standard (readAlone plainA metered)
      (readAlone plainA metered).inventory = .ok (standardResets (readAlone plainA metered)) := rfl
  have hserves : (around (readAlone plainA metered) bound).Serves "_runtime"
      (readAlone plainA metered) := serves_around rfl (by decide +kernel)
  have hload : (readAlone plainA metered).hasLoad = true := by decide +kernel
  have hread : ClassTree.read [0] [] [] plainA metered = .ok (⟨readAlone plainA metered, []⟩, []) :=
    rfl
  have hadded : (Weave.addition .standard "_runtime" (readAlone plainA metered)).run.1 = .ok _ :=
    addition_eq (by decide +kernel) (by decide +kernel) hresets rfl
  have hcarries : (around (readAlone plainA metered) bound).Carries (readAlone plainA metered) _
      (bare "A") := carries_around (by decide +kernel)
  have hunit : unitFunction "_runtime" (readAlone plainA metered) loadName
      (loadBody (readAlone plainA metered) (standardResets (readAlone plainA metered))) ∈
        hookWith "_runtime" (readAlone plainA metered)
          (standardResets (readAlone plainA metered)) := by
    simp [hookWith_eq, mem_oneIf, hload]
  obtain ⟨f, st', -, hinvoke, hrestores⟩ := load_restores hread hadded hunit rfl
    metered_straightLine metered_undisturbed hserves hcarries hrun
  refine ⟨f, st', hinvoke, ?_, ?_⟩
  · obtain ⟨v, hv, hst'⟩ := hrestores.stored ⟨"limit", none, .name "total" .load⟩
      (.tail _ (.head _)) (by decide +kernel)
    cases hv
    exact hst'
  · have hseen : ∃ f ∈ (readAlone plainA metered).inventory, f.name = "seen" ∧
        (zeroValue .standard f.annot).run.1 = .ok (.int 0) :=
      ⟨_, .tail _ (.tail _ (.head _)), rfl, rfl⟩
    obtain ⟨f, hf, hname, hzero⟩ := hseen
    obtain ⟨zero, hzero', hst'⟩ := hrestores.declared f hf (by rw [hname]; decide +kernel)
    rw [hzero] at hzero'
    cases hzero'
    rw [hname] at hst'
    exact hst'

/-- The class can be loaded, but then holds something else than its body stores. -/
def Strays (h : ClassHeader) (body : Block) (names : List (String × Token)) : Prop :=
  ∃ c b ns, Sample h body names c b ns ∧ (around c names).Serves "_runtime" c ∧
    ∃ n ∈ c.inventory.map (·.name), ∃ v st', ns (mangle c.name n) = some v ∧
      (around c names).invoke c.name 2 (.unit loadName) (bare c.name) = some st' ∧
      st' (mangle c.name n) ≠ some v

theorem strays_of {h : ClassHeader} {body b : Block} {names : List (String × Token)}
    {c : ClassModel} {ns : Attributes Token} (hsample : Sample h body names c b ns)
    (hserves : (around c names).Serves "_runtime" c) (n : String) (v : Token) (w : Option Token)
    (hmissed : n ∈ c.inventory.map (·.name) ∧ ns (mangle c.name n) = some v ∧ w ≠ some v ∧
      ((around c names).invoke c.name 2 (.unit loadName) (bare c.name)).map
        (· (mangle c.name n)) = some w) : Strays h body names := by
  obtain ⟨hn, hns, hne, hload⟩ := hmissed
  obtain ⟨st', hst', hx⟩ := Option.map_eq_some_iff.1 hload
  exact ⟨c, b, ns, hsample, hserves, n, hn, v, st', hns, hst', hx ▸ hne⟩

/-- A method takes the place of what is stored. -/
def shadowed : Block :=
  [assigning "x" one, .functionDef
    { isAsync := false, name := "x", params := .ofNames [], decorators := [], returns := none,
      typeParams := [] } [.pass]]

theorem strays_shadowed : Strays plainA shadowed bound := by
  have hrun : (around (readAlone plainA shadowed) bound).BodyRun "A" shadowed opened
      ((opened.set "x" (.constant (.int 1))).set "x" .runtime) :=
    .assign rfl rfl (fun _ _ => rfl) (.other rfl (fun a ha => Attributes.set_of_ne _ _ fun h =>
      ha (by rw [h]; decide +kernel)) .nil)
  exact strays_of (sample_of (c := readAlone plainA shadowed) rfl (by decide +kernel) rfl rfl hrun)
    (serves_around rfl (by decide +kernel)) "x" .runtime (some (.constant (.int 1)))
    (by decide +kernel)

/-- The annotation stores a name of its own. -/
def annotated : Block :=
  [.annAssign (.name "x" .store) (.walrus "y" one) (some one) (some 1)]

theorem strays_annotated : Strays plainA annotated bound := by
  have hrun : (around (readAlone plainA annotated) bound).BodyRun "A" annotated opened
      ((opened.set "x" (.constant (.int 1))).set "y" (.constant (.int 1))) :=
    .assign rfl rfl (fun a ha => Attributes.set_of_ne _ _ fun h =>
      ha (by rw [h]; decide +kernel)) .nil
  exact strays_of (sample_of (c := readAlone plainA annotated) rfl (by decide +kernel) rfl rfl hrun)
    (serves_around rfl (by decide +kernel)) "y" (.constant (.int 1)) (some (.constant .null))
    (by decide +kernel)

/-- A name of the module is read. -/
def reading (name : String) : Block :=
  [assigning "x" (.name name .load)]

theorem strays_reading_parameter : Strays genericA (reading "cls") bound := by
  have hrun : (around (readAlone genericA (reading "cls")) bound).BodyRun "A" (reading "cls")
      opened (opened.set "x" (.constant .ellipsis)) :=
    .assign rfl rfl (fun _ _ => rfl) .nil
  exact strays_of
    (sample_of (c := readAlone genericA (reading "cls")) rfl (by decide +kernel) rfl rfl hrun)
    (serves_around rfl (by decide +kernel)) "x" (.constant .ellipsis) (some .cls)
    (by decide +kernel)

theorem strays_reading_class : Strays plainA (reading "__class__") bound := by
  have hrun : (around (readAlone plainA (reading "__class__")) bound).BodyRun "A"
      (reading "__class__") opened (opened.set "x" (.constant .ellipsis)) :=
    .assign rfl rfl (fun _ _ => rfl) .nil
  exact strays_of
    (sample_of (c := readAlone plainA (reading "__class__")) rfl (by decide +kernel) rfl rfl hrun)
    (serves_around rfl (by decide +kernel)) "x" (.constant .ellipsis) (some .cls)
    (by decide +kernel)

/-- The class cannot be loaded at all. -/
def Fails (h : ClassHeader) (body : Block) (names : List (String × Token)) : Prop :=
  ∃ c b ns, Sample h body names c b ns ∧
    ∀ depth, (around c names).invoke c.name depth (.unit loadName) (bare c.name) = none

/-- The name of the copy is stored. -/
def replacing : Block :=
  [assigning initCopyName one]

theorem fails_replacing : Fails plainA replacing bound := by
  have hrun : (around (readAlone plainA replacing) bound).BodyRun "A" replacing opened
      (opened.set "_A__typereload_init_copy" (.constant (.int 1))) :=
    .assign rfl rfl (fun _ _ => rfl) .nil
  have hresets : resetsFor .standard (readAlone plainA replacing)
      (readAlone plainA replacing).inventory = .ok (standardResets (readAlone plainA replacing)) :=
    rfl
  have hsample : Sample plainA replacing bound (readAlone plainA replacing) _ _ :=
    sample_of rfl (by decide +kernel) hresets rfl hrun
  have hserves : (around (readAlone plainA replacing) bound).Serves "_runtime"
      (readAlone plainA replacing) := serves_around rfl (by decide +kernel)
  exact ⟨_, _, _, hsample, fun depth => load_of_replaced hserves hsample.load hresets
    (by decide +kernel) (code_around _ _) (.head _) rfl (fun _ => rfl) depth _⟩

theorem fails_unfound : Fails plainA (reading "one") [("one", .constant (.int 1))] := by
  have hrun : (around (readAlone plainA (reading "one")) [("one", .constant (.int 1))]).BodyRun "A"
      (reading "one") opened (opened.set "x" (.constant (.int 1))) :=
    .assign rfl rfl (fun _ _ => rfl) .nil
  have hresets : resetsFor .standard (readAlone plainA (reading "one"))
      (readAlone plainA (reading "one")).inventory =
        .ok (standardResets (readAlone plainA (reading "one"))) := rfl
  have howner : (readAlone plainA (reading "one")).ownerExpr = .name "A" .load := rfl
  have hinventory : (readAlone plainA (reading "one")).inventory ≠ [] := by decide +kernel
  exact ⟨_, _, _, sample_of rfl (by decide +kernel) hresets rfl hrun, fun depth =>
    load_of_unfound (by rw [howner]; decide +kernel) hinventory hresets (code_around _ _) depth⟩

/-- Straight-line state is not enough: what disturbs the storage of a class, or keeps its units from
the class, keeps loading from restoring it. -/
theorem straightLine_not_restored :
    Strays plainA shadowed bound ∧ Strays plainA annotated bound ∧
      Strays genericA (reading "cls") bound ∧ Strays plainA (reading "__class__") bound ∧
      Fails plainA replacing bound ∧
      Fails plainA (reading "one") [("one", .constant (.int 1))] :=
  ⟨strays_shadowed, strays_annotated, strays_reading_parameter, strays_reading_class,
    fails_replacing, fails_unfound⟩

end Surroundings

end StateWeave
