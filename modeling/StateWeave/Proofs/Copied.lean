import StateWeave.Proofs.Frame
import StateWeave.Proofs.Straight

/-! The copy of an initializer beside the class body it was taken from. While both run, every name
stored so far is held by the class as the body's namespace holds it, so the rest of the copy reads
what the rest of the body would read. -/

namespace StateWeave

open ReloadUnit Weave

namespace Meaning

variable {V : Type} (M : Meaning V) (s : ClassScope) {read read' : String → Option V}
  {member member' : V → String → Option V}

mutual

/-- A rewritten plain expression has its value when its names have. -/
theorem eval_rewriteExpr :
    ∀ {e : Expr} {v : V}, e.isPlain = true →
      (∀ n ∈ e.names, ∀ v, read n = some v →
        M.eval read' member' (s.rewriteName n .load) = some v) →
      M.eval read member e = some v → M.eval read' member' (s.rewriteExpr e) = some v
  | .constant _, v, _, _, hv => hv
  | .name id .load, v, _, hnames, hv => hnames id (by simp [Expr.names, Expr.occurrences]) v hv
  | .unaryOp op operand, v, hplain, hnames, hv => by
    obtain ⟨u, hu, rfl⟩ := Option.map_eq_some_iff.1 hv
    have hrewritten := eval_rewriteExpr (e := operand) hplain hnames hu
    simp [ClassScope.rewriteExpr, eval, hrewritten]
  | .binOp left op right, v, hplain, hnames, hv => by
    simp only [Expr.isPlain, Bool.and_eq_true] at hplain
    obtain ⟨u, hu, hv⟩ := Option.bind_eq_some_iff.1 hv
    obtain ⟨w, hw, rfl⟩ := Option.map_eq_some_iff.1 hv
    have hleft := eval_rewriteExpr (e := left) hplain.1
      (fun n hn => hnames n (by simp [Expr.names, Expr.occurrences] at hn ⊢; exact .inl hn)) hu
    have hright := eval_rewriteExpr (e := right) hplain.2
      (fun n hn => hnames n (by simp [Expr.names, Expr.occurrences] at hn ⊢; exact .inr hn)) hw
    simp [ClassScope.rewriteExpr, eval, hleft, hright]
  | .sequence kind elts .load, v, hplain, hnames, hv => by
    obtain ⟨vs, hvs, rfl⟩ := Option.map_eq_some_iff.1 hv
    have hplain : Expr.arePlain elts = true := hplain
    have hrewritten := eval_rewriteExprs hplain hnames hvs
    simp [ClassScope.rewriteExpr, eval, hrewritten]

theorem eval_rewriteExprs :
    ∀ {es : List Expr} {vs : List V}, Expr.arePlain es = true →
      (∀ n ∈ (Expr.occurrencesList es).map (·.name), ∀ v, read n = some v →
        M.eval read' member' (s.rewriteName n .load) = some v) →
      M.evalList read member es = some vs →
      M.evalList read' member' (s.rewriteExprs es) = some vs
  | [], vs, _, _, hvs => hvs
  | e :: es, vs, hplain, hnames, hvs => by
    simp only [Expr.arePlain, Bool.and_eq_true] at hplain
    obtain ⟨u, hu, hvs⟩ := Option.bind_eq_some_iff.1 hvs
    obtain ⟨us, hus, rfl⟩ := Option.map_eq_some_iff.1 hvs
    simp only [Expr.occurrencesList, List.map_append, List.forall_mem_append] at hnames
    have hhead := eval_rewriteExpr (e := e) hplain.1 hnames.1 hu
    have htail := eval_rewriteExprs hplain.2 hnames.2 hus
    simp [ClassScope.rewriteExprs, evalList, hhead, htail]

end

end Meaning

namespace ClassModel

variable {V : Type} (c : ClassModel) (body : Block)

/-- The assignments among the state statements of a class. -/
def assignments : List Assignment :=
  c.initializer.filterMap (·.2.assignment?)

/-- The parameters of the units of a class. -/
def unitParams : List String :=
  if c.isGeneric then [classParameter] else []

/-- The names that statements of the class body bind, that are storage, or that assignments read. -/
def used : List String :=
  body.flatMap (·.binds) ++ c.fieldNames ++ c.assignments.flatMap (·.value.names)

/-- A name that does not mean anything of the class: neither the body, which starts from the
namespace `start`, nor the class binds it. -/
def Unbound (start : Attributes V) (n : String) : Prop :=
  c.inScope n = false ∧ (∀ s ∈ body, n ∉ s.binds) ∧ start (mangle c.name n) = none

instance [DecidableEq V] (start : Attributes V) (n : String) :
    Decidable (c.Unbound body start n) :=
  inferInstanceAs (Decidable (_ ∧ _ ∧ _))

/-- A class all of whose state is straight-line: its state statements are assignments of plain
values, which read names stored before or not of the class at all, and its names are stored
apart. -/
structure StraightLine (start : Attributes V) : Prop where
  straight : ∀ p ∈ c.initializer, ∃ x, p.2.assignment? = some x ∧ x.value.isPlain = true
  reads : ∀ before x after, c.assignments = before ++ x :: after → ∀ n ∈ x.value.names,
    (c.retains n = false ∧ ∃ y ∈ before, y.name = n) ∨ c.Unbound body start n
  apart : ∀ n ∈ c.used body, ∀ m ∈ c.used body, mangle c.name n = mangle c.name m → n = m

/-- Storage that assignments alone are about: no annotation binds a name, no other statement binds
what is storage, and nothing is stored or read under a name that a unit has for something else. -/
structure Undisturbed : Prop where
  annots : ∀ x ∈ c.assignments, Expr.bindsOption x.annot = []
  alone : ∀ s ∈ body, s.assignment? = none → ∀ n ∈ c.fieldNames, n ∉ s.binds
  stores : ∀ n ∈ c.fieldNames, mangle c.name n ≠ mangle c.name initCopyName
  reads : ∀ x ∈ c.assignments, ∀ n ∈ x.value.names, c.inScope n = false →
    n ∉ c.unitParams ∧ n ≠ "__class__"

section Used

variable {c body} {n : String}

theorem used_of_binds {s : Stmt} (hs : s ∈ body) (hn : n ∈ s.binds) : n ∈ c.used body :=
  List.mem_append_left _ (List.mem_append_left _ (List.mem_flatMap.2 ⟨s, hs, hn⟩))

theorem used_of_field (hn : n ∈ c.fieldNames) : n ∈ c.used body :=
  List.mem_append_left _ (List.mem_append_right _ hn)

theorem used_of_reads {x : Assignment} (hx : x ∈ c.assignments) (hn : n ∈ x.value.names) :
    n ∈ c.used body :=
  List.mem_append_right _ (List.mem_flatMap.2 ⟨x, hx, hn⟩)

end Used

theorem assignments_eq {body : Block} (h : c.ReadsStraight body) :
    c.assignments = body.filterMap (·.assignment?) := by
  have hinit : c.assignments = (c.initializer.map (·.2)).filterMap (·.assignment?) := by
    rw [List.filterMap_map]
    rfl
  rw [hinit, h.initializer, List.filterMap_filter]
  congr 1
  funext s
  cases s.assignment? <;> rfl

/-- The state statements are straight, as no annotation binds anything. -/
theorem StraightLine.isStraight {start : Attributes V} {c : ClassModel} {body : Block}
    (h : c.StraightLine body start) (hundisturbed : c.Undisturbed body) :
    ∀ p ∈ c.initializer, p.2.IsStraight := by
  intro p hp
  obtain ⟨x, hx, hplain⟩ := h.straight p hp
  exact ⟨x, hx, hplain, hundisturbed.annots x (List.mem_filterMap.2 ⟨p, hp, hx⟩)⟩

/-- Every assignment of the body is a state statement. -/
theorem mem_assignments {c : ClassModel} {body : Block} (h : c.ReadsStraight body) {s : Stmt}
    (hs : s ∈ body) {x : Assignment} (hx : s.assignment? = some x) : x ∈ c.assignments := by
  rw [c.assignments_eq h]
  exact List.mem_filterMap.2 ⟨s, hs, hx⟩

/-- What the body assigns is plain. -/
theorem StraightLine.isPlain {start : Attributes V} {c : ClassModel} {body : Block}
    (h : c.StraightLine body start) {x : Assignment} (hx : x ∈ c.assignments) :
    x.value.isPlain = true := by
  obtain ⟨p, hp, hpx⟩ := List.mem_filterMap.1 hx
  obtain ⟨y, hy, hplain⟩ := h.straight p hp
  rw [hpx] at hy
  cases hy
  exact hplain

end ClassModel

namespace ClassScope

/-- What an assignment becomes in a copy: nothing when its name is retained. -/
def copied (s : ClassScope) (x : Assignment) : Block :=
  if s.retains x.name then [] else [.expr (s.storeStatic x.name (s.rewriteExpr x.value))]

theorem rewriteStmt_of_assignment? (s : ClassScope) {t : Stmt} {x : Assignment}
    (ht : t.assignment? = some x) (hscope : s.inScope x.name = true) :
    s.rewriteStmt t = s.copied x := by
  obtain ⟨-, ⟨rfl, -⟩ | ⟨annot, simple, rfl, -⟩⟩ := Stmt.assignment?_eq_some ht
  · simp [rewriteStmt, rewriteAssign, rewriteStore, hscope, copied]
  · simp [rewriteStmt, rewriteAnnAssign, rewriteStore, hscope, copied]

/-- A copy of assignments to names of the class has no blocks to fill. -/
theorem filledBlock_rewriteBlock (s : ClassScope) (b : Block)
    (h : ∀ t ∈ b, ∃ x, t.assignment? = some x ∧ s.inScope x.name = true) :
    filledBlock (s.rewriteBlock b) = (b.filterMap (·.assignment?)).flatMap s.copied := by
  induction b with
  | nil => rfl
  | cons t b ih =>
    obtain ⟨⟨x, hx, hscope⟩, hb⟩ := List.forall_mem_cons.1 h
    rw [rewriteBlock, s.rewriteStmt_of_assignment? hx hscope, List.filterMap_cons_some hx,
      List.flatMap_cons, ← ih hb]
    unfold copied
    split_ifs <;> rfl

end ClassScope

namespace Surroundings

variable {V : Type} [DecidableEq V] (W : Surroundings V) (cls : String)
  (invoke : V → Attributes V → Option (Attributes V)) (params : List String)

theorem execBlock_append (b d : Block) (st : Attributes V) :
    W.execBlock cls invoke params (b ++ d) st =
      (W.execBlock cls invoke params b st).bind (W.execBlock cls invoke params d) := by
  induction b generalizing st with
  | nil => rfl
  | cons s b ih =>
    rw [List.cons_append, execBlock, execBlock, Option.bind_assoc]
    congr 1
    funext st'
    exact ih st'

theorem execBlock_orPass (b : Block) (st : Attributes V) :
    W.execBlock cls invoke params (orPass b) st = W.execBlock cls invoke params b st := by
  cases b <;> rfl

/-- The units of a class meet the class under its path, or as their parameter, and the runtime under
its alias. -/
structure Serves (runtimeAlias : String) (c : ClassModel) : Prop where
  owner : ∀ st, W.evalUnit c.name c.unitParams st c.ownerExpr = some W.cls
  runtime : W.readUnit c.name c.unitParams runtimeAlias = some W.runtime

/-- The class holds under each of these names what the namespace of its body holds. -/
def Holds (c : ClassModel) (xs : List Assignment) (ns st : Attributes V) : Prop :=
  ∀ x ∈ xs, c.retains x.name = false →
    ∃ v, ns (mangle c.name x.name) = some v ∧ st (mangle c.name x.name) = some v

namespace Holds

variable {c : ClassModel} {xs : List Assignment} {x : Assignment} {ns ns₁ st : Attributes V}

omit [DecidableEq V] in
/-- A retained name may change in the body alone. -/
theorem append_retained (h : Holds c xs ns st) (hx : c.retains x.name = true)
    (hns : ∀ y ∈ xs, y.name ≠ x.name → ns₁ (mangle c.name y.name) = ns (mangle c.name y.name)) :
    Holds c (xs ++ [x]) ns₁ st := by
  intro y hy hretains
  have hne : y.name ≠ x.name := by
    rintro hsame
    rw [hsame, hx] at hretains
    cases hretains
  rcases List.mem_append.1 hy with hy | hy
  · obtain ⟨u, hu, hst⟩ := h y hy hretains
    exact ⟨u, by rw [hns y hy hne, hu], hst⟩
  · exact absurd (congrArg _ (List.mem_singleton.1 hy)) hne

omit [DecidableEq V] in
/-- Any other name is stored to both. -/
theorem append_stored {v : V} (h : Holds c xs ns st)
    (hns : ∀ a, ns₁ a = ns.set (mangle c.name x.name) v a) :
    Holds c (xs ++ [x]) ns₁ (st.set (mangle c.name x.name) v) := by
  intro y hy hretains
  by_cases hsame : mangle c.name y.name = mangle c.name x.name
  · exact ⟨v, by rw [hns, hsame, Attributes.set_self], by rw [hsame, Attributes.set_self]⟩
  · rcases List.mem_append.1 hy with hy | hy
    · obtain ⟨u, hu, hst⟩ := h y hy hretains
      exact ⟨u, by rw [hns, Attributes.set_of_ne _ _ hsame, hu],
        by rw [Attributes.set_of_ne _ _ hsame, hst]⟩
    · rw [List.mem_singleton.1 hy] at hsame
      exact absurd rfl hsame

end Holds

section Copy

variable {W : Surroundings V} {c : ClassModel} {body : Block} {runtimeAlias : String}
  {start ns st : Attributes V}

theorem eval_member (hserves : W.Serves runtimeAlias c) (n : String) :
    W.evalUnit c.name c.unitParams st (.attribute c.ownerExpr n .load) =
      st (mangle c.name n) := by
  have howner := hserves.owner st
  rw [evalUnit] at howner ⊢
  rw [Meaning.eval, howner]
  simp [member]

theorem exec_storeStatic (hserves : W.Serves runtimeAlias c)
    (invoke : V → Attributes V → Option (Attributes V)) {name : String} {value : Expr} {v : V}
    (hv : W.evalUnit c.name c.unitParams st value = some v) :
    W.execStmt c.name invoke c.unitParams st
      (.expr ((c.copyScope runtimeAlias).storeStatic name value)) =
        some (st.set (mangle c.name name) v) := by
  have hruntime : W.evalUnit c.name c.unitParams st (.name runtimeAlias .load) =
      some W.runtime := hserves.runtime
  have howner := hserves.owner st
  simp only [ClassScope.storeStatic, execStmt, ClassModel.copyScope, hruntime, hv, howner,
    storeTo, if_true, Option.bind_some]

/-- A name read by an assignment has in the copy the value that it has in the class body. -/
theorem eval_rewriteName (hserves : W.Serves runtimeAlias c) (hreads : c.ReadsStraight body)
    {before : List Assignment} (hbefore : ∀ y ∈ before, y ∈ c.assignments)
    (hholds : Holds c before ns st) {n : String} {v : V}
    (hn : (c.retains n = false ∧ ∃ y ∈ before, y.name = n) ∨ c.Unbound body start n)
    (hunit : c.inScope n = false → n ∉ c.unitParams ∧ n ≠ "__class__")
    (hnone : c.Unbound body start n → ns (mangle c.name n) = none)
    (hv : W.readBody c.name ns n = some v) :
    W.evalUnit c.name c.unitParams st ((c.copyScope runtimeAlias).rewriteName n .load) =
      some v := by
  rcases hn with ⟨hretains, y, hy, rfl⟩ | hunbound
  · have hscope : c.inScope y.name = true := by
      have hmem := hbefore y hy
      rw [c.assignments_eq hreads] at hmem
      obtain ⟨s, hs, hsy⟩ := List.mem_filterMap.1 hmem
      exact List.contains_iff_mem.2 (hreads.stored s hs y hsy).1
    obtain ⟨u, hu, hst⟩ := hholds y hy hretains
    have hname : (c.copyScope runtimeAlias).rewriteName y.name .load =
        .attribute c.ownerExpr y.name .load := by
      have hscope' : (c.copyScope runtimeAlias).inScope y.name = true := hscope
      rw [ClassScope.rewriteName, hscope']
      rfl
    rw [hname, eval_member hserves, hst]
    rw [readBody, hu] at hv
    exact hv
  · have hfree := hnone hunbound
    obtain ⟨hscope, -, -⟩ := hunbound
    obtain ⟨hparams, hclass⟩ := hunit hscope
    have hname : (c.copyScope runtimeAlias).rewriteName n .load = .name n .load := by
      have hscope' : (c.copyScope runtimeAlias).inScope n = false := hscope
      rw [ClassScope.rewriteName, hscope']
      rfl
    rw [readBody, hfree] at hv
    have hread : W.evalUnit c.name c.unitParams st (.name n .load) =
        W.readUnit c.name c.unitParams n := rfl
    rw [hname, hread, readUnit, if_neg (by simp [hparams, hclass])]
    exact hv

/-- A body that has run as far as `pre`, and the copy with it: the class holds what has been stored,
and names that are not of the class are not of the namespace either. -/
structure InStep (c : ClassModel) (body : Block) (start : Attributes V) (pre : Block)
    (ns st : Attributes V) : Prop where
  holds : Holds c (pre.filterMap (·.assignment?)) ns st
  unbound : ∀ n ∈ c.used body, c.Unbound body start n → ns (mangle c.name n) = none

section Steps

variable {pre b : Block} {s : Stmt} {x : Assignment} {v : V} {ns₁ : Attributes V}

omit [DecidableEq V] in
theorem used_of_assigned (hreads : c.ReadsStraight body) {t : Stmt} (ht : t ∈ body)
    (hx : t.assignment? = some x) : x.name ∈ c.used body :=
  ClassModel.used_of_field (hreads.stored t ht x hx).2

omit [DecidableEq V] in
/-- What a step of the body leaves alone under every name that it does not bind. -/
theorem InStep.unbound_after (h : InStep c body start pre ns st) (hs : s ∈ body)
    (hkept : ∀ n ∈ c.used body, n ∉ s.binds →
      ns₁ (mangle c.name n) = ns (mangle c.name n)) :
    ∀ n ∈ c.used body, c.Unbound body start n → ns₁ (mangle c.name n) = none := by
  intro n hused hunbound
  rw [hkept n hused (hunbound.2.1 s hs)]
  exact h.unbound n hused hunbound

omit [DecidableEq V] in
/-- The copy has no part in a statement that is no assignment. -/
theorem InStep.other (hreads : c.ReadsStraight body) (hline : c.StraightLine body start)
    (hundisturbed : c.Undisturbed body) (h : InStep c body start pre ns st)
    (hbody : body = pre ++ s :: b) (hs : s.assignment? = none)
    (hother : ∀ a, a ∉ s.binds.map (mangle c.name) → ns₁ a = ns a) :
    InStep c body start (pre ++ [s]) ns₁ st := by
  have hmem : s ∈ body := by simp [hbody]
  have hkept : ∀ n ∈ c.used body, n ∉ s.binds →
      ns₁ (mangle c.name n) = ns (mangle c.name n) := by
    intro n hused hn
    refine hother _ fun hbound => ?_
    obtain ⟨m, hm, hsame⟩ := List.mem_map.1 hbound
    exact hn (hline.apart m (ClassModel.used_of_binds hmem hm) n hused hsame ▸ hm)
  refine ⟨?_, h.unbound_after hmem hkept⟩
  rw [List.filterMap_append, List.filterMap_cons_none hs, List.filterMap_nil, List.append_nil]
  intro y hy hretains
  obtain ⟨t, ht, hty⟩ := List.mem_filterMap.1 hy
  have hfield := (hreads.stored t (by simp [hbody, ht]) y hty).2
  rw [hkept y.name (ClassModel.used_of_field hfield)
    (hundisturbed.alone s hmem hs y.name hfield)]
  exact h.holds y hy hretains

/-- The copy of an assignment has the value that the body stores. -/
theorem InStep.eval_copied (hserves : W.Serves runtimeAlias c) (hreads : c.ReadsStraight body)
    (hline : c.StraightLine body start) (hundisturbed : c.Undisturbed body)
    (h : InStep c body start pre ns st) (hbody : body = pre ++ s :: b)
    (hs : s.assignment? = some x)
    (hv : W.eval (W.readBody c.name ns) (fun u a => W.members u (mangle c.name a)) x.value =
      some v) :
    W.evalUnit c.name c.unitParams st ((c.copyScope runtimeAlias).rewriteExpr x.value) =
      some v := by
  have hsplit : c.assignments =
      pre.filterMap (·.assignment?) ++ x :: b.filterMap (·.assignment?) := by
    rw [c.assignments_eq hreads, hbody, List.filterMap_append, List.filterMap_cons_some hs]
  have hx := ClassModel.mem_assignments hreads (by simp [hbody]) hs
  refine Meaning.eval_rewriteExpr _ _ (hline.isPlain hx) (fun n hn u hu => ?_) hv
  exact eval_rewriteName hserves hreads (fun y hy => by simp [hsplit, hy]) h.holds
    (hline.reads _ x _ hsplit n hn) (hundisturbed.reads x hx n hn)
    (h.unbound n (ClassModel.used_of_reads hx hn)) hu

/-- The copy of an assignment stores what the body stores, unless the name is retained. -/
theorem InStep.assign (hserves : W.Serves runtimeAlias c) (hreads : c.ReadsStraight body)
    (hline : c.StraightLine body start) (hundisturbed : c.Undisturbed body)
    (h : InStep c body start pre ns st) (hbody : body = pre ++ s :: b)
    (hs : s.assignment? = some x)
    (hv : W.eval (W.readBody c.name ns) (fun u a => W.members u (mangle c.name a)) x.value =
      some v)
    (hannot : ∀ a, a ∉ (Expr.bindsOption x.annot).map (mangle c.name) →
      ns₁ a = ns.set (mangle c.name x.name) v a) :
    ∃ st₁, (∀ invoke, W.execBlock c.name invoke c.unitParams
        ((c.copyScope runtimeAlias).copied x) st = some st₁) ∧
      InStep c body start (pre ++ [s]) ns₁ st₁ ∧
      ∀ a, (c.retains x.name = false → a ≠ mangle c.name x.name) → st₁ a = st a := by
  have hmem : s ∈ body := by simp [hbody]
  have hbinds := hundisturbed.annots x (ClassModel.mem_assignments hreads hmem hs)
  have hns₁ : ∀ a, ns₁ a = ns.set (mangle c.name x.name) v a := fun a => hannot a (by simp [hbinds])
  have hdone : (pre ++ [s]).filterMap (·.assignment?) = pre.filterMap (·.assignment?) ++ [x] := by
    rw [List.filterMap_append, List.filterMap_cons_some hs, List.filterMap_nil]
  have hapart : ∀ n ∈ c.used body, n ≠ x.name → mangle c.name n ≠ mangle c.name x.name :=
    fun n hused hne hsame => hne (hline.apart n hused _ (used_of_assigned hreads hmem hs) hsame)
  have hunbound : ∀ n ∈ c.used body, c.Unbound body start n → ns₁ (mangle c.name n) = none :=
      h.unbound_after hmem fun n hused hn => by
    have hne : n ≠ x.name := fun hn' => hn (hn' ▸ Stmt.mem_binds_of_assignment? hs)
    rw [hns₁, Attributes.set_of_ne _ _ (hapart n hused hne)]
  by_cases hretains : c.retains x.name = true
  · have hcopied : (c.copyScope runtimeAlias).copied x = [] := if_pos hretains
    have hholds : Holds c (pre.filterMap (·.assignment?) ++ [x]) ns₁ st := by
      refine h.holds.append_retained hretains fun y hy hne => ?_
      obtain ⟨t, ht, hty⟩ := List.mem_filterMap.1 hy
      have hused := used_of_assigned hreads (by simp [hbody, ht]) hty
      rw [hns₁, Attributes.set_of_ne _ _ (hapart _ hused hne)]
    exact ⟨st, fun _ => by rw [hcopied]; rfl, ⟨hdone ▸ hholds, hunbound⟩, fun _ _ => rfl⟩
  · have hcopied : (c.copyScope runtimeAlias).copied x =
        [.expr ((c.copyScope runtimeAlias).storeStatic x.name
          ((c.copyScope runtimeAlias).rewriteExpr x.value))] := if_neg hretains
    have hvalue := h.eval_copied hserves hreads hline hundisturbed hbody hs hv
    refine ⟨st.set (mangle c.name x.name) v, fun invoke => ?_,
      ⟨hdone ▸ h.holds.append_stored hns₁, hunbound⟩, fun a ha => ?_⟩
    · rw [hcopied, execBlock, exec_storeStatic hserves invoke hvalue]
      rfl
    · exact Attributes.set_of_ne _ _ (ha (by simpa using hretains))

end Steps

/-- Running the copy of what is left of the body: it keeps up with the body, and leaves alone what
it does not store. -/
theorem exec_copied (hserves : W.Serves runtimeAlias c) (hreads : c.ReadsStraight body)
    (hline : c.StraightLine body start) (hundisturbed : c.Undisturbed body) {b : Block}
    {ns ns' : Attributes V} (hrun : W.BodyRun c.name b ns ns') :
    ∀ {pre : Block} {st : Attributes V}, body = pre ++ b → InStep c body start pre ns st →
      ∃ st', (∀ invoke, W.execBlock c.name invoke c.unitParams
          ((b.filterMap (·.assignment?)).flatMap (c.copyScope runtimeAlias).copied) st =
            some st') ∧
        InStep c body start body ns' st' ∧
        ∀ a, (∀ x ∈ b.filterMap (·.assignment?), c.retains x.name = false →
          a ≠ mangle c.name x.name) → st' a = st a := by
  -- along the run of the body; `pre` is what has run, and `InStep` holds of it
  induction hrun with
  | nil =>
    intro pre st hbody h
    rw [List.append_nil] at hbody
    exact ⟨st, fun _ => rfl, hbody ▸ h, fun _ _ => rfl⟩
  | assign hs hv hannot _ ih =>
    intro pre st hbody h
    obtain ⟨st₁, hexec₁, h₁, hframe₁⟩ :=
      h.assign hserves hreads hline hundisturbed hbody hs hv hannot
    obtain ⟨st', hexec, h', hframe⟩ := ih (by simp [hbody]) h₁
    rw [List.filterMap_cons_some hs, List.flatMap_cons]
    refine ⟨st', fun invoke => ?_, h', fun a ha => ?_⟩
    · rw [execBlock_append, hexec₁]
      exact hexec invoke
    · rw [hframe a fun y hy => ha y (List.mem_cons_of_mem _ hy)]
      exact hframe₁ a (ha _ List.mem_cons_self)
  | other hs hother _ ih =>
    intro pre st hbody h
    rw [List.filterMap_cons_none hs]
    exact ih (by simp [hbody]) (h.other hreads hline hundisturbed hbody hs hother)

end Copy

end Surroundings

end StateWeave
