import Mathlib.Data.List.Forall2
import StateWeave.Proofs.Reading
import StateWeave.Proofs.Written

/-! References that a unit can express. A class that is not generic is named by its dotted path, and
a generic one only by the class parameter of its own units. Writing a unit out refuses all other
references, and qualifying a unit that keeps to its own class leaves none of them. -/

namespace StateWeave

open ClassModel (bind_eq_ok)

/-- What succeeds in one case and with one result alone does so when its result is used. -/
theorem bind_eq_ok_of_iff {α β : Type} {x : Except Fault α} {p : Prop} {a : α} {f : α → β} {b : β}
    (hx : ∀ a', x = .ok a' ↔ p ∧ a' = a) : (x >>= fun a' => .ok (f a')) = .ok b ↔ p ∧ b = f a := by
  rw [bind_eq_ok]
  simp only [hx]
  constructor
  · rintro ⟨_, ⟨hp, rfl⟩, hb⟩
    exact ⟨hp, (Except.ok.inj hb).symm⟩
  · rintro ⟨hp, rfl⟩
    exact ⟨a, ⟨hp, rfl⟩, rfl⟩

/-- Traversals succeed if every item does. -/
theorem mapM_eq_ok {α β ε : Type} {f : α → Except ε β} {xs : List α} {ys : List β} :
    xs.mapM f = .ok ys ↔ List.Forall₂ (fun x y => f x = .ok y) xs ys := by
  induction xs generalizing ys with
  | nil => cases ys <;> simp [pure, Except.pure]
  | cons x xs ih =>
    rw [List.mapM_cons]
    cases hx : f x with
    | error fault => cases ys <;> simp [bind, Except.bind, hx]
    | ok y =>
      cases hxs : xs.mapM f with
      | error fault => cases ys <;> simp [bind, Except.bind, ← ih, hx, hxs]
      | ok rest => cases ys <;> simp [bind, Except.bind, pure, Except.pure, ← ih, hx, hxs]

theorem exists_mapM_eq_ok {α β ε : Type} {f : α → Except ε β} {xs : List α} :
    (∃ ys, xs.mapM f = .ok ys) ↔ ∀ x ∈ xs, ∃ y, f x = .ok y := by
  simp only [mapM_eq_ok]
  induction xs with
  | nil => simp
  | cons x xs ih =>
    rw [List.forall_mem_cons, ← ih]
    constructor
    · rintro ⟨_, ⟨⟩⟩
      exact ⟨⟨_, ‹_›⟩, ⟨_, ‹_›⟩⟩
    · rintro ⟨⟨y, hy⟩, ys, hys⟩
      exact ⟨y :: ys, .cons hy hys⟩

theorem exists_of_mem_mapM {α β ε : Type} {f : α → Except ε β} {xs : List α} {ys : List β}
    (h : xs.mapM f = .ok ys) : ∀ y ∈ ys, ∃ x ∈ xs, f x = .ok y := by
  induction mapM_eq_ok.1 h with
  | nil => simp
  | cons hxy hrest ih =>
    rw [List.forall_mem_cons]
    refine ⟨⟨_, List.mem_cons_self, hxy⟩, fun y hy => ?_⟩
    obtain ⟨x, hx, hfx⟩ := ih (mapM_eq_ok.2 hrest) y hy
    exact ⟨x, List.mem_cons_of_mem _ hx, hfx⟩

namespace ClassModel

/-- These are the parameters of the class itself, in order. -/
structure Own (c : ClassModel) (arguments : List TypeArgument) : Prop where
  length : arguments.length = c.typeParams.length
  binder : ∀ i (h : i < arguments.length), arguments[i].binder = some (c.place, i)

/-- The same class, whatever has been added to it in the meantime. -/
structure SameClass (c d : ClassModel) : Prop where
  place : c.place = d.place
  typeParams : c.typeParams = d.typeParams

variable {c d : ClassModel}

theorem path_ne_nil (c : ClassModel) : c.path ≠ [] :=
  List.append_ne_nil_of_right_ne_nil _ (List.cons_ne_nil _ _)

theorem isIdentity_iff {arguments : List TypeArgument} :
    c.isIdentity arguments = true ↔ c.Own arguments := by
  rw [isIdentity, beq_iff_eq, List.ext_getElem_iff]
  simp only [ownArguments, List.length_map, List.length_mapIdx, List.getElem_map,
    List.getElem_mapIdx]
  constructor
  · rintro ⟨hlen, hsame⟩
    exact ⟨hlen, fun i h => hsame i h (hlen ▸ h)⟩
  · rintro ⟨hlen, hsame⟩
    exact ⟨hlen, fun i h _ => hsame i h⟩

theorem SameClass.isGeneric (h : c.SameClass d) : c.isGeneric = d.isGeneric := by
  rw [ClassModel.isGeneric, h.typeParams, ClassModel.isGeneric]

/-- Whether every type parameter of the class is a plain name. -/
def Resolved (c : ClassModel) : Prop :=
  ∀ p ∈ c.typeParams, p.resolved = true

theorem resolved_iff : c.Resolved ↔ c.unresolvedParameters.isEmpty = true := by
  simp [Resolved, unresolvedParameters]

/-- A class can be qualified if its parameters are plain names, and in no other case. -/
theorem qualified_eq_ok {r : TypeRef} : c.qualified = .ok r ↔ c.Resolved ∧ r = c.selfRef := by
  rw [qualified_eq, resolved_iff]
  split_ifs with h
  · simp [h, eq_comm]
  · simp [h]

theorem SameClass.resolved_iff (h : c.SameClass d) : c.Resolved ↔ d.Resolved := by
  rw [Resolved, h.typeParams, Resolved]

end ClassModel

namespace TypeRef

/-- Whether code of the unit can name the class. -/
def Reachable (u : ReloadUnit) : TypeRef → Prop
  | .plain c => c.isGeneric = false
  | .applied c arguments => c.place = u.home.place ∧ c.Own arguments ∧ u.kind = .cls

/-- The name of the class in the code of a unit. -/
def spelling : TypeRef → Expr
  | .plain c => .path (c.path.head c.path_ne_nil) c.path.tail
  | .applied _ _ => .name ReloadUnit.classParameter .load

/-- The class is this one, as it is written or applied to its own parameters. -/
inductive Names (c : ClassModel) : TypeRef → Prop
  | plain {d : ClassModel} (same : d.SameClass c) : Names c (.plain d)
  | applied {d : ClassModel} {arguments : List TypeArgument} (same : d.SameClass c)
      (generic : c.isGeneric = true) (own : d.Own arguments) : Names c (.applied d arguments)

/-- The class is this one, applied to its own parameters if it has any. -/
def NamesFully (c : ClassModel) (r : TypeRef) : Prop :=
  r.Names c ∧ ((∃ d arguments, r = .applied d arguments) ↔ c.isGeneric = true)

variable {u : ReloadUnit} {c : ClassModel} {r : TypeRef} {e : Expr}

theorem renderType_eq_ok : u.renderType r = .ok e ↔ r.Reachable u ∧ e = r.spelling := by
  cases r with
  | plain c =>
    rw [ReloadUnit.renderType, Reachable, spelling]
    split_ifs with hgeneric
    · simp [hgeneric]
    · split
      · next hpath => exact absurd hpath c.path_ne_nil
      · next head attrs hpath => simp [hpath, hgeneric, eq_comm]
  | applied c arguments =>
    rw [ReloadUnit.renderType, Reachable, spelling, ← ClassModel.isIdentity_iff]
    split_ifs with hother hreach
    · simp_all
    · have hnot : ¬(c.place = u.home.place ∧ u.kind = .cls) := by
        simpa [Decidable.imp_iff_not_or] using hreach
      exact iff_of_false (by simp) fun h => hnot ⟨h.1.1, h.1.2.2⟩
    · have hall : c.isIdentity arguments = true ∧ c.place = u.home.place ∧ u.kind = .cls := by
        simpa using And.intro hother hreach
      simp [hall, eq_comm]

theorem renderMember_eq_ok {m : MemberRef} {ctx : Ctx} : u.renderMember m ctx = .ok e ↔
    m.through.Reachable u ∧ e = .attribute m.through.spelling m.name ctx :=
  bind_eq_ok_of_iff fun _ => renderType_eq_ok

variable {r' : TypeRef}

theorem plain_not_applied : ¬∃ d arguments, TypeRef.plain c = .applied d arguments := by
  rintro ⟨d, arguments, h⟩
  cases h

theorem Names.exists_qualify (h : r.Names c) (hc : c.Resolved) : ∃ r', r.qualify = .ok r' := by
  cases h with
  | plain same => exact ⟨_, ClassModel.qualified_eq_ok.2 ⟨same.resolved_iff.2 hc, rfl⟩⟩
  | applied => exact ⟨_, rfl⟩

theorem Names.qualified (h : r.Names c) (hr : r.qualify = .ok r') : r'.NamesFully c := by
  cases h with
  | @plain d same =>
    obtain ⟨-, rfl⟩ := ClassModel.qualified_eq_ok.1 hr
    rw [ClassModel.selfRef, same.isGeneric]
    split_ifs with hgeneric
    · exact ⟨.applied same hgeneric (ClassModel.isIdentity_iff.1 d.isIdentity_ownArguments),
        iff_of_true ⟨_, _, rfl⟩ hgeneric⟩
    · exact ⟨.plain same, iff_of_false plain_not_applied hgeneric⟩
  | applied same generic own =>
    cases hr
    exact ⟨.applied same generic own, iff_of_true ⟨_, _, rfl⟩ generic⟩

/-- There is nothing left to qualify. -/
theorem NamesFully.qualify (h : r.NamesFully c) : r.qualify = .ok r := by
  obtain ⟨hnames, hfully⟩ := h
  cases hnames with
  | @plain d same =>
    have hgeneric : d.isGeneric = false := by
      rw [same.isGeneric, ← Bool.not_eq_true, ← hfully]
      exact plain_not_applied
    simp [TypeRef.qualify, ClassModel.qualified, hgeneric]
  | applied => rfl

theorem NamesFully.reachable (h : r.NamesFully u.home)
    (hkind : u.home.isGeneric = true → u.kind = .cls) : r.Reachable u := by
  obtain ⟨hnames, hfully⟩ := h
  cases hnames with
  | @plain d same =>
    rw [Reachable, same.isGeneric, ← Bool.not_eq_true, ← hfully]
    exact plain_not_applied
  | applied same generic own => exact ⟨same.place, own, hkind generic⟩

end TypeRef

namespace Instruction

/-- The class that the instruction names. -/
def through? : Instruction → Option TypeRef
  | .reset target _ => some target.through
  | .call method => some method.through
  | .invalid _ => none

/-- Whether the instruction names a class for which this holds. -/
def About (p : TypeRef → Prop) (i : Instruction) : Prop :=
  ∃ r, i.through? = some r ∧ p r

/-- The statement that the instruction is written as. -/
def spelled : Instruction → Stmt
  | .reset target zero =>
    .assign [.attribute target.through.spelling target.name .store] (.constant zero)
  | .call method => .expr (.call (.attribute method.through.spelling method.name .load) [] [])
  | .invalid _ => .pass

variable {u : ReloadUnit} {c : ClassModel} {i j : Instruction} {x : Stmt} {p q : TypeRef → Prop}

theorem About.imp (himp : ∀ r, p r → q r) : i.About p → i.About q := by
  rintro ⟨r, hr, hp⟩
  exact ⟨r, hr, himp r hp⟩

theorem about_iff {r : TypeRef} (h : i.through? = some r) : i.About p ↔ p r := by
  simp [About, h]

theorem renderInstruction_eq_ok :
    u.renderInstruction i = .ok x ↔ i.About (TypeRef.Reachable u) ∧ x = i.spelled := by
  cases i with
  | reset target zero =>
    rw [about_iff rfl]
    exact bind_eq_ok_of_iff fun _ => TypeRef.renderMember_eq_ok
  | call method =>
    rw [about_iff rfl]
    exact bind_eq_ok_of_iff fun _ => TypeRef.renderMember_eq_ok
  | invalid text => simp [ReloadUnit.renderInstruction, About, through?]

variable {r : TypeRef}

theorem qualify_eq (h : i.through? = some r) :
    i.qualify = (r.qualify >>= fun r' => .ok (i.via r')) := by
  cases i with
  | reset target zero =>
    cases h
    rw [qualify, MemberRef.qualify]
    cases target.through.qualify <;> rfl
  | call method =>
    cases h
    rw [qualify, MemberRef.qualify]
    cases method.through.qualify <;> rfl
  | invalid text => cases h

theorem through?_via (h : i.through? = some r) (r' : TypeRef) : (i.via r').through? = some r' := by
  cases i with
  | invalid text => cases h
  | _ => rfl

theorem via_self (h : i.through? = some r) : i.via r = i := by
  cases i with
  | invalid text => rfl
  | _ => cases h; rfl

theorem About.exists_qualify (h : i.About (TypeRef.Names c)) (hc : c.Resolved) :
    ∃ j, i.qualify = .ok j := by
  obtain ⟨r, hr, hnames⟩ := h
  obtain ⟨r', hr'⟩ := hnames.exists_qualify hc
  exact ⟨i.via r', by rw [qualify_eq hr, hr']; rfl⟩

theorem About.qualified (h : i.About (TypeRef.Names c)) (hj : i.qualify = .ok j) :
    j.About (TypeRef.NamesFully c) := by
  obtain ⟨r, hr, hnames⟩ := h
  rw [qualify_eq hr, bind_eq_ok] at hj
  obtain ⟨r', hr', ⟨⟩⟩ := hj
  exact ⟨r', through?_via hr r', hnames.qualified hr'⟩

theorem About.qualify_self (h : i.About (TypeRef.NamesFully c)) : i.qualify = .ok i := by
  obtain ⟨r, hr, hfully⟩ := h
  rw [qualify_eq hr, hfully.qualify]
  exact congrArg Except.ok (via_self hr)

end Instruction

/-- The instructions of a unit; copied statements are none. -/
def UnitBody.list : UnitBody → List Instruction
  | .instructions list => list
  | .source _ => []

namespace ReloadUnit

variable {u v : ReloadUnit} {runtimeAlias : String} {x : Stmt}

theorem renderInstructions_eq_mapM (u : ReloadUnit) (is : List Instruction) :
    u.renderInstructions is = is.mapM u.renderInstruction := by
  induction is with
  | nil => rfl
  | cons i is ih => rw [renderInstructions, ih, List.mapM_cons]

theorem qualifyAll_eq_mapM (is : List Instruction) :
    Instruction.qualifyAll is = is.mapM Instruction.qualify := by
  induction is with
  | nil => rfl
  | cons i is ih => rw [Instruction.qualifyAll, ih, List.mapM_cons]

/-- Instructions are written out exactly if the unit can name the classes of all of them. -/
theorem renderInstructions_eq_ok {is : List Instruction} {b : Block} :
    u.renderInstructions is = .ok b ↔
      (∀ i ∈ is, i.About (TypeRef.Reachable u)) ∧ b = is.map (·.spelled) := by
  rw [renderInstructions_eq_mapM, mapM_eq_ok]
  simp only [Instruction.renderInstruction_eq_ok]
  rw [List.forall₂_and_left]
  refine and_congr_right fun _ => ?_
  calc List.Forall₂ (fun i x => x = Instruction.spelled i) is b
      ↔ List.Forall₂ (fun i x => Instruction.spelled i = x) is b := by simp only [eq_comm]
    _ ↔ List.Forall₂ Eq (is.map (·.spelled)) b := List.forall₂_map_left_iff.symm
    _ ↔ b = is.map (·.spelled) := by rw [List.forall₂_eq_eq_eq, eq_comm]

/-- The head of the function that the unit is written as. -/
def header (u : ReloadUnit) (runtimeAlias : String) : FunctionHeader where
  isAsync := false
  name := u.name
  params := .ofNames u.parameters
  decorators := u.decorators runtimeAlias
  returns := some (.constant .null)
  typeParams := []

theorem qualify_eq_ok :
    u.qualify = .ok v ↔
      u.home.Resolved ∧ ∃ body, qualifyBody u.body = .ok body ∧ v = { u.settled with body } := by
  have hmatch : ∀ body, (match u.home.selfRef with
      | .plain _ => Except.ok
        { u with owner := some u.home.selfRef, body, kind := .static, parameters := [] }
      | .applied _ _ => .ok
        { u with owner := some u.home.selfRef, body, kind := .cls, parameters := [classParameter] })
      = (.ok { u.settled with body } : Except Fault ReloadUnit) := by
    intro body
    unfold settled ClassModel.selfRef
    cases u.home.isGeneric <;> rfl
  rw [qualify, bind_eq_ok]
  constructor
  · rintro ⟨owner, howner, h⟩
    obtain ⟨hres, rfl⟩ := ClassModel.qualified_eq_ok.1 howner
    obtain ⟨body, hbody, h⟩ := bind_eq_ok.1 h
    exact ⟨hres, body, hbody, (Except.ok.inj (h.symm.trans (hmatch body)))⟩
  · rintro ⟨hres, body, hbody, rfl⟩
    exact ⟨_, ClassModel.qualified_eq_ok.2 ⟨hres, rfl⟩, bind_eq_ok.2 ⟨body, hbody, hmatch body⟩⟩

/-- The unit can be written out, names its own class in the way its code has to, and has nothing
left to qualify. -/
structure FullyQualified (u : ReloadUnit) : Prop where
  accepted : ∀ runtimeAlias, ∃ x, u.render runtimeAlias = .ok x
  named : ∀ i ∈ u.body.list, i.About (TypeRef.NamesFully u.home)
  stable : u.qualify = .ok u

theorem exists_qualifyBody (h : ∀ i ∈ u.body.list, i.About (TypeRef.Names u.home))
    (hres : u.home.Resolved) : ∃ body, qualifyBody u.body = .ok body := by
  cases hbody : u.body with
  | source statements => exact ⟨_, rfl⟩
  | instructions is =>
    rw [hbody] at h
    obtain ⟨js, hjs⟩ := exists_mapM_eq_ok.2 fun i hi => (h i hi).exists_qualify hres
    rw [← qualifyAll_eq_mapM] at hjs
    exact ⟨_, bind_eq_ok.2 ⟨js, hjs, rfl⟩⟩

theorem named_of_qualifyBody (h : ∀ i ∈ u.body.list, i.About (TypeRef.Names u.home))
    {body : UnitBody} (hq : qualifyBody u.body = .ok body) :
    ∀ i ∈ body.list, i.About (TypeRef.NamesFully u.home) := by
  cases hbody : u.body with
  | source statements =>
    rw [hbody] at hq
    cases hq
    exact List.forall_mem_nil _
  | instructions is =>
    rw [hbody] at h hq
    obtain ⟨js, hjs, ⟨⟩⟩ := bind_eq_ok.1 hq
    rw [qualifyAll_eq_mapM] at hjs
    intro j hj
    obtain ⟨i, hi, hij⟩ := exists_of_mem_mapM hjs j hj
    exact (h i hi).qualified hij

theorem qualifyBody_of_named (h : ∀ i ∈ u.body.list, i.About (TypeRef.NamesFully u.home)) :
    qualifyBody u.body = .ok u.body := by
  cases hbody : u.body with
  | source statements => rfl
  | instructions is =>
    rw [hbody] at h
    have his : Instruction.qualifyAll is = .ok is := by
      rw [qualifyAll_eq_mapM, mapM_eq_ok, List.forall₂_same]
      exact fun i hi => (h i hi).qualify_self
    exact bind_eq_ok.2 ⟨is, his, rfl⟩

/-- Units that keep to their own class in the way its code has to are written out. -/
theorem exists_render (h : ∀ i ∈ u.body.list, i.About (TypeRef.NamesFully u.home))
    (hkind : u.home.isGeneric = true → u.kind = .cls) (howner : u.owner = some u.home.selfRef)
    (runtimeAlias : String) : ∃ x, u.render runtimeAlias = .ok x := by
  have hbody : ∃ b, u.renderBody runtimeAlias = .ok b := by
    cases hbody : u.body with
    | instructions is =>
      rw [hbody] at h
      have hreach : ∀ i ∈ is, i.About (TypeRef.Reachable u) := fun i hi =>
        (h i hi).imp fun _ hr => hr.reachable hkind
      rw [renderBody, hbody]
      exact ⟨_, renderInstructions_eq_ok.2 ⟨hreach, rfl⟩⟩
    | source statements =>
      have hscope : u.sourceScope runtimeAlias statements =
          .ok (u.classScope runtimeAlias u.home.ownerExpr) := by
        rw [sourceScope, renderOwner, howner]
        simp only [renderType_selfRef hkind]
      rw [renderBody, hbody]
      exact ⟨_, bind_eq_ok.2 ⟨_, hscope, rfl⟩⟩
  obtain ⟨b, hb⟩ := hbody
  exact ⟨_, bind_eq_ok.2 ⟨b, hb, rfl⟩⟩

theorem fullyQualified_of_qualify (h : ∀ i ∈ u.body.list, i.About (TypeRef.Names u.home))
    (hv : u.qualify = .ok v) : v.home = u.home ∧ v.FullyQualified := by
  obtain ⟨hres, body, hq, rfl⟩ := qualify_eq_ok.1 hv
  have hnamed := named_of_qualifyBody h hq
  refine ⟨rfl, ?_, hnamed, ?_⟩
  · refine exists_render hnamed (fun hgeneric => ?_) rfl
    exact if_pos hgeneric
  · have hbody := qualifyBody_of_named (u := { u.settled with body }) hnamed
    exact qualify_eq_ok.2 ⟨hres, body, hbody, rfl⟩

/-- Writing instructions out refuses exactly the references that the unit cannot reach: classes that
are not generic are named by their paths, and the class of the unit, if applied to its own
parameters, by the class parameter. A unit that keeps to its own class can be qualified exactly if
the type parameters of the class are plain names, and is then within reach for good. -/
theorem render_iff_reachable (u : ReloadUnit) (runtimeAlias : String) :
    (∀ is, u.body = .instructions is → ∀ x,
      u.render runtimeAlias = .ok x ↔
        (∀ i ∈ is, i.About (TypeRef.Reachable u)) ∧
          x = .functionDef (u.header runtimeAlias) (orPass (is.map (·.spelled)))) ∧
    ((∀ i ∈ u.body.list, i.About (TypeRef.Names u.home)) →
      ((∃ v, u.qualify = .ok v) ↔ u.home.Resolved) ∧
      ∀ v, u.qualify = .ok v → v.home = u.home ∧ v.FullyQualified) := by
  constructor
  · intro is his x
    have hbody : ∀ b, u.renderBody runtimeAlias = .ok b ↔
        (∀ i ∈ is, i.About (TypeRef.Reachable u)) ∧ b = is.map (·.spelled) := by
      intro b
      rw [renderBody, his]
      exact renderInstructions_eq_ok
    exact bind_eq_ok_of_iff hbody
  · intro hnames
    refine ⟨⟨?_, ?_⟩, fun v hv => fullyQualified_of_qualify hnames hv⟩
    · rintro ⟨v, hv⟩
      exact (qualify_eq_ok.1 hv).1
    · intro hres
      obtain ⟨body, hbody⟩ := exists_qualifyBody hnames hres
      exact ⟨_, qualify_eq_ok.2 ⟨hres, body, hbody, rfl⟩⟩

def box : ClassModel where
  place := [0]
  name := "Box"
  typeParams := [⟨"T", true⟩]

/-- A unit of a generic class that reaches the class in both ways. -/
def boxUnit : ReloadUnit where
  name := loadName
  home := box
  body := .instructions
    [.reset ⟨"size", .plain box⟩ (.int 0), .call ⟨"fill", .applied box box.ownArguments⟩]

/-- It is refused at first, and written out once it is qualified. -/
theorem render_iff_reachable_box :
    (∀ x, boxUnit.render "typereload" ≠ .ok x) ∧
    ∃ v, boxUnit.qualify = .ok v ∧ v.home = box ∧ v.FullyQualified := by
  obtain ⟨hrender, hqualify⟩ := render_iff_reachable boxUnit "typereload"
  constructor
  · intro x hx
    obtain ⟨_, ⟨⟩, hreach⟩ := ((hrender _ rfl x).1 hx).1 _ List.mem_cons_self
    cases hreach
  · have hsame : box.SameClass box := ⟨rfl, rfl⟩
    have hnames : ∀ i ∈ boxUnit.body.list, i.About (TypeRef.Names box) := by
      have hown := ClassModel.isIdentity_iff.1 box.isIdentity_ownArguments
      intro i hi
      rcases List.mem_pair.1 hi with rfl | rfl
      · exact ⟨_, rfl, .plain hsame⟩
      · exact ⟨_, rfl, .applied hsame rfl hown⟩
    obtain ⟨hiff, hfull⟩ := hqualify hnames
    obtain ⟨v, hv⟩ := hiff.2 (by simp [ClassModel.Resolved, boxUnit, box])
    exact ⟨v, hv, hfull v hv⟩

end ReloadUnit

end StateWeave
