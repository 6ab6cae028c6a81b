import Mathlib.Data.List.TakeWhile
import StateWeave.Proofs.Frame
import StateWeave.Proofs.Parts
import StateWeave.Proofs.Quotable

/-! The callbacks of a class: which of its methods they are, in which order they run, and the unit
that calls them. An order that is no whole number counts as zero and leaves a warning. The exceptions
are an order with a sum that has no float and one that the warning cannot quote: they stop the
analysis of the class. -/

namespace StateWeave

/-- A whole number as it is written, under at most one sign. -/
inductive WholeNumber : Expr → Int → Prop
  | bare (n : Int) : WholeNumber (.constant (.int n)) n
  | plus (n : Int) : WholeNumber (.unaryOp .plus (.constant (.int n))) n
  | minus (n : Int) : WholeNumber (.unaryOp .minus (.constant (.int n))) (-n)

/-- A whole number that is too large for a float, summed with an imaginary one. -/
inductive HugeSum : Expr → Prop
  | mk {left : Expr} {op : BinOp} {n : Int} (re im : String) (hop : op = .add ∨ op = .sub)
      (hleft : WholeNumber left n) (hn : Literal.floatBound ≤ n.natAbs) :
      HugeSum (.binOp left op (.constant (.complex re im)))

/-- The order that a keyword comes to. -/
inductive OrderOf : Option Expr → Int → Prop
  | missing : OrderOf none 0
  | given {e : Expr} {n : Int} (h : WholeNumber e n) : OrderOf (some e) n
  | unreadable {e : Expr} (h : ∀ n, ¬ WholeNumber e n) : OrderOf (some e) 0

/-! ### Reading an order -/

theorem UnloadCallback.literalOrder?_eq_some {e : Expr} {n : Int} :
    literalOrder? e = some n ↔ WholeNumber e n := by
  constructor
  · intro h
    unfold literalOrder? at h
    split at h <;> cases h
    · exact .bare _
    · exact .plus _
    · exact .minus _
  · rintro (_ | _ | _) <;> rfl

theorem orderOf_getD (keyword : Option Expr) :
    OrderOf keyword ((keyword.bind UnloadCallback.literalOrder?).getD 0) := by
  cases keyword with
  | none => exact .missing
  | some e =>
    cases h : UnloadCallback.literalOrder? e with
    | some n =>
      rw [Option.bind_some, h]
      exact .given (UnloadCallback.literalOrder?_eq_some.1 h)
    | none =>
      rw [Option.bind_some, h]
      refine .unreadable fun n hn => ?_
      rw [UnloadCallback.literalOrder?_eq_some.2 hn] at h
      cases h

namespace Literal

variable {e left right : Expr} {n : Int}

theorem number?_eq_whole (h : number? e = some (.whole n)) : e = .constant (.int n) := by
  unfold number? at h
  split at h <;> cases h
  rfl

theorem number?_eq_complex (h : number? e = some .complex) :
    ∃ re im, e = .constant (.complex re im) := by
  unfold number? at h
  split at h <;> cases h
  exact ⟨_, _, rfl⟩

theorem signed?_eq_whole (h : signed? e = some (.whole n)) : WholeNumber e n := by
  unfold signed? at h
  split at h
  · rw [number?_eq_whole h]
    exact .plus n
  · obtain ⟨x, hx, hneg⟩ := Option.map_eq_some_iff.1 h
    cases x with
    | whole m =>
      cases hneg
      rw [number?_eq_whole hx]
      exact .minus m
    | float | complex | other => cases hneg
  · rw [number?_eq_whole h]
    exact .bare n

theorem hugeSum_of_readSum {op : BinOp} (hop : op = .add ∨ op = .sub)
    (h : readSum left right = .error .outOfRange) : HugeSum (.binOp left op right) := by
  unfold readSum at h
  split at h
  · next x y hleft hright =>
    unfold sum at h
    split at h
    · split_ifs at h with hn
      obtain ⟨re, im, rfl⟩ := number?_eq_complex hright
      exact .mk re im hop (signed?_eq_whole hleft) hn
    · cases h
    · cases h
  · cases h

theorem outOfRange_mem_of_tuple {rs : List Reading} (h : tuple rs = .error .outOfRange) :
    .error .outOfRange ∈ rs := by
  induction rs with
  | nil => cases h
  | cons r rs ih =>
    cases r with
    | error fault =>
      obtain rfl : fault = .outOfRange := Except.error.inj h
      exact List.mem_cons_self
    | ok x =>
      cases hrest : tuple rs with
      | error fault =>
        simp only [tuple, hrest, bind, Except.bind] at h
        exact List.mem_cons_of_mem _ (ih (hrest.trans h))
      | ok rest => simp [tuple, hrest, bind, Except.bind, pure, Except.pure] at h

theorem outOfRange_mem_of_list {rs : List Reading} (h : list rs = .error .outOfRange) :
    .error .outOfRange ∈ rs := by
  refine outOfRange_mem_of_tuple ?_
  unfold list at h
  cases hrs : tuple rs with
  | error fault => rw [hrs] at h; exact h
  | ok x => rw [hrs] at h; cases h

theorem outOfRange_mem_of_set {rs : List Reading} (h : set rs = .error .outOfRange) :
    .error .outOfRange ∈ rs := by
  induction rs with
  | nil => cases h
  | cons r rs ih =>
    cases r with
    | error fault =>
      obtain rfl : fault = .outOfRange := Except.error.inj h
      exact List.mem_cons_self
    | ok x =>
      simp only [set, bind, Except.bind] at h
      split_ifs at h
      · exact List.mem_cons_of_mem _ (ih h)
      · cases h

theorem outOfRange_mem_of_dict {ks vs : List Reading} (h : dict ks vs = .error .outOfRange) :
    .error .outOfRange ∈ ks ++ vs := by
  fun_induction dict ks vs with
  | case1 => cases h
  | case2 k ks v vs ih =>
    cases k with
    | error fault =>
      obtain rfl : fault = .outOfRange := Except.error.inj h
      simp
    | ok key =>
      cases v with
      | error fault =>
        obtain rfl : fault = .outOfRange := Except.error.inj h
        simp
      | ok value =>
        simp only [bind, Except.bind] at h
        split_ifs at h
        · have := ih h
          simp only [List.mem_append, List.mem_cons] at this ⊢
          exact this.imp .inr .inr
        · cases h
  | case3 => cases h

theorem outOfRange_of_readNumber : readNumber e ≠ .error .outOfRange := by
  unfold readNumber
  split <;> simp

open StateWeave.Expr (parts partsList partsOption partsOptions)

mutual

/-- Nothing but a sum of this kind is out of range. -/
theorem exists_hugeSum : ∀ {e : Expr}, read e = .error .outOfRange → ∃ x ∈ e.parts, HugeSum x := by
  intro e h
  unfold read at h
  split at h
  · cases h
  · obtain ⟨x, hx, hsum⟩ := exists_hugeSum_list (outOfRange_mem_of_tuple h)
    exact ⟨x, List.mem_cons_of_mem _ hx, hsum⟩
  · obtain ⟨x, hx, hsum⟩ := exists_hugeSum_list (outOfRange_mem_of_list h)
    exact ⟨x, List.mem_cons_of_mem _ hx, hsum⟩
  · obtain ⟨x, hx, hsum⟩ := exists_hugeSum_list (outOfRange_mem_of_set h)
    exact ⟨x, List.mem_cons_of_mem _ hx, hsum⟩
  · split_ifs at h
    · rcases List.mem_append.1 (outOfRange_mem_of_dict h) with hmem | hmem
      · obtain ⟨x, hx, hsum⟩ := exists_hugeSum_keys hmem
        exact ⟨x, List.mem_cons_of_mem _ (List.mem_append_left _ hx), hsum⟩
      · obtain ⟨x, hx, hsum⟩ := exists_hugeSum_list hmem
        exact ⟨x, List.mem_cons_of_mem _ (List.mem_append_right _ hx), hsum⟩
    · cases h
  · cases h
  · exact ⟨_, List.mem_cons_self, hugeSum_of_readSum (.inl rfl) h⟩
  · exact ⟨_, List.mem_cons_self, hugeSum_of_readSum (.inr rfl) h⟩
  · exact absurd h outOfRange_of_readNumber

theorem exists_hugeSum_list : ∀ {es : List Expr}, .error .outOfRange ∈ readEach es →
    ∃ x ∈ partsList es, HugeSum x
  | [] => fun h => nomatch h
  | e :: es => by
    intro h
    rcases List.mem_cons.1 h with h | h
    · obtain ⟨x, hx, hsum⟩ := exists_hugeSum h.symm
      exact ⟨x, List.mem_append_left _ hx, hsum⟩
    · obtain ⟨x, hx, hsum⟩ := exists_hugeSum_list h
      exact ⟨x, List.mem_append_right _ hx, hsum⟩

theorem exists_hugeSum_keys : ∀ {ks : List (Option Expr)}, .error .outOfRange ∈ readKeys ks →
    ∃ x ∈ partsOptions ks, HugeSum x
  | [] => fun h => nomatch h
  | k :: ks => by
    intro h
    rcases List.mem_cons.1 h with h | h
    · obtain ⟨x, hx, hsum⟩ := exists_hugeSum_key h.symm
      exact ⟨x, List.mem_append_left _ hx, hsum⟩
    · obtain ⟨x, hx, hsum⟩ := exists_hugeSum_keys h
      exact ⟨x, List.mem_append_right _ hx, hsum⟩

theorem exists_hugeSum_key : ∀ {k : Option Expr}, readKey k = .error .outOfRange →
    ∃ x ∈ partsOption k, HugeSum x
  | none => fun h => nomatch h
  | some _ => exists_hugeSum

end

end Literal

/-! ### Methods that are callbacks -/

namespace Method

/-- What makes a method a callback of its class. -/
structure Qualifies (m : Method) : Prop where
  written : m.isGenerated = false
  sync : m.isAsync = false
  plain : m.typeParams = []
  silent : m.returns = none ∨ m.returns = some (.constant .null)
  /-- A class method is passed its class. -/
  callable : m.parameters.length ≤ if m.kind = .cls then 1 else 0
  marked : ∃ marker ∈ m.markers, marker.kind = .onTypeUnload

/-- The order keyword of the first marker that makes the method a callback. -/
def orderKeyword? (m : Method) : Option Expr :=
  (m.markers.find? (·.kind == .onTypeUnload)).bind (·.keywords.get? "order")

/-- The method is a callback, and its order keyword `e` is no whole number. -/
structure Unreadable (m : Method) (e : Expr) : Prop where
  qualifies : m.Qualifies
  keyword : m.orderKeyword? = some e
  unreadable : ∀ n, ¬ WholeNumber e n

/-- An order stops the analysis when a sum in it is out of range, or when the warning that it cannot
be read cannot quote it. -/
inductive Stops (m : Method) : Fault → Prop
  | outOfRange {e : Expr} (h : m.Unreadable e) (hread : Literal.read e = .error .outOfRange) :
    Stops m .orderOutOfRange
  | unwritable {e : Expr} {why : Unwritable} (h : m.Unreadable e)
      (hread : Literal.read e ≠ .error .outOfRange) (hsource : e.source = .error why) :
    Stops m (.unwritable why)

variable {m : Method} {e : Expr}

theorem returnsNothing_iff :
    m.returnsNothing = true ↔ m.returns = none ∨ m.returns = some (.constant .null) := by
  unfold returnsNothing
  split <;> simp_all

theorem hasParameters_eq_false_iff :
    m.hasParameters = false ↔ m.parameters.length ≤ if m.kind = .cls then 1 else 0 := by
  unfold hasParameters
  split <;> simp_all

theorem first?_isSome_iff :
    (Marker.first? .onTypeUnload m.markers).isSome = true ↔
      ∃ marker ∈ m.markers, marker.kind = .onTypeUnload := by
  simp [Marker.first?]

theorem marker?_of_qualifies (h : m.Qualifies) :
    UnloadCallback.marker? m = Marker.first? .onTypeUnload m.markers := by
  simp [UnloadCallback.marker?, h.written, h.sync, h.plain, hasParameters_eq_false_iff.2 h.callable,
    returnsNothing_iff.2 h.silent]

theorem qualifies_iff : m.Qualifies ↔ (UnloadCallback.marker? m).isSome = true := by
  constructor
  · intro h
    rw [marker?_of_qualifies h]
    exact first?_isSome_iff.2 h.marked
  · intro h
    unfold UnloadCallback.marker? at h
    split_ifs at h with hout
    · cases h
    · simp only [Bool.or_eq_true, not_or, Bool.not_eq_true, Bool.not_eq_false',
        List.isEmpty_iff] at hout
      obtain ⟨⟨⟨⟨hwritten, hplain⟩, hsync⟩, hcallable⟩, hsilent⟩ := hout
      exact ⟨hwritten, hsync, hplain, returnsNothing_iff.1 hsilent,
        hasParameters_eq_false_iff.1 hcallable, first?_isSome_iff.1 h⟩

instance : DecidablePred Qualifies := fun _ => decidable_of_iff _ qualifies_iff.symm

theorem marker?_of_not_qualifies (h : ¬ m.Qualifies) : UnloadCallback.marker? m = none := by
  simpa [qualifies_iff] using h

theorem exists_marker (h : m.Qualifies) :
    ∃ marker, UnloadCallback.marker? m = some marker ∧
      m.orderKeyword? = marker.keywords.get? "order" := by
  obtain ⟨marker, hmarker⟩ := Option.isSome_iff_exists.1 (qualifies_iff.1 h)
  have hfirst : m.markers.find? (·.kind == .onTypeUnload) = some marker :=
    (marker?_of_qualifies h).symm.trans hmarker
  exact ⟨marker, hmarker, by rw [orderKeyword?, hfirst, Option.bind_some]⟩

theorem ofMethod?_eq : UnloadCallback.ofMethod? m =
    if m.Qualifies then
      some ⟨m, (m.orderKeyword?.bind UnloadCallback.literalOrder?).getD 0⟩
    else none := by
  split_ifs with h
  · obtain ⟨marker, hmarker, hkeyword⟩ := exists_marker h
    simp [UnloadCallback.ofMethod?, hmarker, hkeyword]
  · simp [UnloadCallback.ofMethod?, marker?_of_not_qualifies h]

theorem givenOrder?_eq_some :
    UnloadCallback.givenOrder? m = some e ↔ m.Qualifies ∧ m.orderKeyword? = some e := by
  by_cases h : m.Qualifies
  · obtain ⟨marker, hmarker, hkeyword⟩ := exists_marker h
    simp [UnloadCallback.givenOrder?, hmarker, hkeyword, h]
  · simp [UnloadCallback.givenOrder?, marker?_of_not_qualifies h, h]

theorem unreadableOrder?_eq_some :
    UnloadCallback.unreadableOrder? m = some e ↔ m.Unreadable e := by
  have hnone : ∀ e', ¬ (UnloadCallback.literalOrder? e').isSome = true ↔
      ∀ n, ¬ WholeNumber e' n := fun e' => by
    simp [Option.isSome_iff_exists, UnloadCallback.literalOrder?_eq_some]
  constructor
  · intro h
    obtain ⟨e', hgiven, hread⟩ := Option.bind_eq_some_iff.1 h
    split_ifs at hread with hsome
    obtain rfl := Option.some.inj hread
    obtain ⟨hqualifies, hkeyword⟩ := givenOrder?_eq_some.1 hgiven
    exact ⟨hqualifies, hkeyword, (hnone e').1 hsome⟩
  · intro h
    refine Option.bind_eq_some_iff.2 ⟨e, givenOrder?_eq_some.2 ⟨h.qualifies, h.keyword⟩, ?_⟩
    rw [if_neg ((hnone e).2 h.unreadable)]

theorem isOutOfRange_iff : Literal.isOutOfRange e = true ↔ Literal.read e = .error .outOfRange := by
  unfold Literal.isOutOfRange
  split <;> simp_all

theorem orderFault?_of_unreadable (h : m.Unreadable e) :
    UnloadCallback.orderFault? m =
      if Literal.isOutOfRange e then some .orderOutOfRange
      else match e.source with
        | .ok _ => none
        | .error why => some (.unwritable why) := by
  rw [UnloadCallback.orderFault?, unreadableOrder?_eq_some.2 h]
  rfl

theorem orderFault?_eq_some {fault : Fault} :
    UnloadCallback.orderFault? m = some fault ↔ m.Stops fault := by
  constructor
  · intro hfault
    obtain ⟨e, hread, hcause⟩ := Option.bind_eq_some_iff.1 hfault
    have h := unreadableOrder?_eq_some.1 hread
    split_ifs at hcause with hrange
    · cases hcause
      exact .outOfRange h (isOutOfRange_iff.1 hrange)
    · cases hsource : e.source with
      | ok text => simp [hsource] at hcause
      | error why =>
        simp only [hsource, Option.some.injEq] at hcause
        subst hcause
        exact .unwritable h (fun hout => hrange (isOutOfRange_iff.2 hout)) hsource
  · rintro (⟨h, hread⟩ | ⟨h, hread, hsource⟩)
    · rw [orderFault?_of_unreadable h, if_pos (isOutOfRange_iff.2 hread)]
    · rw [orderFault?_of_unreadable h, if_neg fun hrange => hread (isOutOfRange_iff.1 hrange),
        hsource]

theorem orderFault?_eq_none : UnloadCallback.orderFault? m = none ↔ ∀ fault, ¬ m.Stops fault := by
  simp only [← orderFault?_eq_some, Option.eq_none_iff_forall_ne_some, ne_eq]

/-- An order that stops nothing can be quoted. -/
theorem Unreadable.source_eq_ok (h : m.Unreadable e) (hnone : UnloadCallback.orderFault? m = none) :
    ∃ source, e.source = .ok source := by
  rw [orderFault?_of_unreadable h] at hnone
  split_ifs at hnone
  cases hsource : e.source with
  | ok source => exact ⟨source, rfl⟩
  | error why => simp [hsource] at hnone

/-- What stops the analysis is part of the order. -/
theorem Stops.cause {fault : Fault} (h : m.Stops fault) :
    ∃ e, m.Unreadable e ∧ ((∃ x ∈ e.parts, HugeSum x) ∨ e.isQuotable = false) := by
  rcases h with ⟨h, hread⟩ | ⟨h, -, hsource⟩
  · exact ⟨_, h, .inl (Literal.exists_hugeSum hread)⟩
  · exact ⟨_, h, .inr (Expr.isQuotable_eq_false hsource)⟩

end Method

namespace ClassModel

/-- The records that reading the orders of these methods leaves: one for each callback with an order
that is given and is no whole number. -/
inductive Warned (path : String) : List Method → List LogRecord → Prop
  | nil : Warned path [] []
  | quiet {m : Method} {ms : List Method} {records : List LogRecord} (h : ∀ e, ¬ m.Unreadable e) :
      Warned path ms records → Warned path (m :: ms) records
  | warning {m : Method} {ms : List Method} {records : List LogRecord} {e : Expr} {source : String}
      (h : m.Unreadable e) (hsource : e.source = .ok source) : Warned path ms records →
      Warned path (m :: ms)
        (⟨.warning, .callbacks, unreadableOrderMessage path m.name source⟩ :: records)

/-- These are the callbacks of the class, each once for each declaration, in the order in which they
run. -/
structure Collected (c : ClassModel) (callbacks : List UnloadCallback) : Prop where
  exact : (callbacks.map (·.method)).Perm (c.methods.filter (·.Qualifies))
  orders : ∀ cb ∈ callbacks, OrderOf cb.method.orderKeyword? cb.order
  ascending : callbacks.Pairwise (·.order ≤ ·.order)
  /-- Callbacks of one order run as they are declared. -/
  ties : ∀ n, ((callbacks.filter (·.order = n)).map (·.method)).Sublist c.methods

/-- Methods that stop nothing are warned of as they are declared. -/
theorem warned_filterMap (c : ClassModel) {ms : List Method}
    (h : ∀ m ∈ ms, UnloadCallback.orderFault? m = none) :
    Warned c.lexicalPath ms (ms.filterMap c.orderWarning?) := by
  induction ms with
  | nil => exact .nil
  | cons m ms ih =>
    have hrest := ih fun m' hm' => h m' (List.mem_cons_of_mem _ hm')
    cases hread : UnloadCallback.unreadableOrder? m with
    | none =>
      rw [List.filterMap_cons_none (by simp [orderWarning?, hread])]
      refine .quiet (fun e he => ?_) hrest
      rw [Method.unreadableOrder?_eq_some.2 he] at hread
      cases hread
    | some e =>
      have hunread := Method.unreadableOrder?_eq_some.1 hread
      obtain ⟨source, hsource⟩ := hunread.source_eq_ok (h m List.mem_cons_self)
      rw [List.filterMap_cons_some (by simp [orderWarning?, hread, hsource]; rfl)]
      exact .warning hunread hsource hrest

theorem map_method_filterMap (ms : List Method) :
    (ms.filterMap UnloadCallback.ofMethod?).map (·.method) = ms.filter (·.Qualifies) := by
  induction ms with
  | nil => rfl
  | cons m ms ih =>
    by_cases h : m.Qualifies
    · rw [List.filterMap_cons_some (by rw [Method.ofMethod?_eq, if_pos h]), List.map_cons, ih,
        List.filter_cons_of_pos (by simpa using h)]
    · rw [List.filterMap_cons_none (by rw [Method.ofMethod?_eq, if_neg h]), ih,
        List.filter_cons_of_neg (by simpa using h)]

theorem order_trans (a b c : UnloadCallback) (hab : decide (a.order ≤ b.order) = true)
    (hbc : decide (b.order ≤ c.order) = true) : decide (a.order ≤ c.order) = true := by
  simp only [decide_eq_true_eq] at *
  exact Int.le_trans hab hbc

theorem order_total (a b : UnloadCallback) :
    (decide (a.order ≤ b.order) || decide (b.order ≤ a.order)) = true := by
  simpa using Int.le_total a.order b.order

/-- Sorting leaves callbacks of one order as they are. -/
theorem filter_order_callbacks (c : ClassModel) (n : Int) :
    c.callbacks.filter (·.order = n)
      = (c.methods.filterMap UnloadCallback.ofMethod?).filter (·.order = n) := by
  unfold callbacks
  generalize c.methods.filterMap UnloadCallback.ofMethod? = cbs
  have htied : (cbs.filter (·.order = n)).Pairwise fun a b => decide (a.order ≤ b.order) = true :=
    List.pairwise_of_forall_mem_list fun a ha b hb => by
      simp only [List.mem_filter, decide_eq_true_eq] at ha hb ⊢
      exact Int.le_of_eq (ha.2.trans hb.2.symm)
  have hsub := (List.sublist_mergeSort order_trans order_total htied List.filter_sublist).filter
    (·.order = n)
  rw [List.filter_filter] at hsub
  simp only [Bool.and_self] at hsub
  exact (hsub.eq_of_length ((List.mergeSort_perm cbs _).filter _).length_eq.symm).symm

theorem collected_callbacks (c : ClassModel) : c.Collected c.callbacks where
  exact := by
    rw [← map_method_filterMap]
    exact (List.mergeSort_perm _ _).map _
  orders cb hcb := by
    obtain ⟨m, -, hm⟩ := List.mem_filterMap.1 (List.mem_mergeSort.1 hcb)
    rw [Method.ofMethod?_eq] at hm
    split_ifs at hm
    obtain rfl := Option.some.inj hm
    exact orderOf_getD _
  ascending := by
    simpa [callbacks] using List.pairwise_mergeSort order_trans order_total
      (c.methods.filterMap UnloadCallback.ofMethod?)
  ties n := by
    rw [filter_order_callbacks]
    have hsub := (List.filter_sublist (p := fun cb : UnloadCallback => cb.order = n)
      (l := c.methods.filterMap UnloadCallback.ofMethod?)).map (·.method)
    rw [map_method_filterMap] at hsub
    exact hsub.trans List.filter_sublist

/-- Without callbacks there is no unit; else the unit is a function of the class that calls them one
after the other, unless the type parameters of the class keep it from being written. -/
structure CallsInTurn (c : ClassModel) (callbacks : List UnloadCallback) : Prop where
  none_iff : ReloadUnit.unload? c callbacks = none ↔ callbacks = []
  rendered : ∀ u ∈ ReloadUnit.unload? c callbacks, ∀ runtimeAlias : String,
    (u.qualify >>= (·.render runtimeAlias)) =
      if c.unresolvedParameters.isEmpty then
        .ok (Weave.unitFunction runtimeAlias c ReloadUnit.unloadName
          (callbacks.map fun cb => .expr (.call (.attribute c.ownerExpr cb.method.name .load) [] [])))
      else .error (.unresolvedParameters c.unresolvedParameters c.lexicalPath)

theorem callsInTurn (c : ClassModel) (callbacks : List UnloadCallback) :
    c.CallsInTurn callbacks where
  none_iff := by simp [ReloadUnit.unload?]
  rendered u hu runtimeAlias := by
    obtain ⟨hhome, hlocal⟩ := Weave.unload?_local hu
    rw [ReloadUnit.render_of_local hlocal, hhome]
    simp only [ReloadUnit.unload?, Option.mem_def, Option.ite_none_left_eq_some,
      Option.some.injEq] at hu
    obtain ⟨hne, rfl⟩ := hu
    cases callbacks with
    | nil => exact absurd rfl hne
    | cons cb cbs =>
      simp [ReloadUnit.written, ReloadUnit.writtenBody, Weave.unitFunction, orPass,
        Function.comp_def, Instruction.written]

theorem collectCallbacks_apply (c : ClassModel) (records : List LogRecord) :
    c.collectCallbacks records =
      (match c.orderFault? with
        | some fault => .error fault
        | none => .ok c.callbacks, records ++ c.callbackWarnings) := by
  unfold collectCallbacks
  cases c.orderFault? <;> rfl

/-- Collecting the callbacks of a class gives each of them once, in the order in which the unit for
unloading calls them, and leaves a warning for each order that cannot be read. It stops only at the
first callback with an order that stops it: one that sums a whole number up that is too large for a
float, or one that the warning cannot quote. -/
theorem collectCallbacks_cases (c : ClassModel) (records : List LogRecord) :
    ((∀ m ∈ c.methods, ∀ fault, ¬ m.Stops fault) ∧
      ∃ callbacks warnings,
        c.collectCallbacks records = (.ok callbacks, records ++ warnings) ∧
        c.Collected callbacks ∧ Warned c.lexicalPath c.methods warnings ∧
        c.CallsInTurn callbacks) ∨
    ∃ before m after fault warnings, c.methods = before ++ m :: after ∧
      (∀ m' ∈ before, ∀ fault', ¬ m'.Stops fault') ∧ m.Stops fault ∧
      (∃ e, m.Unreadable e ∧ ((∃ x ∈ e.parts, HugeSum x) ∨ e.isQuotable = false)) ∧
      c.collectCallbacks records = (.error fault, records ++ warnings) ∧
      Warned c.lexicalPath before warnings := by
  rw [collectCallbacks_apply]
  cases hfault : c.orderFault? with
  | none =>
    have hnone : ∀ m ∈ c.methods, UnloadCallback.orderFault? m = none :=
      List.findSome?_eq_none_iff.1 hfault
    have hwarnings : c.callbackWarnings = c.methods.filterMap c.orderWarning? := by
      rw [callbackWarnings, List.takeWhile_eq_self_iff.2 fun m hm => by simp [hnone m hm]]
    exact .inl ⟨fun m hm => Method.orderFault?_eq_none.1 (hnone m hm), _, _, rfl,
      c.collected_callbacks, hwarnings ▸ warned_filterMap c hnone, c.callsInTurn _⟩
  | some fault =>
    obtain ⟨before, m, after, hmethods, hm, hbefore⟩ := List.findSome?_eq_some_iff.1 hfault
    have hstops := Method.orderFault?_eq_some.1 hm
    have hwarnings : c.callbackWarnings = before.filterMap c.orderWarning? := by
      rw [callbackWarnings, hmethods,
        List.takeWhile_append_of_pos fun m' hm' => by simp [hbefore m' hm'],
        List.takeWhile_cons_of_neg (by simp [hm]), List.append_nil]
    exact .inr ⟨before, m, after, fault, _, hmethods,
      fun m' hm' => Method.orderFault?_eq_none.1 (hbefore m' hm'), hstops, hstops.cause, rfl,
      hwarnings ▸ warned_filterMap c hbefore⟩

/-- A callback whose order is given by this expression. -/
def unloadWith (name : String) (order : Expr) : Method where
  name := name
  kind := .static
  markers := [⟨.onTypeUnload, ⟨[("order", order)]⟩⟩]

example : (callbacks { name := "A", methods := [unloadWith "flush" (.constant (.int 2)),
    unloadWith "stop" (.unaryOp .minus (.unaryOp .minus (.constant (.int 3)))),
    unloadWith "close" (.unaryOp .minus (.constant (.int 1))),
    unloadWith "save" (.constant (.bool true))] }).map (fun cb => (cb.method.name, cb.order))
      = [("close", -1), ("stop", 0), ("save", 0), ("flush", 2)] := by
  cbv

end ClassModel

end StateWeave
