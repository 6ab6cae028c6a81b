import StateWeave.Proofs.Ledger

/-! Values that are told the names they are stored under, when their class is made or when a reload
stores them again. A static property takes note of its name and gives the attribute behind it its
first value; an initializer takes note of its class. -/

namespace StateWeave

theorem backingName_inj {attr attr' : String} : backingName attr = backingName attr' ↔ attr = attr' := by
  simp [backingName]

theorem backingName_ne {attr name : String}
    (h : "__backing__".toList.isSuffixOf name.toList = false) : backingName attr ≠ name := by
  rintro rfl
  rw [backingName, String.toList_append, List.isSuffixOf_iff_suffix.2 (List.suffix_append ..)] at h
  cases h

theorem Act.bind_eq_ok {A σ E α β : Type} {x : Act A σ E α} {f : α → Act A σ E β} {b : β}
    {w w' : Site A σ} :
    (x >>= f) w = (.ok b, w') ↔ ∃ a v, x w = (.ok a, v) ∧ f a v = (.ok b, w') := by
  rw [bind_apply]
  rcases x w with ⟨e | a, v⟩
  · exact ⟨nofun, by rintro ⟨_, _, ⟨⟩, _⟩⟩
  · exact ⟨fun h => ⟨a, v, rfl, h⟩, by rintro ⟨_, _, ⟨⟩, h⟩; exact h⟩

namespace Hierarchy

variable {h : Hierarchy} {c d p : Nat} {attr other : String} {v : Value}

theorem classAt_modifyClass_of_ne (f : ClassObject → ClassObject) (ne : d ≠ c) :
    (h.modifyClass c f).classAt d = h.classAt d := by
  simp [classAt, modifyClass, Ne.symm ne]

theorem classAt_modifyClass_self (f : ClassObject → ClassObject) (present : c < h.classes.length) :
    (h.modifyClass c f).classAt c = f (h.classAt c) := by
  simp [classAt, modifyClass, present]

/-- What a change of a class keeps is kept wherever it stands. -/
theorem classAt_modifyClass_keeps {α : Type} (f : ClassObject → ClassObject)
    (g : ClassObject → α) (keeps : ∀ x, g (f x) = g x) (d : Nat) :
    g ((h.modifyClass c f).classAt d) = g (h.classAt d) := by
  unfold classAt modifyClass
  dsimp only
  rw [List.getElem?_modify]
  cases h.classes[d]? with
  | none => rfl
  | some x =>
    by_cases same : c = d
    · simpa [same] using keeps x
    · simp [same]

/-- The classes with an attribute of `c` written. -/
def store (h : Hierarchy) (c : Nat) (attr : String) (v : Value) : Hierarchy :=
  h.modifyClass c fun x => { x with own := x.own.insert attr v }

theorem own?_store_self (present : c < h.classes.length) :
    (h.store c attr v).own? c attr = some v := by
  simp [store, own?, classAt, modifyClass, present, Table.get?_insert_self]

theorem own?_store_of_ne (ne : ¬ (d = c ∧ other = attr)) :
    (h.store c attr v).own? d other = h.own? d other := by
  unfold store own? classAt modifyClass
  dsimp only
  rw [List.getElem?_modify]
  split_ifs with same
  · subst same
    have differ : attr ≠ other := fun e => ne ⟨rfl, e.symm⟩
    cases h.classes[c]? with
    | none => rfl
    | some x => exact Table.get?_insert_of_ne x.own differ v
  · simp

theorem order_store (d : Nat) :
    ((h.store c attr v).classAt d).order = (h.classAt d).order :=
  classAt_modifyClass_keeps (fun x => { x with own := x.own.insert attr v }) (·.order)
    (fun _ => rfl) d

theorem isBuiltin_store : ((h.store c attr v).classAt d).isBuiltin = (h.classAt d).isBuiltin :=
  classAt_modifyClass_keeps (fun x => { x with own := x.own.insert attr v }) (·.isBuiltin)
    (fun _ => rfl) d

/-- `h'` is what becomes of the classes when an attribute of a class is written. -/
def Wrote (h : Hierarchy) (c : Nat) (attr : String) (v : Value) (kindOf : Value → String)
    (h' : Hierarchy) : Prop :=
  (h.setFact? c attr v kindOf = none ∧ h' = h.store c attr v) ∨
    h.setFact? c attr v kindOf = some (.ok h')

theorem setFact?_backingName (kindOf : Value → String) :
    h.setFact? c (backingName attr) v kindOf = none := by
  unfold setFact?
  split
  any_goals exact absurd (by assumption) (backingName_ne rfl)
  rfl

/-- A property that is stored under the name of a fact is refused, unless the fact is an attribute
like any other. -/
theorem setFact?_property (h : Hierarchy) (c : Nat) (attr : String) (p : Nat)
    (kindOf : Value → String) :
    h.setFact? c attr (.ref (.property p)) kindOf = none ∨
      h.setFact? c attr (.ref (.property p)) kindOf =
        some (.ok (h.store c attr (.ref (.property p)))) ∨
      ∃ fault, h.setFact? c attr (.ref (.property p)) kindOf = some (.error fault) := by
  generalize same : (Value.ref (.property p)) = v
  unfold setFact?
  split
  -- no fact, an attribute like any other, a refusal whatever the value is, and one of properties;
  -- the other branches are for texts and classes
  all_goals first
    | exact .inl rfl
    | exact .inr (.inl rfl)
    | exact .inr (.inr ⟨_, rfl⟩)
    | (subst same; exact .inr (.inr ⟨_, rfl⟩))
    | cases same

theorem value_nameProperty (h : Hierarchy) (p q : Nat) (attr : String) :
    ((h.nameProperty p attr).propertyAt q).value = (h.propertyAt q).value := by
  unfold nameProperty propertyAt
  dsimp only
  rw [List.getElem?_modify]
  cases h.properties[q]? with
  | none => rfl
  | some x => split_ifs <;> rfl

theorem backing?_nameProperty (present : p < h.properties.length) :
    ((h.nameProperty p attr).propertyAt p).backing? = some (backingName attr) := by
  simp [nameProperty, propertyAt, StaticProperty.backing?, present]

end Hierarchy

namespace World

variable {w w₁ w' : World} {c d i p : Nat} {attr other : String} {v : Value}

/-- The class can be written to, and the value exists if it takes note of its name. -/
structure Ready (w : World) (c : Nat) (v : Value) : Prop where
  present : c < w.rest.hierarchy.classes.length
  own : (w.rest.hierarchy.classAt c).isBuiltin = false
  property : ∀ p, v = .ref (.property p) → p < w.rest.hierarchy.properties.length
  initializer : ∀ i, v = .ref (.initializer i) → i < w.rest.initializers.length

/-- What telling a value its name comes to: a property is bound to the name, and the attribute behind
it holds its first value; anything else writes at most the rule for subscriptions. -/
structure Told (c : Nat) (attr : String) (v : Value) (w w' : World) : Prop where
  ready : ∀ u, w.Ready c u → w'.Ready c u
  first : ∀ p, (w'.rest.hierarchy.propertyAt p).value = (w.rest.hierarchy.propertyAt p).value
  bound : ∀ p, v = .ref (.property p) →
    (w'.rest.hierarchy.propertyAt p).backing? = some (backingName attr) ∧
      w'.rest.hierarchy.own? c (backingName attr) = some (w.rest.hierarchy.propertyAt p).value
  frame : ∀ d other, (d = c → other ≠ subscriptionName ∧ other ≠ backingName attr) →
    w'.rest.hierarchy.own? d other = w.rest.hierarchy.own? d other

theorem nameProperty_class (own : (w.rest.hierarchy.classAt c).isBuiltin = false) (attr : String)
    (p : Nat) :
    nameProperty p (Value.ofClass c) attr w = (.ok (), { w with rest := { w.rest with
      hierarchy := (w.rest.hierarchy.nameProperty p attr).store c (backingName attr)
        ((w.rest.hierarchy.nameProperty p attr).propertyAt p).value } }) := by
  let v : World := { w with rest := { w.rest with
    hierarchy := w.rest.hierarchy.nameProperty p attr } }
  have names : onHierarchy (fun h => .ok (h.nameProperty p attr)) w = (.ok (), v) := rfl
  have known : hierarchy v = (.ok v.rest.hierarchy, v) := rfl
  rw [nameProperty, Act.bind_apply, names]
  dsimp only
  rw [Act.bind_apply, known]
  exact writeTo_class own (Hierarchy.setFact?_backingName _)

theorem Told.still (plain : ∀ p, v ≠ .ref (.property p)) : Told c attr v w w where
  ready _ ready := ready
  first _ := rfl
  bound p same := absurd same (plain p)
  frame _ _ _ := rfl

theorem told_property (ready : w.Ready c (.ref (.property p))) (attr : String) :
    ∃ w', nameValue (Value.ofClass c) attr (.ref (.property p)) w = (.ok (), w') ∧
      Told c attr (.ref (.property p)) w w' := by
  refine ⟨_, nameProperty_class ready.own attr p, ?_, ?_, ?_, ?_⟩
  · intro u before
    refine ⟨?_, Hierarchy.isBuiltin_store.trans before.own, fun q same => ?_, before.initializer⟩
    · simpa [Hierarchy.store, Hierarchy.modifyClass, Hierarchy.nameProperty] using before.present
    · simpa [Hierarchy.store, Hierarchy.modifyClass, Hierarchy.nameProperty] using
        before.property q same
  · exact fun q => Hierarchy.value_nameProperty _ p q attr
  · rintro q ⟨⟩
    refine ⟨Hierarchy.backing?_nameProperty (ready.property p rfl), ?_⟩
    rw [← Hierarchy.value_nameProperty w.rest.hierarchy p p attr]
    exact Hierarchy.own?_store_self ready.present
  · intro d other elsewhere
    exact Hierarchy.own?_store_of_ne fun same => (elsewhere same.1).2 same.2

theorem told_initializer (ready : w.Ready c (.ref (.initializer i))) (attr : String) :
    ∃ w', nameValue (Value.ofClass c) attr (.ref (.initializer i)) w = (.ok (), w') ∧
      Told c attr (.ref (.initializer i)) w w' := by
  have owning : nameValue (Value.ofClass c) attr (.ref (.initializer i)) w =
      install (initializerOf w.rest i).isGeneric i c (w.owned i c) :=
    setOwner_apply (ready.initializer i rfl) c
  have enough : ∀ u, w.Ready c u → (w.owned i c).Ready c u := fun u before =>
    ⟨before.present, before.own, before.property, fun j same => by
      simpa [owned] using before.initializer j same⟩
  have plain : ∀ p, Value.ref (.initializer i) ≠ .ref (.property p) := fun p same => by cases same
  rw [owning]
  cases (initializerOf w.rest i).isGeneric with
  | false => exact ⟨w.owned i c, rfl, enough, fun _ => rfl, fun p same => absurd same (plain p),
      fun _ _ _ => rfl⟩
  | true =>
    refine ⟨_, writeTo_class ready.own rfl, ?_, fun _ => rfl,
      fun p same => absurd same (plain p), ?_⟩
    · intro u before
      have before := enough u before
      refine ⟨?_, Hierarchy.isBuiltin_store.trans before.own, before.property, before.initializer⟩
      simpa [Hierarchy.modifyClass] using before.present
    · intro d other elsewhere
      exact Hierarchy.own?_store_of_ne fun same => (elsewhere same.1).1 same.2

theorem told_nameValue (ready : w.Ready c v) (attr : String) :
    ∃ w', nameValue (Value.ofClass c) attr v w = (.ok (), w') ∧ Told c attr v w w' := by
  cases v with
  | ref r =>
    cases r with
    | property p => exact told_property ready attr
    | initializer i => exact told_initializer ready attr
    | _ => exact ⟨w, rfl, .still nofun⟩
  | _ => exact ⟨w, rfl, .still nofun⟩

/-- Telling all values of a namespace their names gives every property its attribute, which no other
name of the namespace takes from it. -/
theorem told_all (entries : List (String × Value)) (distinct : (entries.map (·.1)).Nodup)
    (ready : ∀ e ∈ entries, w.Ready c e.2) :
    ∃ w', (entries.forM fun e => nameValue (Value.ofClass c) e.1 e.2) w = (.ok (), w') ∧
      (∀ attr p, (attr, .ref (.property p)) ∈ entries →
        w'.rest.hierarchy.own? c (backingName attr) =
          some (w.rest.hierarchy.propertyAt p).value) ∧
      ∀ d other, (d = c → other ≠ subscriptionName ∧ ∀ e ∈ entries, other ≠ backingName e.1) →
        w'.rest.hierarchy.own? d other = w.rest.hierarchy.own? d other := by
  induction entries generalizing w with
  | nil => exact ⟨w, rfl, nofun, fun _ _ _ => rfl⟩
  | cons e entries ih =>
    obtain ⟨fresh, distinct⟩ := List.nodup_cons.1 distinct
    obtain ⟨ready, later⟩ := List.forall_mem_cons.1 ready
    obtain ⟨w₁, first, told⟩ := told_nameValue ready e.1
    obtain ⟨w', rest, bound, frame⟩ := ih distinct fun e' mem => told.ready _ (later e' mem)
    refine ⟨w', ?_, ?_, ?_⟩
    · rw [List.forM, Act.bind_apply, first]
      exact rest
    · intro attr p mem
      rcases List.mem_cons.1 mem with rfl | mem
      · rw [frame c _ fun _ => ⟨backingName_ne rfl, fun e' mem' same => ?_⟩]
        · exact (told.bound p rfl).2
        · exact fresh (List.mem_map.2 ⟨e', mem', (backingName_inj.1 same).symm⟩)
      · rw [bound attr p mem, told.first]
    · intro d other elsewhere
      rw [frame d other fun same => ⟨(elsewhere same).1, fun e' mem => (elsewhere same).2 e' (.tail _ mem)⟩]
      exact told.frame d other fun same => ⟨(elsewhere same).1, (elsewhere same).2 e List.mem_cons_self⟩

/-- A write to a class is refused and changes nothing, or it writes a fact or an attribute of the
class. -/
theorem writeTo_class_cases (c : Nat) (attr : String) (v : Value) (w : World) :
    (∃ fault, writeTo (Value.ofClass c) attr v w = (.error fault, w)) ∨
    ∃ h', writeTo (Value.ofClass c) attr v w =
        (.ok (), { w with rest := { w.rest with hierarchy := h' } }) ∧
      (w.rest.hierarchy.classAt c).isBuiltin = false ∧
      w.rest.hierarchy.Wrote c attr v w.rest.kindOf h' := by
  have known : hierarchy w = (.ok w.rest.hierarchy, w) := rfl
  cases own : (w.rest.hierarchy.classAt c).isBuiltin with
  | true =>
    left
    refine ⟨.attribute (.immutable (w.rest.hierarchy.classAt c).name attr), ?_⟩
    unfold writeTo Value.ofClass
    rw [Act.get_bind_apply]
    simp only [own, if_true]
    rw [onHierarchy, Act.bind_apply, known]
    simp only [Hierarchy.set, own, if_true]
    rfl
  | false =>
    rcases fact : w.rest.hierarchy.setFact? c attr v w.rest.kindOf with _ | (fault | h')
    · exact .inr ⟨_, writeTo_class own fact, rfl, .inl ⟨fact, rfl⟩⟩
    · left
      unfold writeTo Value.ofClass
      rw [Act.get_bind_apply]
      simp only [own, Bool.false_eq_true, if_false, fact]
      rcases fault with fault | fault
      · exact ⟨.attribute fault, rfl⟩
      · exact ⟨.cls fault, rfl⟩
    · right
      refine ⟨h', ?_, rfl, .inr fact⟩
      unfold writeTo Value.ofClass
      rw [Act.get_bind_apply]
      simp only [own, Bool.false_eq_true, if_false, fact]
      rfl

/-- A property that is stored to a class is just an attribute, if the class takes it at all. -/
theorem writeTo_property
    (written : writeTo (Value.ofClass c) attr (.ref (.property p)) w = (.ok (), w₁)) :
    w₁ = { w with rest := { w.rest with
      hierarchy := w.rest.hierarchy.store c attr (.ref (.property p)) } } := by
  rcases writeTo_class_cases c attr (.ref (.property p)) w with
    ⟨fault, refused⟩ | ⟨h', done, -, ⟨-, rfl⟩ | fact⟩
  · rw [refused] at written
    cases written
  · rw [done] at written
    cases written
    rfl
  · rw [done] at written
    cases written
    rcases Hierarchy.setFact?_property w.rest.hierarchy c attr p w.rest.kindOf with
      noFact | stored | ⟨fault, refused⟩
    · rw [noFact] at fact
      cases fact
    · rw [stored] at fact
      cases fact
      rfl
    · rw [refused] at fact
      cases fact

/-- A property that is stored again gets its attribute like one that comes with its class. -/
theorem storeStatic_property (ready : w.Ready c (.ref (.property p)))
    (written : writeTo (Value.ofClass c) attr (.ref (.property p)) w = (.ok (), w₁)) :
    ∃ w', storeStatic (Value.ofClass c) attr (.ref (.property p)) w = (.ok (), w') ∧
      (w'.rest.hierarchy.propertyAt p).backing? = some (backingName attr) ∧
      w'.rest.hierarchy.own? c (backingName attr) =
        some (w.rest.hierarchy.propertyAt p).value := by
  obtain rfl := writeTo_property written
  let w₁ : World := { w with rest := { w.rest with
    hierarchy := w.rest.hierarchy.store c attr (.ref (.property p)) } }
  have stored : w₁.Ready c (.ref (.property p)) := ⟨by
      simpa [w₁, Hierarchy.store, Hierarchy.modifyClass] using ready.present,
    Hierarchy.isBuiltin_store.trans ready.own, ready.property, ready.initializer⟩
  obtain ⟨w', named, told⟩ := told_property stored attr
  refine ⟨w', ?_, told.bound p rfl⟩
  rw [storeStatic, Act.bind_apply, written]
  exact named

/-- The classes and the initializers are those of the world before. -/
def Unchanged (w w' : World) : Prop :=
  w'.rest.hierarchy = w.rest.hierarchy ∧ w'.rest.initializers = w.rest.initializers

theorem unchanged_of_looks {α : Type} {x : Run α} {result : Except Failure α}
    (looks : looking.Keeps x) (done : x w₁ = (result, w')) (same : Unchanged w w₁) :
    Unchanged w w' := by
  obtain ⟨passing, lists, after⟩ := looks w₁
  rw [done] at after
  dsimp only at after
  rw [after]
  exact same

/-- What is looked up and then checked leaves both alone. -/
theorem unchanged_of_checked {α β : Type} {fail : ClassFault → Failure}
    {x : Run (Except ClassFault α)} {f : α → Run β} {b : β} (looks : looking.Keeps x)
    (same : Unchanged w w₁)
    (done : (x >>= fun r => (ExceptT.mk (pure (r.mapError fail)) : Run α) >>= f) w₁ = (.ok b, w')) :
    ∃ a v, Unchanged w v ∧ f a v = (.ok b, w') := by
  obtain ⟨_, _, looked, done⟩ := Act.bind_eq_ok.1 done
  have same := unchanged_of_looks looks looked same
  obtain ⟨a, _, checked, done⟩ := Act.bind_eq_ok.1 done
  obtain rfl := congrArg Prod.snd checked
  exact ⟨a, _, same, done⟩

theorem makeClass_ok {run : Runner} {running : Option Value} {fail : ClassFault → Failure}
    {x : ClassObject} (made : makeClass run running fail x w = (.ok c, w')) :
    ∃ w₁ w₂ : World, w₁.rest.initializers = w.rest.initializers ∧
      w₁.rest.hierarchy.properties = w.rest.hierarchy.properties ∧
      c < w₁.rest.hierarchy.classes.length ∧
      (w₁.rest.hierarchy.classAt c).isBuiltin = false ∧
      (∃ bases layout, (w₁.rest.hierarchy.classAt c).own =
        settledNamespace c { x with bases := bases } layout) ∧
      ((w₁.rest.hierarchy.classAt c).own.entries.forM fun e =>
        nameValue (Value.ofClass c) e.1 e.2) w₁ = (.ok (), w₂) ∧
      tellAncestors run running c w₂ = (.ok (), w') := by
  obtain ⟨h, v, known, made⟩ := Act.bind_eq_ok.1 made
  obtain ⟨rfl, rfl⟩ : h = w.rest.hierarchy ∧ w = v := by
    cases known
    exact ⟨rfl, rfl⟩
  dsimp only at made
  generalize (if x.bases.isEmpty then [Builtin.object] else x.bases) = bases at made
  split at made
  case' isTrue =>
    obtain ⟨_, v, traced, made⟩ := Act.bind_eq_ok.1 made
    have same : Unchanged w v := by
      cases traced
      exact ⟨rfl, rfl⟩
  case' isFalse => have same : Unchanged w w := ⟨rfl, rfl⟩
  all_goals
    obtain ⟨layout, _, same, made⟩ := unchanged_of_checked (looks_layoutFor _ _) same made
    obtain ⟨qualname, _, same, made⟩ := unchanged_of_checked (looks_fullNameFor _) same made
    obtain ⟨order, v, same, made⟩ := unchanged_of_checked (looks_orderFor _) same made
    obtain ⟨_, w₁, placed, made⟩ := Act.bind_eq_ok.1 made
    obtain ⟨_, w₂, named, made⟩ := Act.bind_eq_ok.1 made
    obtain ⟨_, w₃, told, made⟩ := Act.bind_eq_ok.1 made
    obtain ⟨y, settled, open', classes⟩ : ∃ y : ClassObject,
        y.own = settledNamespace w.rest.hierarchy.classes.length { x with bases } layout ∧
        y.isBuiltin = false ∧ w₁.rest.hierarchy =
          { w.rest.hierarchy with classes := w.rest.hierarchy.classes ++ [y] } := by
      cases placed
      exact ⟨_, rfl, rfl, rfl⟩
    have initializers : w₁.rest.initializers = w.rest.initializers := by
      cases placed
      exact same.2
    cases made
    have last : w₁.rest.hierarchy.classAt w.rest.hierarchy.classes.length = y := by
      simp [Hierarchy.classAt, classes]
    refine ⟨w₁, w₂, initializers, by rw [classes], by simp [classes], by rw [last, open'],
      ⟨bases, layout, by rw [last, settled]⟩, ?_, told⟩
    rw [last, settled]
    exact named

theorem nodup_settledNamespace {x : ClassObject} (distinct : x.own.keys.Nodup) (c : Nat)
    (layout : Layout) : (settledNamespace c x layout).keys.Nodup := by
  have slots (names : List String) (t : Table String Value) (distinct : t.keys.Nodup) :
      (names.foldl (fun t name => t.insert name (.ref (.slot c name))) t).keys.Nodup := by
    induction names generalizing t with
    | nil => exact distinct
    | cons name names ih => exact ih _ (Table.nodup_insert distinct _ _)
  have own := slots layout.slots _ (Table.nodup_erase distinct "__qualname__")
  have hashed (t : Table String Value) (given : Bool) (attr : String) (distinct : t.keys.Nodup) :
      (if given then t.insert attr .null else t).keys.Nodup := by
    split
    · exact Table.nodup_insert distinct _ _
    · exact distinct
  have documented (t : Table String Value) (given : Bool) (attr : String)
      (distinct : t.keys.Nodup) : (if given then t else t.insert attr .null).keys.Nodup := by
    split
    · exact distinct
    · exact Table.nodup_insert distinct _ _
  unfold settledNamespace
  dsimp only [Table.keys]
  rw [List.map_map, List.map_congr_left (g := (·.1)) fun e _ => by
    dsimp only [Function.comp]
    split <;> rfl]
  exact hashed _ _ _ (documented _ _ _ own)

/-- A class that is made has all its properties backed before its ancestors hear of it. -/
theorem makeClass_backs {run : Runner} {running : Option Value} {fail : ClassFault → Failure}
    {x : ClassObject} (made : makeClass run running fail x w = (.ok c, w'))
    (distinct : x.own.keys.Nodup)
    (properties : ∀ e ∈ x.own.entries, ∀ p, e.2 = .ref (.property p) →
      p < w.rest.hierarchy.properties.length)
    (initializers : ∀ e ∈ x.own.entries, ∀ i, e.2 = .ref (.initializer i) →
      i < w.rest.initializers.length) :
    ∃ w₁ w₂ : World, (∃ bases layout, (w₁.rest.hierarchy.classAt c).own =
        settledNamespace c { x with bases := bases } layout) ∧
      tellAncestors run running c w₂ = (.ok (), w') ∧
      ∀ attr p, w₁.rest.hierarchy.own? c attr = some (.ref (.property p)) →
        w₂.rest.hierarchy.own? c (backingName attr) =
          some (w.rest.hierarchy.propertyAt p).value := by
  obtain ⟨w₁, w₂, sameInitializers, sameProperties, present, own, ⟨bases, layout, settled⟩, named,
    told⟩ := makeClass_ok made
  refine ⟨w₁, w₂, ⟨bases, layout, settled⟩, told, fun attr p held => ?_⟩
  have ready : ∀ e ∈ (w₁.rest.hierarchy.classAt c).own.entries, w₁.Ready c e.2 := by
    intro e mem
    rw [settled] at mem
    refine ⟨present, own, fun q same => ?_, fun i same => ?_⟩
    · obtain ⟨e', written, same'⟩ := mem_settledNamespace (fun _ _ h => by cases h) mem same
      exact sameProperties ▸ properties e' written q same'
    · obtain ⟨e', written, same'⟩ := mem_settledNamespace (fun _ _ h => by cases h) mem same
      exact sameInitializers ▸ initializers e' written i same'
  have keys : ((w₁.rest.hierarchy.classAt c).own.entries.map (·.1)).Nodup := by
    rw [settled]
    exact nodup_settledNamespace distinct c layout
  obtain ⟨w₂', named', bound, -⟩ := told_all _ keys ready
  obtain rfl : w₂' = w₂ := by
    rw [named] at named'
    exact (congrArg Prod.snd named').symm
  rw [bound attr p (Table.mem_of_get? held), Hierarchy.propertyAt, Hierarchy.propertyAt,
    sameProperties]

end World

end StateWeave
