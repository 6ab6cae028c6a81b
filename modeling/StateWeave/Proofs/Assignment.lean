import StateWeave.Proofs.Naming
import StateWeave.Proofs.References

/-! Values that are assigned to classes. An assignment writes one attribute of its class: the one the
name stands for, if the first class in the search order that has the name keeps a static property
there. The class reads the value back, classes that do not descend from it notice nothing, and
classes below it read the value as long as nothing in between is in its way. Names under which every
class answers by itself, such as `__name__`, have rules of their own. -/

namespace StateWeave

open ClassModel (bind_eq_ok)

/-- What every step of a fold keeps holds of its result. -/
theorem foldlM_invariant {ε α β : Type} {f : β → α → Except ε β} (inv : β → Prop)
    (step : ∀ b, inv b → ∀ a b', f b a = .ok b' → inv b') {start last : β} (xs : List α)
    (holds : inv start) (done : xs.foldlM f start = .ok last) : inv last := by
  induction xs generalizing start with
  | nil =>
    cases done
    exact holds
  | cons x xs ih =>
    rw [List.foldlM_cons] at done
    obtain ⟨next, now, rest⟩ := bind_eq_ok.1 done
    exact ih (step start holds x next now) rest

/-- Values that are read from a class as they were stored there. -/
def Value.isPlain : Value → Bool
  | .ref (.property _) | .ref (.member _) | .subscription _ => false
  | _ => true

theorem Value.readAs_of_plain {v : Value} (plain : v.isPlain = true) (next : Nat) :
    v.readAs next = v := by
  unfold readAs
  split
  · cases plain
  · cases plain
  · rfl

namespace Hierarchy

variable {h h' : Hierarchy} {c d s p next : Nat} {attr other written : String} {v : Value}
  {front : List Nat}

/-- The names under which every class answers by itself. -/
def factNames : List String :=
  ["__name__", "__qualname__", "__module__", "__doc__", "__class__", "__bases__", "__base__",
    "__mro__", "__text_signature__", "__annotations__", "__abstractmethods__"] ++ passingFacts

theorem fact?_eq_none (ordinary : attr ∉ factNames) : h.fact? c attr = none := by
  unfold fact?
  split
  all_goals first
    | rfl
    | exact absurd (by decide) ordinary

theorem setFact?_eq_none (ordinary : attr ∉ factNames) (kindOf : Value → String) :
    h.setFact? c attr v kindOf = none := by
  unfold setFact?
  split
  all_goals first
    | rfl
    | exact absurd (by decide) ordinary

theorem setFact?_ne_none (fact : attr ∈ factNames) (kindOf : Value → String) :
    h.setFact? c attr v kindOf ≠ none := by
  unfold setFact?
  dsimp only
  split
  all_goals first
    | exact Option.some_ne_none _
    | simp_all [factNames, passingFacts]

theorem backingName_not_fact (attr : String) : backingName attr ∉ factNames := by
  intro mem
  have endings : ∀ name ∈ factNames, "__backing__".toList.isSuffixOf name.toList = false := by
    decide
  exact backingName_ne (endings _ mem) rfl

/-- Whether a value is told its name, if it is a static property. -/
def isBound (h : Hierarchy) : Value → Bool
  | .ref (.property p) => (h.propertyAt p).name.isSome
  | _ => true

/-- Every class comes first in its own search order, and static properties that are held by classes
are bound to names. -/
structure Settled (h : Hierarchy) : Prop where
  first : ∀ c < h.classes.length, (h.classAt c).order.head? = some c
  bound : ∀ x ∈ h.classes, ∀ e ∈ x.own.entries, h.isBound e.2 = true

/-- Nothing changed but what concerns `c` and the search orders of its descendants. -/
structure ChangedAt (c : Nat) (h h' : Hierarchy) : Prop where
  elsewhere : ∀ d, d ≠ c → c ∉ (h.classAt d).order → h'.classAt d = h.classAt d
  own : ∀ d, d ≠ c → ∀ attr, h'.own? d attr = h.own? d attr
  properties : h'.properties = h.properties

/-! ### Reading elsewhere -/

theorem firstOwn?_congr {classes : List Nat}
    (same : ∀ d ∈ classes, h'.own? d attr = h.own? d attr) :
    h'.firstOwn? classes attr = h.firstOwn? classes attr := by
  unfold firstOwn?
  induction classes with
  | nil => rfl
  | cons d classes ih =>
    obtain ⟨first, rest⟩ := List.forall_mem_cons.1 same
    rw [List.findSome?_cons, List.findSome?_cons, first, ih rest]

namespace ChangedAt

variable (changed : ChangedAt c h h') (ne : d ≠ c) (apart : c ∉ (h.classAt d).order)
include changed ne apart

theorem lookup?_eq (attr : String) : h'.lookup? d attr = h.lookup? d attr := by
  rw [lookup?, lookup?, changed.elsewhere d ne apart]
  refine firstOwn?_congr fun e mem => changed.own e ?_ attr
  rintro rfl
  exact apart mem

theorem getWithin_eq (n : Nat) (attr : String) : h'.getWithin n d attr = h.getWithin n d attr := by
  induction n generalizing attr with
  | zero => rfl
  | succ n ih =>
    have backing (p : Nat) : h'.propertyAt p = h.propertyAt p := by
      rw [propertyAt, propertyAt, changed.properties]
    rw [getWithin, getWithin, changed.lookup?_eq ne apart, changed.elsewhere d ne apart]
    simp only [backing, ih]

theorem get_eq (attr : String) : h'.get d attr = h.get d attr := by
  rw [get, get, changed.properties, changed.getWithin_eq ne apart]

theorem fact?_eq (attr : String) : h'.fact? d attr = h.fact? d attr := by
  have value (p : Nat) : h'.getProperty p d = h.getProperty p d := by
    rw [getProperty, getProperty, propertyAt, propertyAt, changed.properties]
    simp only [changed.get_eq ne apart]
  simp only [fact?, changed.elsewhere d ne apart, value]

theorem answer_eq (next : Nat) (attr : String) : h'.answer next d attr = h.answer next d attr := by
  rw [answer, answer, changed.fact?_eq ne apart, changed.lookup?_eq ne apart,
    changed.get_eq ne apart]

end ChangedAt

/-! ### What writing changes -/

theorem changedAt_modifyClass (f : ClassObject → ClassObject) : ChangedAt c h (h.modifyClass c f) where
  elsewhere _ ne _ := classAt_modifyClass_of_ne f ne
  own d ne attr := by rw [own?, own?, classAt_modifyClass_of_ne f ne]
  properties := rfl

/-- A descendant of the changed class gets another search order. -/
theorem ChangedAt.reorder {k : Hierarchy} (changed : ChangedAt c h k)
    (below : c ∈ (k.classAt d).order) (order : List Nat) :
    ChangedAt c h (k.modifyClass d ({ · with order })) where
  elsewhere e ne apart := by
    have untouched : k.classAt e = h.classAt e := changed.elsewhere e ne apart
    have other : e ≠ d := by
      rintro rfl
      exact apart (untouched ▸ below)
    rw [classAt_modifyClass_of_ne _ other, untouched]
  own e ne attr := by
    rw [← changed.own e ne attr, own?, own?]
    rw [classAt_modifyClass_keeps ({ · with order }) (·.own) fun _ => rfl]
  properties := changed.properties

theorem rebase_ok {bases : List Nat} (present : c < h.classes.length)
    (done : h.rebase c bases = .ok h') :
    ChangedAt c h h' ∧ (h'.classAt c).bases = bases := by
  refine foldlM_invariant (fun k => ChangedAt c h k ∧ (k.classAt c).bases = bases) ?_ _ ?_ done
  · rintro k ⟨changed, written⟩ d k' reordered
    split at reordered
    · rename_i below
      split at reordered
      · rename_i order _
        cases reordered
        refine ⟨changed.reorder (List.contains_iff_mem.1 below) _, ?_⟩
        rw [classAt_modifyClass_keeps ({ · with order := d :: order }) (·.bases) fun _ => rfl,
          written]
      · cases reordered
    · cases reordered
      exact ⟨changed, written⟩
  · refine ⟨changedAt_modifyClass _, ?_⟩
    rw [classAt_modifyClass_self _ present]

/-- Bases that are accepted are a tuple of classes. -/
theorem setBases_ok {kindOf : Value → String} (done : h.setBases c v kindOf = .ok h') :
    ∃ bases : List Nat, v = .tuple (bases.map Value.ofClass) ∧ h.rebase c bases = .ok h' := by
  unfold setBases at done
  dsimp only at done
  split at done
  · cases done
  · rename_i vs _
    obtain ⟨bases, classes, done⟩ := bind_eq_ok.1 done
    split at done
    · cases done
    obtain ⟨base, best, done⟩ := bind_eq_ok.1 done
    split at done
    · cases done
    split at done
    · cases done
    split at done
    · cases done
    · refine ⟨bases, ?_, ?_⟩
      · congr 1
        have each := mapM_eq_ok.1 classes
        refine List.forall₂_eq_eq_eq ▸ (List.forall₂_map_right_iff.2 (each.imp fun v b same => ?_))
        split at same <;> cases same
        rfl
      · rcases reordered : h.rebase c bases with fault | k
        · rw [reordered] at done
          cases done
        · rw [reordered] at done
          cases done
          rfl
  · cases done

/-- The facts that are kept among the attributes. -/
def storedFacts : List String :=
  ["__module__", "__doc__", "__annotations__", "__abstractmethods__"]

/-- A fact that is written is stored among the attributes, or it is a name or the bases. -/
theorem setFact?_ok {kindOf : Value → String} (done : h.setFact? c attr v kindOf = some (.ok h')) :
    (attr ∈ storedFacts ∧ h' = h.store c attr v) ∨
    (∃ name, attr = "__name__" ∧ v = .text name ∧ h' = h.modifyClass c ({ · with name })) ∨
    (∃ qualname, attr = "__qualname__" ∧ v = .text qualname ∧
      h' = h.modifyClass c ({ · with qualname })) ∨
    (attr = "__bases__" ∧ h.setBases c v kindOf = .ok h') := by
  unfold setFact? at done
  dsimp only at done
  split at done
  · cases done
    exact .inr (.inl ⟨_, rfl, rfl, rfl⟩)
  · cases done
    exact .inr (.inr (.inl ⟨_, rfl, rfl, rfl⟩))
  case h_9 => exact .inr (.inr (.inr ⟨rfl, Option.some.inj done⟩))
  all_goals first
    | (cases done; exact .inl ⟨by decide, rfl⟩)
    | cases done

theorem changedAt_setFact? {kindOf : Value → String} (present : c < h.classes.length)
    (done : h.setFact? c attr v kindOf = some (.ok h')) : ChangedAt c h h' := by
  rcases setFact?_ok done with ⟨_, rfl⟩ | ⟨_, _, _, rfl⟩ | ⟨_, _, _, rfl⟩ | ⟨_, based⟩
  · exact changedAt_modifyClass _
  · exact changedAt_modifyClass _
  · exact changedAt_modifyClass _
  · obtain ⟨bases, _, moved⟩ := setBases_ok based
    exact (rebase_ok present moved).1

/-! ### Reading back -/

/-- What an assignment writes: the attribute behind a property, or the attribute itself. -/
theorem assigned_cases (assigned : h.assigned c attr = .ok written) :
    (∃ p, h.lookup? c attr = some (.ref (.property p)) ∧
      (h.propertyAt p).backing? = some written) ∨
    ((∀ p, h.lookup? c attr ≠ some (.ref (.property p))) ∧ written = attr) := by
  unfold Hierarchy.assigned at assigned
  split at assigned
  · rename_i p found
    split at assigned
    · cases assigned
    · rename_i backing bound
      cases assigned
      exact .inl ⟨p, found, bound⟩
  · rename_i other
    cases assigned
    exact .inr ⟨other, rfl⟩

theorem Settled.exists_assigned (settled : h.Settled) (c : Nat) (attr : String) :
    ∃ written, h.assigned c attr = .ok written := by
  unfold Hierarchy.assigned
  split
  · rename_i p found
    obtain ⟨d, _, held⟩ := List.exists_of_findSome?_eq_some found
    have known : h.classAt d ∈ h.classes := by
      rw [own?, classAt] at held
      rw [classAt]
      cases cls : h.classes[d]? with
      | none =>
        rw [cls] at held
        cases held
      | some x => exact List.mem_of_getElem? cls
    have named := settled.bound _ known _ (Table.mem_of_get? held)
    obtain ⟨name, named⟩ := Option.isSome_iff_exists.1 named
    simp [StaticProperty.backing?, named]
  · exact ⟨attr, rfl⟩

theorem firstOwn?_store {rest : List Nat} (present : c < h.classes.length)
    (clear : ∀ d ∈ front, h.own? d written = none) :
    (h.store c written v).firstOwn? (front ++ c :: rest) written = some v := by
  unfold firstOwn?
  induction front with
  | nil => rw [List.nil_append, List.findSome?_cons, own?_store_self present]
  | cons d front ih =>
    obtain ⟨first, later⟩ := List.forall_mem_cons.1 clear
    rw [List.cons_append, List.findSome?_cons]
    by_cases same : d = c
    · rw [same, own?_store_self present]
    · rw [own?_store_of_ne fun both => same both.1, first]
      exact ih later

theorem lookup?_of_clear (below : (h.classAt s).order = front ++ (h.classAt c).order)
    (clear : ∀ d ∈ front, h.own? d attr = none) : h.lookup? s attr = h.lookup? c attr := by
  rw [lookup?, lookup?, below, firstOwn?, List.findSome?_append,
    List.findSome?_eq_none_iff.2 clear, Option.none_or, firstOwn?]

theorem getWithin_of_lookup? (plain : v.isPlain = true) (found : h.lookup? s attr = some v) (n : Nat) :
    h.getWithin (n + 1) s attr = .ok v := by
  rw [getWithin, found]
  split <;> simp_all [Value.isPlain]

/-- What was written is found by the class and by every class whose search order comes down to it
through classes that hold neither of the two names. -/
theorem get_store (plain : v.isPlain = true) (present : c < h.classes.length)
    (first : (h.classAt c).order.head? = some c) (assigned : h.assigned c attr = .ok written)
    (below : (h.classAt s).order = front ++ (h.classAt c).order)
    (clear : ∀ d ∈ front, h.own? d attr = none ∧ h.own? d written = none) :
    (h.store c written v).get s attr = .ok v := by
  obtain ⟨rest, ordered⟩ := List.head?_eq_some_iff.1 first
  have stored : (h.store c written v).lookup? s written = some v := by
    rw [lookup?, order_store, below, ordered]
    exact firstOwn?_store present fun d mem => (clear d mem).2
  by_cases same : attr = written
  · subst same
    exact getWithin_of_lookup? plain stored _
  · obtain ⟨p, found, bound⟩ | ⟨_, direct⟩ := assigned_cases assigned
    · have kept : (h.store c written v).lookup? s attr = some (.ref (.property p)) := by
        rw [lookup?, order_store, firstOwn?_congr fun d _ => own?_store_of_ne fun both => same both.2,
          ← lookup?, lookup?_of_clear below fun d mem => (clear d mem).1, found]
      have counted : p < h.properties.length := by
        by_contra beyond
        rw [propertyAt, List.getElem?_eq_none (Nat.le_of_not_lt beyond)] at bound
        cases bound
      obtain ⟨n, fuel⟩ := Nat.exists_eq_add_of_lt counted
      have behind : ((h.store c written v).propertyAt p).backing? = some written := bound
      show (h.store c written v).getWithin (h.properties.length + 1) s attr = .ok v
      rw [getWithin, kept]
      dsimp only
      rw [behind, fuel]
      exact getWithin_of_lookup? plain stored _
    · exact absurd direct.symm same

/-- Where no fact stands in the way, a class answers what is found. -/
theorem answer_of_get (plain : v.isPlain = true) (noFact : h.fact? s attr = none)
    (lasting : attr ∉ passingFacts) (found : h.get s attr = .ok v) (next : Nat) :
    h.answer next s attr = .ok v := by
  have held : (h.lookup? s attr).isNone = false := by
    cases looked : h.lookup? s attr with
    | none =>
      rw [get, getWithin, looked] at found
      cases found
    | some _ => rfl
  have notMade : passingFacts.contains attr = false := by simpa using lasting
  rw [answer, noFact, held, notMade, found]
  simp [Except.map, v.readAs_of_plain plain]

theorem fact?_store (plain : v.isPlain = true) (present : c < h.classes.length)
    (own : (h.classAt c).isBuiltin = false) (kept : attr ∈ storedFacts) :
    (h.store c attr v).fact? c attr = none ∨ (h.store c attr v).fact? c attr = some (.ok v) := by
  have held : ((h.store c attr v).classAt c).own.get? attr = some v := own?_store_self present
  have ordinary : ((h.store c attr v).classAt c).isBuiltin = false := isBuiltin_store.trans own
  simp only [storedFacts, List.mem_cons, List.not_mem_nil, or_false] at kept
  rcases kept with rfl | rfl | rfl | rfl
  · simp only [fact?, held, Option.elim_some]
    split_ifs
    · exact .inl rfl
    · exact .inr rfl
  · simp only [fact?, held]
    split_ifs
    · exact .inl rfl
    · right
      split <;> simp_all [Value.isPlain]
  · simp only [fact?, held, ordinary, Bool.false_eq_true, if_false]
    right
    split <;> simp_all [Value.isPlain]
  · simp only [fact?, held]
    exact .inr rfl

theorem assigned_not_fact (ordinary : attr ∉ factNames) (assigned : h.assigned c attr = .ok written) :
    written ∉ factNames := by
  obtain ⟨p, _, bound⟩ | ⟨_, rfl⟩ := assigned_cases assigned
  · obtain ⟨name, _, rfl⟩ := Option.map_eq_some_iff.1 bound
    exact backingName_not_fact name
  · exact ordinary

theorem answer_store (plain : v.isPlain = true) (present : c < h.classes.length)
    (first : (h.classAt c).order.head? = some c) (ordinary : attr ∉ factNames)
    (assigned : h.assigned c attr = .ok written)
    (below : (h.classAt s).order = front ++ (h.classAt c).order)
    (clear : ∀ d ∈ front, h.own? d attr = none ∧ h.own? d written = none) (next : Nat) :
    (h.store c written v).answer next s attr = .ok v :=
  answer_of_get plain (fact?_eq_none ordinary) (fun mem => ordinary (List.mem_append_right _ mem))
    (get_store plain present first assigned below clear) next

/-- A fact that was written is what the class tells. -/
theorem answer_setFact? {kindOf : Value → String} (plain : v.isPlain = true)
    (present : c < h.classes.length) (own : (h.classAt c).isBuiltin = false)
    (first : (h.classAt c).order.head? = some c) (direct : h.assigned c attr = .ok attr)
    (done : h.setFact? c attr v kindOf = some (.ok h')) (next : Nat) :
    h'.answer next c attr = .ok v := by
  rcases setFact?_ok done with ⟨kept, rfl⟩ | ⟨name, rfl, rfl, rfl⟩ | ⟨name, rfl, rfl, rfl⟩ |
    ⟨rfl, based⟩
  · rcases fact?_store plain present own kept with noFact | told
    · refine answer_of_get plain noFact ?_ ?_ next
      · have apart : ∀ name ∈ storedFacts, name ∉ passingFacts := by decide
        exact apart attr kept
      · exact get_store plain present first direct (List.nil_append _).symm nofun
    · rw [answer, told]
  · simp [answer, fact?, classAt_modifyClass_self _ present]
  · simp [answer, fact?, classAt_modifyClass_self _ present]
  · obtain ⟨bases, rfl, moved⟩ := setBases_ok based
    simp [answer, fact?, (rebase_ok present moved).2]

namespace Wrote

variable {kindOf : Value → String} (wrote : h.Wrote c written v kindOf h')
  (present : c < h.classes.length)
include wrote present

theorem changedAt : ChangedAt c h h' := by
  rcases wrote with ⟨_, rfl⟩ | fact
  · exact changedAt_modifyClass _
  · exact changedAt_setFact? present fact

variable (plain : v.isPlain = true) (first : (h.classAt c).order.head? = some c)
  (assigned : h.assigned c attr = .ok written)
include plain first assigned

theorem answer_below (ordinary : attr ∉ factNames)
    (below : (h.classAt s).order = front ++ (h.classAt c).order)
    (clear : ∀ d ∈ front, h.own? d attr = none ∧ h.own? d written = none) (next : Nat) :
    h'.answer next s attr = .ok v := by
  rcases wrote with ⟨_, rfl⟩ | fact
  · exact answer_store plain present first ordinary assigned below clear next
  · rw [setFact?_eq_none (assigned_not_fact ordinary assigned)] at fact
    cases fact

theorem answer_self (own : (h.classAt c).isBuiltin = false)
    (direct : attr ∈ factNames → written = attr) (next : Nat) : h'.answer next c attr = .ok v := by
  by_cases fact : attr ∈ factNames
  · obtain rfl := direct fact
    rcases wrote with ⟨noFact, _⟩ | done
    · exact absurd noFact (setFact?_ne_none fact _)
    · exact answer_setFact? plain present own first assigned done next
  · exact wrote.answer_below present plain first assigned fact (List.nil_append _).symm nofun next

end Wrote

end Hierarchy

namespace World

variable {w : World} {c : Nat} {attr written : String} {v : Value}

theorem assignStatic_apply (assigned : w.rest.hierarchy.assigned c attr = .ok written) :
    assignStatic (Value.ofClass c) attr v w = writeTo (Value.ofClass c) written v w := by
  have known : hierarchy w = (.ok w.rest.hierarchy, w) := rfl
  unfold assignStatic Value.ofClass
  dsimp only
  rw [Act.bind_apply, known]
  dsimp only
  rw [assigned]

variable {h' : Hierarchy}

theorem attributeOf_class (d : Nat) (other : String) (w : World) :
    (attributeOf (Value.ofClass d) other w).1 =
      (w.rest.hierarchy.answer w.rest.passing d other).mapError .attribute :=
  classAttribute_apply d other w

/-- Assigning to a class writes the attribute that the name stands for. If the class cannot be
changed, or refuses the value under a name that has a rule of its own, nothing happens. Classes that
do not descend from it answer as before under every name. The class itself answers with the value,
unless it answers by itself under a name that a static property was given. A class whose search order
comes down to it through classes that hold neither the name nor what was written answers with the
value as well, unless every class answers by itself under the name. -/
theorem assigned_value_read (settled : w.rest.hierarchy.Settled)
    (present : c < w.rest.hierarchy.classes.length) (plain : v.isPlain = true) (attr : String) :
    ∃ written result w',
      w.rest.hierarchy.assigned c attr = .ok written ∧
      assignStatic (Value.ofClass c) attr v w = (result, w') ∧
      ((w.rest.hierarchy.classAt c).isBuiltin = false → written ∉ Hierarchy.factNames →
        result = .ok ()) ∧
      (∀ fault, result = .error fault → w' = w) ∧
      (∀ d other, c ∉ (w.rest.hierarchy.classAt d).order →
        (attributeOf (Value.ofClass d) other w').1 = (attributeOf (Value.ofClass d) other w).1) ∧
      (result = .ok () → (attr ∈ Hierarchy.factNames → written = attr) →
        (attributeOf (Value.ofClass c) attr w').1 = .ok v) ∧
      (result = .ok () → attr ∉ Hierarchy.factNames → ∀ s front,
        (w.rest.hierarchy.classAt s).order = front ++ (w.rest.hierarchy.classAt c).order →
        (∀ d ∈ front, w.rest.hierarchy.own? d attr = none ∧ w.rest.hierarchy.own? d written = none) →
        (attributeOf (Value.ofClass s) attr w').1 = .ok v) := by
  obtain ⟨written, assigned⟩ := settled.exists_assigned c attr
  have first := settled.first c present
  rcases writeTo_class_cases c written v w with ⟨fault, refused⟩ | ⟨h', done, own, wrote⟩
  · refine ⟨written, .error fault, w, assigned, (assignStatic_apply assigned).trans refused, ?_,
      fun _ _ => rfl, fun _ _ _ => rfl, nofun, nofun⟩
    intro own ordinary
    rw [writeTo_class own (Hierarchy.setFact?_eq_none ordinary _)] at refused
    cases refused
  · refine ⟨written, .ok (), _, assigned, (assignStatic_apply assigned).trans done, fun _ _ => rfl,
      nofun, ?_, ?_, ?_⟩
    · intro d other apart
      have ne : d ≠ c := by
        rintro rfl
        exact apart (List.mem_of_mem_head? first)
      rw [attributeOf_class, attributeOf_class]
      dsimp only
      rw [(wrote.changedAt present).answer_eq ne apart]
    · intro _ direct
      rw [attributeOf_class]
      dsimp only
      rw [wrote.answer_self present plain first assigned own direct]
      rfl
    · intro _ ordinary s front below clear
      rw [attributeOf_class]
      dsimp only
      rw [wrote.answer_below present plain first assigned ordinary below clear]
      rfl

/-- Three classes besides those of the language: the second one is below the first one, which has a
static property `n`, and the third one has a static property `__name__`. -/
def threeClasses : World :=
  { (default : World) with rest := { hierarchy := {
      classes := Builtin.classes ++ [
        { name := "A", qualname := "A", bases := [Builtin.object], order := [11, Builtin.object],
          own := ⟨[("n", .ref (.property 0)), ("n__backing__", .int 0)]⟩ },
        { name := "B", qualname := "B", bases := [11], order := [12, 11, Builtin.object] },
        { name := "C", qualname := "C", bases := [Builtin.object], order := [13, Builtin.object],
          own := ⟨[("__name__", .ref (.property 1)), ("__name____backing__", .text "n")]⟩ }]
      properties := [⟨.int 0, some "n"⟩, ⟨.text "n", some "__name__"⟩] } } }

theorem settled_threeClasses : threeClasses.rest.hierarchy.Settled where
  first := by decide
  bound := by decide

theorem assigned_value_read_threeClasses :
    threeClasses.rest.hierarchy.Settled ∧ 11 < threeClasses.rest.hierarchy.classes.length ∧
      (Value.int 5).isPlain = true ∧
      (attributeOf (Value.ofClass 12) "n"
        (assignStatic (Value.ofClass 11) "n" (.int 5) threeClasses).2).1 = .ok (.int 5) := by
  have present : 11 < threeClasses.rest.hierarchy.classes.length := by decide
  refine ⟨settled_threeClasses, present, rfl, ?_⟩
  obtain ⟨written, result, w', assigned, done, succeeds, -, -, -, below⟩ :=
    assigned_value_read settled_threeClasses present (v := .int 5) rfl "n"
  have backing : written = "n__backing__" := (Except.ok.inj assigned).symm
  subst backing
  rw [done]
  refine below (succeeds rfl (by decide)) (by decide) 12 [12] rfl ?_
  decide

/-- Every class answers by itself under `__name__`: a class below is not affected by what is assigned
there, and neither is a class that has a static property of this name. Other things than texts are
refused there, and classes of the language refuse everything. -/
theorem assigned_name_not_read :
    threeClasses.rest.hierarchy.Settled ∧
      (threeClasses.rest.hierarchy.classAt 12).order =
        [12] ++ (threeClasses.rest.hierarchy.classAt 11).order ∧
      threeClasses.rest.hierarchy.own? 12 "__name__" = none ∧
      threeClasses.rest.hierarchy.assigned 11 "__name__" = .ok "__name__" ∧
      (assignStatic (Value.ofClass 11) "__name__" (.text "Z") threeClasses).1 = .ok () ∧
      (attributeOf (Value.ofClass 12) "__name__"
        (assignStatic (Value.ofClass 11) "__name__" (.text "Z") threeClasses).2).1 =
          .ok (.text "B") ∧
      (assignStatic (Value.ofClass 13) "__name__" (.text "Y") threeClasses).1 = .ok () ∧
      (attributeOf (Value.ofClass 13) "__name__"
        (assignStatic (Value.ofClass 13) "__name__" (.text "Y") threeClasses).2).1 =
          .ok (.text "C") ∧
      (assignStatic (Value.ofClass 11) "__name__" (.int 5) threeClasses).1 =
        .error (.attribute (.notText "A" "__name__" "int")) ∧
      (assignStatic (Value.ofClass Builtin.int) "n" (.int 5) threeClasses).1 =
        .error (.attribute (.immutable "int" "n")) :=
  ⟨settled_threeClasses, rfl, rfl, rfl, rfl, rfl, rfl, rfl, rfl, rfl⟩

end World

end StateWeave
