import StateWeave.Proofs.Classes

/-! What grafting does to a module. The bodies of the class statements that were read grow at their
ends, by what their own class is given; all other statements, and the bodies of enums, stay. Cutting
the same number of statements off again gives back the module. -/

namespace StateWeave

namespace Weave

/-- `b'` is `b` with what each of the classes is given at the end of its body. -/
inductive Extends (added : ClassModel → Block) : List ClassTree → Block → Block → Prop
  | nil : Extends added [] [] []
  | keep {s : Stmt} {ts : List ClassTree} {b b' : Block} (hs : s.isClass = false)
    (hb : Extends added ts b b') : Extends added ts (s :: b) (s :: b')
  | enum {c : ClassModel} {h : ClassHeader} {body : Block} {ts : List ClassTree} {b b' : Block}
    (hc : c.isEnum = true) (hname : c.name = h.name) (hb : Extends added ts b b') :
    Extends added (⟨c, []⟩ :: ts) (.classDef h body :: b) (.classDef h body :: b')
  | cls {c : ClassModel} {h : ClassHeader} {nested ts : List ClassTree} {body body' b b' : Block}
    (hc : c.isEnum = false) (hname : c.name = h.name) (hbody : Extends added nested body body')
    (hb : Extends added ts b b') :
    Extends added (⟨c, nested⟩ :: ts) (.classDef h body :: b)
      (.classDef h (body' ++ added c) :: b')

theorem graftBlock_cons_other (hooks : List Hook) {s : Stmt} (hs : s.isClass = false) (b : Block) :
    graftBlock hooks (s :: b) = s :: graftBlock hooks b := by
  cases s with
  | classDef h body => cases hs
  | _ => rfl

theorem graftBlock_nil_hooks (b : Block) : graftBlock [] b = b := by
  induction b with
  | nil => rfl
  | cons s b ih =>
    cases s with
    | classDef h body => exact congrArg _ ih
    | _ => exact congrArg _ ih

theorem graftBlock_extends {added : ClassModel → Block} {ts : List ClassTree} {b : Block}
    (h : Lists ts b)
    (hadded : ∀ c ∈ ClassTree.preorderForest ts, c.isEnum = true → added c = []) :
    Extends added ts b (graftBlock (Hook.ofForest added ts) b) := by
  induction h with
  | nil => exact .nil
  | keep hs _ ih =>
    rw [graftBlock_cons_other _ hs]
    exact .keep hs (ih hadded)
  | @enum c h body ts b hc hname _ ih =>
    simp only [ClassTree.preorderForest, ClassTree.preorder, List.nil_append, List.cons_append,
      List.forall_mem_cons] at hadded
    have hstays : graftBlock (Hook.ofForest added (⟨c, []⟩ :: ts)) (.classDef h body :: b) =
        .classDef h body :: graftBlock (Hook.ofForest added ts) b := by
      simp [Hook.ofForest, Hook.ofTree, graftBlock, graftStmt, graftBlock_nil_hooks,
        hadded.1 hc]
    rw [hstays]
    exact .enum hc hname (ih hadded.2)
  | cls hc hname _ _ ihbody ih =>
    simp only [ClassTree.preorderForest, ClassTree.preorder, List.cons_append,
      List.forall_mem_cons, List.forall_mem_append] at hadded
    exact .cls hc hname (ihbody hadded.2.1) (ih hadded.2.2)

mutual

/-- Cuts off at the end of a class body what its hook added to it. -/
def cutStmt (hooks : List Hook) : Stmt → Stmt × List Hook
  | .classDef h body => match hooks with
    | [] => (.classDef h body, [])
    | hook :: rest =>
      let kept := cutBlock hook.nested body
      (.classDef h (kept.take (kept.length - hook.appended.length)), rest)
  | s => (s, hooks)

def cutBlock (hooks : List Hook) : List Stmt → Block
  | [] => []
  | s :: rest =>
    let (s, hooks) := cutStmt hooks s
    s :: cutBlock hooks rest

end

theorem cutBlock_cons_other (hooks : List Hook) {s : Stmt} (hs : s.isClass = false) (b : Block) :
    cutBlock hooks (s :: b) = s :: cutBlock hooks b := by
  cases s with
  | classDef h body => cases hs
  | _ => rfl

theorem cutBlock_nil_hooks (b : Block) : cutBlock [] b = b := by
  induction b with
  | nil => rfl
  | cons s b ih =>
    cases s with
    | classDef h body => exact congrArg _ ih
    | _ => exact congrArg _ ih

/-- Statements at the end that hold no class statement are not cut. -/
theorem cutBlock_append {extra : Block} (hextra : ∀ s ∈ extra, s.isClass = false) (b : Block) :
    ∀ hooks, cutBlock hooks (b ++ extra) = cutBlock hooks b ++ extra := by
  induction b with
  | nil =>
    intro hooks
    induction extra with
    | nil => rfl
    | cons s extra ih =>
      simp only [List.forall_mem_cons] at hextra
      rw [List.nil_append, cutBlock_cons_other hooks hextra.1]
      exact congrArg _ (ih hextra.2)
  | cons s b ih =>
    intro hooks
    rw [List.cons_append, cutBlock, cutBlock]
    exact congrArg _ (ih _)

/-- Cutting takes back what grafting added. -/
theorem Extends.cutBlock_eq {added : ClassModel → Block} {ts : List ClassTree} {b b' : Block}
    (h : Extends added ts b b') (hadded : ∀ c ∈ ClassTree.preorderForest ts,
      (c.isEnum = true → added c = []) ∧ ∀ s ∈ added c, s.isClass = false) :
    cutBlock (Hook.ofForest added ts) b' = b := by
  induction h with
  | nil => rfl
  | keep hs _ ih =>
    rw [cutBlock_cons_other _ hs, ih hadded]
  | enum hc hname _ ih =>
    simp only [ClassTree.preorderForest, ClassTree.preorder, List.nil_append, List.cons_append,
      List.forall_mem_cons] at hadded
    simp [Hook.ofForest, Hook.ofTree, cutBlock, cutStmt, cutBlock_nil_hooks, hadded.1.1 hc,
      ih hadded.2]
  | @cls c h nested ts body body' b b' hc hname _ _ ihbody ih =>
    simp only [ClassTree.preorderForest, ClassTree.preorder, List.cons_append,
      List.forall_mem_cons, List.forall_mem_append] at hadded
    have hkept : cutBlock (Hook.ofForest added nested) (body' ++ added c) = body ++ added c := by
      rw [cutBlock_append hadded.1.2, ihbody hadded.2.1]
    simp [Hook.ofForest, Hook.ofTree, cutBlock, cutStmt, hkept, ih hadded.2.2]

/-- The statements that have to come before the import of the runtime: the documentation of the
module and the imports that come first. -/
def opening : Block → Block
  | [] => []
  | s :: rest =>
    if s.isDocstring 0 then s :: rest.takeWhile isFutureImport
    else (s :: rest).takeWhile isFutureImport

/-- The statements after them. -/
def remainder : Block → Block
  | [] => []
  | s :: rest =>
    if s.isDocstring 0 then rest.dropWhile isFutureImport
    else (s :: rest).dropWhile isFutureImport

theorem opening_append_remainder (b : Block) : opening b ++ remainder b = b := by
  cases b with
  | nil => rfl
  | cons s rest =>
    by_cases hdoc : s.isDocstring 0 = true
    · simp [opening, remainder, hdoc]
    · simp [opening, remainder, hdoc]

/-- A module starts with its documentation, if it has one, and all the imports of `__future__` that
follow. -/
def Opens (first tree : Block) : Prop :=
  ∃ doc futures rest : Block, first = doc ++ futures ∧ tree = first ++ rest ∧
    ((∃ text, doc = [.expr (.constant (.str text))]) ∨
      doc = [] ∧ ∀ text after, tree ≠ .expr (.constant (.str text)) :: after) ∧
    (∀ s ∈ futures, ∃ level names, s = .imports (.fromModule (some "__future__") level) names) ∧
    ∀ level names after, rest ≠ .imports (.fromModule (some "__future__") level) names :: after

theorem isFutureImport_iff {s : Stmt} : isFutureImport s = true ↔
    ∃ level names, s = .imports (.fromModule (some "__future__") level) names := by
  constructor
  · intro h
    unfold isFutureImport at h
    split at h
    · exact ⟨_, _, rfl⟩
    · cases h
  · rintro ⟨level, names, rfl⟩
    rfl

theorem isDocstring_iff {s : Stmt} : s.isDocstring 0 = true ↔
    ∃ text, s = .expr (.constant (.str text)) := by
  constructor
  · intro h
    unfold Stmt.isDocstring at h
    split at h
    · exact ⟨_, rfl⟩
    · cases h
  · rintro ⟨text, rfl⟩
    rfl

theorem isFutureImport_of_mem_takeWhile {s : Stmt} {b : Block}
    (h : s ∈ b.takeWhile isFutureImport) : isFutureImport s = true :=
  List.all_eq_true.1 List.all_takeWhile s h

theorem ne_future_of_dropWhile (b : Block) (level : Option Int) (names : List Alias)
    (after : Block) :
    b.dropWhile isFutureImport ≠
      .imports (.fromModule (some "__future__") level) names :: after := by
  intro h
  have hhead := List.head?_dropWhile_not isFutureImport b
  simp [h, isFutureImport] at hhead

theorem opening_opens (b : Block) : Opens (opening b) b := by
  have hfutures : ∀ b : Block, ∀ s ∈ b.takeWhile isFutureImport,
      ∃ level names, s = .imports (.fromModule (some "__future__") level) names :=
    fun b s hs => isFutureImport_iff.1 (isFutureImport_of_mem_takeWhile hs)
  cases b with
  | nil => exact ⟨[], [], [], rfl, rfl, .inr ⟨rfl, nofun⟩, nofun, nofun⟩
  | cons s rest =>
    by_cases hdoc : s.isDocstring 0 = true
    · obtain ⟨text, rfl⟩ := isDocstring_iff.1 hdoc
      refine ⟨[_], rest.takeWhile isFutureImport, rest.dropWhile isFutureImport, rfl, ?_,
        .inl ⟨text, rfl⟩, hfutures rest, ne_future_of_dropWhile rest⟩
      simp [opening, hdoc]
    · refine ⟨[], (s :: rest).takeWhile isFutureImport, (s :: rest).dropWhile isFutureImport, ?_, ?_,
        .inr ⟨rfl, ?_⟩, hfutures _, ne_future_of_dropWhile _⟩
      · simp [opening, hdoc]
      · simp [opening, hdoc]
      · rintro text after ⟨⟩
        exact hdoc rfl

theorem insertAfterFuture_eq (x : Stmt) (b : Block) :
    insertAfterFuture x b = b.takeWhile isFutureImport ++ x :: b.dropWhile isFutureImport := by
  induction b with
  | nil => rfl
  | cons s rest ih =>
    unfold insertAfterFuture
    split_ifs with hs
    · simp [hs, ih]
    · simp [hs]

theorem addRuntimeImport_eq (config : Config) (b : Block) :
    addRuntimeImport config b = opening b ++ runtimeImport config :: remainder b := by
  cases b with
  | nil => rfl
  | cons s rest =>
    by_cases hdoc : s.isDocstring 0 = true
    · simp [addRuntimeImport, opening, remainder, hdoc, insertAfterFuture_eq]
    · simp [addRuntimeImport, opening, remainder, hdoc, insertAfterFuture_eq]

theorem isClass_of_isFutureImport {s : Stmt} (hs : isFutureImport s = true) :
    s.isClass = false := by
  cases s with
  | classDef h body => cases hs
  | _ => rfl

theorem isClass_of_isDocstring {s : Stmt} (hs : s.isDocstring 0 = true) : s.isClass = false := by
  cases s with
  | classDef h body => cases hs
  | _ => rfl

theorem isClass_of_mem_opening {b : Block} : ∀ s ∈ opening b, s.isClass = false := by
  have hfuture : ∀ (l : Block), ∀ s ∈ l.takeWhile isFutureImport, s.isClass = false :=
    fun l s hs => isClass_of_isFutureImport (isFutureImport_of_mem_takeWhile hs)
  cases b with
  | nil => simp [opening]
  | cons s rest =>
    by_cases hdoc : s.isDocstring 0 = true
    · rw [opening, if_pos hdoc]
      exact List.forall_mem_cons.2 ⟨isClass_of_isDocstring hdoc, hfuture rest⟩
    · rw [opening, if_neg hdoc]
      exact hfuture _

/-- What has to come first is no class, so it is the same in a module that was grafted. -/
theorem Extends.opening_eq {added : ClassModel → Block} {ts : List ClassTree} {b b' : Block}
    (h : Extends added ts b b') : opening b' = opening b := by
  have hfuture : ∀ {ts : List ClassTree} {b b' : Block}, Extends added ts b b' →
      b'.takeWhile isFutureImport = b.takeWhile isFutureImport := by
    intro ts b b' h
    induction h with
    | nil => rfl
    | keep _ _ ih => simp [List.takeWhile_cons, ih]
    | enum | cls => simp [isFutureImport]
  cases h with
  | nil => rfl
  | @keep s ts b b' hs hb =>
    have hrest := hfuture hb
    by_cases hdoc : s.isDocstring 0 = true
    · simp [opening, hdoc, hrest]
    · simp [opening, hdoc, List.takeWhile_cons, hrest]
  | enum | cls => simp [opening, Stmt.isDocstring, isFutureImport]

end Weave

end StateWeave
