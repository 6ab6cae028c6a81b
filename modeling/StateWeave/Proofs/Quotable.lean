import StateWeave.Tree.Source

/-! Which expressions have a source text. Only whole numbers of too many digits and formatted texts
can lack one: an expression that holds neither, however deep, can be quoted. -/

namespace StateWeave

namespace Written

/-- A number fits when it has at most so many digits. -/
theorem fits_iff (count n : Nat) : fits count n = true ↔ n < Nat.pow 10 count := by
  induction count generalizing n with
  | zero => simp [fits]
  | succ count ih =>
    have hdiv : n / 10 < Nat.pow 10 count ↔ n < Nat.pow 10 (count + 1) := by
      rw [Nat.div_lt_iff_lt_mul (by decide)]
      rfl
    have hpos : 0 < Nat.pow 10 (count + 1) := Nat.pow_pos (by decide)
    simp only [fits, Bool.or_eq_true, beq_iff_eq, ih, hdiv]
    exact ⟨fun h => h.elim (fun h => h ▸ hpos) id, .inr⟩

variable {w v : Written} {ws vs : List Written}

@[simp]
theorem isOk_between (left right : String) : (Source.between left w right).isOk = w.isOk := by
  cases w <;> rfl

@[simp]
theorem isOk_pair (link : String) : (Source.pair w link v).isOk = (w.isOk && v.isOk) := by
  cases w <;> cases v <;> rfl

@[simp]
theorem isOk_wrap (own required : Precedence) : (own.wrap required w).isOk = w.isOk := by
  cases w <;> rfl

theorem isOk_all : (all ws).isOk = ws.all (·.isOk) := by
  induction ws with
  | nil => rfl
  | cons w ws ih =>
    rw [List.all_cons, ← ih]
    cases w with
    | error why => rfl
    | ok text => cases h : all ws <;> simp [all, h] <;> rfl

theorem isOk_map {f : List String → String} {r : Except Unwritable (List String)} :
    (f <$> r).isOk = r.isOk := by
  cases r <;> rfl

/-- All of these have a text. -/
def AllOk (ws : List Written) : Prop :=
  ∀ w ∈ ws, w.isOk = true

theorem AllOk.nil : AllOk [] :=
  nofun

theorem AllOk.cons (hw : w.isOk = true) (hws : AllOk ws) : AllOk (w :: ws) :=
  List.forall_mem_cons.2 ⟨hw, hws⟩

theorem AllOk.append (hws : AllOk ws) (hvs : AllOk vs) : AllOk (ws ++ vs) :=
  List.forall_mem_append.2 ⟨hws, hvs⟩

theorem AllOk.isOk_all (h : AllOk ws) : (all ws).isOk = true := by
  rw [Written.isOk_all]
  exact List.all_eq_true.2 h

theorem AllOk.isOk_listed (h : AllOk ws) : (Source.listed ws).isOk = true :=
  isOk_map.trans h.isOk_all

theorem AllOk.isOk_tupleListed (h : AllOk ws) : (Source.tupleListed ws).isOk = true :=
  isOk_map.trans h.isOk_all

theorem AllOk.isOk_join (h : AllOk ws) : (join ws).isOk = true :=
  isOk_map.trans h.isOk_all

theorem AllOk.take (h : AllOk ws) (n : Nat) : AllOk (ws.take n) :=
  fun w hw => h w (List.mem_of_mem_take hw)

theorem AllOk.drop (h : AllOk ws) (n : Nat) : AllOk (ws.drop n) :=
  fun w hw => h w (List.mem_of_mem_drop hw)

/-- Those of the texts that may be missing and are not. -/
def OptionsOk (ws : List (Option Written)) : Prop :=
  ∀ w, some w ∈ ws → w.isOk = true

open Source

/-- Two lists put together have texts when any two of their items do. -/
theorem allOk_zipWith {α β : Type} {f : α → β → Written} {as : List α} {bs : List β}
    (h : ∀ a ∈ as, ∀ b ∈ bs, (f a b).isOk = true) : AllOk (List.zipWith f as bs) := by
  intro w hw
  rw [← List.map_uncurry_zip_eq_zipWith] at hw
  obtain ⟨⟨a, b⟩, hab, rfl⟩ := List.mem_map.1 hw
  exact h a (List.of_mem_zip hab).1 b (List.of_mem_zip hab).2

theorem AllOk.positional (hws : AllOk ws) (hvs : AllOk vs) : AllOk (positional ws vs) :=
  (hws.take _).append <| allOk_zipWith fun a ha b hb => by
    rw [isOk_pair, hws a (List.mem_of_mem_drop ha), hvs b hb]
    rfl

theorem AllOk.keywordOnly {defaults : List (Option Written)} (hws : AllOk ws)
    (hdefaults : OptionsOk defaults) : AllOk (keywordOnly ws defaults) :=
  allOk_zipWith fun a ha default hdefault => by
    cases default with
    | none => exact hws a ha
    | some d =>
      rw [Option.elim_some, isOk_pair, hws a ha, hdefaults d hdefault]
      rfl

theorem AllOk.isOk_comparisons (ops : List CmpOp) (h : AllOk ws) :
    (comparisons ops ws).isOk = true := by
  fun_induction comparisons ops ws with
  | case1 op ops right rights ih =>
    obtain ⟨hright, hrest⟩ := List.forall_mem_cons.1 h
    rw [isOk_pair, isOk_between, hright, ih hrest]
    rfl
  | case2 => rfl

theorem allOk_entries {keys : List (Option Written)} {values unpacked : List Written}
    (hkeys : OptionsOk keys) (hvalues : AllOk values) (hunpacked : AllOk unpacked) :
    AllOk (entries keys values unpacked) := by
  fun_induction entries keys values unpacked with
  | case1 key keys value values _ unpacked ih =>
    obtain ⟨hvalue, hvalues⟩ := List.forall_mem_cons.1 hvalues
    refine .cons ?_ (ih (fun w hw => hkeys w (List.mem_cons_of_mem _ hw)) hvalues
      (List.forall_mem_cons.1 hunpacked).2)
    rw [isOk_pair, hkeys key List.mem_cons_self, hvalue]
    rfl
  | case2 keys _ values value unpacked ih =>
    obtain ⟨hvalue, hunpacked⟩ := List.forall_mem_cons.1 hunpacked
    refine .cons ?_ (ih (fun w hw => hkeys w (List.mem_cons_of_mem _ hw))
      (List.forall_mem_cons.1 hvalues).2 hunpacked)
    rw [isOk_between, hvalue]
  | case3 => exact .nil

theorem isOk_argument (arg : Option String) : (argument arg w).isOk = w.isOk := by
  cases arg <;> exact isOk_between _ _

/-- A parameter list has a text when all its parameters and defaults have. -/
theorem isOk_params {posOnly positionals kwOnly defaults : List Written}
    {vararg kwarg : Option Written} {kwDefaults : List (Option Written)}
    (hpos : AllOk posOnly) (hpositionals : AllOk positionals) (hvararg : OptionsOk [vararg])
    (hkwOnly : AllOk kwOnly) (hkwDefaults : OptionsOk kwDefaults) (hkwarg : OptionsOk [kwarg])
    (hdefaults : AllOk defaults) :
    (params posOnly positionals vararg kwOnly kwDefaults kwarg defaults).isOk = true := by
  have hall := (hpos.append hpositionals).positional hdefaults
  refine AllOk.isOk_listed (.append (.append (.append ?_ ?_) (hkwOnly.keywordOnly hkwDefaults)) ?_)
  · split
    · exact hall
    · exact ((hall.take _).append (.cons rfl .nil)).append (hall.drop _)
  · cases vararg with
    | none =>
      cases kwOnly with
      | nil => exact .nil
      | cons w ws => exact .cons rfl .nil
    | some p => exact .cons ((isOk_between _ _).trans (hvararg p List.mem_cons_self)) .nil
  · cases kwarg with
    | none => exact .nil
    | some p => exact .cons ((isOk_between _ _).trans (hkwarg p List.mem_cons_self)) .nil

end Written

/-- Only a number can have too many digits to be written. -/
def Constant.isQuotable : Constant → Bool
  | .int n => Written.fits Written.digitLimit n.natAbs
  | _ => true

theorem Constant.isOk_source {value : Constant} (inFormat : Bool) (h : value.isQuotable = true) :
    (value.source inFormat).isOk = true := by
  cases value with
  | int n =>
    simp only [isQuotable] at h
    simp [source, shown?, Written.ofInt?, h, Except.isOk, Except.toBool]
  | _ => rfl

namespace Expr

mutual

/-- Whether an expression holds neither a number of too many digits nor a formatted text, in nested
scopes neither. -/
def isQuotable : Expr → Bool
  | .constant value => value.isQuotable
  | .name _ _ => true
  | .attribute value _ _ => value.isQuotable
  | .subscript value index _ => value.isQuotable && index.isQuotable
  | .starred value _ => value.isQuotable
  | .sequence _ elts _ => isQuotableList elts
  | .set elts => isQuotableList elts
  | .dict keys values => isQuotableOptions keys && isQuotableList values
  | .boolOp _ values => isQuotableList values
  | .binOp left _ right => left.isQuotable && right.isQuotable
  | .unaryOp _ operand => operand.isQuotable
  | .compare left _ comparators => left.isQuotable && isQuotableList comparators
  | .call func args keywords =>
    func.isQuotable && (isQuotableList args && isQuotableKeywords keywords)
  | .ifExp test body orelse => test.isQuotable && (body.isQuotable && orelse.isQuotable)
  | .walrus _ value => value.isQuotable
  | .lambda params body => isQuotableParams params && body.isQuotable
  | .comprehension _ element first rest =>
    element.isQuotable && (isQuotableGenerator first && isQuotableGenerators rest)
  | .dictComprehension key value first rest =>
    (key.isQuotable && value.isQuotable) && (isQuotableGenerator first && isQuotableGenerators rest)
  | .await value => value.isQuotable
  | .yield value => isQuotableOption value
  | .yieldFrom value => value.isQuotable
  | .joinedStr _ => false
  | .formatted _ _ _ => false
  | .slice lower upper step =>
    isQuotableOption lower && (isQuotableOption upper && isQuotableOption step)

def isQuotableOption : Option Expr → Bool
  | none => true
  | some e => e.isQuotable

def isQuotableList : List Expr → Bool
  | [] => true
  | e :: es => e.isQuotable && isQuotableList es

def isQuotableOptions : List (Option Expr) → Bool
  | [] => true
  | e :: es => isQuotableOption e && isQuotableOptions es

def isQuotableKeywords : List Keyword → Bool
  | [] => true
  | k :: ks => isQuotableKeyword k && isQuotableKeywords ks

def isQuotableKeyword : Keyword → Bool
  | ⟨_, value⟩ => value.isQuotable

def isQuotableArg : Arg → Bool
  | ⟨_, annot⟩ => isQuotableOption annot

def isQuotableArgs : List Arg → Bool
  | [] => true
  | a :: as => isQuotableArg a && isQuotableArgs as

def isQuotableOptionArg : Option Arg → Bool
  | none => true
  | some a => isQuotableArg a

def isQuotableParams : Params → Bool
  | ⟨posOnly, positional, vararg, kwOnly, kwDefaults, kwarg, defaults⟩ =>
    isQuotableArgs posOnly && isQuotableArgs positional && isQuotableOptionArg vararg &&
      isQuotableArgs kwOnly && isQuotableOptions kwDefaults && isQuotableOptionArg kwarg &&
      isQuotableList defaults

def isQuotableGenerator : Generator → Bool
  | ⟨target, iter, ifs, _⟩ => target.isQuotable && iter.isQuotable && isQuotableList ifs

def isQuotableGenerators : List Generator → Bool
  | [] => true
  | g :: gs => isQuotableGenerator g && isQuotableGenerators gs

end

open Written Source

mutual

/-- An expression of this kind has a source text wherever it stands. -/
theorem isOk_sourceAt (f : Bool) (p : Precedence) :
    ∀ {e : Expr}, e.isQuotable = true → (e.sourceAt f p).isOk = true
  | .constant _, h => Constant.isOk_source f h
  | .name _ _, _ => rfl
  | .attribute value attr _, h => by
    unfold sourceAt
    rw [isOk_between]
    exact isOk_sourceAt f .atom h
  | .subscript value index _, h => by
    obtain ⟨hvalue, hindex⟩ := Bool.and_eq_true_iff.1 h
    have hinner := isOk_sourceAt f .test hindex
    unfold sourceAt
    rw [isOk_pair, isOk_between, isOk_sourceAt f .atom hvalue, Bool.true_and]
    split
    · rwa [sourceAt, isOk_wrap] at hinner
    · exact hinner
  | .starred value _, h => by
    rw [sourceAt, isOk_between]
    exact isOk_sourceAt f .bitOr h
  | .sequence .list elts _, h => by
    rw [sourceAt, isOk_between]
    exact (allOk_sources f .test h).isOk_listed
  | .sequence .tuple [] _, _ => rfl
  | .sequence .tuple (e :: es) _, h => by
    obtain ⟨he, hes⟩ := Bool.and_eq_true_iff.1 h
    rw [sourceAt, isOk_wrap]
    exact AllOk.isOk_tupleListed (.cons (isOk_sourceAt f .test he) (allOk_sources f .test hes))
  | .set elts, h => by
    have helts := allOk_sources f .test h
    cases elts with
    | nil => rfl
    | cons e es =>
      rw [sourceAt, isOk_between]
      · exact helts.isOk_listed
      · simp
  | .dict keys values, h => by
    obtain ⟨hkeys, hvalues⟩ := Bool.and_eq_true_iff.1 h
    rw [sourceAt, isOk_between]
    exact (allOk_entries (optionsOk_optionSources f hkeys) (allOk_sources f .test hvalues)
      (allOk_sources f .bitOr hvalues)).isOk_listed
  | .boolOp op values, h => by
    rw [sourceAt, isOk_wrap]
    exact isOk_map.trans (allOk_risingSources f _ h).isOk_all
  | .binOp left op right, h => by
    obtain ⟨hleft, hright⟩ := Bool.and_eq_true_iff.1 h
    simp only [sourceAt, isOk_wrap, isOk_pair, isOk_sourceAt f _ hleft, isOk_sourceAt f _ hright,
      Bool.and_self]
  | .unaryOp op operand, h => by
    rw [sourceAt, isOk_wrap, isOk_between]
    exact isOk_sourceAt f _ h
  | .compare left ops comparators, h => by
    obtain ⟨hleft, hright⟩ := Bool.and_eq_true_iff.1 h
    rw [sourceAt, isOk_wrap, isOk_pair, isOk_sourceAt f _ hleft,
      (allOk_sources f _ hright).isOk_comparisons ops]
    rfl
  | .call func args keywords, h => by
    obtain ⟨hfunc, hrest⟩ := Bool.and_eq_true_iff.1 h
    obtain ⟨hargs, hkeywords⟩ := Bool.and_eq_true_iff.1 hrest
    rw [sourceAt, isOk_pair, isOk_between, isOk_sourceAt f _ hfunc, Bool.true_and]
    exact ((allOk_sources f .test hargs).append (allOk_keywordSources f hkeywords)).isOk_listed
  | .ifExp test body orelse, h => by
    obtain ⟨htest, hrest⟩ := Bool.and_eq_true_iff.1 h
    obtain ⟨hbody, horelse⟩ := Bool.and_eq_true_iff.1 hrest
    simp only [sourceAt, isOk_wrap, isOk_pair, isOk_sourceAt f _ htest, isOk_sourceAt f _ hbody,
      isOk_sourceAt f _ horelse, Bool.and_self]
  | .walrus target value, h => by
    rw [sourceAt, isOk_wrap, isOk_between]
    exact isOk_sourceAt f _ h
  | .lambda params body, h => by
    obtain ⟨hparams, hbody⟩ := Bool.and_eq_true_iff.1 h
    simp only [sourceAt, isOk_wrap, isOk_pair, isOk_between, isOk_paramsSource f hparams,
      isOk_sourceAt f _ hbody, Bool.and_self]
  | .comprehension kind element first rest, h => by
    obtain ⟨helement, hgenerators⟩ := Bool.and_eq_true_iff.1 h
    obtain ⟨hfirst, hrest⟩ := Bool.and_eq_true_iff.1 hgenerators
    cases kind <;>
      simp only [sourceAt, isOk_between, isOk_pair, isOk_sourceAt f _ helement,
        isOk_generatorSource f hfirst, isOk_generatorSources f hrest, Bool.and_self]
  | .dictComprehension key value first rest, h => by
    obtain ⟨hentry, hgenerators⟩ := Bool.and_eq_true_iff.1 h
    obtain ⟨hkey, hvalue⟩ := Bool.and_eq_true_iff.1 hentry
    obtain ⟨hfirst, hrest⟩ := Bool.and_eq_true_iff.1 hgenerators
    simp only [sourceAt, isOk_between, isOk_pair, isOk_sourceAt f _ hkey, isOk_sourceAt f _ hvalue,
      isOk_generatorSource f hfirst, isOk_generatorSources f hrest, Bool.and_self]
  | .await value, h => by
    rw [sourceAt, isOk_wrap, isOk_between]
    exact isOk_sourceAt f _ h
  | .yield none, _ => by
    rw [sourceAt, isOk_wrap]
    rfl
  | .yield (some value), h => by
    rw [sourceAt, isOk_wrap, isOk_between]
    exact isOk_sourceAt f _ h
  | .yieldFrom value, h => by
    rw [sourceAt, isOk_wrap, isOk_between]
    exact isOk_sourceAt f _ h
  | .joinedStr _, h => nomatch h
  | .formatted _ _ _, h => nomatch h
  | .slice lower upper step, h => by
    obtain ⟨hlower, hrest⟩ := Bool.and_eq_true_iff.1 h
    obtain ⟨hupper, hstep⟩ := Bool.and_eq_true_iff.1 hrest
    simp only [sourceAt, isOk_pair, isOk_optionSource f _ hlower, isOk_optionSource f _ hupper,
      isOk_optionSource f _ hstep, Bool.and_self]

theorem isOk_optionSource (f : Bool) (lead : String) :
    ∀ {e : Option Expr}, isQuotableOption e = true → (optionSource f lead e).isOk = true
  | none, _ => rfl
  | some e, h => by
    rw [optionSource, isOk_between]
    exact isOk_sourceAt f .test h

theorem allOk_sources (f : Bool) (p : Precedence) :
    ∀ {es : List Expr}, isQuotableList es = true → AllOk (sources f p es)
  | [], _ => .nil
  | e :: es, h => by
    obtain ⟨he, hes⟩ := Bool.and_eq_true_iff.1 h
    exact .cons (isOk_sourceAt f p he) (allOk_sources f p hes)

theorem allOk_risingSources (f : Bool) (p : Precedence) :
    ∀ {es : List Expr}, isQuotableList es = true → AllOk (risingSources f p es)
  | [], _ => .nil
  | e :: es, h => by
    obtain ⟨he, hes⟩ := Bool.and_eq_true_iff.1 h
    exact .cons (isOk_sourceAt f p he) (allOk_risingSources f p.next hes)

theorem optionsOk_optionSources (f : Bool) :
    ∀ {es : List (Option Expr)}, isQuotableOptions es = true → OptionsOk (optionSources f es)
  | [], _ => nofun
  | none :: es, h => by
    intro w hw
    rcases List.mem_cons.1 hw with hw | hw
    · cases hw
    · exact optionsOk_optionSources f (Bool.and_eq_true_iff.1 h).2 w hw
  | some e :: es, h => by
    obtain ⟨he, hes⟩ := Bool.and_eq_true_iff.1 h
    intro w hw
    rcases List.mem_cons.1 hw with hw | hw
    · cases hw
      exact isOk_sourceAt f .test he
    · exact optionsOk_optionSources f hes w hw

theorem allOk_keywordSources (f : Bool) :
    ∀ {ks : List Keyword}, isQuotableKeywords ks = true → AllOk (keywordSources f ks)
  | [], _ => .nil
  | k :: ks, h => by
    obtain ⟨hk, hks⟩ := Bool.and_eq_true_iff.1 h
    exact .cons (isOk_keywordSource f hk) (allOk_keywordSources f hks)

theorem isOk_keywordSource (f : Bool) :
    ∀ {k : Keyword}, isQuotableKeyword k = true → (keywordSource f k).isOk = true
  | ⟨arg, value⟩, h => by
    rw [keywordSource, isOk_argument]
    exact isOk_sourceAt f .test h

theorem isOk_argSource (f : Bool) :
    ∀ {a : Arg}, isQuotableArg a = true → (argSource f a).isOk = true
  | ⟨label, annot⟩, h => by
    rw [argSource, isOk_between]
    exact isOk_optionSource f _ h

theorem allOk_argSources (f : Bool) :
    ∀ {as : List Arg}, isQuotableArgs as = true → AllOk (argSources f as)
  | [], _ => .nil
  | a :: as, h => by
    obtain ⟨ha, has⟩ := Bool.and_eq_true_iff.1 h
    exact .cons (isOk_argSource f ha) (allOk_argSources f has)

theorem optionsOk_optionArgSource (f : Bool) :
    ∀ {a : Option Arg}, isQuotableOptionArg a = true → OptionsOk [optionArgSource f a]
  | none, _ => by simp [OptionsOk, optionArgSource]
  | some a, h => by
    intro w hw
    cases List.mem_singleton.1 hw
    exact isOk_argSource f h

theorem isOk_paramsSource (f : Bool) :
    ∀ {p : Params}, isQuotableParams p = true → (paramsSource f p).isOk = true
  | ⟨posOnly, positional, vararg, kwOnly, kwDefaults, kwarg, defaults⟩, h => by
    simp only [isQuotableParams, Bool.and_eq_true] at h
    obtain ⟨⟨⟨⟨⟨⟨hpos, hpositional⟩, hvararg⟩, hkwOnly⟩, hkwDefaults⟩, hkwarg⟩, hdefaults⟩ := h
    exact isOk_params (allOk_argSources f hpos) (allOk_argSources f hpositional)
      (optionsOk_optionArgSource f hvararg) (allOk_argSources f hkwOnly)
      (optionsOk_optionSources f hkwDefaults) (optionsOk_optionArgSource f hkwarg)
      (allOk_sources f .test hdefaults)

theorem isOk_generatorSource (f : Bool) :
    ∀ {g : Generator}, isQuotableGenerator g = true → (generatorSource f g).isOk = true
  | ⟨target, iter, ifs, asyncMark⟩, h => by
    simp only [isQuotableGenerator, Bool.and_eq_true] at h
    obtain ⟨⟨htarget, hiter⟩, hifs⟩ := h
    have hconditions : AllOk ((sources f Precedence.test.next ifs).map (between " if " · "")) := by
      intro w hw
      obtain ⟨v, hv, rfl⟩ := List.mem_map.1 hw
      rw [isOk_between]
      exact allOk_sources f _ hifs v hv
    simp only [generatorSource, isOk_pair, isOk_between, isOk_sourceAt f _ htarget,
      isOk_sourceAt f _ hiter, hconditions.isOk_join, Bool.and_self]

theorem isOk_generatorSources (f : Bool) :
    ∀ {gs : List Generator}, isQuotableGenerators gs = true → (generatorSources f gs).isOk = true
  | [], _ => rfl
  | g :: gs, h => by
    obtain ⟨hg, hgs⟩ := Bool.and_eq_true_iff.1 h
    rw [generatorSources, isOk_pair, isOk_generatorSource f hg, isOk_generatorSources f hgs]
    rfl

end

/-- An expression without source text holds a number of too many digits or a formatted text. -/
theorem isQuotable_eq_false {e : Expr} {why : Unwritable} (h : e.source = .error why) :
    e.isQuotable = false := by
  rw [← Bool.not_eq_true]
  intro hquotable
  have hok := isOk_sourceAt false .test hquotable
  rw [← source, h] at hok
  cases hok

end Expr

end StateWeave
