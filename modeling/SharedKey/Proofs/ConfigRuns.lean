/-
**What a configuration holds after any number of steps.**

A program sets fields of a configuration and has unset ones filled in from its environment, in any
order and as often as it likes.  What it sets overwrites what is there, and what it has filled in
never does.  So it makes no difference where in a run the environment is read, as far as fields are
concerned that the program sets: such a field holds the value that was set last.  Every other field
holds what the first environment with its variable says of it, and reading an environment again
changes nothing.

Only reading an environment can fail, and only for the variant: where it is unset, and the
environment has a text for it that no variant has as its tag or its name.

Main definitions:

* `Config.Step`, `Config.run` — the steps, and what a run of them leaves of the empty configuration;
* `Config.Field` — a field with the ways in which it gets a value;
* `Config.Field.Stepped`, `Config.Field.Settled` — the value of a field after one step, and after a
  run;
* `Config.NamesNoVariant` — an environment that has a text for the variant, which is none.

Main results:

* `Config.fillFrom_eq_error_iff` — when reading an environment fails;
* `Config.Field.Settled.concat`, `Config.Field.settled_of_run` — a field after one more step, and
  after a run;
* `Config.run_settles` — **a field holds what was set last, or else what the first environment with
  its variable says**.
-/

import Mathlib.Data.List.Induction
import SharedKey.Config

set_option relaxedAutoImplicit false
set_option autoImplicit false

namespace SharedKey

namespace Config

/-! ### One environment -/

/-- An environment that has a text for the variant, which is neither the tag nor the name of one. -/
def NamesNoVariant (environment : Environment) (t : Text) : Prop :=
  environment.lookup variantVariable = some t
    ∧ ∀ variant : Variant, variant.tag ≠ t ∧ variant.name ≠ t

/-- What is filled in, field by field. -/
theorem fillFrom_eq_ok_iff {config after : Config} {environment : Environment} :
    config.fillFrom environment = .ok after
      ↔ after.accountName = config.accountName.or (environment.lookup nameVariable)
        ∧ after.accountKey = config.accountKey.or (environment.lookup keyVariable)
        ∧ config.resolveVariant environment = .ok after.variant := by
  obtain ⟨name, key, variant⟩ := after
  rw [fillFrom]
  cases config.resolveVariant environment with
  | error e => simp [Except.map]
  | ok resolved => simp [Except.map, eq_comm]

/-- Reading an environment fails for an unset variant of which the environment has a wrong text. -/
theorem fillFrom_eq_error_iff {config : Config} {environment : Environment} {e : Error} :
    config.fillFrom environment = .error e
      ↔ config.variant = none
        ∧ ∃ t, NamesNoVariant environment t ∧ e = .unsupportedVariant t := by
  rw [fillFrom, Fallible.map_eq_error_iff, resolveVariant]
  cases config.variant with
  | some variant => simp
  | none =>
      simp only [NamesNoVariant]
      cases environment.lookup variantVariable with
      | none => simp
      | some t => simp [Fallible.map_eq_error_iff, Variant.parse_eq_error_iff]

/-! ### Steps and runs -/

/-- What a program does to its configuration. -/
inductive Step
  | setName (name : Text)
  | setKey (key : Text)
  | setVariant (variant : Variant)
  /-- Has what is unset filled in from an environment. -/
  | fill (environment : Environment)

/-- The configuration after a step. -/
def Step.apply (config : Config) : Step → Except Error Config
  | .setName name => .ok (config.withAccountName name)
  | .setKey key => .ok (config.withAccountKey key)
  | .setVariant variant => .ok (config.withVariant variant)
  | .fill environment => config.fillFrom environment

/-- A configuration after the steps one after the other; the first that fails ends them. -/
def runFrom (config : Config) (steps : List Step) : Except Error Config :=
  steps.foldlM Step.apply config

/-- What a run leaves of the empty configuration. -/
def run (steps : List Step) : Except Error Config := empty.runFrom steps

theorem runFrom_append (config : Config) (steps steps' : List Step) :
    config.runFrom (steps ++ steps') = (config.runFrom steps).bind (·.runFrom steps') :=
  List.foldlM_append

theorem runFrom_cons (config : Config) (step : Step) (steps : List Step) :
    config.runFrom (step :: steps) = (Step.apply config step).bind (·.runFrom steps) :=
  List.foldlM_cons

theorem run_concat (steps : List Step) (step : Step) :
    run (steps ++ [step]) = (run steps).bind (Step.apply · step) := by
  rw [run, runFrom_append, ← run]
  refine congrArg (run steps).bind (funext fun config => ?_)
  rw [runFrom_cons]
  cases Step.apply config step with
  | error e => rfl
  | ok after => rfl

/-- A run with one more step goes well where the run and the step do. -/
theorem run_concat_eq_ok_iff {steps : List Step} {step : Step} {after : Config} :
    run (steps ++ [step]) = .ok after
      ↔ ∃ config, run steps = .ok config ∧ Step.apply config step = .ok after := by
  rw [run_concat]
  cases run steps with
  | error e => simp [Except.bind]
  | ok config => simp [Except.bind]

/-- A run fails where it reads an environment that the configuration so far can not be filled in
from, and nowhere else. -/
theorem run_eq_error_iff {steps : List Step} {e : Error} :
    run steps = .error e
      ↔ ∃ before environment after config, steps = before ++ .fill environment :: after
        ∧ run before = .ok config ∧ config.fillFrom environment = .error e := by
  constructor
  · intro h
    induction steps using List.reverseRecOn with
    | nil => cases h
    | append_singleton steps step ih =>
        cases hrun : run steps with
        | error e' =>
            rw [run_concat, hrun] at h
            obtain rfl := Except.error.inj h
            obtain ⟨before, environment, after, config, rfl, hbefore, hfill⟩ := ih hrun
            exact ⟨before, environment, after ++ [step], config, by simp, hbefore, hfill⟩
        | ok config =>
            rw [run_concat, hrun] at h
            cases step with
            | setName name => cases h
            | setKey key => cases h
            | setVariant variant => cases h
            | fill environment => exact ⟨steps, environment, [], config, rfl, hrun, h⟩
  · rintro ⟨before, environment, after, config, rfl, hbefore, hfill⟩
    rw [run, runFrom_append, ← run, hbefore]
    change config.runFrom (.fill environment :: after) = .error e
    rw [runFrom_cons, Step.apply, hfill]
    rfl

/-! ### Fields -/

/-- A field of a configuration. -/
structure Field (α : Type) where
  /-- The value that it holds. -/
  value : Config → Option α
  /-- The value that a step sets it to, if it does. -/
  set? : Step → Option α
  /-- Its variable in an environment. -/
  variableName : Text
  /-- Whether a text of the variable stands for a value. -/
  Means : Text → α → Prop

/-- The account name, for which a text stands that is the name. -/
def nameField : Field Text where
  value := accountName
  set?
    | .setName name => some name
    | _ => none
  variableName := nameVariable
  Means := Eq

/-- The key, for which a text stands that is its base64. -/
def keyField : Field Text where
  value := accountKey
  set?
    | .setKey key => some key
    | _ => none
  variableName := keyVariable
  Means := Eq

/-- The variant, for which its tag and its name stand. -/
def variantField : Field Variant where
  value := variant
  set?
    | .setVariant variant => some variant
    | _ => none
  variableName := variantVariable
  Means t variant := variant.tag = t ∨ variant.name = t

namespace Field

variable {α : Type} (field : Field α)

/-- The text that a step finds for the field, if it reads an environment that has one. -/
def found? : Step → Option Text
  | .fill environment => environment.lookup field.variableName
  | _ => none

/-- The value of a field before a step and after it. -/
inductive Stepped (step : Step) : Option α → Option α → Prop
  | set {a : α} (before : Option α) : field.set? step = some a → Stepped step before (some a)
  | kept (a : α) : field.set? step = none → Stepped step (some a) (some a)
  | found {t : Text} {a : α} : field.set? step = none → field.found? step = some t →
      field.Means t a → Stepped step none (some a)
  | unset : field.set? step = none → field.found? step = none → Stepped step none none

/-- The value of a field after a run: what was set last, or else what the text that was found first
stands for, or else none. -/
inductive Settled (steps : List Step) : Option α → Prop
  | set {a : α} : (steps.filterMap field.set?).getLast? = some a → Settled steps (some a)
  | found {t : Text} {a : α} : steps.filterMap field.set? = [] →
      (steps.filterMap field.found?).head? = some t → field.Means t a → Settled steps (some a)
  | unset : steps.filterMap field.set? = [] → steps.filterMap field.found? = [] →
      Settled steps none

/-- The field goes through every step that succeeds as it should. -/
def Follows : Prop :=
  ∀ {step : Step} {config after : Config}, Step.apply config step = .ok after →
    field.Stepped step (field.value config) (field.value after)

variable {field}

/-- One more step. -/
theorem Settled.concat {steps : List Step} {step : Step} {before after : Option α}
    (h : field.Settled steps before) (hstep : field.Stepped step before after) :
    field.Settled (steps ++ [step]) after := by
  have hconcat : ∀ {β : Type} (f : Step → Option β), f step = none →
      (steps ++ [step]).filterMap f = steps.filterMap f := by
    intro β f hf
    rw [List.filterMap_append, List.filterMap_cons_none hf, List.filterMap_nil, List.append_nil]
  cases hstep with
  | set before hset =>
      refine .set ?_
      rw [List.filterMap_append, List.filterMap_cons_some hset, List.filterMap_nil,
        List.getLast?_concat]
  | kept a hset =>
      cases h with
      | set hlast => exact .set ((hconcat field.set? hset).symm ▸ hlast)
      | found hnone hfirst hmeans =>
          refine .found ((hconcat field.set? hset).trans hnone) ?_ hmeans
          rw [List.filterMap_append, List.head?_append, hfirst, Option.some_or]
  | found hset hfound hmeans =>
      cases h with
      | unset hnone hnothing =>
          refine .found ((hconcat field.set? hset).trans hnone) ?_ hmeans
          rw [List.filterMap_append, hnothing, List.nil_append, List.filterMap_cons_some hfound,
            List.head?_cons]
  | unset hset hfound =>
      cases h with
      | unset hnone hnothing =>
          exact .unset ((hconcat field.set? hset).trans hnone)
            ((hconcat field.found? hfound).trans hnothing)

/-- A field that goes through every step as it should is settled after every run. -/
theorem settled_of_run (hfield : field.Follows) (hempty : field.value empty = none)
    {steps : List Step} {config : Config} (h : run steps = .ok config) :
    field.Settled steps (field.value config) := by
  induction steps using List.reverseRecOn generalizing config with
  | nil =>
      obtain rfl := Except.ok.inj h
      rw [hempty]
      exact .unset rfl rfl
  | append_singleton steps step ih =>
      obtain ⟨before, hbefore, hstep⟩ := run_concat_eq_ok_iff.1 h
      exact (ih hbefore).concat (hfield hstep)

/-- What is unset after a run has not been found in an environment. -/
theorem Settled.lookup_eq_none {steps : List Step} (h : field.Settled steps none)
    {environment : Environment} (hmem : .fill environment ∈ steps) :
    environment.lookup field.variableName = none := by
  cases h with
  | unset _ hfound => exact List.filterMap_eq_nil_iff.1 hfound _ hmem

/-- A step that reads no environment sets the field or leaves it alone. -/
theorem Stepped.setting {step : Step} (hfound : field.found? step = none) (before : Option α) :
    field.Stepped step before ((field.set? step).or before) := by
  cases hset : field.set? step with
  | some a => exact .set before hset
  | none =>
      cases before with
      | none => exact .unset hset hfound
      | some a => exact .kept a hset

/-- A step that reads an environment fills in a field whose texts stand for themselves. -/
theorem Stepped.filling {field : Field Text} {step : Step} (hset : field.set? step = none)
    (hmeans : ∀ t, field.Means t t) (before : Option Text) :
    field.Stepped step before (before.or (field.found? step)) := by
  cases before with
  | some a => exact .kept a hset
  | none =>
      cases hfound : field.found? step with
      | none => exact .unset hset hfound
      | some t => exact .found hset hfound (hmeans t)

end Field

theorem follows_nameField : nameField.Follows := by
  intro step config after h
  cases step with
  | fill environment =>
      have hname : nameField.value after
          = config.accountName.or (environment.lookup nameVariable) := (fillFrom_eq_ok_iff.1 h).1
      rw [hname]
      exact Field.Stepped.filling rfl (fun _ => rfl) config.accountName
  | _ =>
      obtain rfl := Except.ok.inj h
      exact Field.Stepped.setting rfl config.accountName

theorem follows_keyField : keyField.Follows := by
  intro step config after h
  cases step with
  | fill environment =>
      have hkey : keyField.value after
          = config.accountKey.or (environment.lookup keyVariable) := (fillFrom_eq_ok_iff.1 h).2.1
      rw [hkey]
      exact Field.Stepped.filling rfl (fun _ => rfl) config.accountKey
  | _ =>
      obtain rfl := Except.ok.inj h
      exact Field.Stepped.setting rfl config.accountKey

theorem follows_variantField : variantField.Follows := by
  intro step config after h
  cases step with
  | fill environment =>
      have hresolve : config.resolveVariant environment = .ok (variantField.value after) :=
        (fillFrom_eq_ok_iff.1 h).2.2
      generalize variantField.value after = resolved at hresolve ⊢
      rw [resolveVariant] at hresolve
      split at hresolve
      · next variant hvariant =>
          obtain rfl := Except.ok.inj hresolve
          have hbefore : variantField.value config = some variant := hvariant
          rw [hbefore]
          exact .kept variant rfl
      · next hvariant =>
          have hbefore : variantField.value config = none := hvariant
          rw [hbefore]
          split at hresolve
          · next t hlookup =>
              obtain ⟨variant, hparse, rfl⟩ := Fallible.map_eq_ok_iff.1 hresolve
              exact .found rfl hlookup (Variant.parse_eq_ok_iff.1 hparse)
          · next hlookup =>
              obtain rfl := Except.ok.inj hresolve
              exact .unset rfl hlookup
  | _ =>
      obtain rfl := Except.ok.inj h
      exact Field.Stepped.setting rfl config.variant

/-- An environment has nothing to fill in where each field that it has a variable for is set. -/
theorem fillFrom_eq_self {config : Config} {environment : Environment}
    (hname : config.accountName = none → environment.lookup nameVariable = none)
    (hkey : config.accountKey = none → environment.lookup keyVariable = none)
    (hvariant : config.variant = none → environment.lookup variantVariable = none) :
    config.fillFrom environment = .ok config := by
  have hor : ∀ {value found : Option Text}, (value = none → found = none) →
      value = value.or found := by
    intro value found h
    cases value with
    | none => exact (h rfl).symm
    | some t => rfl
  refine fillFrom_eq_ok_iff.2 ⟨hor hname, hor hkey, ?_⟩
  rw [resolveVariant]
  cases h : config.variant with
  | some variant => rfl
  | none => simp only [hvariant h]

/-- **A field holds what was set last, or else what the first environment with its variable says.**
After a run that goes well this is what each field holds, an environment that has been read has
nothing more to say, and the next one fails exactly where the variant is unset and it has a text for
it that is none.  A run fails at such an environment only. -/
theorem run_settles (steps : List Step) :
    (∀ config, run steps = .ok config →
      nameField.Settled steps config.accountName
      ∧ keyField.Settled steps config.accountKey
      ∧ variantField.Settled steps config.variant
      ∧ (∀ environment, .fill environment ∈ steps → config.fillFrom environment = .ok config)
      ∧ ∀ environment,
        ((∃ e, config.fillFrom environment = .error e)
          ↔ config.variant = none ∧ ∃ t, NamesNoVariant environment t)
        ∧ ∀ e, config.fillFrom environment = .error e → e.kind = .unsupportedAuthVariant)
    ∧ ∀ e, run steps = .error e
      ↔ ∃ before environment after config, steps = before ++ .fill environment :: after
        ∧ run before = .ok config ∧ config.variant = none
        ∧ ∃ t, NamesNoVariant environment t ∧ e = .unsupportedVariant t := by
  constructor
  · intro config h
    have hname := Field.settled_of_run follows_nameField rfl h
    have hkey := Field.settled_of_run follows_keyField rfl h
    have hvariant := Field.settled_of_run follows_variantField rfl h
    refine ⟨hname, hkey, hvariant, fun environment hmem => ?_, fun environment => ⟨?_, ?_⟩⟩
    · refine fillFrom_eq_self (fun hnone => ?_) (fun hnone => ?_) (fun hnone => ?_)
      · exact (hnone ▸ hname : nameField.Settled steps none).lookup_eq_none hmem
      · exact (hnone ▸ hkey : keyField.Settled steps none).lookup_eq_none hmem
      · exact (hnone ▸ hvariant : variantField.Settled steps none).lookup_eq_none hmem
    · constructor
      · rintro ⟨e, he⟩
        obtain ⟨hnone, t, ht, -⟩ := fillFrom_eq_error_iff.1 he
        exact ⟨hnone, t, ht⟩
      · rintro ⟨hnone, t, ht⟩
        exact ⟨_, fillFrom_eq_error_iff.2 ⟨hnone, t, ht, rfl⟩⟩
    · intro e he
      obtain ⟨-, t, -, rfl⟩ := fillFrom_eq_error_iff.1 he
      rfl
  · intro e
    simp only [run_eq_error_iff, fillFrom_eq_error_iff]

/-- An environment with a name and a variant. -/
def liteEnvironment : Environment :=
  [(nameVariable, "a".toList), (variantVariable, "sharedKeyLite".toList)]

/-- An environment with a key as well, and with a text for the variant that is none. -/
def laterEnvironment : Environment :=
  [(nameVariable, "c".toList), (keyVariable, "k".toList), (variantVariable, "lite".toList)]

/-- The name is set between two environments: it is kept, the key is found in the second one, and
the variant in the first one.  On its own the second one has no variant. -/
theorem run_settles_two_environments :
    nameField.Settled [.fill liteEnvironment, .setName "b".toList, .fill laterEnvironment]
        (some "b".toList)
      ∧ keyField.Settled [.fill liteEnvironment, .setName "b".toList, .fill laterEnvironment]
        (some "k".toList)
      ∧ variantField.Settled [.fill liteEnvironment, .setName "b".toList, .fill laterEnvironment]
        (some .sharedKeyLite)
      ∧ fillFrom ⟨some "b".toList, some "k".toList, some .sharedKeyLite⟩ laterEnvironment
        = .ok ⟨some "b".toList, some "k".toList, some .sharedKeyLite⟩
      ∧ NamesNoVariant laterEnvironment "lite".toList
      ∧ run [.fill laterEnvironment] = .error (.unsupportedVariant "lite".toList) := by
  have hrun : run [.fill liteEnvironment, .setName "b".toList, .fill laterEnvironment]
      = .ok ⟨some "b".toList, some "k".toList, some .sharedKeyLite⟩ := rfl
  have hunknown : NamesNoVariant laterEnvironment "lite".toList := by
    refine ⟨rfl, fun variant => ?_⟩
    cases variant <;> decide
  obtain ⟨hname, hkey, hvariant, hread, -⟩ := (run_settles _).1 _ hrun
  refine ⟨hname, hkey, hvariant, hread laterEnvironment ?_, hunknown, ?_⟩
  · exact List.mem_cons_of_mem _ (List.mem_cons_of_mem _ List.mem_cons_self)
  · exact ((run_settles _).2 _).2 ⟨[], laterEnvironment, [], empty, rfl, rfl, rfl, _, hunknown, rfl⟩

end Config

end SharedKey
