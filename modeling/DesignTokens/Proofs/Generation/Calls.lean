import DesignTokens.Generation.Session
import DesignTokens.Proofs.Generation.Templates

/-!
# Calls on a session

The options of a session can be changed between its generations, and a change
may fail.  However a session came to its options, it answers as one does that is
newly started with them: the generator, the syntax of the stylesheets and the
options are written one after the other, but only when nothing can fail any more.
-/

namespace DesignTokens

/-! ## Registries -/

namespace Registry

/-- The registry of registrations that are made one after the other. -/
def ofRegistrations (entries : List (Framework × GeneratorFactory)) : Registry :=
  entries.foldl (fun r entry => r.register entry.1 entry.2) empty

theorem factories_ofRegistrations (entries : List (Framework × GeneratorFactory)) :
    (ofRegistrations entries).factories = .ofList entries :=
  (List.foldl_hom factories fun _ _ => rfl).symm

/-- Whether a factory is the last one that was registered for a framework. -/
def IsLast (entries : List (Framework × GeneratorFactory)) (framework : Framework)
    (factory : GeneratorFactory) : Prop :=
  ∃ earlier later, entries = earlier ++ (framework, factory) :: later ∧
    framework ∉ later.map Prod.fst

variable {entries : List (Framework × GeneratorFactory)} {options : GenerationOptions}

theorem exists_isLast_iff {framework : Framework} :
    (∃ factory, IsLast entries framework factory) ↔ framework ∈ entries.map Prod.fst := by
  constructor
  · rintro ⟨factory, earlier, later, rfl, -⟩
    simp
  · intro member
    obtain ⟨earlier, factory, later, split, last⟩ := exists_last_entry member
    exact ⟨factory, earlier, later, split, last⟩

/-- The last factory that was registered for a framework builds its generators. -/
theorem create_of_isLast {factory : GeneratorFactory}
    (last : IsLast entries options.framework factory) :
    (ofRegistrations entries).create options = factory options := by
  obtain ⟨earlier, later, rfl, last⟩ := last
  rw [create, factories_ofRegistrations, OrderedMap.get?_ofList_of_not_mem factory last]

theorem create_of_not_mem (absent : options.framework ∉ entries.map Prod.fst) :
    (ofRegistrations entries).create options
      = .error (.unsupportedFramework (Alternatives.name options.framework)) := by
  rw [create, factories_ofRegistrations, OrderedMap.get?_ofList_eq_none absent]

/-- There is no generator for options only where there is no factory, or the last one fails. -/
theorem create_eq_error_iff {cause : GenerationError} :
    (ofRegistrations entries).create options = .error cause ↔
      options.framework ∉ entries.map Prod.fst ∧
          cause = .unsupportedFramework (Alternatives.name options.framework) ∨
        ∃ factory, IsLast entries options.framework factory ∧ factory options = .error cause := by
  by_cases registered : options.framework ∈ entries.map Prod.fst
  · obtain ⟨factory, last⟩ := exists_isLast_iff.mpr registered
    rw [create_of_isLast last]
    constructor
    · exact fun failed => .inr ⟨factory, last, failed⟩
    · rintro (⟨absent, -⟩ | ⟨other, otherLast, failed⟩)
      · exact absurd registered absent
      · rw [← create_of_isLast last, create_of_isLast otherLast, failed]
  · rw [create_of_not_mem registered, Except.error.injEq]
    constructor
    · rintro rfl
      exact .inl ⟨registered, rfl⟩
    · rintro (⟨-, rfl⟩ | ⟨factory, last, -⟩)
      · rfl
      · exact absurd (exists_isLast_iff.mp ⟨factory, last⟩) registered

/-- There is a generator for options where the last factory builds it. -/
theorem create_eq_ok_iff {generator : Generator} :
    (ofRegistrations entries).create options = .ok generator ↔
      ∃ factory, IsLast entries options.framework factory ∧ factory options = .ok generator := by
  constructor
  · intro built
    by_cases registered : options.framework ∈ entries.map Prod.fst
    · obtain ⟨factory, last⟩ := exists_isLast_iff.mpr registered
      exact ⟨factory, last, create_of_isLast last ▸ built⟩
    · rw [create_of_not_mem registered] at built
      cases built
  · rintro ⟨factory, last, built⟩
    rw [create_of_isLast last, built]

/-- Where all factories are those of frameworks, there is a generator for every framework that
is registered. -/
theorem create_of_factories
    (known : ∀ entry ∈ entries, ∃ framework, entry.2 = Framework.factory framework)
    (registered : options.framework ∈ entries.map Prod.fst) :
    ∃ generator, (ofRegistrations entries).create options = .ok generator := by
  obtain ⟨factory, last⟩ := exists_isLast_iff.mpr registered
  obtain ⟨framework, own⟩ : ∃ framework, factory = Framework.factory framework := by
    obtain ⟨earlier, later, rfl, -⟩ := last
    exact known (options.framework, factory) (by simp)
  rw [create_of_isLast last, own, Framework.factory_eq]
  exact ⟨_, rfl⟩

end Registry

/-! ## Calls -/

namespace Session

/-- A call on a session. -/
inductive Call where
  | setOptions (options : GenerationOptions)
  | generate (tokens : List Token)

/-- What a call is answered with. -/
inductive Answer where
  | changed
  | refused (cause : GenerationError)
  | generated (files : Except GenerationError (List GeneratedFile))

/-- The session that a call leaves, with the answer. -/
def call (s : Session) : Call → Session × Answer
  | .setOptions options =>
    match (setOptions options).run s with
    | (.ok (), next) => (next, .changed)
    | (.error cause, next) => (next, .refused cause)
  | .generate tokens => (s, .generated (s.generate tokens))

/-- The session after calls that are made one after the other, with the answers. -/
def run (s : Session) : List Call → Session × List Answer
  | [] => (s, [])
  | c :: calls =>
    let (between, answer) := s.call c
    let (last, answers) := between.run calls
    (last, answer :: answers)

/-- The options after a call, by its answer. -/
def Call.optionsAfter (options : GenerationOptions) : Call → Answer → GenerationOptions
  | .setOptions new, .changed => new
  | _, _ => options

/-- The options that were set last with success, by the answers to the calls, or else
the ones that there were before. -/
def optionsAfter (options : GenerationOptions) :
    List Call → List Answer → GenerationOptions
  | c :: calls, answer :: answers => optionsAfter (c.optionsAfter options answer) calls answers
  | _, _ => options

/-! ## Runs -/

theorem run_cons (s : Session) (c : Call) (calls : List Call) :
    s.run (c :: calls) =
      (((s.call c).1.run calls).1, (s.call c).2 :: ((s.call c).1.run calls).2) := rfl

theorem run_append (s : Session) (calls more : List Call) :
    s.run (calls ++ more) =
      (((s.run calls).1.run more).1, (s.run calls).2 ++ ((s.run calls).1.run more).2) := by
  induction calls generalizing s with
  | nil => rfl
  | cons c calls ih =>
    rw [List.cons_append, run_cons, run_cons, ih, List.cons_append]

theorem length_run (s : Session) (calls : List Call) :
    (s.run calls).2.length = calls.length := by
  induction calls generalizing s with
  | nil => rfl
  | cons c calls ih => exact congrArg (· + 1) (ih _)

/-- A call is answered by the session that the calls before it left behind. -/
theorem answer_run (s : Session) (before : List Call) (c : Call) (after : List Call) :
    (s.run (before ++ c :: after)).2[before.length]? = some ((s.run before).1.call c).2 := by
  rw [run_append, List.getElem?_append_right (Nat.le_of_eq (length_run s before)), length_run,
    Nat.sub_self]
  rfl

/-- A call that leaves the session as it was could have been left out. -/
theorem run_without {s : Session} {before : List Call} {c : Call}
    (unchanged : ((s.run before).1.call c).1 = (s.run before).1) (after : List Call) :
    (s.run (before ++ c :: after)).1 = (s.run (before ++ after)).1 ∧
      (s.run (before ++ c :: after)).2.eraseIdx before.length = (s.run (before ++ after)).2 := by
  rw [run_append, run_append, run_cons, unchanged]
  refine ⟨rfl, ?_⟩
  rw [← length_run s before, List.eraseIdx_append_of_length_le (Nat.le_refl _), Nat.sub_self,
    List.eraseIdx_cons_zero]

/-! ## Sessions in step with their options -/

/-- Whether a session is as one that is newly started with its options. -/
def IsFresh (s : Session) : Prop := start s.registry s.options = .ok s

theorem start_eq (registry : Registry) (options : GenerationOptions) :
    start registry options =
      (registry.create options).map (⟨options, registry, ·, options.styleFormat⟩) := by
  rw [start]
  cases registry.create options <;> rfl

theorem of_start {registry : Registry} {options : GenerationOptions} {s : Session}
    (started : start registry options = .ok s) :
    s.IsFresh ∧ s.registry = registry ∧ s.options = options := by
  have here := started
  rw [start_eq] at here
  cases built : registry.create options with
  | error cause =>
    rw [built] at here
    cases here
  | ok generator =>
    rw [built] at here
    cases here
    exact ⟨started, rfl, rfl⟩

/-- A change of options leaves the session that they start over the registry, whatever the
options were before.  Where they start none, it leaves the session as it was. -/
theorem run_setOptions (s : Session) (options : GenerationOptions) :
    (setOptions options).run s =
      match start s.registry options with
      | .ok next => (.ok (), next)
      | .error cause => (.error cause, s) := by
  rw [start_eq]
  show ((liftM (s.registry.create options) :
    ExceptT GenerationError (StateM Session) Generator) >>= fun generator => _).run s = _
  -- What fails is the first step, and the three changes behind it are not made.
  cases s.registry.create options with
  | error cause => rfl
  | ok generator => rfl

theorem call_setOptions (s : Session) (options : GenerationOptions) :
    s.call (.setOptions options) =
      match start s.registry options with
      | .ok next => (next, .changed)
      | .error cause => (s, .refused cause) := by
  rw [call, run_setOptions]
  cases start s.registry options <;> rfl

/-- A call keeps the session in step with the options that its answer tells. -/
theorem isFresh_call {s : Session} (fresh : s.IsFresh) (c : Call) :
    (s.call c).1.IsFresh ∧ (s.call c).1.registry = s.registry ∧
      (s.call c).1.options = c.optionsAfter s.options (s.call c).2 := by
  cases c with
  | generate tokens => exact ⟨fresh, rfl, rfl⟩
  | setOptions options =>
    rw [call_setOptions]
    cases started : start s.registry options with
    | error cause => exact ⟨fresh, rfl, rfl⟩
    | ok next => exact of_start started

/-- So do all calls of a run. -/
theorem isFresh_run {s : Session} (fresh : s.IsFresh) (calls : List Call) :
    (s.run calls).1.IsFresh ∧ (s.run calls).1.registry = s.registry ∧
      (s.run calls).1.options = optionsAfter s.options calls (s.run calls).2 := by
  induction calls generalizing s with
  | nil => exact ⟨fresh, rfl, rfl⟩
  | cons c calls ih =>
    obtain ⟨between, registry, options⟩ := isFresh_call fresh c
    obtain ⟨last, registries, lastOptions⟩ := ih between
    exact ⟨last, registries.trans registry, lastOptions.trans (by rw [options]; rfl)⟩

/-! ## Answers -/

/-- A change of options is made where there is a generator for them, and refused with the
reason why there is none. -/
theorem answer_setOptions (s : Session) (options : GenerationOptions) :
    (s.call (.setOptions options)).2 =
      match s.registry.create options with
      | .ok _ => .changed
      | .error cause => .refused cause := by
  rw [call_setOptions, start_eq]
  cases s.registry.create options <;> rfl

/-- Only a call that leaves the session as it was is refused. -/
theorem call_of_refused {s : Session} {c : Call} {cause : GenerationError}
    (refused : (s.call c).2 = .refused cause) : (s.call c).1 = s := by
  cases c with
  | generate tokens => rfl
  | setOptions options =>
    rw [call_setOptions] at refused ⊢
    cases started : start s.registry options with
    | ok next =>
      rw [started] at refused
      cases refused
    | error cause => rfl

/-- Options that are changed last are those of the session. -/
theorem options_run_of_changed {s : Session} {before : List Call} {options : GenerationOptions}
    (changed : (s.run (before ++ [.setOptions options])).2[before.length]? = some .changed) :
    (s.run (before ++ [.setOptions options])).1.options = options := by
  rw [answer_run, call_setOptions] at changed
  rw [run_append, run_cons, call_setOptions]
  cases started : start (s.run before).1.registry options with
  | error cause =>
    rw [started] at changed
    cases changed
  | ok next => exact (of_start started).2.2

/-- Whatever the calls before, a session generates what a session does that is newly
started over the same registrations with the options that were set last with success.  A
change of options is refused where no factory is registered for their framework or the last
one that is fails, and only there.  So among the factories of the frameworks themselves it is
refused just where none is registered.  After a refusal the session goes on as if it had not
been asked.  Among the factories of a framework the last one counts. -/
theorem answers_of_run {entries : List (Framework × GeneratorFactory)} {first : GenerationOptions}
    {s : Session} (started : start (.ofRegistrations entries) first = .ok s)
    (calls : List Call) :
    let answers := (s.run calls).2
    let frameworks := entries.map Prod.fst
    (s.run calls).1.options = optionsAfter first calls answers ∧
    (∀ before tokens after, calls = before ++ .generate tokens :: after →
      ∃ fresh,
        start (.ofRegistrations entries) (optionsAfter first before (s.run before).2) = .ok fresh ∧
        answers[before.length]? = some (.generated (fresh.generate tokens))) ∧
    (∀ before options after, calls = before ++ .setOptions options :: after →
      let answer := answers[before.length]?
      let unsupported := .unsupportedFramework (Alternatives.name options.framework)
      (∀ cause, answer = some (.refused cause) ↔
        options.framework ∉ frameworks ∧ cause = unsupported ∨
          ∃ factory, Registry.IsLast entries options.framework factory ∧
            factory options = .error cause) ∧
      (answer = some .changed ↔
        ∃ factory generator, Registry.IsLast entries options.framework factory ∧
          factory options = .ok generator) ∧
      ((∀ entry ∈ entries, ∃ framework, entry.2 = Framework.factory framework) →
        answer =
          some (if options.framework ∈ frameworks then .changed else .refused unsupported)) ∧
      ∀ cause, answer = some (.refused cause) →
        (s.run calls).1 = (s.run (before ++ after)).1 ∧
        answers.eraseIdx before.length = (s.run (before ++ after)).2) ∧
    ∀ options factory, Registry.IsLast entries options.framework factory →
      start (.ofRegistrations entries) options =
        (factory options).map (⟨options, .ofRegistrations entries, ·, options.styleFormat⟩) := by
  obtain ⟨isFresh, registry, rfl⟩ := of_start started
  refine ⟨(isFresh_run isFresh calls).2.2, ?_, ?_, ?_⟩
  · rintro before tokens after rfl
    obtain ⟨fresh, same, options⟩ := isFresh_run isFresh before
    refine ⟨(s.run before).1, ?_, answer_run s before _ after⟩
    rw [← options, ← registry, ← same]
    exact fresh
  · rintro before options after rfl
    have same : (s.run before).1.registry = .ofRegistrations entries :=
      (isFresh_run isFresh before).2.1.trans registry
    rw [answer_run]
    refine ⟨fun cause => ?_, ?_, fun known => ?_, fun cause refused => ?_⟩
    · rw [answer_setOptions, same, ← Registry.create_eq_error_iff]
      cases (Registry.ofRegistrations entries).create options <;> simp
    · rw [exists_comm]
      simp only [← Registry.create_eq_ok_iff]
      rw [answer_setOptions, same]
      cases (Registry.ofRegistrations entries).create options <;> simp
    · rw [answer_setOptions, same]
      by_cases registered : options.framework ∈ entries.map Prod.fst
      · obtain ⟨generator, built⟩ := Registry.create_of_factories known registered
        rw [built, if_pos registered]
      · rw [Registry.create_of_not_mem registered, if_neg registered]
    · exact run_without (call_of_refused (Option.some.inj refused)) after
  · intro options factory last
    rw [start_eq, Registry.create_of_isLast last]

/-- A change to a framework without a factory is refused, and one for which the factory itself
fails with the reason that it gives.  A change to a framework with two factories is made, and
then the session generates what the second of these factories makes it. -/
theorem answers_of_run_registered_twice :
    let react : GeneratorFactory := fun options =>
      if options.typescript then Framework.react.factory options
      else .error (.invalidTemplate .malformed)
    let entries : List (Framework × GeneratorFactory) :=
      [(.react, react), (.vue, Framework.react.factory), (.vue, Framework.angular.factory)]
    let vue : GenerationOptions := ⟨.vue, .scss, true, true⟩
    let refused : List Call :=
      [.setOptions ⟨.angular, .tailwind, true, false⟩, .setOptions ⟨.react, .css, false, true⟩]
    let changes := refused ++ [.setOptions vue]
    ∃ s fresh, start (.ofRegistrations entries) .standard = .ok s ∧
      start (.ofRegistrations entries) vue = .ok fresh ∧
      Framework.angular.factory vue = .ok fresh.generator ∧
      let answers := (s.run (changes ++ [.generate []])).2
      answers[0]? = some (.refused (.unsupportedFramework "angular")) ∧
      answers[1]? = some (.refused (.invalidTemplate .malformed)) ∧
      answers[2]? = some .changed ∧
      answers[3]? = some (.generated (fresh.generate [])) := by
  intro react entries vue refused changes
  have reactLast : Registry.IsLast entries .react react := ⟨[], entries.tail, rfl, by decide⟩
  have vueLast : Registry.IsLast entries .vue Framework.angular.factory :=
    ⟨entries.take 2, [], rfl, by decide⟩
  have started : start (.ofRegistrations entries) .standard
      = .ok ⟨.standard, .ofRegistrations entries, Framework.react.generator .standard, .css⟩ := by
    rw [start_eq, Registry.create_of_isLast reactLast]
    show (Framework.react.factory .standard).map _ = _
    rw [Framework.factory_eq]
    rfl
  obtain ⟨-, generated, changed, latest⟩ := answers_of_run started (changes ++ [.generate []])
  have made := (changed refused vue _ rfl).2.1.mpr ⟨_, _, vueLast, Framework.angular.factory_eq vue⟩
  obtain ⟨fresh, startedFresh, answer⟩ := generated changes [] [] rfl
  -- The options that were set last with success are those of the third change.
  have startedVue : start (.ofRegistrations entries) vue = .ok fresh := by
    obtain ⟨options, -, changed, -⟩ := answers_of_run started changes
    have made := (changed refused vue [] rfl).2.1.mpr
      ⟨_, _, vueLast, Framework.angular.factory_eq vue⟩
    rw [← startedFresh, ← options, options_run_of_changed made]
  refine ⟨_, fresh, started, startedVue, ?_, ?_, ?_, made, answer⟩
  · -- The second registration of the slot is the last one.
    have last := latest vue _ vueLast
    rw [startedVue, Framework.factory_eq] at last
    rw [Framework.factory_eq, Except.ok.inj last]
  · exact ((changed [] _ _ rfl).1 _).mpr (.inl ⟨by decide, rfl⟩)
  · exact ((changed [_] _ _ rfl).1 _).mpr (.inr ⟨react, reactLast, rfl⟩)

end Session

end DesignTokens
