import DesignTokens.Files.Tree
import DesignTokens.Proofs.Computation

/-!
# Files under watch

A watched tree of files knows how the last attempt to change it ended.  What runs
on a tree of files runs on a watched one just the same, and afterwards it can be
told whether an error is that of a change that failed.

Computations are put together from such that only look, which leave everything as
it is, and such that only write, whose errors all come from changes that failed.
-/

namespace DesignTokens

/-- A tree of files, and why the last attempt to make a folder or to write a file
failed, if it did. -/
structure Watched where
  tree : FileTree
  fault : Option FileError

namespace Watched

/-- Carries out an attempt to change the tree. -/
def attempt (w : Watched) : Except FileError FileTree → Except FileError Unit × Watched
  | .ok t => (.ok (), ⟨t, none⟩)
  | .error e => (.error e, { w with fault := some e })

instance : MonadFiles (StateM Watched) where
  readText path w := (w.tree.read path, w)
  writeText path text w := w.attempt (w.tree.write path text)
  makeFolder path w := w.attempt (w.tree.makeFolder path)
  isFolder path w := (w.tree.isFolder path, w)

end Watched

/-- Errors that may be due to a change of files that failed. -/
class BlamesFiles (ε : Type) where
  /-- Whether an error is due to what went wrong with a file. -/
  Blames : ε → FileError → Prop

export BlamesFiles (Blames)

instance : BlamesFiles FileError := ⟨fun e cause => e = cause⟩

namespace Fallible

variable {ε ε' α β : Type}

/-! ## Runs under watch -/

/-- A computation that comes to the same on a tree of files, as `x`, and on a watched
tree, as `y`. -/
structure Runs (x : ExceptT ε (StateM FileTree) α) (y : ExceptT ε (StateM Watched) α)
    (w : Watched) (outcome : Except ε α) (w' : Watched) : Prop where
  plain : x.run w.tree = (outcome, w'.tree)
  watched : y.run w = (outcome, w')

variable {x : ExceptT ε (StateM FileTree) α} {y : ExceptT ε (StateM Watched) α}
  {f : α → ExceptT ε (StateM FileTree) β} {g : α → ExceptT ε (StateM Watched) β}
  {w w' w'' : Watched}

theorem Runs.of_plain {outcome outcome' : Except ε α} {t : FileTree}
    (runs : Runs x y w outcome w') (plain : x.run w.tree = (outcome', t)) :
    outcome = outcome' ∧ w'.tree = t := Prod.mk.inj (runs.plain.symm.trans plain)

theorem Runs.bind_ok {a : α} {outcome : Except ε β} (first : Runs x y w (.ok a) w')
    (second : Runs (f a) (g a) w' outcome w'') : Runs (x >>= f) (y >>= g) w outcome w'' where
  plain := (run_bind_ok first.plain).trans second.plain
  watched := (run_bind_ok first.watched).trans second.watched

theorem Runs.bind_error {e : ε} (failed : Runs x y w (.error e) w') :
    Runs (x >>= f) (y >>= g) w (.error e) w' where
  plain := run_bind_error failed.plain
  watched := run_bind_error failed.watched

/-- Passes on the outcome of a computation with another error. -/
def passOn {m : Type → Type} [Monad m] (error : ε → ε') (x : m (Except ε α)) :
    ExceptT ε' m α := do
  match ← x with
  | .ok a => return a
  | .error e => throw (error e)

theorem lift_bind_eq_passOn {m : Type → Type} [Monad m] {error : ε → ε'} {x : m (Except ε α)}
    {next : Except ε α → ExceptT ε' m α} (done : ∀ a, next (.ok a) = pure a)
    (failed : ∀ e, next (.error e) = throw (error e)) : liftM x >>= next = passOn error x := by
  rw [passOn]
  congr
  funext outcome
  cases outcome with
  | ok a => exact done a
  | error e => exact failed e

theorem run_passOn {σ : Type} (error : ε → ε') (y : StateM σ (Except ε α)) (s : σ) :
    (passOn error y).run s = ((y s).1.mapError error, (y s).2) := by
  refine (run_lift_bind y _ s).trans ?_
  cases y s with
  | mk outcome s' => cases outcome <;> rfl

theorem runs_passOn {error : ε → ε'} {x : StateM FileTree (Except ε α)}
    {y : StateM Watched (Except ε α)} {outcome : Except ε α}
    (runs : Runs (ExceptT.mk x) (ExceptT.mk y) w outcome w') :
    Runs (passOn error x) (passOn error y) w (outcome.mapError error) w' := by
  have plain : x w.tree = (outcome, w'.tree) := runs.plain
  have watched : y w = (outcome, w') := runs.watched
  constructor
  · rw [run_passOn, plain]
  · rw [run_passOn, watched]

/-! ## Looking -/

/-- A computation that changes nothing and attempts no change. -/
def Looks (x : ExceptT ε (StateM FileTree) α) (y : ExceptT ε (StateM Watched) α) : Prop :=
  ∀ w, ∃ outcome, Runs x y w outcome w

theorem looks_lift (outcome : Except ε α) :
    Looks (liftM outcome : ExceptT ε (StateM FileTree) α) (liftM outcome) :=
  fun _ => ⟨outcome, rfl, rfl⟩

theorem looks_pure (a : α) : Looks (pure a : ExceptT ε (StateM FileTree) α) (pure a) :=
  looks_lift (.ok a)

theorem looks_throw (e : ε) : Looks (throw e : ExceptT ε (StateM FileTree) α) (throw e) :=
  looks_lift (.error e)

theorem Looks.bind (first : Looks x y) (second : ∀ a, Looks (f a) (g a)) :
    Looks (x >>= f) (y >>= g) := by
  intro w
  obtain ⟨outcome, runs⟩ := first w
  cases outcome with
  | error e => exact ⟨.error e, runs.bind_error⟩
  | ok a =>
    obtain ⟨outcome, runs'⟩ := second a w
    exact ⟨outcome, runs.bind_ok runs'⟩

theorem Looks.passOn {x : StateM FileTree (Except ε α)} {y : StateM Watched (Except ε α)}
    (looks : Looks (ExceptT.mk x) (ExceptT.mk y)) (error : ε → ε') :
    Looks (Fallible.passOn error x) (Fallible.passOn error y) := by
  intro w
  obtain ⟨outcome, runs⟩ := looks w
  exact ⟨_, runs_passOn runs⟩

theorem looks_readText (path : String) :
    Looks (ExceptT.mk (readText path : StateM FileTree (Except FileError String)))
      (ExceptT.mk (readText path)) :=
  fun w => ⟨w.tree.read path, rfl, rfl⟩

/-! ## Writing -/

variable [BlamesFiles ε] [BlamesFiles ε']

/-- Whether an outcome, if it is an error, is due to the change that failed last. -/
def IsBlamed (outcome : Except ε α) (w : Watched) : Prop :=
  ∀ e, outcome = .error e → ∃ cause, w.fault = some cause ∧ Blames e cause

theorem isBlamed_ok (a : α) (w : Watched) : IsBlamed (.ok a : Except ε α) w := nofun

theorem isBlamed_error {e : ε} :
    IsBlamed (.error e : Except ε α) w ↔ ∃ cause, w.fault = some cause ∧ Blames e cause :=
  ⟨fun blamed => blamed e rfl, fun fault _ same => by cases same; exact fault⟩

/-- A run that fails only if a change has failed. -/
def WritesFrom (w : Watched) (x : ExceptT ε (StateM FileTree) α)
    (y : ExceptT ε (StateM Watched) α) : Prop :=
  ∃ outcome w', Runs x y w outcome w' ∧ IsBlamed outcome w'

/-- A computation that fails only if a change has failed. -/
def Writes (x : ExceptT ε (StateM FileTree) α) (y : ExceptT ε (StateM Watched) α) : Prop :=
  ∀ w, WritesFrom w x y

theorem WritesFrom.bind (first : WritesFrom w x y) (second : ∀ a, Writes (f a) (g a)) :
    WritesFrom w (x >>= f) (y >>= g) := by
  obtain ⟨outcome, w', runs, blamed⟩ := first
  cases outcome with
  | error e => exact ⟨.error e, w', runs.bind_error, isBlamed_error.mpr (isBlamed_error.mp blamed)⟩
  | ok a =>
    obtain ⟨outcome, w'', runs', blamed'⟩ := second a w'
    exact ⟨outcome, w'', runs.bind_ok runs', blamed'⟩

theorem Writes.bind (first : Writes x y) (second : ∀ a, Writes (f a) (g a)) :
    Writes (x >>= f) (y >>= g) := fun w => (first w).bind second

theorem writes_pure (a : α) : Writes (pure a : ExceptT ε (StateM FileTree) α) (pure a) :=
  fun w => ⟨.ok a, w, ⟨rfl, rfl⟩, isBlamed_ok a w⟩

theorem IsBlamed.mapError {outcome : Except ε α} {error : ε → ε'} (blamed : IsBlamed outcome w)
    (blames : ∀ e cause, Blames e cause → Blames (error e) cause) :
    IsBlamed (outcome.mapError error) w := by
  cases outcome with
  | ok a => exact isBlamed_ok a w
  | error e =>
    obtain ⟨cause, fault, blamed⟩ := isBlamed_error.mp blamed
    exact isBlamed_error.mpr ⟨cause, fault, blames e cause blamed⟩

theorem Writes.passOn {x : StateM FileTree (Except ε α)} {y : StateM Watched (Except ε α)}
    (writes : Writes (ExceptT.mk x) (ExceptT.mk y)) {error : ε → ε'}
    (blames : ∀ e cause, Blames e cause → Blames (error e) cause) :
    Writes (Fallible.passOn error x) (Fallible.passOn error y) := by
  intro w
  obtain ⟨outcome, w', runs, blamed⟩ := writes w
  exact ⟨_, w', runs_passOn runs, blamed.mapError blames⟩

/-- An attempt to change something has the same outcome under watch. -/
theorem exists_attempt (w : Watched) (changed : Except FileError FileTree) :
    ∃ outcome w', w.tree.change changed = (outcome, w'.tree) ∧ w.attempt changed = (outcome, w') ∧
      IsBlamed outcome w' := by
  cases changed with
  | error e => exact ⟨.error e, ⟨w.tree, some e⟩, rfl, rfl, isBlamed_error.mpr ⟨e, rfl, rfl⟩⟩
  | ok t => exact ⟨.ok (), ⟨t, none⟩, rfl, rfl, isBlamed_ok () _⟩

theorem writes_writeText (path text : String) :
    Writes (ExceptT.mk (writeText path text : StateM FileTree (Except FileError Unit)))
      (ExceptT.mk (writeText path text)) := by
  intro w
  obtain ⟨outcome, w', plain, watched, blamed⟩ := exists_attempt w (w.tree.write path text)
  exact ⟨outcome, w', ⟨plain, watched⟩, blamed⟩

theorem writesFrom_acceptFolder (path : String) {outcome : Except FileError Unit}
    (blamed : IsBlamed outcome w) :
    WritesFrom w (ExceptT.mk (acceptFolder path outcome))
      (ExceptT.mk (acceptFolder path outcome)) := by
  cases outcome with
  | ok a => exact ⟨.ok a, w, ⟨rfl, rfl⟩, isBlamed_ok a w⟩
  | error e =>
    refine ⟨if w.tree.isFolder path then .ok () else .error e, w, ⟨rfl, rfl⟩, ?_⟩
    split
    · exact isBlamed_ok () w
    · exact blamed

section Steps

variable {σ : Type} [MonadFiles (StateM σ)] {path : String} {parents : List String} {s s' : σ}

theorem tryFolder_eq {outcome : Except FileError Unit}
    (tried : (MonadFiles.makeFolder path : StateM σ (Except FileError Unit)) s = (outcome, s')) :
    (MonadFiles.makeFolder path >>= acceptFolder path : StateM σ (Except FileError Unit)) s =
      (acceptFolder path outcome : StateM σ (Except FileError Unit)) s' := by
  simp only [bind, StateT.bind, tried]

/-- What making a folder comes to if nothing around it is missing. -/
theorem makeFolderIn_of_tried (given : path ≠ "") {outcome : Except FileError Unit}
    (tried : (MonadFiles.makeFolder path : StateM σ (Except FileError Unit)) s = (outcome, s'))
    (around : outcome ≠ .error .notFound) :
    (makeFolderIn (path :: parents) : StateM σ (Except FileError Unit)) s =
      (acceptFolder path outcome : StateM σ (Except FileError Unit)) s' := by
  rw [makeFolderIn, if_neg given]
  simp only [bind, StateT.bind, tried]

/-- What making a folder comes to if something around it is missing: the folders around it are
made, and then it is tried again. -/
theorem makeFolderIn_of_missing (given : path ≠ "")
    (tried : (MonadFiles.makeFolder path : StateM σ (Except FileError Unit)) s
      = (.error .notFound, s')) :
    (makeFolderIn (path :: parents) : StateM σ (Except FileError Unit)) s =
      (ExceptT.mk (makeFolderIn parents : StateM σ (Except FileError Unit)) >>= fun _ =>
        ExceptT.mk (MonadFiles.makeFolder path >>= acceptFolder path)).run s' := by
  rw [makeFolderIn, if_neg given]
  cases around : (makeFolderIn parents : StateM σ (Except FileError Unit)) s' with
  | mk outcome s'' =>
    simp only [bind, StateT.bind, tried, around]
    cases outcome with
    | error e => exact (run_bind_error around).symm
    | ok _ =>
      exact (run_bind_ok (x := ExceptT.mk (makeFolderIn parents))
        (f := fun _ => ExceptT.mk (MonadFiles.makeFolder path >>= acceptFolder path)) around).symm

end Steps

theorem writes_tryFolder (path : String) :
    Writes (ExceptT.mk (MonadFiles.makeFolder path >>= acceptFolder path))
      (ExceptT.mk (MonadFiles.makeFolder path >>= acceptFolder path)) := by
  intro w
  obtain ⟨outcome, w₁, plain, watched, blamed⟩ := exists_attempt w (w.tree.makeFolder path)
  obtain ⟨accepted, w₂, runs, blamed⟩ := writesFrom_acceptFolder path blamed
  exact ⟨accepted, w₂, ⟨(tryFolder_eq plain).trans runs.plain,
    (tryFolder_eq watched).trans runs.watched⟩, blamed⟩

/-- Making folders fails only if one of them cannot be made.  With no folder left to try, that is
the one which was tried last. -/
theorem writesFrom_makeFolderIn (paths : List String) (w : Watched)
    (tried : paths = [] → w.fault = some .notFound) :
    WritesFrom w (ExceptT.mk (makeFolderIn paths)) (ExceptT.mk (makeFolderIn paths)) := by
  induction paths generalizing w with
  | nil => exact ⟨.error .notFound, w, ⟨rfl, rfl⟩, isBlamed_error.mpr ⟨_, tried rfl, rfl⟩⟩
  | cons path parents ih =>
    by_cases given : path = ""
    · subst given
      exact ⟨.ok (), w, ⟨rfl, rfl⟩, isBlamed_ok () w⟩
    obtain ⟨outcome, w₁, plain, watched, blamed⟩ := exists_attempt w (w.tree.makeFolder path)
    by_cases around : outcome = .error .notFound
    · -- The fault that is known now is the one to blame if there is no folder left to try.
      subst around
      have missing : w₁.fault = some .notFound := by
        obtain ⟨_, fault, rfl⟩ := isBlamed_error.mp blamed
        exact fault
      obtain ⟨outcome, w₂, runs, blamed⟩ :=
        (ih w₁ fun _ => missing).bind fun _ => writes_tryFolder path
      exact ⟨outcome, w₂, ⟨(makeFolderIn_of_missing given plain).trans runs.plain,
        (makeFolderIn_of_missing given watched).trans runs.watched⟩, blamed⟩
    · obtain ⟨accepted, w₂, runs, blamed⟩ := writesFrom_acceptFolder path blamed
      exact ⟨accepted, w₂, ⟨(makeFolderIn_of_tried given plain around).trans runs.plain,
        (makeFolderIn_of_tried given watched around).trans runs.watched⟩, blamed⟩

theorem writes_makeFolders (path : String) :
    Writes (ExceptT.mk (makeFolders path)) (ExceptT.mk (makeFolders path)) :=
  fun w => writesFrom_makeFolderIn (path :: Path.parents path) w nofun

/-! ## Failing early -/

/-- A computation that fails only if a change has failed or if nothing was changed yet. -/
def FailsEarly (x : ExceptT ε (StateM FileTree) α) (y : ExceptT ε (StateM Watched) α) : Prop :=
  ∀ w, ∃ outcome w', Runs x y w outcome w' ∧ (IsBlamed outcome w' ∨ w' = w)

theorem Looks.failsEarly (looks : Looks x y) : FailsEarly x y := by
  intro w
  obtain ⟨outcome, runs⟩ := looks w
  exact ⟨outcome, w, runs, .inr rfl⟩

theorem Writes.failsEarly (writes : Writes x y) : FailsEarly x y := by
  intro w
  obtain ⟨outcome, w', runs, blamed⟩ := writes w
  exact ⟨outcome, w', runs, .inl blamed⟩

theorem FailsEarly.passOn {x : StateM FileTree (Except ε α)} {y : StateM Watched (Except ε α)}
    (early : FailsEarly (ExceptT.mk x) (ExceptT.mk y)) {error : ε → ε'}
    (blames : ∀ e cause, Blames e cause → Blames (error e) cause) :
    FailsEarly (Fallible.passOn error x) (Fallible.passOn error y) := by
  intro w
  obtain ⟨outcome, w', runs, early⟩ := early w
  exact ⟨_, w', runs_passOn runs, early.imp_left fun blamed => blamed.mapError blames⟩

/-- What comes after looking finds everything as it was. -/
theorem Looks.bind_failsEarly (first : Looks x y) (second : ∀ a, FailsEarly (f a) (g a)) :
    FailsEarly (x >>= f) (y >>= g) := by
  intro w
  obtain ⟨outcome, runs⟩ := first w
  cases outcome with
  | error e => exact ⟨.error e, w, runs.bind_error, .inr rfl⟩
  | ok a =>
    obtain ⟨outcome, w', runs', early⟩ := second a w
    exact ⟨outcome, w', runs.bind_ok runs', early⟩

/-- Once something may have been changed, only writing is left to do. -/
theorem FailsEarly.bind_writes (first : FailsEarly x y) (second : ∀ a, Writes (f a) (g a)) :
    FailsEarly (x >>= f) (y >>= g) := by
  intro w
  obtain ⟨outcome, w', runs, early⟩ := first w
  cases outcome with
  | error e =>
    exact ⟨.error e, w', runs.bind_error,
      early.imp_left fun blamed => isBlamed_error.mpr (isBlamed_error.mp blamed)⟩
  | ok a =>
    obtain ⟨outcome, w'', runs', blamed⟩ := second a w'
    exact ⟨outcome, w'', runs.bind_ok runs', .inl blamed⟩

end Fallible

end DesignTokens
