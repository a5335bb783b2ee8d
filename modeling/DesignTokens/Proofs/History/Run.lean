import DesignTokens.Proofs.History.Ledger

/-!
# Runs of a history

However many calls are made on a history, and in whatever order, it answers
them as a ledger does that keeps every version.  The ledger can be told from
the answers alone: each version in it was handed out when it was created.
-/

namespace DesignTokens

namespace History

/-! ## Calls -/

/-- A call of an operation.  A version that it creates gets the stamp. -/
inductive Call where
  | save (stamp : Stamp) (tokens : TokenSet) (fileId description : String)
  | setCurrent (tokens : TokenSet)
  | revert (stamp : Stamp) (id : String)
  | versions
  | get (id : String)
  | latest
  | compare (oldId newId : String)
  | current

/-- What a call is answered with. -/
inductive Answer where
  | saved (v : Version)
  | done
  | reverted (r : Reverted)
  | versions (vs : List Version)
  | version (v : Version)
  | latest (v : Option Version)
  | changes (cs : List Change)
  | current (tokens : Option TokenSet)
  | failed (e : HistoryError)

/-- The answer for an outcome. -/
def Answer.of {α : Type} (success : α → Answer) : Except HistoryError α → Answer
  | .ok x => success x
  | .error e => .failed e

section Running

variable {m : Type → Type} [Monad m]

/-- Makes a call. -/
def Call.perform (store : Store m) : Call → m Answer
  | .save stamp tokens fileId description =>
    Answer.of .saved <$> (History.save store stamp tokens fileId description).run
  | .setCurrent tokens => Answer.of (fun _ => .done) <$> (History.setCurrent store tokens).run
  | .revert stamp id => Answer.of .reverted <$> (History.revert store stamp id).run
  | .versions => Answer.of .versions <$> (History.versions store).run
  | .get id => Answer.of .version <$> (History.get store id).run
  | .latest => Answer.of .latest <$> (History.latest store).run
  | .compare oldId newId => Answer.of .changes <$> (History.compare store oldId newId).run
  | .current => Answer.of .current <$> (History.current store).run

/-- Makes calls one after the other.  A handle on a history holds nothing but
the store, so it does not matter through how many of them the calls go. -/
def run (store : Store m) : List Call → m (List Answer)
  | [] => return []
  | call :: calls => do
    let answer ← call.perform store
    let answers ← run store calls
    return answer :: answers

end Running

/-- Whether the line heights that a call brings come through. -/
def Call.IsLossless : Call → Prop
  | .save _ tokens _ _ => tokens.IsLossless
  | .setCurrent tokens => tokens.IsLossless
  | _ => True

end History

/-! ## Answers of a ledger -/

namespace Ledger

open History

/-- The ledger after a call was answered. -/
def record (l : Ledger) : Call → Answer → Ledger
  | .setCurrent tokens, .done => l.setLive tokens
  | _, .saved v => l.save v
  | _, .reverted r => ⟨r.saved.toList ++ l.log, some r.tokens⟩
  | _, _ => l

/-- The ledger after several calls were answered. -/
def after (l : Ledger) : List Call → List Answer → Ledger
  | call :: calls, answer :: answers => (l.record call answer).after calls answers
  | _, _ => l

/-- How a call has to be answered. -/
def answer (l : Ledger) : Call → Answer
  | .save stamp tokens fileId description => .saved (Version.new stamp tokens fileId description)
  | .setCurrent _ => .done
  | .revert stamp id =>
    .of (fun target => .reverted ⟨target.tokens, l.live.map (autoSaved stamp target id)⟩)
      (find l.kept id)
  | .versions => .versions l.kept
  | .get id => .of .version (find l.kept id)
  | .latest => .latest l.log.head?
  | .compare oldId newId => .of .changes (do
      let old ← find l.kept oldId
      let new ← find l.kept newId
      return old.tokens.changes new.tokens)
  | .current => .current l.live

/-- How several calls have to be answered. -/
def answers (l : Ledger) : List Call → List Answer
  | [] => []
  | call :: calls => l.answer call :: (l.record call (l.answer call)).answers calls

/-- Whether a history shows a ledger: its last versions, one by one as well, and
the live token set. -/
structure IsShown {σ : Type} (l : Ledger) (store : Store (StateM σ)) (s : σ) : Prop where
  versions : (History.versions store).run s = (.ok (l.log.take capacity), s)
  get : (l.log.map Version.id).Nodup → ∀ v ∈ l.log.take capacity,
    (History.get store v.id).run s = (.ok v, s)
  missing (id : String) : (∀ v ∈ l.log.take capacity, v.id ≠ id) →
    (History.get store id).run s = (.error (.versionNotFound id), s)
  current : (History.current store).run s = (.ok l.live, s)

end Ledger

/-! ## One call -/

namespace History

variable {σ : Type} {store : Store (StateM σ)} {Holds : σ → Texts → Prop} {s : σ} {l : Ledger}

/-- A call that fails with an error of its store, or has an answer and ends in a state that is
as described. -/
def Goes (store : Store (StateM σ)) (call : StateM σ Answer) (s : σ) (answer : Answer)
    (After : σ → Prop) : Prop :=
  ∃ actual s', call.run s = (actual, s') ∧
    ((∃ cause, actual = .failed (.store cause) ∧ store.Gives cause) ∨ actual = answer ∧ After s')

theorem run_answer {α : Type} {x : ExceptT HistoryError (StateM σ) α} {s s' : σ}
    {outcome : Except HistoryError α} (run : x.run s = (outcome, s')) (success : α → Answer) :
    (Answer.of success <$> x.run).run s = (.of success outcome, s') := by
  have unfolded : StateT.run x.run s = (outcome, s') := run
  rw [StateT.run_map, unfolded]
  rfl

theorem goes_of_yields {α : Type} {x : ExceptT HistoryError (StateM σ) α}
    {outcome : Except HistoryError α} {After : σ → Prop}
    (yields : Yields store x s outcome After) (success : α → Answer) :
    Goes store (Answer.of success <$> x.run) s (.of success outcome) After := by
  obtain ⟨actual, s', run, result⟩ := yields
  refine ⟨_, s', run_answer run success, ?_⟩
  rcases result with ⟨cause, rfl, gives⟩ | ⟨rfl, after⟩
  · exact .inl ⟨cause, rfl, gives⟩
  · exact .inr ⟨rfl, after⟩

/-- A call is answered as the ledger has it, and what is stored is the ledger
that the answer is recorded in. -/
theorem goes_perform (keeps : store.Keeps Holds) (stored : l.Stored Holds s) {call : Call}
    (lossless : call.IsLossless) :
    Goes store (call.perform store) s (l.answer call)
      ((l.record call (l.answer call)).Stored Holds) := by
  have unchanged : ∀ s', s' = s → l.Stored Holds s' := fun _ same => same ▸ stored
  cases call with
  | save stamp tokens fileId description =>
    exact goes_of_yields (yields_save keeps stored stamp lossless fileId description) .saved
  | setCurrent tokens => exact goes_of_yields (yields_setCurrent keeps stored lossless) fun _ => .done
  | revert stamp id =>
    cases found : find l.kept id with
    | error e =>
      have missing := (yields_revert_of_missing keeps stored stamp found).mono unchanged
      rw [Ledger.answer, found]
      exact goes_of_yields missing .reverted
    | ok target =>
      rw [Ledger.answer, found]
      exact goes_of_yields (yields_revert_of_find keeps stored stamp found) .reverted
  | versions => exact goes_of_yields ((yields_versions keeps stored).mono unchanged) .versions
  | get id =>
    have same : ∀ outcome, l.record (.get id) (.of .version outcome) = l := by
      intro outcome
      cases outcome <;> rfl
    rw [Ledger.answer, same]
    exact goes_of_yields ((yields_get keeps stored id).mono unchanged) .version
  | latest => exact goes_of_yields ((yields_latest keeps stored).mono unchanged) .latest
  | compare oldId newId =>
    have same : ∀ outcome, l.record (.compare oldId newId) (.of .changes outcome) = l := by
      intro outcome
      cases outcome <;> rfl
    rw [Ledger.answer, same]
    exact goes_of_yields ((yields_compare keeps stored oldId newId).mono unchanged) .changes
  | current => exact goes_of_yields ((yields_current keeps stored).mono unchanged) .current

/-! ## Runs -/

theorem run_cons {call : Call} {calls : List Call} {s s' between : σ} {answer : Answer}
    {answers : List Answer} (first : (call.perform store).run s = (answer, between))
    (rest : (run store calls).run between = (answers, s')) :
    (run store (call :: calls)).run s = (answer :: answers, s') := by
  have performed : call.perform store s = (answer, between) := first
  have continued : run store calls between = (answers, s') := rest
  show run store (call :: calls) s = _
  simp only [run, bind, StateT.bind, performed, continued]
  rfl

theorem run_append {calls more : List Call} {s s' between : σ} {answers others : List Answer}
    (first : (run store calls).run s = (answers, between))
    (rest : (run store more).run between = (others, s')) :
    (run store (calls ++ more)).run s = (answers ++ others, s') := by
  induction calls generalizing s answers with
  | nil =>
    cases first
    exact rest
  | cons call calls ih =>
    cases performed : (call.perform store).run s with
    | mk answer middle =>
      cases continued : (run store calls).run middle with
      | mk answers' last =>
        rw [run_cons performed continued] at first
        cases first
        exact run_cons performed (ih continued)

/-- All calls of a run are answered as the ledger has it, up to the first one
that the store fails. -/
theorem run_cases (keeps : store.Keeps Holds) {calls : List Call}
    (lossless : ∀ call ∈ calls, call.IsLossless) (stored : l.Stored Holds s) :
    ∃ answers s', (run store calls).run s = (answers, s') ∧
      ((∃ cause, .failed (.store cause) ∈ answers ∧ store.Gives cause) ∨
        answers = l.answers calls ∧ (l.after calls answers).Stored Holds s') := by
  -- After each call the store keeps the ledger in which its answer is recorded.
  induction calls generalizing l s with
  | nil => exact ⟨[], s, rfl, .inr ⟨rfl, stored⟩⟩
  | cons call calls ih =>
    obtain ⟨answer, between, performed, result⟩ :=
      goes_perform keeps stored (lossless call List.mem_cons_self)
    rcases result with ⟨cause, rfl, gives⟩ | ⟨rfl, stored'⟩
    · exact ⟨_, _, run_cons performed rfl, .inl ⟨cause, List.mem_cons_self, gives⟩⟩
    · have rest : ∀ later ∈ calls, later.IsLossless := fun later member =>
        lossless later (.tail call member)
      obtain ⟨answers, s', runs, result⟩ := ih rest stored'
      refine ⟨_, s', run_cons performed runs, ?_⟩
      rcases result with ⟨cause, member, gives⟩ | ⟨rfl, stored''⟩
      · exact .inl ⟨cause, .tail _ member, gives⟩
      · exact .inr ⟨rfl, stored''⟩

theorem find_of_own {vs : List Version} {v : Version} (member : v ∈ vs)
    (own : ∀ w ∈ vs, w.id = v.id → w = v) : find vs v.id = .ok v := by
  cases found : vs.find? (fun w => w.id == v.id) with
  | none => exact absurd (beq_self_eq_true v.id) (List.find?_eq_none.mp found v member)
  | some w =>
    have same : (w.id == v.id) = true :=
      List.find?_some (p := fun other : Version => other.id == v.id) found
    rw [find, found, own w (List.mem_of_find?_eq_some found) (beq_iff_eq.mp same)]

theorem find_of_mem {vs : List Version} (fresh : (vs.map Version.id).Nodup) {v : Version}
    (member : v ∈ vs) : find vs v.id = .ok v :=
  find_of_own member fun _ other same => List.inj_on_of_nodup_map fresh other member same

theorem find_of_absent {vs : List Version} {id : String} (absent : ∀ v ∈ vs, v.id ≠ id) :
    find vs id = .error (.versionNotFound id) := by
  have none : vs.find? (fun v => v.id == id) = none :=
    List.find?_eq_none.mpr fun v member same => absent v member (beq_iff_eq.mp same)
  rw [find, none]

/-- Where the store lets the versions and the live token set be read, a history
shows the ledger that it keeps. -/
theorem isShown_of_stored (keeps : store.Keeps Holds) (stored : l.Stored Holds s)
    (readable : ∀ cause, store.Gives cause →
      .failed (.store cause) ∉ ((run store [.versions, .current]).run s).1) :
    l.IsShown store s := by
  obtain ⟨vs, s', listed, ⟨cause, rfl, gives⟩ | ⟨rfl, rfl⟩⟩ := yields_versions keeps stored
  -- An error on the way would be one of the answers.
  · have first : (Call.versions.perform store).run s = (.failed (.store cause), s') :=
      run_answer listed .versions
    refine absurd ?_ (readable cause gives)
    rw [run_cons first rfl]
    exact List.mem_cons_self
  · have first : (Call.versions.perform store).run s' = (.versions l.kept, s') :=
      run_answer listed .versions
    obtain ⟨live, s'', given, ⟨cause, rfl, gives⟩ | ⟨rfl, rfl⟩⟩ := yields_current keeps stored
    · have second : (Call.current.perform store).run s' = (.failed (.store cause), s'') :=
        run_answer given .current
      refine absurd ?_ (readable cause gives)
      rw [run_cons first (run_cons second rfl)]
      exact .tail _ List.mem_cons_self
    · have get : ∀ id, (History.get store id).run s'' = (find l.kept id, s'') :=
        fun id => (Fallible.run_bind_ok listed).trans rfl
      refine ⟨listed, fun fresh v member => ?_, fun id others => ?_, given⟩
      · have sublist := (List.take_sublist capacity l.log).map Version.id
        have found : find l.kept v.id = .ok v := find_of_mem (fresh.sublist sublist) member
        rw [get, found]
      · have lost : find l.kept id = .error (.versionNotFound id) := find_of_absent others
        rw [get, lost]

/-- Whether a call fails because the store does. -/
def Answer.isStoreFailure : Answer → Bool
  | .failed (.store _) => true
  | _ => false

/-- Whether a store gives no error while calls are made. -/
def Works (store : Store (StateM σ)) (calls : List Call) (s : σ) : Prop :=
  ∀ answer ∈ ((run store calls).run s).1, answer.isStoreFailure = false

instance (store : Store (StateM σ)) (calls : List Call) (s : σ) :
    Decidable (Works store calls s) :=
  inferInstanceAs <| Decidable <|
    ∀ answer ∈ ((run store calls).run s).1, answer.isStoreFailure = false

/-- Whether a history answers calls as the ledger of these answers has it, and
shows this ledger in the end. -/
def Agrees (store : Store (StateM σ)) (calls : List Call) (s : σ) : Prop :=
  ∃ answers s', (run store calls).run s = (answers, s') ∧
    answers = Ledger.empty.answers calls ∧ (Ledger.empty.after calls answers).IsShown store s'

theorem agrees_of_keeps (keeps : store.Keeps Holds) {calls : List Call}
    (lossless : ∀ call ∈ calls, call.IsLossless) (nothing : Holds s fun _ => none)
    (quiet : ∀ cause, store.Gives cause →
      .failed (.store cause) ∉ ((run store (calls ++ [.versions, .current])).run s).1) :
    Agrees store calls s := by
  obtain ⟨answers, s', runs, result⟩ := run_cases keeps lossless (Ledger.stored_empty nothing)
  have whole := run_append runs (rfl : (run store [.versions, .current]).run s' = _)
  rw [whole] at quiet
  rcases result with ⟨cause, member, gives⟩ | ⟨answered, stored⟩
  · exact absurd (List.mem_append_left _ member) (quiet cause gives)
  · refine ⟨answers, s', runs, answered, isShown_of_stored keeps stored ?_⟩
    intro cause gives member
    exact quiet cause gives (List.mem_append_right _ member)

/-- A history that starts empty agrees with its ledger, in memory and in a
folder.  In the folder this takes file operations that do not fail. -/
theorem agrees_run :
    (∀ calls : List Call, (∀ call ∈ calls, call.IsLossless) → Agrees Store.memory calls .empty) ∧
    ∀ (path : String) (t : FileTree) (calls : List Call), (∀ call ∈ calls, call.IsLossless) →
      (∀ key ∈ keys, t.entry? (t.placeOf (Store.filePath path key)) = none) →
      Works (Store.folder path) (calls ++ [.versions, .current]) t →
      Agrees (Store.folder path) calls t := by
  constructor
  · intro calls lossless
    have nothing : Store.OnShelf .empty fun _ => none := fun _ => rfl
    exact agrees_of_keeps Store.keeps_memory lossless nothing fun cause gives =>
      absurd gives (Store.not_gives_memory cause)
  · intro path t calls lossless vacant works
    have nothing : Store.InFolder path t fun _ => none := fun key member => .inl (vacant key member)
    refine agrees_of_keeps (Store.keeps_folder path) lossless nothing fun cause _ member => ?_
    cases works _ member

/-- A history in memory and one in a folder that is still to be made. -/
theorem agrees_run_of_small_calls :
    Agrees Store.memory
      [.save ⟨"1", 0⟩ .empty "file" "first", .setCurrent .empty, .revert ⟨"2", 1⟩ "1"] .empty ∧
    Agrees (Store.folder "state") [.save ⟨"1", 0⟩ .empty "file" "first"] FileTree.empty := by
  have lossless : TokenSet.empty.IsLossless := fun _ member => absurd member List.not_mem_nil
  refine ⟨agrees_run.1 _ ?_, agrees_run.2 _ _ _ ?_ ?_ ?_⟩
  · simp [Call.IsLossless, lossless]
  · simp [Call.IsLossless, lossless]
  · intro key member
    simp only [keys, List.mem_cons, List.not_mem_nil, or_false] at member
    rcases member with rfl | rfl <;> rfl
  · decide +kernel

end History

end DesignTokens
