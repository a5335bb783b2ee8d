import DesignTokens.Proofs.History.Undo

/-!
# Calls that fail

Whether a call on a history fails can be told from the two texts in its store,
which may be any texts.  All that can fail comes before anything is written, so
a call that fails leaves the store as it was.
-/

namespace DesignTokens

namespace History

variable {σ α β : Type} {store : Store (StateM σ)} {Holds : σ → Texts → Prop} {s s' : σ}
  {texts : Texts}

/-! ## Texts that are read and texts that are not -/

/-- Whether there is a text, but not one of a value of a type. -/
def Unreadable (α : Type) [OfJson α] (text? : Option String) : Prop :=
  ∃ text, text? = some text ∧ ((Json.read? text).bind ofJson? : Option α) = none

theorem unreadable_or_reads (α : Type) [OfJson α] (text? : Option String) :
    Unreadable α text? ∨ ∃ x : Option α, Reads text? x := by
  cases text? with
  | none => exact .inr ⟨none, .none⟩
  | some text =>
    cases read : ((Json.read? text).bind ofJson? : Option α) with
    | none => exact .inl ⟨text, rfl, read⟩
    | some x => exact .inr ⟨some x, .some read⟩

theorem not_unreadable_of_reads [OfJson α] {text? : Option String} {x : Option α}
    (reads : Reads text? x) : ¬ Unreadable α text? := by
  rintro ⟨text, rfl, nothing⟩
  cases reads with
  | some read => cases read.symm.trans nothing

theorem reads_unique [OfJson α] {text? : Option String} {x y : Option α} (reads : Reads text? x)
    (reads' : Reads text? y) : x = y := by
  cases reads with
  | none => cases reads'; rfl
  | some read => cases reads' with
    | some read' => exact read.symm.trans read'

/-- Whether versions are those in a store.  Where there is no text there are none. -/
def Lists (texts : Texts) (vs : List Version) : Prop :=
  ∃ given, Reads (texts versionsKey) given ∧ given.getD [] = vs

/-- Whether a call that begins with the versions in a store fails with an error, as it does if they
are not readable and if it does with these versions. -/
def OnVersions (texts : Texts) (Then : List Version → HistoryError → Prop) (e : HistoryError) :
    Prop :=
  e = .json ∧ Unreadable (List Version) (texts versionsKey) ∨ ∃ vs, Lists texts vs ∧ Then vs e

section Versions

variable {Then : List Version → HistoryError → Prop} {e : HistoryError}

theorem onVersions_of_unreadable (unreadable : Unreadable (List Version) (texts versionsKey)) :
    OnVersions texts Then e ↔ e = .json := by
  refine ⟨?_, fun same => .inl ⟨same, unreadable⟩⟩
  rintro (⟨same, _⟩ | ⟨vs, ⟨given, reads, _⟩, _⟩)
  · exact same
  · exact absurd unreadable (not_unreadable_of_reads reads)

theorem onVersions_of_lists {vs : List Version} (lists : Lists texts vs) :
    OnVersions texts Then e ↔ Then vs e := by
  obtain ⟨given, reads, rfl⟩ := lists
  refine ⟨?_, fun fails => .inr ⟨_, ⟨given, reads, rfl⟩, fails⟩⟩
  rintro (⟨_, unreadable⟩ | ⟨_, ⟨given', reads', rfl⟩, fails⟩)
  · exact absurd unreadable (not_unreadable_of_reads reads)
  · rwa [reads_unique reads reads']

end Versions

/-- Whether looking for a version fails with an error. -/
def Lacks (vs : List Version) (id : String) (e : HistoryError) : Prop :=
  e = .versionNotFound id ∧ ∀ v ∈ vs, v.id ≠ id

theorem find_eq_error_iff {vs : List Version} {id : String} {e : HistoryError} :
    find vs id = .error e ↔ Lacks vs id e := by
  constructor
  · intro missing
    unfold find at missing
    split at missing
    · cases missing
    · rename_i nothing
      cases missing
      exact ⟨rfl, fun v member same =>
        List.find?_eq_none.mp nothing v member (beq_iff_eq.mpr same)⟩
  · rintro ⟨rfl, absent⟩
    exact find_of_absent absent

theorem id_of_find {vs : List Version} {id : String} {v : Version} (found : find vs id = .ok v) :
    v.id = id := by
  unfold find at found
  split at found
  · rename_i here
    cases found
    exact beq_iff_eq.mp (List.find?_some (p := fun other : Version => other.id == id) here)
  · cases found

/-! ## Computations that fail before they write -/

/-- The state after a computation with an outcome: the one before if it failed, and otherwise one
as described. -/
def Leaves (s : σ) (After : σ → Prop) : Except HistoryError α → σ → Prop
  | .error _, s' => s' = s
  | .ok _, s' => After s'

/-- A computation that fails with the errors described, or else with one of its store.  If it fails
with an error of the first kind, it leaves the state as it was. -/
def Ends (store : Store (StateM σ)) (x : ExceptT HistoryError (StateM σ) α) (s : σ)
    (Fails : HistoryError → Prop) (After : σ → Prop) : Prop :=
  ∃ outcome, Yields store x s outcome (Leaves s After outcome) ∧ ∀ e, outcome = .error e ↔ Fails e

/-- No error at all. -/
def Never : HistoryError → Prop := fun _ => False

section Ends

variable {x : ExceptT HistoryError (StateM σ) α} {f : α → ExceptT HistoryError (StateM σ) β}
  {Fails : HistoryError → Prop} {After : σ → Prop}

theorem ends_of_ok {a : α} (done : Yields store x s (.ok a) After) :
    Ends store x s Never After :=
  ⟨.ok a, done, fun _ => ⟨nofun, nofun⟩⟩

theorem ends_of_error {e : HistoryError} (failed : Yields store x s (.error e) (· = s))
    (only : ∀ e', Fails e' ↔ e' = e) : Ends store x s Fails After := by
  refine ⟨.error e, failed, fun e' => ?_⟩
  rw [only, Except.error.injEq, eq_comm]

theorem Ends.bind_ok {a : α} (first : Yields store x s (.ok a) (· = s))
    (rest : Ends store (f a) s Fails After) : Ends store (x >>= f) s Fails After := by
  obtain ⟨outcome, ends, fails⟩ := rest
  refine ⟨outcome, first.bind_ok ?_, fails⟩
  rintro _ rfl
  exact ends

theorem Ends.congr {Fails' : HistoryError → Prop} (ends : Ends store x s Fails After)
    (same : ∀ e, Fails' e ↔ Fails e) : Ends store x s Fails' After := by
  obtain ⟨outcome, ends, fails⟩ := ends
  exact ⟨outcome, ends, fun e => (fails e).trans (same e).symm⟩

theorem Ends.mono {Weaker : σ → Prop} (ends : Ends store x s Fails After)
    (weaker : ∀ s', After s' → Weaker s') : Ends store x s Fails Weaker := by
  obtain ⟨outcome, ends, fails⟩ := ends
  refine ⟨outcome, ends.mono fun s' leaves => ?_, fails⟩
  cases outcome with
  | error e => exact leaves
  | ok a => exact weaker s' leaves

theorem ends_find_bind {vs : List Version} {id : String}
    {f : Version → ExceptT HistoryError (StateM σ) β}
    (rest : ∀ v ∈ vs, v.id = id → Ends store (f v) s Fails After) :
    Ends store (liftM (find vs id) >>= f) s
      (fun e => Lacks vs id e ∨ (∃ v ∈ vs, v.id = id) ∧ Fails e) After := by
  cases found : find vs id with
  | error e =>
    obtain ⟨rfl, absent⟩ := find_eq_error_iff.mp found
    refine ends_of_error (Yields.bind_error (.lift (.error _) rfl)) fun e' => ?_
    constructor
    · rintro (⟨same, _⟩ | ⟨⟨v, member, same⟩, _⟩)
      · exact same
      · exact absurd same (absent v member)
    · exact fun same => .inl ⟨same, absent⟩
  | ok v =>
    have member := mem_of_find found
    have same := id_of_find found
    refine (Ends.bind_ok (.lift (.ok v) rfl) (rest v member same)).congr fun e => ?_
    constructor
    · rintro (⟨_, absent⟩ | ⟨_, fails⟩)
      · exact absurd same (absent v member)
      · exact fails
    · exact fun fails => .inr ⟨⟨v, member, same⟩, fails⟩

theorem ends_find (vs : List Version) (id : String) :
    Ends store (liftM (find vs id)) s (Lacks vs id) (· = s) := by
  refine ⟨find vs id, .lift _ ?_, fun e => find_eq_error_iff⟩
  cases find vs id <;> rfl

end Ends

/-- A state whose texts differ from others under some keys only. -/
def Differs (Holds : σ → Texts → Prop) (texts : Texts) (changed : List String) (s : σ) : Prop :=
  ∃ texts', Holds s texts' ∧ ∀ key, key ∉ changed → texts' key = texts key

theorem differs_of_holds (holds : Holds s texts) : Differs Holds texts [] s :=
  ⟨texts, holds, fun _ _ => rfl⟩

theorem Differs.mono {changed more : List String} (differs : Differs Holds texts changed s)
    (within : changed ⊆ more) : Differs Holds texts more s := by
  obtain ⟨texts', holds, same⟩ := differs
  exact ⟨texts', holds, fun key other => same key fun member => other (within member)⟩

theorem Differs.yields_saveText {changed : List String} (differs : Differs Holds texts changed s)
    (keeps : store.Keeps Holds) {key : String} (member : key ∈ keys) (text : String) :
    Yields store (saveText store key text) s (.ok ()) (Differs Holds texts (key :: changed)) := by
  obtain ⟨texts', holds, same⟩ := differs
  refine (History.yields_saveText keeps holds member text).mono fun s' holds' =>
    ⟨_, holds', fun other apart => ?_⟩
  rw [List.mem_cons, not_or] at apart
  rw [Texts.put_of_ne apart.1, same other apart.2]

/-! ## Operations -/

section Operations

variable (keeps : store.Keeps Holds) (holds : Holds s texts)
include keeps holds

theorem yields_unreadable [OfJson α] {key : String} (member : key ∈ keys)
    (unreadable : Unreadable α (texts key)) :
    Yields store (load store key : ExceptT HistoryError (StateM σ) (Option α)) s (.error .json)
      (· = s) := by
  obtain ⟨text, given, nothing⟩ := unreadable
  refine (yields_loadText keeps holds member).bind_ok ?_
  rintro _ rfl
  simp only [given, nothing]
  exact .lift (.error .json) rfl

theorem ends_versions_bind {f : List Version → ExceptT HistoryError (StateM σ) α}
    {Then : List Version → HistoryError → Prop} {After : σ → Prop}
    (rest : ∀ vs, Lists texts vs → Ends store (f vs) s (Then vs) After) :
    Ends store (versions store >>= f) s (OnVersions texts Then) After := by
  rcases unreadable_or_reads (List Version) (texts versionsKey) with unreadable | ⟨given, reads⟩
  · have failed := yields_unreadable keeps holds (by decide) unreadable
    exact ends_of_error failed.bind_error.bind_error fun _ => onVersions_of_unreadable unreadable
  · have lists : Lists texts (given.getD []) := ⟨given, reads, rfl⟩
    refine .bind_ok (yields_load keeps holds (by decide) reads).bind ?_
    exact (rest _ lists).congr fun _ => onVersions_of_lists lists

theorem ends_current : Ends store (current store) s
    (fun e => e = .json ∧ Unreadable TokenSet (texts currentKey)) (· = s) := by
  rcases unreadable_or_reads TokenSet (texts currentKey) with unreadable | ⟨given, reads⟩
  · exact ends_of_error (yields_unreadable keeps holds (by decide) unreadable) fun _ =>
      ⟨And.left, fun same => ⟨same, unreadable⟩⟩
  · exact (ends_of_ok (yields_load keeps holds (by decide) reads)).congr fun _ =>
      ⟨fun fails => absurd fails.2 (not_unreadable_of_reads reads), nofun⟩

theorem ends_versions :
    Ends store (versions store) s (OnVersions texts fun _ => Never) (· = s) := by
  rw [← bind_pure (versions store)]
  exact ends_versions_bind keeps holds fun _ _ => ends_of_ok (.pure rfl)

theorem ends_get (id : String) :
    Ends store (get store id) s (OnVersions texts (Lacks · id)) (· = s) :=
  ends_versions_bind keeps holds fun vs _ => ends_find vs id

theorem ends_latest : Ends store (latest store) s (OnVersions texts fun _ => Never) (· = s) :=
  ends_versions_bind keeps holds fun _ _ => ends_of_ok (.pure rfl)

theorem ends_compare (oldId newId : String) :
    Ends store (compare store oldId newId) s
      (OnVersions texts fun vs e => Lacks vs oldId e ∨ (∃ v ∈ vs, v.id = oldId) ∧ Lacks vs newId e)
      (· = s) := by
  refine ends_versions_bind keeps holds fun vs _ => ends_find_bind fun old _ _ => ?_
  have differences : ∀ new : Version,
      Ends store (Pure.pure (old.tokens.changes new.tokens)) s Never (· = s) :=
    fun _ => ends_of_ok (.pure rfl)
  refine (ends_find_bind fun new _ _ => differences new).congr fun e => ?_
  simp [Never]

theorem ends_setCurrent (tokens : TokenSet) :
    Ends store (setCurrent store tokens) s Never (Differs Holds texts [currentKey]) :=
  ends_of_ok ((differs_of_holds holds).yields_saveText keeps (by decide) _)

theorem ends_save (stamp : Stamp) (tokens : TokenSet) (fileId description : String) :
    Ends store (save store stamp tokens fileId description) s (OnVersions texts fun _ => Never)
      (Differs Holds texts [versionsKey]) :=
  ends_versions_bind keeps holds fun _ _ =>
    ends_of_ok ((differs_of_holds holds).yields_saveText keeps (by decide) _).bind

theorem yields_save_of_lists {vs : List Version} (lists : Lists texts vs) (stamp : Stamp)
    (tokens : TokenSet) (fileId description : String) :
    Yields store (save store stamp tokens fileId description) s
      (.ok (Version.new stamp tokens fileId description)) (Differs Holds texts [versionsKey]) := by
  obtain ⟨given, reads, rfl⟩ := lists
  refine (yields_load keeps holds (by decide) reads).bind.bind_ok ?_
  rintro _ rfl
  exact ((differs_of_holds holds).yields_saveText keeps (by decide) _).bind

/-- Reverting reads all it needs before it writes.  The versions are read once more when the live
token set is saved, but then it is known that they can be. -/
theorem ends_revert (stamp : Stamp) (id : String) :
    Ends store (revert store stamp id) s
      (OnVersions texts fun vs e => Lacks vs id e ∨
        (∃ v ∈ vs, v.id = id) ∧ e = .json ∧ Unreadable TokenSet (texts currentKey))
      (Differs Holds texts [currentKey, versionsKey]) := by
  rw [revert, get, bind_assoc]
  refine ends_versions_bind keeps holds fun vs lists => ends_find_bind fun target _ _ => ?_
  rcases unreadable_or_reads TokenSet (texts currentKey) with unreadable | ⟨live, reads⟩
  · have failed := yields_unreadable keeps holds (by decide) unreadable
    exact ends_of_error failed.bind_error fun _ => ⟨And.left, fun same => ⟨same, unreadable⟩⟩
  -- From here on nothing can fail but the store, whether or not a version has to be saved first.
  have goLive : ∀ {s' : σ} (saved : Option Version), Differs Holds texts [versionsKey] s' →
      Yields store (do setCurrent store target.tokens; return Reverted.mk target.tokens saved) s'
        (.ok ⟨target.tokens, saved⟩) (Differs Holds texts [currentKey, versionsKey]) :=
    fun _ differs => (differs.yields_saveText keeps (by decide) _).bind
  have never : ∀ e : HistoryError, e = .json ∧ Unreadable TokenSet (texts currentKey) ↔ Never e :=
    fun _ => ⟨fun fails => absurd fails.2 (not_unreadable_of_reads reads), nofun⟩
  refine Ends.bind_ok (yields_load keeps holds (by decide) reads) (Ends.congr ?_ never)
  cases live with
  | none =>
    have differs := (differs_of_holds holds).mono (List.nil_subset [versionsKey])
    exact ends_of_ok (goLive none differs)
  | some tokens =>
    have saved := yields_save_of_lists keeps holds lists stamp tokens target.fileId
      (revertDescription id)
    exact ends_of_ok ((saved.map some).bind_ok fun _ differs => goLive (some _) differs)

end Operations

/-! ## Calls -/

/-- Whether a call on texts fails with an error. -/
def Call.Fails (texts : Texts) : Call → HistoryError → Prop
  | .save .. | .versions | .latest => OnVersions texts fun _ => Never
  | .setCurrent _ => Never
  | .revert _ id => OnVersions texts fun vs e => Lacks vs id e ∨
      (∃ v ∈ vs, v.id = id) ∧ e = .json ∧ Unreadable TokenSet (texts currentKey)
  | .get id => OnVersions texts (Lacks · id)
  | .compare oldId newId => OnVersions texts fun vs e => Lacks vs oldId e ∨
      (∃ v ∈ vs, v.id = oldId) ∧ Lacks vs newId e
  | .current => fun e => e = .json ∧ Unreadable TokenSet (texts currentKey)

/-- The keys under which a call writes. -/
def Call.writes : Call → List String
  | .save .. => [versionsKey]
  | .setCurrent _ => [currentKey]
  | .revert .. => [currentKey, versionsKey]
  | .versions | .get _ | .latest | .compare .. | .current => []

theorem answer_of_ends {x : ExceptT HistoryError (StateM σ) α} {Fails : HistoryError → Prop}
    {After : σ → Prop} (ends : Ends store x s Fails After) (start : After s) (success : α → Answer)
    (succeeds : ∀ a e, success a ≠ .failed e) {answer : Answer}
    (performed : (Answer.of success <$> x.run).run s = (answer, s'))
    (works : answer.isStoreFailure = false) :
    (∀ e, answer = .failed e ↔ Fails e) ∧ (∀ e, answer = .failed e → s' = s) ∧ After s' := by
  obtain ⟨outcome, ⟨actual, _, run, result⟩, fails⟩ := ends
  cases (run_answer run success).symm.trans performed
  rcases result with ⟨cause, rfl, _⟩ | ⟨rfl, leaves⟩
  · cases works
  · cases actual with
    | error e =>
      cases leaves
      refine ⟨fun e' => ?_, fun _ _ => rfl, start⟩
      rw [← fails e', Answer.of, Answer.failed.injEq, Except.error.injEq]
    | ok a =>
      refine ⟨fun e => ?_, fun e failed => absurd failed (succeeds a e), leaves⟩
      rw [← fails e]
      exact ⟨fun failed => absurd failed (succeeds a e), nofun⟩

/-- Unless its store fails, a call fails just where the texts in the store say so, and then leaves
everything as it was.  A call that succeeds writes under its own keys only. -/
theorem failed_iff_fails (keeps : store.Keeps Holds) (holds : Holds s texts) {call : Call}
    {answer : Answer} (performed : (call.perform store).run s = (answer, s'))
    (works : answer.isStoreFailure = false) :
    (∀ e, answer = .failed e ↔ call.Fails texts e) ∧ (∀ e, answer = .failed e → s' = s) ∧
      Differs Holds texts call.writes s' := by
  have start : Differs Holds texts call.writes s :=
    (differs_of_holds holds).mono (List.nil_subset call.writes)
  have reads : ∀ s', s' = s → Differs Holds texts call.writes s' := fun _ same => same ▸ start
  cases call with
  | save stamp tokens fileId description =>
    have ends := ends_save keeps holds stamp tokens fileId description
    exact answer_of_ends ends start .saved nofun performed works
  | setCurrent tokens =>
    have ends := ends_setCurrent keeps holds tokens
    exact answer_of_ends ends start (fun _ => .done) nofun performed works
  | revert stamp id =>
    have ends := ends_revert keeps holds stamp id
    exact answer_of_ends ends start .reverted nofun performed works
  | versions =>
    have ends := (ends_versions keeps holds).mono reads
    exact answer_of_ends ends start .versions nofun performed works
  | get id =>
    have ends := (ends_get keeps holds id).mono reads
    exact answer_of_ends ends start .version nofun performed works
  | latest =>
    have ends := (ends_latest keeps holds).mono reads
    exact answer_of_ends ends start .latest nofun performed works
  | compare oldId newId =>
    have ends := (ends_compare keeps holds oldId newId).mono reads
    exact answer_of_ends ends start .changes nofun performed works
  | current =>
    have ends := (ends_current keeps holds).mono reads
    exact answer_of_ends ends start .current nofun performed works

/-- A shelf with one version and a live token set that is not readable. -/
def damagedShelf : Shelf :=
  (OrderedMap.empty.insert versionsKey (toJson [emptyVersion "1"]).compact).insert currentKey "?"

theorem failed_iff_fails_damagedShelf :
    ((Call.revert ⟨"2", 1⟩ "1").perform Store.memory).run damagedShelf =
      (.failed .json, damagedShelf) := by
  have holds : Store.OnShelf damagedShelf damagedShelf.get? := fun _ => rfl
  have works : (((Call.revert ⟨"2", 1⟩ "1").perform Store.memory).run
      damagedShelf).1.isStoreFailure = false := by decide +kernel
  have lists : Lists damagedShelf.get? [emptyVersion "1"] := by
    refine ⟨some [emptyVersion "1"], ?_, rfl⟩
    have stored : damagedShelf.get? versionsKey = some (toJson [emptyVersion "1"]).compact := rfl
    rw [stored]
    exact .some (read_versions_iff.mpr (isLossless_emptyVersions ["1"]))
  have damaged : Unreadable TokenSet (damagedShelf.get? currentKey) := ⟨"?", rfl, rfl⟩
  cases performed : ((Call.revert ⟨"2", 1⟩ "1").perform Store.memory).run damagedShelf with
  | mk answer shelf =>
    rw [performed] at works
    obtain ⟨fails, unchanged, _⟩ := failed_iff_fails Store.keeps_memory holds performed works
    have failed := (fails .json).mpr
      (.inr ⟨_, lists, .inr ⟨⟨_, List.mem_singleton_self _, rfl⟩, rfl, damaged⟩⟩)
    exact Prod.ext failed (unchanged .json failed)

end History

end DesignTokens
