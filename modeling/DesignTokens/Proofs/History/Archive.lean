import DesignTokens.Proofs.Computation
import DesignTokens.Proofs.History.Store
import DesignTokens.Proofs.TokenSet.Json

/-!
# What a history has in its store

A history keeps a list of versions and a live token set, each as a text.  An
archive is what these texts are read as, and for every operation there is one
rule that says what it yields and which archive it leaves.
-/

namespace DesignTokens

variable {σ α β : Type}

/-! ## Computations on a store -/

/-- Whether an error is one that a store gives. -/
def Store.Gives (store : Store (StateM σ)) (cause : FileError) : Prop :=
  ∃ s key, (store.load key s).1 = .error cause ∨ ∃ text, (store.save key text s).1 = .error cause

theorem Store.not_gives_memory (cause : FileError) : ¬ Store.memory.Gives cause := by
  rintro ⟨s, key, failed | ⟨text, failed⟩⟩ <;> cases failed

/-- A computation that fails with an error of its store, or has an outcome and
ends in a state that is as described. -/
def Yields (store : Store (StateM σ)) (x : ExceptT HistoryError (StateM σ) α) (s : σ)
    (outcome : Except HistoryError α) (After : σ → Prop) : Prop :=
  ∃ actual s', x.run s = (actual, s') ∧
    ((∃ cause, actual = .error (.store cause) ∧ store.Gives cause) ∨ actual = outcome ∧ After s')

namespace Yields

variable {store : Store (StateM σ)} {x : ExceptT HistoryError (StateM σ) α}
  {f : α → ExceptT HistoryError (StateM σ) β} {s : σ} {After : σ → Prop}

theorem pure {a : α} (after : After s) : Yields store (Pure.pure a) s (.ok a) After :=
  ⟨.ok a, s, rfl, .inr ⟨rfl, after⟩⟩

theorem lift (outcome : Except HistoryError α) (after : After s) :
    Yields store (liftM outcome) s outcome After :=
  ⟨outcome, s, rfl, .inr ⟨rfl, after⟩⟩

theorem bind_ok {a : α} {Between : σ → Prop} {outcome : Except HistoryError β}
    (first : Yields store x s (.ok a) Between)
    (second : ∀ s', Between s' → Yields store (f a) s' outcome After) :
    Yields store (x >>= f) s outcome After := by
  obtain ⟨actual, s', run, ⟨cause, rfl, gives⟩ | ⟨rfl, between⟩⟩ := first
  -- An error of the store is passed on, whatever was to come.
  · exact ⟨_, s', Fallible.run_bind_error run, .inl ⟨cause, rfl, gives⟩⟩
  · obtain ⟨actual, s'', run', result⟩ := second s' between
    exact ⟨actual, s'', (Fallible.run_bind_ok run).trans run', result⟩

theorem bind_error {e : HistoryError} (first : Yields store x s (.error e) After) :
    Yields store (x >>= f) s (.error e) After := by
  obtain ⟨actual, s', run, ⟨cause, rfl, gives⟩ | ⟨rfl, after⟩⟩ := first
  · exact ⟨_, s', Fallible.run_bind_error run, .inl ⟨cause, rfl, gives⟩⟩
  · exact ⟨_, s', Fallible.run_bind_error run, .inr ⟨rfl, after⟩⟩

theorem bind {outcome : Except HistoryError α} {g : α → β}
    (first : Yields store x s outcome After) :
    Yields store (x >>= fun a => Pure.pure (g a)) s (outcome.map g) After := by
  cases outcome with
  | error e => exact first.bind_error
  | ok a => exact first.bind_ok fun _ after => .pure after

theorem map {outcome : Except HistoryError α} (given : Yields store x s outcome After)
    (g : α → β) : Yields store (g <$> x) s (outcome.map g) After := by
  rw [map_eq_pure_bind]
  exact given.bind

theorem mono {outcome : Except HistoryError α} {Weaker : σ → Prop}
    (given : Yields store x s outcome After) (weaker : ∀ s', After s' → Weaker s') :
    Yields store x s outcome Weaker := by
  obtain ⟨actual, s', run, failed | ⟨same, after⟩⟩ := given
  · exact ⟨actual, s', run, .inl failed⟩
  · exact ⟨actual, s', run, .inr ⟨same, weaker s' after⟩⟩

end Yields

/-! ## Archives -/

/-- Whether a text, if there is one, is read as a value, if there is one. -/
def Reads [OfJson α] : Option String → Option α → Prop :=
  Option.Rel fun text x => (Json.read? text).bind ofJson? = some x

/-- The versions in a store, newest first, and the live token set. -/
structure Archive where
  versions : List Version
  live : Option TokenSet

namespace Archive

/-- An archive and the texts in which a history keeps it. -/
structure Written (a : Archive) (texts : Texts) : Prop where
  versions : ∃ vs : Option (List Version),
    Reads (texts History.versionsKey) vs ∧ vs.getD [] = a.versions
  live : Reads (texts History.currentKey) a.live

/-- An archive and a state in which a history keeps it. -/
def Stored (a : Archive) (Holds : σ → Texts → Prop) (s : σ) : Prop :=
  ∃ texts, Holds s texts ∧ a.Written texts

/-- The archive after a version was saved.  The oldest one may have gone. -/
def save (a : Archive) (v : Version) : Archive :=
  { a with versions := (v :: a.versions).take History.capacity }

/-- The archive after a token set was made live. -/
def setLive (a : Archive) (tokens : TokenSet) : Archive := { a with live := some tokens }

variable {a : Archive} {texts : Texts}

theorem reads_tokenSet_iff {tokens : TokenSet} :
    Reads (some (toJson tokens).compact) (some tokens) ↔ tokens.IsLossless := by
  rw [← read_tokenSet_iff]
  constructor
  · intro reads
    cases reads with
    | some read => exact read
  · exact fun read => .some read

theorem reads_versions_iff {vs : List Version} :
    (∃ given : Option (List Version), Reads (some (toJson vs).compact) given ∧ given.getD [] = vs)
      ↔ ∀ v ∈ vs, v.tokens.IsLossless := by
  rw [← read_versions_iff]
  constructor
  · rintro ⟨given, reads, rfl⟩
    cases reads with
    | some read => exact read
  · exact fun read => ⟨some vs, .some read, rfl⟩

/-- A token set that comes through becomes the live one. -/
theorem Written.setLive (written : a.Written texts) {tokens : TokenSet}
    (lossless : tokens.IsLossless) :
    (a.setLive tokens).Written (texts.put History.currentKey (toJson tokens).compact) where
  versions := by
    rw [Texts.put_of_ne (by decide)]
    exact written.versions
  live := by
    rw [Texts.put_self]
    exact reads_tokenSet_iff.mpr lossless

/-- What is read back later is only what is kept now, so nothing else has to come through. -/
theorem Written.save (written : a.Written texts) {v : Version}
    (lossless : ∀ w ∈ (a.save v).versions, w.tokens.IsLossless) :
    (a.save v).Written
      (texts.put History.versionsKey (toJson (a.save v).versions).compact) where
  versions := by
    rw [Texts.put_self]
    exact reads_versions_iff.mpr lossless
  live := by
    rw [Texts.put_of_ne (by decide)]
    exact written.live

end Archive

/-! ## Texts in the store -/

namespace History

theorem mem_of_find {vs : List Version} {id : String} {v : Version} (found : find vs id = .ok v) :
    v ∈ vs := by
  unfold find at found
  split at found
  · rename_i here
    cases found
    exact List.mem_of_find?_eq_some here
  · cases found

variable {store : Store (StateM σ)} {Holds : σ → Texts → Prop} {s : σ} {texts : Texts}

theorem yields_loadText (keeps : store.Keeps Holds) (holds : Holds s texts) {key : String}
    (member : key ∈ keys) : Yields store (loadText store key) s (.ok (texts key)) (· = s) := by
  obtain ⟨outcome, loaded, given⟩ := keeps.load holds member
  have run : (loadText store key).run s = _ := Fallible.run_lift_bind (store.load key) _ s
  rw [loaded] at run
  cases outcome with
  | error cause => exact ⟨_, s, run, .inl ⟨cause, rfl, s, key, .inl (by rw [loaded])⟩⟩
  | ok text? => exact ⟨_, s, run, .inr ⟨by rw [← given text? rfl], rfl⟩⟩

theorem yields_saveText (keeps : store.Keeps Holds) (holds : Holds s texts) {key : String}
    (member : key ∈ keys) (text : String) :
    Yields store (saveText store key text) s (.ok ()) (Holds · (texts.put key text)) := by
  have run : (saveText store key text).run s = _ := Fallible.run_lift_bind (store.save key text) _ s
  cases saved : store.save key text s with
  | mk outcome s' =>
    rw [saved] at run
    cases outcome with
    | error cause => exact ⟨_, s', run, .inl ⟨cause, rfl, s, key, .inr ⟨text, by rw [saved]⟩⟩⟩
    | ok _ => exact ⟨_, s', run, .inr ⟨rfl, keeps.save holds member saved⟩⟩

theorem yields_load [OfJson α] (keeps : store.Keeps Holds) (holds : Holds s texts) {key : String}
    (member : key ∈ keys) {x : Option α} (reads : Reads (texts key) x) :
    Yields store (load store key) s (.ok x) (· = s) := by
  refine (yields_loadText keeps holds member).bind_ok ?_
  rintro _ rfl
  generalize texts key = text? at reads
  cases reads with
  | none => exact .pure rfl
  | @some text value read =>
    simp only [read]
    exact .pure rfl

/-- Versions on a shelf are listed as they are. -/
theorem versions_memory {shelf : Shelf} {vs : List Version}
    (lossless : ∀ v ∈ vs, v.tokens.IsLossless)
    (here : shelf.get? versionsKey = some (toJson vs).compact) :
    (versions Store.memory).run shelf = (.ok vs, shelf) := by
  have reads : Reads (shelf.get? versionsKey) (some vs) := by
    rw [here]
    exact .some (read_versions_iff.mpr lossless)
  have holds : Store.OnShelf shelf shelf.get? := fun _ => rfl
  have listed : Yields Store.memory (versions Store.memory) shelf (.ok vs) (· = shelf) :=
    (yields_load Store.keeps_memory holds (by decide) reads).bind
  obtain ⟨_, _, run, ⟨cause, _, gives⟩ | ⟨rfl, rfl⟩⟩ := listed
  · exact absurd gives (Store.not_gives_memory cause)
  · exact run

/-- The version that reverting creates for a token set that was live. -/
def autoSaved (stamp : Stamp) (target : Version) (id : String) (tokens : TokenSet) : Version :=
  Version.new stamp tokens target.fileId (revertDescription id)

end History

/-! ## Operations -/

namespace Archive

open History

variable {store : Store (StateM σ)} {Holds : σ → Texts → Prop} {s : σ} {a : Archive}
  {texts : Texts}

/-- The archive after a version was reverted to. -/
def revert (a : Archive) (stamp : Stamp) (target : Version) (id : String) : Archive :=
  match a.live with
  | some tokens => (a.save (autoSaved stamp target id tokens)).setLive target.tokens
  | none => a.setLive target.tokens

/-- The texts after a version was reverted to. -/
def revertTexts (a : Archive) (stamp : Stamp) (target : Version) (id : String) (texts : Texts) :
    Texts :=
  let saved := match a.live with
    | some tokens =>
      texts.put versionsKey (toJson (a.save (autoSaved stamp target id tokens)).versions).compact
    | none => texts
  saved.put currentKey (toJson target.tokens).compact

section Reading

variable (keeps : store.Keeps Holds) (stored : a.Stored Holds s)
include keeps stored

theorem yields_versions : Yields store (History.versions store) s (.ok a.versions) (· = s) := by
  obtain ⟨texts, holds, written⟩ := stored
  obtain ⟨vs, reads, same⟩ := written.versions
  rw [← same]
  exact (yields_load keeps holds (by decide) reads).bind

theorem yields_current : Yields store (current store) s (.ok a.live) (· = s) := by
  obtain ⟨texts, holds, written⟩ := stored
  exact yields_load keeps holds (by decide) written.live

theorem yields_get (id : String) : Yields store (get store id) s (find a.versions id) (· = s) := by
  refine (yields_versions keeps stored).bind_ok ?_
  rintro _ rfl
  exact .lift _ rfl

theorem yields_latest : Yields store (latest store) s (.ok a.versions.head?) (· = s) :=
  (yields_versions keeps stored).bind

theorem yields_compare (oldId newId : String) :
    Yields store (compare store oldId newId) s
      (do
        let old ← find a.versions oldId
        let new ← find a.versions newId
        return old.tokens.changes new.tokens) (· = s) := by
  refine (yields_versions keeps stored).bind_ok ?_
  rintro _ rfl
  cases find a.versions oldId with
  | error e => exact Yields.bind_error (.lift (.error e) rfl)
  | ok old =>
    refine Yields.bind_ok (.lift (.ok old) rfl) ?_
    rintro _ rfl
    exact Yields.bind (.lift (find a.versions newId) rfl)

end Reading

theorem yields_setCurrent (keeps : store.Keeps Holds) (holds : Holds s texts)
    (tokens : TokenSet) :
    Yields store (setCurrent store tokens) s (.ok ())
      (Holds · (texts.put currentKey (toJson tokens).compact)) :=
  yields_saveText keeps holds (by decide) _

theorem yields_save (keeps : store.Keeps Holds) (holds : Holds s texts) (written : a.Written texts)
    (stamp : Stamp) (tokens : TokenSet) (fileId description : String) :
    let v := Version.new stamp tokens fileId description
    Yields store (History.save store stamp tokens fileId description) s (.ok v)
      (Holds · (texts.put versionsKey (toJson (a.save v).versions).compact)) := by
  refine (yields_versions keeps ⟨texts, holds, written⟩).bind_ok ?_
  rintro _ rfl
  exact (yields_saveText keeps holds (by decide) _).bind_ok fun _ holds' => .pure holds'

/-- A version that is kept becomes live, after the token set before it was saved. -/
theorem yields_revert_of_find (keeps : store.Keeps Holds) (holds : Holds s texts)
    (written : a.Written texts) (stamp : Stamp) {id : String} {target : Version}
    (found : find a.versions id = .ok target) :
    Yields store (History.revert store stamp id) s
      (.ok ⟨target.tokens, a.live.map (autoSaved stamp target id)⟩)
      (Holds · (a.revertTexts stamp target id texts)) := by
  have stored : a.Stored Holds s := ⟨texts, holds, written⟩
  -- The last step is the same whether or not a version was saved before it.
  have goLive : ∀ {s' : σ} {between : Texts} (saved : Option Version), Holds s' between →
      Yields store (do setCurrent store target.tokens; return Reverted.mk target.tokens saved) s'
        (.ok ⟨target.tokens, saved⟩)
        (Holds · (between.put currentKey (toJson target.tokens).compact)) :=
    fun _ holds' => (yields_setCurrent keeps holds' target.tokens).bind
  have first := yields_get keeps stored id
  rw [found] at first
  refine first.bind_ok ?_
  rintro _ rfl
  refine (yields_current keeps stored).bind_ok ?_
  rintro _ rfl
  rw [revertTexts]
  cases live : a.live with
  | none => exact goLive none holds
  | some tokens =>
    have saved := yields_save keeps holds written stamp tokens target.fileId
      (revertDescription id)
    refine Yields.bind_ok (saved.map some) ?_
    exact fun _ holds' => goLive (some (autoSaved stamp target id tokens)) holds'

/-- Whether everything comes through that a revert to a version writes: the token set of the
version, and, where a token set was live, this and the versions that are kept beside it. -/
def RevertsLosslessly (a : Archive) (target : Version) : Prop :=
  target.tokens.IsLossless ∧ ∀ tokens, a.live = some tokens →
    tokens.IsLossless ∧ ∀ w ∈ a.versions.take (capacity - 1), w.tokens.IsLossless

theorem forall_mem_save_iff {v : Version} :
    (∀ w ∈ (a.save v).versions, w.tokens.IsLossless) ↔
      v.tokens.IsLossless ∧ ∀ w ∈ a.versions.take (capacity - 1), w.tokens.IsLossless := by
  show (∀ w ∈ v :: a.versions.take (capacity - 1), w.tokens.IsLossless) ↔ _
  rw [List.forall_mem_cons]

/-- The texts after a revert hold the archive after it exactly if everything that was written
comes through. -/
theorem Written.revert_iff (written : a.Written texts) (stamp : Stamp) (target : Version)
    (id : String) :
    (a.revert stamp target id).Written (a.revertTexts stamp target id texts)
      ↔ a.RevertsLosslessly target := by
  rw [Archive.revert, revertTexts, RevertsLosslessly]
  constructor
  · intro after
    have live := after.live
    have versions := after.versions
    rw [Texts.put_self] at live
    rw [Texts.put_of_ne (by decide)] at versions
    cases given : a.live with
    | none =>
      rw [given] at live
      exact ⟨reads_tokenSet_iff.mp live, fun _ other => by cases other⟩
    | some tokens =>
      rw [given] at live versions
      refine ⟨reads_tokenSet_iff.mp live, ?_⟩
      rintro _ ⟨⟩
      dsimp only at versions
      rw [Texts.put_self] at versions
      exact forall_mem_save_iff.mp (reads_versions_iff.mp versions)
  · rintro ⟨own, others⟩
    cases given : a.live with
    | none => exact written.setLive own
    | some tokens => exact (written.save (forall_mem_save_iff.mpr (others tokens given))).setLive own

/-- Nothing happens to the store where there is no version to revert to. -/
theorem yields_revert_of_missing (keeps : store.Keeps Holds) (stored : a.Stored Holds s)
    (stamp : Stamp) {id : String} {e : HistoryError} (missing : find a.versions id = .error e) :
    Yields store (History.revert store stamp id) s (.error e) (· = s) := by
  have target := yields_get keeps stored id
  rw [missing] at target
  exact target.bind_error

end Archive

end DesignTokens
