import DesignTokens.Proofs.History.Archive

/-!
# Ledgers

A ledger lists all versions that were ever created, however many there are, and
the token set that is live.  What a history keeps in its store is a ledger cut
off after `History.capacity` versions, as text, and every operation of the
history does to the store what it does to the ledger.
-/

namespace DesignTokens

variable {σ : Type}

/-! ## Ledgers -/

/-- All versions that were created, newest first, and the live token set. -/
structure Ledger where
  log : List Version
  live : Option TokenSet

namespace Ledger

/-- The ledger before anything has happened. -/
def empty : Ledger := ⟨[], none⟩

/-- The versions that a history keeps. -/
def kept (l : Ledger) : List Version := l.log.take History.capacity

/-- The ledger after a version was created. -/
def save (l : Ledger) (v : Version) : Ledger := { l with log := v :: l.log }

/-- The ledger after a token set was made live. -/
def setLive (l : Ledger) (tokens : TokenSet) : Ledger := { l with live := some tokens }

/-- A new version pushes out the oldest one that is kept. -/
theorem kept_save (l : Ledger) (v : Version) :
    (l.save v).kept = (v :: l.kept).take History.capacity := by
  show (v :: l.log).take (9 + 1) = (v :: l.log.take (9 + 1)).take (9 + 1)
  rw [List.take_succ_cons, List.take_succ_cons, List.take_take]
  rfl

theorem head?_kept (l : Ledger) : l.kept.head? = l.log.head? := by
  cases same : l.log with
  | nil => rw [kept, same]; rfl
  | cons v vs => rw [kept, same]; rfl

/-- Whether all line heights in a ledger that are still needed come through. -/
structure IsLossless (l : Ledger) : Prop where
  kept : ∀ v ∈ l.kept, v.tokens.IsLossless
  live : ∀ tokens, l.live = some tokens → tokens.IsLossless

theorem isLossless_empty : empty.IsLossless :=
  ⟨fun _ member => absurd member List.not_mem_nil, fun _ given => by cases given⟩

theorem IsLossless.setLive {l : Ledger} (lossless : l.IsLossless) {tokens : TokenSet}
    (own : tokens.IsLossless) : (l.setLive tokens).IsLossless :=
  ⟨lossless.kept, fun _ given => Option.some.inj given ▸ own⟩

theorem IsLossless.save {l : Ledger} (lossless : l.IsLossless) {v : Version}
    (own : v.tokens.IsLossless) : (l.save v).IsLossless := by
  refine ⟨fun w member => ?_, lossless.live⟩
  rw [kept_save] at member
  rcases List.mem_cons.mp (List.mem_of_mem_take member) with rfl | older
  · exact own
  · exact lossless.kept w older

/-! ## Ledgers and archives -/

/-- What a history keeps of a ledger. -/
def archive (l : Ledger) : Archive := ⟨l.kept, l.live⟩

/-- A ledger and a state in which a history keeps it. -/
structure Stored (l : Ledger) (Holds : σ → Texts → Prop) (s : σ) : Prop where
  lossless : l.IsLossless
  stored : l.archive.Stored Holds s

theorem stored_empty {Holds : σ → Texts → Prop} {s : σ} (nothing : Holds s fun _ => none) :
    empty.Stored Holds s :=
  ⟨isLossless_empty, _, nothing, ⟨none, .none, rfl⟩, .none⟩

theorem archive_save (l : Ledger) (v : Version) : (l.save v).archive = l.archive.save v := by
  rw [archive, kept_save]
  rfl

theorem archive_revert (l : Ledger) (stamp : Stamp) (target : Version) (id : String) :
    archive ⟨(l.live.map (History.autoSaved stamp target id)).toList ++ l.log,
      some target.tokens⟩ = l.archive.revert stamp target id := by
  obtain ⟨log, live⟩ := l
  cases live with
  | none => rfl
  | some tokens =>
    have saved := archive_save ⟨log, some tokens⟩ (History.autoSaved stamp target id tokens)
    exact congrArg (Archive.setLive · target.tokens) saved

end Ledger

/-! ## Operations -/

namespace History

variable {store : Store (StateM σ)} {Holds : σ → Texts → Prop} {s : σ} {l : Ledger}

section Reading

variable (keeps : store.Keeps Holds) (stored : l.Stored Holds s)
include keeps stored

theorem yields_versions : Yields store (versions store) s (.ok l.kept) (· = s) :=
  l.archive.yields_versions keeps stored.stored

theorem yields_current : Yields store (current store) s (.ok l.live) (· = s) :=
  l.archive.yields_current keeps stored.stored

theorem yields_get (id : String) : Yields store (get store id) s (find l.kept id) (· = s) :=
  l.archive.yields_get keeps stored.stored id

theorem yields_latest : Yields store (latest store) s (.ok l.log.head?) (· = s) := by
  rw [← l.head?_kept]
  exact l.archive.yields_latest keeps stored.stored

theorem yields_compare (oldId newId : String) :
    Yields store (compare store oldId newId) s
      (do
        let old ← find l.kept oldId
        let new ← find l.kept newId
        return old.tokens.changes new.tokens) (· = s) :=
  l.archive.yields_compare keeps stored.stored oldId newId

end Reading

theorem yields_setCurrent (keeps : store.Keeps Holds) (stored : l.Stored Holds s)
    {tokens : TokenSet} (lossless : tokens.IsLossless) :
    Yields store (setCurrent store tokens) s (.ok ()) ((l.setLive tokens).Stored Holds) := by
  obtain ⟨before, texts, holds, written⟩ := stored
  refine (Archive.yields_setCurrent keeps holds tokens).mono fun _ holds' => ?_
  exact ⟨before.setLive lossless, _, holds', written.setLive lossless⟩

theorem yields_save (keeps : store.Keeps Holds) (stored : l.Stored Holds s) (stamp : Stamp)
    {tokens : TokenSet} (lossless : tokens.IsLossless) (fileId description : String) :
    Yields store (save store stamp tokens fileId description) s
      (.ok (Version.new stamp tokens fileId description))
      ((l.save (Version.new stamp tokens fileId description)).Stored Holds) := by
  obtain ⟨before, texts, holds, written⟩ := stored
  refine (Archive.yields_save keeps holds written stamp tokens fileId description).mono
    fun _ holds' => ?_
  have after : (l.save (Version.new stamp tokens fileId description)).IsLossless :=
    before.save lossless
  have kept := after.kept
  refine ⟨after, _, holds', ?_⟩
  rw [Ledger.kept_save] at kept
  rw [Ledger.archive_save]
  exact written.save kept

/-- A version that is kept becomes live, after the token set before it was saved. -/
theorem yields_revert_of_find (keeps : store.Keeps Holds) (stored : l.Stored Holds s)
    (stamp : Stamp) {id : String} {target : Version} (found : find l.kept id = .ok target) :
    Yields store (revert store stamp id) s
      (.ok ⟨target.tokens, l.live.map (autoSaved stamp target id)⟩)
      (Ledger.Stored ⟨(l.live.map (autoSaved stamp target id)).toList ++ l.log,
        some target.tokens⟩ Holds) := by
  obtain ⟨before, texts, holds, written⟩ := stored
  refine (Archive.yields_revert_of_find keeps holds written stamp found).mono fun _ holds' => ?_
  have own : target.tokens.IsLossless := before.kept target (mem_of_find found)
  refine ⟨?_, _, holds', ?_⟩
  · -- What was live is saved now, and it came through when it was made live.
    cases live : l.live with
    | none => exact before.setLive own
    | some tokens => exact (before.save (before.live tokens live)).setLive own
  · rw [Ledger.archive_revert]
    refine (written.revert_iff stamp target id).mpr ⟨own, fun tokens live => ?_⟩
    exact ⟨before.live tokens live, fun w member => before.kept w (List.mem_of_mem_take member)⟩

/-- Nothing happens to the store where there is no version to revert to. -/
theorem yields_revert_of_missing (keeps : store.Keeps Holds) (stored : l.Stored Holds s)
    (stamp : Stamp) {id : String} {e : HistoryError} (missing : find l.kept id = .error e) :
    Yields store (revert store stamp id) s (.error e) (· = s) :=
  Archive.yields_revert_of_missing keeps stored.stored stamp missing

end History

end DesignTokens
