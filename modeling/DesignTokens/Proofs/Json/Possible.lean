import DesignTokens.Json.Reader
import DesignTokens.Json.Record
import DesignTokens.Proofs.Decimal.Finite
import DesignTokens.Proofs.Json.Spelling

/-!
# Numbers of documents

A number of a document is a whole number of 64 bits or a finite double, since
the reader knows no others.  All parts of a document share this, and so does its
value.
-/

namespace DesignTokens.Json

/-! ## Documents with possible numbers -/

/-- Whether a number can be written: a whole number of 64 bits or a finite
double. -/
def Number.IsPossible : Number → Prop
  | .whole n => leastWhole ≤ n ∧ n ≤ greatestWhole
  | .real x => Decimal.isFinite x = true

mutual

/-- Whether all numbers of a document are possible.  Some of its parts may be
unreadable. -/
def IsPossible : Json → Prop
  | .num n => n.IsPossible
  | .arr items => ArePossible items
  | .obj fields => HavePossible fields
  | _ => True

/-- Whether all numbers in the items of an array are possible. -/
def ArePossible : List Json → Prop
  | [] => True
  | j :: js => IsPossible j ∧ ArePossible js

/-- Whether all numbers in the fields of an object are possible. -/
def HavePossible : List (String × Json) → Prop
  | [] => True
  | (_, j) :: fs => IsPossible j ∧ HavePossible fs

end

theorem arePossible_iff {items : List Json} : ArePossible items ↔ ∀ j ∈ items, IsPossible j := by
  induction items with
  | nil => simp [ArePossible]
  | cons j js ih => simp [ArePossible, ih]

theorem havePossible_iff {fields : List (String × Json)} :
    HavePossible fields ↔ ∀ f ∈ fields, IsPossible f.2 := by
  induction fields with
  | nil => simp [HavePossible]
  | cons f fs ih => simp [HavePossible, ih]

theorem Number.IsPossible.isFinite_toFloat {n : Number} (possible : n.IsPossible) :
    Decimal.isFinite n.toFloat = true := by
  cases n with
  | whole n =>
    obtain ⟨low, high⟩ := possible
    rw [leastWhole] at low
    rw [greatestWhole] at high
    exact Decimal.isFinite_floatOfInt (by omega)
  | real x => exact possible

mutual

theorem isPossible_canonical : ∀ {j : Json}, IsPossible j → IsPossible j.canonical
  | .null, _ => trivial
  | .bool _, _ => trivial
  | .num _, possible => possible
  | .str _, _ => trivial
  | .unreadable, _ => trivial
  | .arr _, possible => arePossible_canonicalItems possible
  | .obj _, possible => havePossible_iff.mpr fun f member =>
    havePossible_iff.mp (havePossible_canonicalFields possible) f (mem_of_mem_sortFields member)

theorem arePossible_canonicalItems : ∀ {items : List Json}, ArePossible items →
    ArePossible (canonicalItems items)
  | [], _ => trivial
  | _ :: _, ⟨first, rest⟩ => ⟨isPossible_canonical first, arePossible_canonicalItems rest⟩

theorem havePossible_canonicalFields : ∀ {fields : List (String × Json)}, HavePossible fields →
    HavePossible (canonicalFields fields)
  | [], _ => trivial
  | _ :: _, ⟨first, rest⟩ => ⟨isPossible_canonical first, havePossible_canonicalFields rest⟩

end

theorem isPossible_of_value? {j v : Json} (possible : IsPossible j) (found : j.value? = some v) :
    IsPossible v := by
  rw [value?] at found
  split at found
  · cases found
    exact isPossible_canonical possible
  · cases found

/-- The fields of a record are parts of the document. -/
theorem havePossible_of_record? {known : List Field} {j : Json} {fields : List (String × Json)}
    (possible : IsPossible j) (found : j.record? known = some fields) : HavePossible fields := by
  rw [havePossible_iff]
  intro f member
  cases j with
  | obj given =>
    simp only [record?] at found
    split at found
    · cases found
      obtain ⟨key, here⟩ := mem_of_mem_knownFields member
      exact havePossible_iff.mp possible (key, f.2) here
    · cases found
  | arr items =>
    simp only [record?] at found
    split at found
    · cases found
      exact arePossible_iff.mp possible f.2 (List.of_mem_zip member).2
    · cases found
  | _ => cases found

theorem isPossible_of_get? {fields : List (String × Json)} (possible : HavePossible fields)
    {key : String} {j : Json} (found : get? fields key = some j) : IsPossible j :=
  havePossible_iff.mp possible _ (mem_of_get?_eq_some found)

/-! ## Lexemes -/

theorem isPossible_of_ofLiteral? {l : Decimal.Literal} {n : Number}
    (read : Number.ofLiteral? l = some n) : n.IsPossible := by
  unfold Number.ofLiteral? at read
  extract_lets whole negativeZero at read
  split at read
  · rename_i inside
    simp only [Bool.and_eq_true, decide_eq_true_eq] at inside
    cases read
    exact ⟨inside.1.2, inside.2⟩
  · obtain ⟨x, double, rfl⟩ := Option.map_eq_some_iff.mp read
    exact (Option.filter_eq_some_iff.mp double).2

/-- Whether the number of a lexeme is possible, if it is a number. -/
def Lexeme.IsPossible : Lexeme → Prop
  | .num (some n) => n.IsPossible
  | _ => True

theorem Lexeme.isPossible_of_ofNumber? {literal : List Char} {l : Lexeme}
    (read : Lexeme.ofNumber? literal = some l) : l.IsPossible := by
  obtain ⟨number, _, rfl⟩ := Option.map_eq_some_iff.mp read
  cases found : Number.ofLiteral? number with
  | none => trivial
  | some n => exact isPossible_of_ofLiteral? found

theorem Lexeme.isPossible_of_ofWord? {word : List Char} {l : Lexeme}
    (read : Lexeme.ofWord? word = some l) : l.IsPossible := by
  rw [Lexeme.ofWord?] at read
  split at read
  · cases read
    trivial
  · split at read
    · cases read
      trivial
    · split at read <;> cases read
      trivial

theorem Lexeme.isPossible_of_ofMark? {c : Char} {l : Lexeme} (read : Lexeme.ofMark? c = some l) :
    l.IsPossible := by
  unfold Lexeme.ofMark? at read
  split at read <;> cases read <;> trivial

/-! ## The scanner -/

/-- What every step keeps holds at the end of a run of steps. -/
theorem foldlM_keeps {σ α : Type} {step : σ → α → Option σ} {P : σ → Prop} {items : List α}
    (keeps : ∀ item ∈ items, ∀ s t, P s → step s item = some t → P t) {s t : σ} (start : P s)
    (run : items.foldlM step s = some t) : P t := by
  induction items generalizing s with
  | nil =>
    cases run
    exact start
  | cons item items ih =>
    obtain ⟨first, rest⟩ := List.forall_mem_cons.mp keeps
    rw [List.foldlM_cons] at run
    obtain ⟨u, here, run⟩ := Option.bind_eq_some_iff.mp run
    exact ih rest (first s u start here) run

/-- Whether all lexemes that the scanner has found are possible. -/
def Scanner.IsPossible (s : Scanner) : Prop := ∀ l ∈ s.found, l.IsPossible

namespace Scanner

theorem isPossible_start? {found : List Lexeme} {c : Char} {s : Scanner}
    (before : ∀ l ∈ found, l.IsPossible) (went : start? found c = some s) : s.IsPossible := by
  rw [start?] at went
  split at went
  · cases went
    exact before
  split at went
  · cases went
    exact before
  split at went
  · cases went
    exact before
  split at went
  · cases went
    exact before
  · obtain ⟨l, mark, rfl⟩ := Option.map_eq_some_iff.mp went
    exact List.forall_mem_cons.mpr ⟨Lexeme.isPossible_of_ofMark? mark, before⟩

theorem isPossible_step {s t : Scanner} {c : Char} (before : s.IsPossible)
    (went : s.step c = some t) : t.IsPossible := by
  -- A lexeme is found at the end of a word, a number or a string, and else nothing changes.
  rw [step] at went
  split at went
  · exact isPossible_start? before went
  · split at went
    · cases went
      exact before
    · obtain ⟨l, word, went⟩ := Option.bind_eq_some_iff.mp went
      exact isPossible_start?
        (List.forall_mem_cons.mpr ⟨Lexeme.isPossible_of_ofWord? word, before⟩) went
  · split at went
    · cases went
      exact before
    · obtain ⟨l, number, went⟩ := Option.bind_eq_some_iff.mp went
      exact isPossible_start?
        (List.forall_mem_cons.mpr ⟨Lexeme.isPossible_of_ofNumber? number, before⟩) went
  · split at went
    · cases went
      exact List.forall_mem_cons.mpr ⟨trivial, before⟩
    split at went
    · cases went
      exact before
    split at went
    · cases went
    · cases went
      exact before
  · split at went
    · cases went
      exact before
    · obtain ⟨d, _, rfl⟩ := Option.map_eq_some_iff.mp went
      exact before
  · obtain ⟨d, _, rfl⟩ := Option.map_eq_some_iff.mp went
    split <;> exact before

theorem isPossible_finish {s : Scanner} {ls : List Lexeme} (before : s.IsPossible)
    (finished : s.finish = some ls) : ∀ l ∈ ls, l.IsPossible := by
  rw [finish] at finished
  split at finished
  · cases finished
    exact fun l member => before l (List.mem_reverse.mp member)
  · obtain ⟨l, word, rfl⟩ := Option.map_eq_some_iff.mp finished
    intro m member
    have found := List.mem_reverse.mp member
    exact List.forall_mem_cons.mpr ⟨Lexeme.isPossible_of_ofWord? word, before⟩ m found
  · obtain ⟨l, number, rfl⟩ := Option.map_eq_some_iff.mp finished
    intro m member
    have found := List.mem_reverse.mp member
    exact List.forall_mem_cons.mpr ⟨Lexeme.isPossible_of_ofNumber? number, before⟩ m found
  · cases finished

end Scanner

theorem isPossible_of_lexemes? {cs : List Char} {ls : List Lexeme} (read : lexemes? cs = some ls) :
    ∀ l ∈ ls, l.IsPossible := by
  obtain ⟨s, run, finished⟩ := Option.bind_eq_some_iff.mp read
  have start : Scanner.IsPossible ⟨[], .between⟩ := List.forall_mem_nil _
  exact Scanner.isPossible_finish
    (foldlM_keeps (fun _ _ _ _ before => Scanner.isPossible_step before) start run) finished

/-! ## The builder -/

/-- Whether everything that a bracket holds so far is possible. -/
def Frame.IsPossible : Frame → Prop
  | .array items => ∀ j ∈ items, Json.IsPossible j
  | .object fields _ _ => ∀ f ∈ fields, Json.IsPossible f.2

/-- Whether everything that has been built so far is possible. -/
structure Builder.IsPossible (b : Builder) : Prop where
  frames : ∀ f ∈ b.frames, f.IsPossible
  whole : b.whole.IsPossible

namespace Builder

theorem IsPossible.put {b : Builder} (before : b.IsPossible) {j : Json} (value : j.IsPossible) :
    (b.put j).IsPossible := by
  obtain ⟨frames, place, whole⟩ := b
  obtain ⟨inside, done⟩ := before
  cases frames with
  | nil => exact ⟨List.forall_mem_nil _, value⟩
  | cons f frames =>
    obtain ⟨first, rest⟩ := List.forall_mem_cons.mp inside
    cases f with
    | array items =>
      exact ⟨List.forall_mem_cons.mpr ⟨List.forall_mem_cons.mpr ⟨value, first⟩, rest⟩, done⟩
    | object fields readable key =>
      exact ⟨List.forall_mem_cons.mpr ⟨List.forall_mem_cons.mpr ⟨value, first⟩, rest⟩, done⟩

theorem isPossible_close {f : Frame} (inside : f.IsPossible) (depth : Nat) :
    (f.close depth).IsPossible := by
  cases f with
  | array items =>
    simp only [Frame.close]
    split
    · exact arePossible_iff.mpr fun j member => inside j (List.mem_reverse.mp member)
    · trivial
  | object fields readable key =>
    simp only [Frame.close]
    split
    · exact havePossible_iff.mpr fun f member => inside f (List.mem_reverse.mp member)
    · trivial

theorem IsPossible.close {b t : Builder} (before : b.IsPossible) (closed : b.close = some t) :
    t.IsPossible := by
  obtain ⟨frames, place, whole⟩ := b
  cases frames with
  | nil => cases closed
  | cons f frames =>
    obtain ⟨first, rest⟩ := List.forall_mem_cons.mp before.frames
    have outside : Builder.IsPossible ⟨frames, place, whole⟩ := ⟨rest, before.whole⟩
    cases closed
    exact outside.put (isPossible_close first _)

theorem IsPossible.value? {b t : Builder} (before : b.IsPossible) {l : Lexeme}
    (possible : l.IsPossible) (went : b.value? l = some t) : t.IsPossible := by
  cases l with
  | num n =>
    cases went
    cases n with
    | none => exact before.put trivial
    | some n => exact before.put possible
  | str s =>
    cases went
    cases s <;> exact before.put trivial
  | null =>
    cases went
    exact before.put trivial
  | bool v =>
    cases went
    exact before.put trivial
  | openBracket =>
    cases went
    exact ⟨List.forall_mem_cons.mpr ⟨List.forall_mem_nil _, before.frames⟩, before.whole⟩
  | openBrace =>
    cases went
    exact ⟨List.forall_mem_cons.mpr ⟨List.forall_mem_nil _, before.frames⟩, before.whole⟩
  | _ => cases went

theorem IsPossible.key? {b t : Builder} (before : b.IsPossible) {l : Lexeme}
    (went : b.key? l = some t) : t.IsPossible := by
  obtain ⟨frames, place, whole⟩ := b
  unfold Builder.key? at went
  split at went
  · split at went
    · rename_i fields readable key frames same
      cases same
      cases went
      obtain ⟨first, rest⟩ := List.forall_mem_cons.mp before.frames
      exact ⟨List.forall_mem_cons.mpr ⟨first, rest⟩, before.whole⟩
    · cases went
  · cases went

theorem IsPossible.step {b t : Builder} (before : b.IsPossible) {l : Lexeme}
    (possible : l.IsPossible) (went : b.step l = some t) : t.IsPossible := by
  unfold Builder.step at went
  split at went
  · exact before.value? possible went
  · split at went
    · exact before.close went
    · exact before.value? possible went
  · split at went
    · exact before.close went
    · exact before.key? went
  · exact before.key? went
  · split at went
    · cases went
      exact ⟨before.frames, before.whole⟩
    · cases went
  · split at went
    · cases went
      exact ⟨before.frames, before.whole⟩
    · cases went
      exact ⟨before.frames, before.whole⟩
    · exact before.close went
    · exact before.close went
    · cases went

end Builder

/-- The reader gives documents with possible numbers only. -/
theorem isPossible_of_read? {text : String} {j : Json} (read : read? text = some j) :
    j.IsPossible := by
  obtain ⟨ls, lexemes, read⟩ := Option.bind_eq_some_iff.mp read
  obtain ⟨b, run, finished⟩ := Option.bind_eq_some_iff.mp read
  have possible := isPossible_of_lexemes? lexemes
  have start : Builder.start.IsPossible := ⟨List.forall_mem_nil _, trivial⟩
  have built : b.IsPossible :=
    foldlM_keeps (fun l member _ _ before => before.step (possible l member)) start run
  rw [Builder.finish] at finished
  split at finished
  · cases finished
    exact built.whole
  · cases finished

end DesignTokens.Json
