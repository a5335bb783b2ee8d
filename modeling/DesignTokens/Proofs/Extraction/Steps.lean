import DesignTokens.Proofs.Extraction.Visit
import Mathlib.Data.List.Forall2

/-!
# Walks step by step

A visit is made of steps: a walk goes into a node, visits what is inside it, completes the
component if the node is one, and comes out again.  Whatever a node holds, the walk is then
where it was, with nothing lost, and each component that was opened has been completed once.

Key definitions:

* `Walk.Step` lists the steps, and `Node.steps` gives those of a visit.
* `Walk.run` takes steps, and `Walk.trace` tells from which states they are taken.
* `Walk.openings` and `Walk.closings` are the components that are opened and completed.
* `Walk.IsSound` holds of all states of a walk, and `Walk.Resumes` of those around a visit.
* `Walk.IsReady` holds of a state in which a component is completed.
-/

namespace DesignTokens

/-! ## Steps -/

namespace Walk

/-- What a walk does on its way through a document. -/
inductive Step where
  /-- Goes into a node and records all that it says about itself. -/
  | enter (own : Attributes) (segment : String) (isRoot : Bool)
  /-- Completes the component that a node is. -/
  | close (own : Attributes)
  /-- Comes out of a node. -/
  | leave (isRoot : Bool)

/-- Takes a step. -/
def take (options : ExtractionOptions) (w : Walk) : Step → Walk
  | .enter own segment isRoot => (w.enter own.name segment isRoot).record options own
  | .close _ => w.closeComponent
  | .leave isRoot => w.leave isRoot

/-- Takes several steps. -/
def run (options : ExtractionOptions) (w : Walk) (steps : List Step) : Walk :=
  steps.foldl (take options) w

/-- The steps that are taken, each with the state before it. -/
def trace (options : ExtractionOptions) (w : Walk) : List Step → List (Walk × Step)
  | [] => []
  | step :: steps => (w, step) :: trace options (w.take options step) steps

/-- The tokens of the open components by their positions, the innermost first. -/
def positions (w : Walk) : List Nat := w.opened.map OpenComponent.position

/-- The component that is innermost in a state, if more are open than in another. -/
def newest? (w later : Walk) : Option Nat :=
  if w.positions.length < later.positions.length then later.positions.head? else none

/-- What is seen of the states around each step. -/
def observe (see : Walk → Walk → Option Nat) (options : ExtractionOptions) (w : Walk) :
    List Step → List Nat
  | [] => []
  | step :: steps =>
    (see w (w.take options step)).toList ++ observe see options (w.take options step) steps

/-- The components that are opened by steps. -/
def openings : ExtractionOptions → Walk → List Step → List Nat := observe newest?

/-- The components that are open no more behind steps. -/
def closings : ExtractionOptions → Walk → List Step → List Nat :=
  observe (fun w later => newest? later w)

end Walk

namespace Node

mutual

/-- The steps of a visit. -/
def steps (segment : String) (isRoot : Bool) : Node → List Walk.Step
  | ⟨own, children⟩ =>
    .enter own segment isRoot
      :: stepsAll [] children
      ++ (if own.kind.isComponentLike then [.close own] else [])
      ++ [.leave isRoot]

/-- The steps of visits of siblings.  `seen` are the names of the siblings before
them. -/
def stepsAll (seen : List String) : List Node → List Walk.Step
  | [] => []
  | n :: ns =>
    steps (Segment.numbered (seen.count n.name) n.name) false n ++ stepsAll (n.name :: seen) ns

end

end Node

namespace Walk

section Steps

variable (options : ExtractionOptions)

theorem run_cons (w : Walk) (step : Step) (steps : List Step) :
    w.run options (step :: steps) = (w.take options step).run options steps := rfl

theorem run_append (w : Walk) (first second : List Step) :
    w.run options (first ++ second) = (w.run options first).run options second :=
  List.foldl_append

theorem trace_append (w : Walk) (first second : List Step) :
    w.trace options (first ++ second) =
      w.trace options first ++ (w.run options first).trace options second := by
  induction first generalizing w with
  | nil => rfl
  | cons step first ih =>
    rw [List.cons_append, trace, trace, List.cons_append, ih]
    rfl

mutual

/-- A visit is its steps, one after the other. -/
theorem run_steps (w : Walk) (segment : String) (isRoot : Bool) :
    ∀ n : Node, w.run options (n.steps segment isRoot) = w.visit options segment isRoot n
  | ⟨own, children⟩ => by
    have inside := run_stepsAll (w.take options (.enter own segment isRoot)) [] children
    rw [Node.steps, visit, List.cons_append, List.cons_append, run_cons, run_append, run_append,
      inside]
    split <;> rfl

theorem run_stepsAll (w : Walk) (seen : List String) :
    ∀ ns : List Node, w.run options (Node.stepsAll seen ns) = w.visitAll options seen ns
  | [] => rfl
  | n :: ns => by
    rw [Node.stepsAll, run_append, run_steps w _ false n, run_stepsAll _ (n.name :: seen) ns]
    rfl

end

/-- Between the first step of a visit and the last stand those inside the node. -/
theorem trace_steps (w : Walk) (segment : String) (isRoot : Bool) (own : Attributes)
    (children : List Node) :
    let entered := w.take options (.enter own segment isRoot)
    let inside := entered.visitAll options [] children
    w.trace options (Node.steps segment isRoot ⟨own, children⟩) =
      (w, .enter own segment isRoot) :: entered.trace options (Node.stepsAll [] children)
        ++ (if own.kind.isComponentLike then
            [(inside, .close own), (inside.closeComponent, .leave isRoot)]
          else [(inside, .leave isRoot)]) := by
  intro entered inside
  have rest : entered.run options (Node.stepsAll [] children) = inside :=
    run_stepsAll options entered [] children
  rw [Node.steps, List.cons_append, List.cons_append, List.append_assoc, trace, trace_append, rest]
  split <;> rfl

end Steps

/-! ## Open components -/

theorem positions_inform (w : Walk) (inner : List Component) (text : Option Typography) :
    (inform inner text w.opened).map OpenComponent.position = w.positions := by
  rw [positions]
  cases w.opened <;> simp [inform]

@[simp] theorem positions_absorb (w : Walk) (options : ExtractionOptions) (f : Findings) :
    (w.absorb options f).positions = w.positions := w.positions_inform _ _

/-- Whether or not the token of the innermost open component is found, this component is
open no more. -/
theorem positions_closeComponent (w : Walk) : w.closeComponent.positions = w.positions.tail := by
  unfold closeComponent
  cases opened : w.opened with
  | nil => simp [positions, opened]
  | cons frame frames =>
    dsimp only
    split
    · cases frames <;> simp [positions, opened, handOver]
    · simp [positions, opened]

/-- Whether there is the token of a component at a position. -/
def HasComponentAt (w : Walk) (p : Nat) : Prop :=
  ∃ t c, w.tokens[p]? = some t ∧ t.component? = some c

/-- Completing a component puts its token in the place of the one that was there. -/
theorem tokens_closeComponent (w : Walk) :
    w.closeComponent.tokens.size = w.tokens.size ∧
      w.closeComponent.fromComponent = w.fromComponent ∧
      ∀ p, w.HasComponentAt p → w.closeComponent.HasComponentAt p := by
  unfold closeComponent
  cases w.opened with
  | nil => exact ⟨rfl, rfl, fun _ there => there⟩
  | cons frame frames =>
    dsimp only
    split
    · rename_i id name path inner usage recorded
      refine ⟨Array.size_setIfInBounds, rfl, fun p ⟨t, c, found, component⟩ => ?_⟩
      by_cases same : frame.position = p
      · have inside := (Array.getElem?_eq_some_iff.mp recorded).1
        rw [← same]
        exact ⟨_, OpenComponent.complete frame inner,
          Array.getElem?_setIfInBounds_self_of_lt inside, rfl⟩
      · exact ⟨t, c, by rw [Array.getElem?_setIfInBounds_ne same, found], component⟩
    · exact ⟨rfl, rfl, fun _ there => there⟩

section Enter

variable (options : ExtractionOptions) (w : Walk) (own : Attributes) (segment : String)
  (isRoot : Bool)

/-- Before it opens the component that a node is, a walk has only added tokens. -/
theorem exists_recorded :
    ∃ v : Walk, w.take options (.enter own segment isRoot) = v.openComponent own v.place ∧
      v.positions = w.positions ∧ w.tokens.size ≤ v.tokens.size := by
  let entered := w.enter own.name segment isRoot
  let styles := Node.styleTokens options entered.here own
  refine ⟨(entered.append styles own.kind.isComponentLike).learn [] own.text?, ?_,
    w.positions_inform _ _, ?_⟩
  · rw [take, record_eq rfl]
    rfl
  · simp [learn, append, entered, enter]

/-- Going into a node opens the component that it is, whose token comes behind all those before.
No other node changes what is open. -/
theorem enter_cases :
    let entered := w.take options (.enter own segment isRoot)
    (own.kind.isComponentLike = true ∧ ∃ p, entered.positions = p :: w.positions ∧
        w.tokens.size ≤ p ∧ p < entered.tokens.size) ∨
      (own.kind.isComponentLike = false ∧ entered.positions = w.positions ∧
        w.tokens.size ≤ entered.tokens.size) := by
  obtain ⟨v, entered, others, size⟩ := exists_recorded options w own segment isRoot
  rw [entered, openComponent]
  cases like : own.kind.isComponentLike with
  | true =>
    refine .inl ⟨rfl, v.tokens.size, ?_, size, ?_⟩
    · rw [← others]
      rfl
    · simp [push]
  | false => exact .inr ⟨rfl, others, size⟩

end Enter

/-! ## Sound states -/

/-- What holds of all states of a walk: there is a flag for each token, and the open components
have their tokens one behind the other. -/
structure IsSound (w : Walk) : Prop where
  paired : w.tokens.size = w.fromComponent.size
  ordered : w.positions.Pairwise (· > ·)
  recorded : ∀ p ∈ w.positions, w.HasComponentAt p

namespace IsSound

variable {w : Walk}

theorem start : Walk.start.IsSound := ⟨rfl, .nil, fun _ member => nomatch member⟩

theorem lt_size (sound : w.IsSound) {p : Nat} (member : p ∈ w.positions) : p < w.tokens.size := by
  obtain ⟨t, c, found, _⟩ := sound.recorded p member
  exact (Array.getElem?_eq_some_iff.mp found).1

theorem append (sound : w.IsSound) (ts : List Token) (flag : Bool) :
    (w.append ts flag).IsSound where
  paired := by simp [Walk.append, sound.paired]
  ordered := sound.ordered
  recorded := by
    intro p member
    obtain ⟨t, c, found, component⟩ := sound.recorded p member
    refine ⟨t, c, ?_, component⟩
    rw [Walk.append, Array.getElem?_append_left (sound.lt_size member), found]

theorem learn (sound : w.IsSound) (inner : List Component) (text : Option Typography) :
    (w.learn inner text).IsSound := by
  have same : (w.learn inner text).positions = w.positions := w.positions_inform _ _
  exact ⟨sound.paired, same ▸ sound.ordered, same ▸ sound.recorded⟩

theorem openComponent (sound : w.IsSound) (a : Attributes) (place : String) :
    (w.openComponent a place).IsSound := by
  rw [Walk.openComponent]
  split
  · have pushed : (w.push a ("component:" ++ place) (.component (outerComponent a))).IsSound := by
      rw [push_eq_append]
      exact sound.append _ _
    -- The new token comes last, behind those of all components that are open.
    refine ⟨pushed.paired, List.pairwise_cons.mpr ⟨fun p member => sound.lt_size member,
      sound.ordered⟩, List.forall_mem_cons.mpr ⟨?_, pushed.recorded⟩⟩
    exact ⟨_, outerComponent a, Array.getElem?_push_size, rfl⟩
  · exact sound

theorem closeComponent (sound : w.IsSound) : w.closeComponent.IsSound := by
  obtain ⟨size, flags, kept⟩ := w.tokens_closeComponent
  refine ⟨by rw [size, flags, sound.paired], ?_, fun p member => ?_⟩
  · rw [positions_closeComponent]
    exact sound.ordered.tail
  · rw [positions_closeComponent] at member
    exact kept p (sound.recorded p (List.mem_of_mem_tail member))

theorem take (sound : w.IsSound) (options : ExtractionOptions) (step : Step) :
    (w.take options step).IsSound := by
  cases step with
  | enter own segment isRoot =>
    have entered : (w.enter own.name segment isRoot).IsSound :=
      ⟨sound.paired, sound.ordered, sound.recorded⟩
    rw [Walk.take, record_eq rfl]
    exact ((entered.append _ _).learn _ _).openComponent _ _
  | close own => exact sound.closeComponent
  | leave isRoot => exact ⟨sound.paired, sound.ordered, sound.recorded⟩

theorem run (sound : w.IsSound) (options : ExtractionOptions) (steps : List Step) :
    (w.run options steps).IsSound := by
  induction steps generalizing w with
  | nil => exact sound
  | cons step steps ih => exact ih (sound.take options step)

end IsSound

/-! ## Opening and completing -/

section Components

variable (options : ExtractionOptions)

theorem observe_append (see : Walk → Walk → Option Nat) (w : Walk) (first second : List Step) :
    w.observe see options (first ++ second) =
      w.observe see options first ++ (w.run options first).observe see options second := by
  induction first generalizing w with
  | nil => rfl
  | cons step first ih =>
    rw [List.cons_append, observe, observe, ih, List.append_assoc]
    rfl

theorem newest?_eq_none {w later : Walk} (none : later.positions.length ≤ w.positions.length) :
    newest? w later = .none := if_neg (Nat.not_lt.mpr none)

theorem newest?_eq_some {w later : Walk} {p : Nat} (one : later.positions = p :: w.positions) :
    newest? w later = some p := by
  rw [newest?, one, if_pos (by simp)]
  rfl

/-- A step loses no tokens, and if it opens a component, its token comes behind those before. -/
theorem size_le_take (w : Walk) (step : Step) :
    w.tokens.size ≤ (w.take options step).tokens.size ∧
      ∀ p, newest? w (w.take options step) = some p →
        w.tokens.size ≤ p ∧ p < (w.take options step).tokens.size := by
  have still {v : Walk} (fewer : v.positions.length ≤ w.positions.length) :
      ∀ p, newest? w v = some p → w.tokens.size ≤ p ∧ p < v.tokens.size := by
    intro p opened
    rw [newest?_eq_none fewer] at opened
    cases opened
  cases step with
  | enter own segment isRoot =>
    obtain ⟨_, p, positions, after, before⟩ | ⟨_, positions, size⟩ :=
      enter_cases options w own segment isRoot
    · refine ⟨Nat.le_trans after (Nat.le_of_lt before), fun q opened => ?_⟩
      rw [newest?_eq_some positions, Option.some.injEq] at opened
      exact opened ▸ ⟨after, before⟩
    · exact ⟨size, still (Nat.le_of_eq (by rw [positions]))⟩
  | close own =>
    exact ⟨Nat.le_of_eq w.tokens_closeComponent.1.symm,
      still (by simp [take, positions_closeComponent])⟩
  | leave isRoot => exact ⟨Nat.le_refl _, still (Nat.le_refl _)⟩

theorem pairwise_openings (w : Walk) (steps : List Step) :
    (∀ p ∈ w.openings options steps, w.tokens.size ≤ p) ∧
      (w.openings options steps).Pairwise (· < ·) := by
  induction steps generalizing w with
  | nil => exact ⟨List.forall_mem_nil _, List.Pairwise.nil⟩
  | cons step steps ih =>
    obtain ⟨later, ordered⟩ := ih (w.take options step)
    obtain ⟨size, first⟩ := w.size_le_take options step
    rw [openings, observe, ← openings]
    cases opened : newest? w (w.take options step) with
    | none => exact ⟨fun p member => Nat.le_trans size (later p member), ordered⟩
    | some q =>
      obtain ⟨after, before⟩ := first q opened
      exact ⟨List.forall_mem_cons.mpr ⟨after, fun p member => Nat.le_trans size (later p member)⟩,
        List.pairwise_cons.mpr ⟨fun p member => Nat.lt_of_lt_of_le before (later p member),
          ordered⟩⟩

variable {options}

/-- No component that is opened has the token of one that is open already. -/
theorem IsSound.nodup_openings {w : Walk} (sound : w.IsSound) (steps : List Step) :
    (w.positions ++ w.openings options steps).Nodup := by
  obtain ⟨later, ordered⟩ := w.pairwise_openings options steps
  refine List.nodup_append.mpr ⟨sound.ordered.imp Nat.ne_of_gt, ordered.imp Nat.ne_of_lt, ?_⟩
  -- The tokens that there are have lower positions than those that are still to come.
  intro p member q opened same
  exact absurd (sound.lt_size member) (Nat.not_lt.mpr (same ▸ later q opened))

section Visit

variable {w entered inside : Walk} {segment : String} {isRoot : Bool} {own : Attributes}
  {children : List Node} (enters : w.take options (.enter own segment isRoot) = entered)
  (visits : entered.visitAll options [] children = inside)
include enters visits

/-- In a visit is seen what entering its node and completing the component change, and between
them what is seen inside. -/
theorem observe_steps {see : Walk → Walk → Option Nat}
    (leaving : ∀ w isRoot, see w (w.leave isRoot) = none) :
    w.observe see options (Node.steps segment isRoot ⟨own, children⟩) =
      (see w entered).toList ++ entered.observe see options (Node.stepsAll [] children) ++
        (if own.kind.isComponentLike then (see inside inside.closeComponent).toList else []) := by
  rw [Node.steps, List.cons_append, List.cons_append, List.append_assoc, observe, observe_append,
    enters, run_stepsAll, visits, ← List.append_assoc]
  refine congrArg _ ?_
  split <;> simp [observe, take, leaving]

/-- A visit opens the component that its node is before all components inside, and completes it
behind them. -/
theorem components_steps :
    (∃ p, w.openings options (Node.steps segment isRoot ⟨own, children⟩) =
          p :: entered.openings options (Node.stepsAll [] children) ∧
        w.closings options (Node.steps segment isRoot ⟨own, children⟩) =
          entered.closings options (Node.stepsAll [] children) ++ [p]) ∨
      (w.openings options (Node.steps segment isRoot ⟨own, children⟩) =
          entered.openings options (Node.stepsAll [] children) ∧
        w.closings options (Node.steps segment isRoot ⟨own, children⟩) =
          entered.closings options (Node.stepsAll [] children)) := by
  have kept : inside.positions = entered.positions := by
    rw [← visits, visitAll_eq, positions_absorb]
  have leaving (w : Walk) (isRoot : Bool) :
      newest? w (w.leave isRoot) = none ∧ newest? (w.leave isRoot) w = none :=
    ⟨newest?_eq_none (Nat.le_refl _), newest?_eq_none (Nat.le_refl _)⟩
  have first := enter_cases options w own segment isRoot
  rw [enters] at first
  rw [openings, closings, observe_steps enters visits fun w isRoot => (leaving w isRoot).1,
    observe_steps enters visits fun w isRoot => (leaving w isRoot).2]
  rcases first with ⟨like, p, positions, _⟩ | ⟨other, positions, _⟩
  · -- When all inside is done, the component that was opened first is the innermost one again.
    have last := inside.positions_closeComponent
    rw [kept, positions, List.tail_cons] at last
    have opens : newest? w entered = some p := newest?_eq_some positions
    have keeps : newest? entered w = none := newest?_eq_none (by simp [positions])
    have closes : newest? inside.closeComponent inside = some p :=
      newest?_eq_some (by rw [kept, positions, last])
    have leaves : newest? inside inside.closeComponent = none :=
      newest?_eq_none (by simp [kept, positions, last])
    exact .inl ⟨p, by simp [like, opens, leaves], by simp [like, keeps, closes]⟩
  · have opens : newest? w entered = none := newest?_eq_none (Nat.le_of_eq (by rw [positions]))
    have keeps : newest? entered w = none := newest?_eq_none (Nat.le_of_eq (by rw [positions]))
    exact .inr ⟨by simp [other, opens], by simp [other, keeps]⟩

end Visit

mutual

/-- A visit completes the components that it opens, each of them once. -/
theorem perm_closings_steps (w : Walk) (segment : String) (isRoot : Bool) :
    ∀ n : Node, (w.closings options (n.steps segment isRoot)).Perm
      (w.openings options (n.steps segment isRoot))
  | ⟨own, children⟩ => by
    have enters : w.take options (.enter own segment isRoot) = _ := rfl
    have inside := perm_closings_stepsAll (w.take options (.enter own segment isRoot)) [] children
    obtain ⟨p, opened, closed⟩ | ⟨opened, closed⟩ := components_steps enters rfl
    · -- What is opened first is completed last.
      rw [opened, closed]
      exact (List.perm_append_singleton p _).trans (inside.cons p)
    · rwa [opened, closed]

theorem perm_closings_stepsAll (w : Walk) (seen : List String) :
    ∀ ns : List Node, (w.closings options (Node.stepsAll seen ns)).Perm
      (w.openings options (Node.stepsAll seen ns))
  | [] => .nil
  | n :: ns => by
    rw [Node.stepsAll, closings, openings, observe_append, observe_append]
    exact (perm_closings_steps w _ false n).append (perm_closings_stepsAll _ (n.name :: seen) ns)

end

end Components

/-! ## Completing -/

/-- Whether the innermost open component is the one that the innermost node is, with its token
in place and still to be completed. -/
def IsReady (w : Walk) (own : Attributes) : Prop :=
  ∃ frame frames, w.opened = frame :: frames ∧
    w.tokens[frame.position]? = some ⟨"component:" ++ w.place, own.name, w.path.reverse,
      .component (outerComponent own), none⟩

section Ready

variable {options : ExtractionOptions}

/-- When all inside a component is done, it is the one to be completed. -/
theorem isReady_inside {own : Attributes} (like : own.kind.isComponentLike) (w : Walk)
    (segment : String) (isRoot : Bool) (children : List Node) :
    ((w.take options (.enter own segment isRoot)).visitAll options [] children).IsReady own := by
  obtain ⟨v, entered, _⟩ := exists_recorded options w own segment isRoot
  have here : (v.openComponent own v.place).here = v.here := by
    rw [openComponent]
    split <;> rfl
  rw [entered, visitAll_eq]
  generalize Findings.ofTrees _ [] children = f
  -- What is found inside comes behind the token and leaves the walk at the node.
  have place : ((v.openComponent own v.place).absorb options f).place = v.place :=
    congrArg Place.text here
  have path : ((v.openComponent own v.place).absorb options f).path.reverse = v.path.reverse :=
    congrArg Place.path here
  refine ⟨_, _, opened_inside (w := v) (p := v.here) like options f, ?_⟩
  rw [place, path]
  exact recorded_inside (w := v) (p := v.here) like options f rfl

mutual

/-- Each component that a visit completes is the innermost one and that of the node it leaves. -/
theorem isReady_of_mem_trace {v : Walk} {own : Attributes} (w : Walk) (segment : String)
    (isRoot : Bool) : ∀ n : Node, (v, .close own) ∈ w.trace options (n.steps segment isRoot) →
      v.IsReady own
  | ⟨outer, children⟩ => by
    intro member
    rw [trace_steps, List.cons_append, List.mem_cons, List.mem_append] at member
    -- A component is completed either inside the node or as the node itself.
    rcases member with first | inside | last
    · cases first
    · exact isReady_of_mem_traceAll _ [] children inside
    · split at last
      · rename_i like
        rcases List.mem_pair.mp last with same | other
        · cases same
          exact isReady_inside like w segment isRoot children
        · cases other
      · cases List.mem_singleton.mp last

theorem isReady_of_mem_traceAll {v : Walk} {own : Attributes} (w : Walk) (seen : List String) :
    ∀ ns : List Node, (v, .close own) ∈ w.trace options (Node.stepsAll seen ns) → v.IsReady own
  | [] => fun member => nomatch member
  | n :: ns => by
    intro member
    rw [Node.stepsAll, trace_append, List.mem_append] at member
    rcases member with first | others
    · exact isReady_of_mem_trace w _ false n first
    · exact isReady_of_mem_traceAll _ (n.name :: seen) ns others

end

end Ready

/-! ## Visits -/

/-- Whether a component is still open, with what was found inside it before. -/
structure Gains (frame later : OpenComponent) : Prop where
  position : later.position = frame.position
  children : frame.children <+: later.children
  firstText : ∀ text, frame.firstText = some text → later.firstText = some text

/-- Whether a walk stands where it stood, with the same components open, and has only put tokens
and flags behind those that there were. -/
structure Resumes (w later : Walk) : Prop where
  path : later.path = w.path
  segments : later.segments = w.segments
  opened : List.Forall₂ Gains w.opened later.opened
  tokens : w.tokens.toList <+: later.tokens.toList
  flags : w.fromComponent.toList <+: later.fromComponent.toList

theorem gains_inform (inner : List Component) (text : Option Typography)
    (frames : List OpenComponent) : List.Forall₂ Gains frames (inform inner text frames) := by
  have told {first : Option Typography} {style : Typography} (known : first = some style) :
      first.or text = some style := by rw [known, Option.some_or]
  cases frames with
  | nil => exact .nil
  | cons frame frames =>
    refine .cons ⟨rfl, List.prefix_append _ _, fun _ => told⟩ ?_
    refine List.forall₂_map_right_iff.mpr (List.forall₂_same.mpr fun frame _ => ?_)
    exact ⟨rfl, List.prefix_refl _, fun _ => told⟩

theorem resumes_absorb (w : Walk) (options : ExtractionOptions) (f : Findings) :
    w.Resumes (w.absorb options f) where
  path := rfl
  segments := rfl
  opened := gains_inform _ _ _
  tokens := by simp [absorb]
  flags := by simp [absorb]

theorem resumes_visit (w : Walk) (options : ExtractionOptions) (segment : String) (isRoot : Bool)
    (n : Node) : w.Resumes (w.visit options segment isRoot n) := by
  rw [visit_eq]
  exact w.resumes_absorb options _

/-- Whether a state comes up in the extraction of a document. -/
def IsReached (options : ExtractionOptions) (root : Node) (w : Walk) : Prop :=
  ∃ before, before <+: root.steps (Segment.escape root.name) true ∧ w = start.run options before

theorem IsReached.isSound {options : ExtractionOptions} {root : Node} {w : Walk}
    (reached : w.IsReached options root) : w.IsSound := by
  obtain ⟨before, _, rfl⟩ := reached
  exact IsSound.start.run options before

end Walk

/-- An extraction takes its steps one after the other, and however far it has come, a visit resumes
the walk and completes exactly the components that it opens.  Each of them is the innermost
one when it is completed, and its token is there. -/
theorem visits_resume_walks (options : ExtractionOptions) (root : Node) :
    extract options root =
        (Walk.start.run options (root.steps (Segment.escape root.name) true)).finish options ∧
      ∀ w : Walk, w.IsReached options root → ∀ (n : Node) (segment : String) (isRoot : Bool),
        let steps := n.steps segment isRoot
        let later := w.visit options segment isRoot n
        w.run options steps = later ∧ w.Resumes later ∧
          w.tokens.size = w.fromComponent.size ∧ later.tokens.size = later.fromComponent.size ∧
          (w.closings options steps).Perm (w.openings options steps) ∧
          (w.positions ++ w.openings options steps).Nodup ∧
          ∀ v own, (v, .close own) ∈ w.trace options steps → v.IsReady own := by
  refine ⟨congrArg (Walk.finish · options) (Walk.run_steps options _ _ _ root).symm, ?_⟩
  intro w reached n segment isRoot steps later
  have sound := reached.isSound
  have runs : w.run options steps = later := Walk.run_steps options w segment isRoot n
  have paired : later.tokens.size = later.fromComponent.size := by
    rw [← runs]
    exact (sound.run options steps).paired
  exact ⟨runs, w.resumes_visit options segment isRoot n, sound.paired, paired,
    Walk.perm_closings_steps w segment isRoot n, sound.nodup_openings steps,
    fun _ _ member => Walk.isReady_of_mem_trace w segment isRoot n member⟩

/-- A component with a text and an instance of another one, which has a text as well. -/
def dealtCard : Node :=
  ⟨.bare "Card" .component,
    [⟨.bare "Title" .text, []⟩, ⟨.bare "Suit" .componentInstance, [⟨.bare "Sign" .text, []⟩]⟩]⟩

/-- Behind the text of the component, which alone is open then, the instance is visited. -/
theorem visits_resume_walks_dealtCard :
    let before := (dealtCard.steps "Card" true).take 3
    let w := Walk.start.run .deep before
    let suit : Node := ⟨.bare "Suit" .componentInstance, [⟨.bare "Sign" .text, []⟩]⟩
    w.IsReached .deep dealtCard ∧ w.Resumes (w.visit .deep "Suit" false suit) ∧
      w.positions = [0] ∧ w.openings .deep (suit.steps "Suit" false) = [2] ∧
      w.closings .deep (suit.steps "Suit" false) = [2] := by
  intro before w suit
  have reached : w.IsReached .deep dealtCard := ⟨before, List.take_prefix _ _, rfl⟩
  obtain ⟨_, resumes, _⟩ := (visits_resume_walks .deep dealtCard).2 w reached suit "Suit" false
  exact ⟨reached, resumes, by decide +kernel, by decide +kernel, by decide +kernel⟩

end DesignTokens
