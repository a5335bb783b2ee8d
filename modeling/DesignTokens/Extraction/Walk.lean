import DesignTokens.Extraction.Options
import DesignTokens.Extraction.Segment
import DesignTokens.OrderedMap
import DesignTokens.Token.Basic

/-!
# Walking a document

Tokens are collected in one walk over the tree, parents before children.  For
each node come its fill colors, its stroke colors, its text style, its effects,
its layout and the component that it is, in this order.

A component is recorded before its children are visited and completed after
them.  Until then it stays open.

Key definitions:

* `Walk` is the state of a walk.
* `Walk.visit` visits a node and everything inside it.
* `extract` gives the tokens of a document.
-/

namespace DesignTokens

/-! ## State -/

/-- A component whose inside is being visited: the position of its token, the
components found inside it so far and the first text style found there. -/
structure OpenComponent where
  position : Nat
  children : List Component
  firstText : Option Typography

/-- The state of a walk.  The innermost node comes first in `path`, which leaves
out the root, in `segments` and in `opened`.  Beside each token stands whether
its node is like a component. -/
structure Walk where
  tokens : Array Token
  fromComponent : Array Bool
  path : List String
  segments : List String
  counts : OrderedMap String Nat
  opened : List OpenComponent

namespace Walk

/-- The state before the first node. -/
def start : Walk where
  tokens := #[]
  fromComponent := #[]
  path := []
  segments := []
  counts := .empty
  opened := []

/-! ## Entering and leaving -/

/-- Goes into a node. -/
def enter (w : Walk) (name segment : String) (isRoot : Bool) : Walk :=
  { w with
    path := if isRoot then w.path else name :: w.path
    segments := segment :: w.segments
    counts := w.counts.alter name (fun n => n.getD 0 + 1) }

/-- Comes out of a node. -/
def leave (w : Walk) (isRoot : Bool) : Walk :=
  { w with
    path := if isRoot then w.path else w.path.tail
    segments := w.segments.tail }

/-- The middle of the ids of the innermost node. -/
def place (w : Walk) : String := "/".intercalate w.segments.reverse

/-! ## Recording -/

/-- Adds a token of the innermost node. -/
def push (w : Walk) (a : Attributes) (id : String) (payload : Payload) : Walk :=
  { w with
    tokens := w.tokens.push ⟨id, a.name, w.path.reverse, payload, none⟩
    fromComponent := w.fromComponent.push a.kind.isComponentLike }

/-- Records the solid paints of a list. -/
def pushColors (w : Walk) (a : Attributes) (place : String) (role : PaintRole)
    (paints : List Paint) : Walk :=
  paints.zipIdx.foldl (fun w (paint, index) =>
    match paint.solidColor? with
    | some color =>
      w.push a
        ("color:" ++ place ++ ":" ++ Alternatives.name role ++ ":" ++ Decimal.wholeText index)
        (.color ⟨color, role, UInt64.ofNat index⟩)
    | none => w) w

/-- Tells an open component of a text style inside it. -/
def OpenComponent.note (text : Typography) (frame : OpenComponent) : OpenComponent :=
  { frame with firstText := frame.firstText.or (some text) }

/-- Tells every open component of a text style inside it. -/
def noteText (w : Walk) (text : Typography) : Walk :=
  { w with opened := w.opened.map (OpenComponent.note text) }

/-- The text style of a text node. -/
def textOf (a : Attributes) : Typography := (a.style.map Typography.ofStyle).getD .standard

/-- Records the style of a text. -/
def pushText (w : Walk) (a : Attributes) (place : String) : Walk :=
  if a.kind.isText then
    (w.noteText (textOf a)).push a ("typography:" ++ place) (.typography (textOf a))
  else w

/-- Records the effects of a node. -/
def pushEffects (w : Walk) (options : ExtractionOptions) (a : Attributes) (place : String) : Walk :=
  a.effects.zipIdx.foldl (fun w (effect, index) =>
    if options.records effect.kind then
      w.push a ("shadow:" ++ place ++ ":" ++ Decimal.wholeText index) (.shadow (.ofEffect effect))
    else w) w

/-- The layout of a node that declares a mode. -/
def layoutOf? (a : Attributes) : Option Layout :=
  a.layoutMode.map (fun mode => {
    mode
    constraints := a.constraints.getD .topLeft
    padding := a.padding?
    itemSpacing := a.itemSpacing
    counterAxisSpacing := a.counterAxisSpacing })

/-- Records the layout of a node. -/
def pushLayout (w : Walk) (a : Attributes) (place : String) : Walk :=
  match layoutOf? a with
  | some layout => w.push a ("layout:" ++ place) (.spacing layout)
  | none => w

/-! ## Components -/

/-- A component as far as its node itself describes it. -/
def outerComponent (a : Attributes) : Component where
  id := a.id
  name := a.name
  key := a.id
  remote := false
  styles := {
    fills := a.fills
    strokes := a.strokes
    effects := a.effects
    layout := (layoutOf? a).getD { Layout.standard with constraints := a.constraints.getD .topLeft }
    typography := a.style.map Typography.ofStyle }
  children := []

/-- Records a component and leaves it open. -/
def openComponent (w : Walk) (a : Attributes) (place : String) : Walk :=
  if a.kind.isComponentLike then
    let frame : OpenComponent := ⟨w.tokens.size, [], none⟩
    let w := w.push a ("component:" ++ place) (.component (outerComponent a))
    { w with opened := frame :: w.opened }
  else w

/-- A component completed by what was found inside it. -/
def OpenComponent.complete (frame : OpenComponent) (c : Component) : Component :=
  { c with
    styles := { c.styles with typography := c.styles.typography.or frame.firstText }
    children := frame.children }

/-- Adds a completed component to the one around it. -/
def handOver (c : Component) : List OpenComponent → List OpenComponent
  | [] => []
  | frame :: frames => { frame with children := frame.children ++ [c] } :: frames

/-- Completes the innermost open component and hands it to the one around it. -/
def closeComponent (w : Walk) : Walk :=
  match w.opened with
  | [] => w
  | frame :: frames =>
    match w.tokens[frame.position]? with
    | some ⟨id, name, path, .component c, usage⟩ =>
      let done := OpenComponent.complete frame c
      { w with
        tokens := w.tokens.setIfInBounds frame.position ⟨id, name, path, .component done, usage⟩
        opened := handOver done frames }
    | _ => { w with opened := frames }

/-! ## Visiting -/

/-- Records all that a node says about itself. -/
def record (w : Walk) (options : ExtractionOptions) (a : Attributes) : Walk :=
  let place := w.place
  let w := w.pushColors a place .fill a.fills
  let w := w.pushColors a place .stroke a.strokes
  let w := w.pushText a place
  let w := w.pushEffects options a place
  let w := w.pushLayout a place
  w.openComponent a place

mutual

/-- Visits a node and everything inside it. -/
def visit (options : ExtractionOptions) (w : Walk) (segment : String) (isRoot : Bool) :
    Node → Walk
  | ⟨own, children⟩ =>
    let w := (w.enter own.name segment isRoot).record options own
    let w := visitAll options w [] children
    let w := if own.kind.isComponentLike then w.closeComponent else w
    w.leave isRoot

/-- Visits siblings in order.  `seen` are the names of the siblings before
them. -/
def visitAll (options : ExtractionOptions) (w : Walk) (seen : List String) : List Node → Walk
  | [] => w
  | n :: ns =>
    -- A count of 32 bits gives the same numbers below 2 ^ 32 siblings of one name.
    let w := visit options w (Segment.numbered (seen.count n.name) n.name) false n
    visitAll options w (n.name :: seen) ns

end

/-! ## Results -/

/-- How often the name of a token occurred. -/
def usageOf (w : Walk) (t : Token) (fromComponent : Bool) : Usage :=
  let frequency := UInt32.ofNat ((w.counts.get? t.name).getD 0)
  { isComponent := fromComponent || t.kind = .component
    isReused := 1 < frequency
    frequency }

/-- The tokens of a finished walk. -/
def finish (w : Walk) (options : ExtractionOptions) : List Token :=
  if options.usageMetadata then
    (w.tokens.toList.zip w.fromComponent.toList).map
      (fun (t, fromComponent) => { t with usage := some (w.usageOf t fromComponent) })
  else w.tokens.toList

end Walk

/-- The tokens of a document. -/
def extract (options : ExtractionOptions) (n : Node) : List Token :=
  (Walk.start.visit options (Segment.escape n.name) true n).finish options

end DesignTokens
