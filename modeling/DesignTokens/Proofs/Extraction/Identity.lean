import DesignTokens.Proofs.Decimal.Digits
import DesignTokens.Proofs.Extraction.Outline
import DesignTokens.Proofs.Text.Separators
import Mathlib.Data.List.Nodup

/-!
# Tokens have ids of their own

The id of a token determines the segments of its node and its mark there, and no
two nodes of a document have the same segments.
-/

namespace DesignTokens

/-! ## Segments -/

namespace Segment

/-- Takes escaped characters back. -/
def unescape : List Char → List Char
  | '%' :: '2' :: '5' :: cs => '%' :: unescape cs
  | '%' :: '2' :: 'F' :: cs => '/' :: unescape cs
  | '%' :: '2' :: '3' :: cs => '#' :: unescape cs
  | c :: cs => c :: unescape cs
  | [] => []

theorem escapeChar_eq_self {c : Char} (percent : c ≠ '%') (slash : c ≠ '/') (hash : c ≠ '#') :
    escapeChar c = [c] := by
  unfold escapeChar
  split <;> simp_all

theorem unescape_escape (cs : List Char) : unescape (cs.flatMap escapeChar) = cs := by
  induction cs with
  | nil => rfl
  | cons c cs ih =>
    rw [List.flatMap_cons]
    -- A percent sign in a name is escaped too, so what starts with one is an escaped character.
    by_cases percent : c = '%'
    · subst percent
      simp [escapeChar, unescape, ih]
    by_cases slash : c = '/'
    · subst slash
      simp [escapeChar, unescape, ih]
    by_cases hash : c = '#'
    · subst hash
      simp [escapeChar, unescape, ih]
    · rw [escapeChar_eq_self percent slash hash, List.singleton_append, unescape, ih]
      all_goals simp [percent]

theorem escape_injective {name other : String} (same : escape name = escape other) :
    name = other := by
  have lists := congrArg (fun s => unescape s.toList) same
  simp only [escape, String.toList_ofList, unescape_escape] at lists
  exact String.toList_inj.mp lists

theorem not_mem_escape {c : Char} (special : c = '/' ∨ c = '#') (name : String) :
    c ∉ (escape name).toList := by
  intro member
  rw [escape, String.toList_ofList, List.mem_flatMap] at member
  obtain ⟨d, _, inside⟩ := member
  unfold escapeChar at inside
  rcases special with rfl | rfl <;> split at inside <;> simp_all [eq_comm]

/-- What follows the name in a segment. -/
def numberSuffix (earlier : Nat) : List Char :=
  if earlier = 0 then [] else '#' :: Decimal.digits earlier

theorem toList_numbered (n : Nat) (name : String) :
    (numbered n name).toList = (escape name).toList ++ numberSuffix n := by
  unfold numbered numberSuffix
  split <;> simp [String.toList_append]

theorem slash_not_mem_numbered (n : Nat) (name : String) : '/' ∉ (numbered n name).toList := by
  have digit : '/' ∉ Decimal.digits n := fun member =>
    absurd (Decimal.isDigit_of_mem_digits member) (by decide)
  rw [toList_numbered, numberSuffix]
  split <;> simp [not_mem_escape, digit]

theorem takeWhile_numbered (n : Nat) (name : String) :
    (numbered n name).toList.takeWhile (· != '#') = (escape name).toList := by
  have absent : ∀ c ∈ (escape name).toList, (c != '#') = true := by
    intro c member
    rw [bne_iff_ne]
    rintro rfl
    exact not_mem_escape (.inr rfl) name member
  rw [toList_numbered, List.takeWhile_append_of_pos absent, numberSuffix]
  split <;> simp

theorem numberSuffix_injective {m n : Nat} (same : numberSuffix m = numberSuffix n) : m = n := by
  unfold numberSuffix at same
  split at same <;> split at same <;> simp_all
  exact Decimal.digits_injective same

/-- A segment tells a name and the number of siblings before that have it. -/
theorem numbered_injective {m n : Nat} {name other : String}
    (same : numbered m name = numbered n other) : name = other ∧ m = n := by
  have escaped : escape name = escape other := by
    rw [← String.toList_inj, ← takeWhile_numbered m, same, takeWhile_numbered]
  have suffixes : numberSuffix m = numberSuffix n := by
    have lists := congrArg String.toList same
    rw [toList_numbered, toList_numbered, escaped] at lists
    exact List.append_cancel_left lists
  exact ⟨escape_injective escaped, numberSuffix_injective suffixes⟩

end Segment

/-! ## Marks -/

theorem PaintRole.colon_not_mem (role : PaintRole) : ':' ∉ (Alternatives.name role).toList := by
  cases role <;> decide

theorem PaintRole.name_injective {role other : PaintRole}
    (same : Alternatives.name role = Alternatives.name other) : role = other := by
  revert same
  cases role <;> cases other <;> decide

theorem colon_not_mem_digits (n : Nat) : ':' ∉ Decimal.digits n := fun member =>
  absurd (Decimal.isDigit_of_mem_digits member) (by decide)

/-- The id of a token tells its mark and the text of its place. -/
theorem Mark.id_injective {p q : Place} {m m' : Mark} (same : m.id p = m'.id q) :
    m = m' ∧ p.text = q.text := by
  have lists := congrArg String.toList same
  -- Marks of different kinds are told apart by the first letters of their ids.
  cases m <;> cases m' <;> simp [Mark.id, String.toList_append] at lists
  case color.color role index role' index' =>
    have regrouped : (p.text.toList ++ ':' :: (Alternatives.name role).toList)
          ++ ':' :: Decimal.digits index =
        (q.text.toList ++ ':' :: (Alternatives.name role').toList)
          ++ ':' :: Decimal.digits index' := by
      simpa using lists
    obtain ⟨starts, numbers⟩ := Text.eq_of_split_at_last (colon_not_mem_digits index)
      (colon_not_mem_digits index') regrouped
    obtain ⟨texts, roles⟩ := Text.eq_of_split_at_last role.colon_not_mem role'.colon_not_mem starts
    rw [PaintRole.name_injective (String.toList_inj.mp roles), Decimal.digits_injective numbers]
    exact ⟨rfl, String.toList_inj.mp texts⟩
  case shadow.shadow index index' =>
    obtain ⟨texts, numbers⟩ := Text.eq_of_split_at_last (colon_not_mem_digits index)
      (colon_not_mem_digits index') lists
    rw [Decimal.digits_injective numbers]
    exact ⟨rfl, String.toList_inj.mp texts⟩
  case typography.typography => exact ⟨rfl, String.toList_inj.mp lists⟩
  case layout.layout => exact ⟨rfl, String.toList_inj.mp lists⟩
  case component.component => exact ⟨rfl, String.toList_inj.mp lists⟩

/-! ## Places -/

namespace Place

/-- A place at or below another one.  The segments that lead from one to the other
could all stand between slashes. -/
def Extends (p q : Place) : Prop :=
  ∃ tail, q.segments = p.segments ++ tail ∧ ∀ s ∈ tail, '/' ∉ s.toList

theorem Extends.refl (p : Place) : p.Extends p := ⟨[], by simp⟩

theorem Extends.child {p q : Place} (below : p.Extends q) (name other : String) (n : Nat) :
    p.Extends (q.child name (Segment.numbered n other)) := by
  obtain ⟨tail, segments, clean⟩ := below
  refine ⟨tail ++ [Segment.numbered n other], by simp [Place.child, segments], ?_⟩
  exact List.forall_mem_append.mpr
    ⟨clean, List.forall_mem_singleton.mpr (Segment.slash_not_mem_numbered n other)⟩

/-- The text of a place is cut at its slashes into the segments, as long as none of them
contains a slash. -/
theorem splitOn_text {p : Place} (nonempty : p.segments ≠ [])
    (clean : ∀ s ∈ p.segments, '/' ∉ s.toList) :
    p.text.toList.splitOn '/' = p.segments.map String.toList := by
  rw [text, String.toList_intercalate]
  exact List.splitOn_intercalate '/' (List.forall_mem_map.mpr clean)
    (fun nothing => nonempty (List.map_eq_nil_iff.mp nothing))

/-- The text of a place tells its segments. -/
theorem text_injective {r p q : Place} (rooted : r.segments ≠ [])
    (clean : ∀ s ∈ r.segments, '/' ∉ s.toList) (first : r.Extends p) (second : r.Extends q)
    (same : p.text = q.text) : p.segments = q.segments := by
  have split : ∀ v : Place, r.Extends v →
      v.text.toList.splitOn '/' = v.segments.map String.toList := by
    rintro v ⟨tail, segments, cleanTail⟩
    refine splitOn_text (by simp [segments, rooted]) ?_
    rw [segments]
    exact List.forall_mem_append.mpr ⟨clean, cleanTail⟩
  have lists : p.segments.map String.toList = q.segments.map String.toList := by
    rw [← split p first, ← split q second, same]
  exact List.map_injective_iff.mpr (fun _ _ => String.toList_inj.mp) lists

end Place

namespace Node

mutual

/-- What holds at the top of a tree and is handed on from a node to its children holds of
all nodes in their places. -/
theorem forall_mem_placed (P : Place → Node → Prop)
    (step : ∀ p n k m, P p n → P (p.child m.name (Segment.numbered k m.name)) m) {p : Place} :
    ∀ {n : Node}, P p n → ∀ v ∈ n.placed p, P v.1 v.2
  | ⟨own, children⟩, here, v, member => by
    rw [placed, List.mem_cons] at member
    rcases member with rfl | inside
    · exact here
    · exact forall_mem_placedAll P step here v inside

/-- What is handed on from a node to its children holds of all nodes below it. -/
theorem forall_mem_placedAll (P : Place → Node → Prop)
    (step : ∀ p n k m, P p n → P (p.child m.name (Segment.numbered k m.name)) m) {p : Place}
    {parent : Node} {seen : List String} :
    ∀ {ns : List Node}, P p parent → ∀ v ∈ placedAll p seen ns, P v.1 v.2
  | [], _, v, member => by
    simp [placedAll] at member
  | n :: ns, above, v, member => by
    rw [placedAll, List.mem_append] at member
    rcases member with here | later
    · exact forall_mem_placed P step (step p parent (seen.count n.name) n above) v here
    · exact forall_mem_placedAll P step above v later

end

/-- Nodes of a tree stand at its place or below. -/
theorem extends_of_mem_placed {p : Place} {v : Place × Node} {n : Node} (member : v ∈ n.placed p) :
    p.Extends v.1 :=
  forall_mem_placed (fun q _ => p.Extends q) (fun _ _ k m below => below.child m.name m.name k)
    (.refl p) v member

/-- Nodes of sibling trees stand below segments that were not given away before. -/
theorem extends_of_mem_placedAll {p : Place} {v : Place × Node} {seen : List String}
    {ns : List Node} (member : v ∈ placedAll p seen ns) :
    ∃ name number, seen.count name ≤ number ∧
      (p.child name (Segment.numbered number name)).Extends v.1 := by
  induction ns generalizing seen with
  | nil => simp [placedAll] at member
  | cons n ns ih =>
    rw [placedAll, List.mem_append] at member
    rcases member with here | later
    · exact ⟨n.name, seen.count n.name, Nat.le_refl _, extends_of_mem_placed here⟩
    · obtain ⟨name, number, bound, extending⟩ := ih later
      exact ⟨name, number, Nat.le_trans List.count_le_count_cons bound, extending⟩

mutual

/-- No two nodes of a tree have the same segments. -/
theorem nodup_segments_placed (p : Place) :
    ∀ n : Node, ((n.placed p).map (fun v => v.1.segments)).Nodup
  | ⟨own, children⟩ => by
    rw [placed, List.map_cons, List.nodup_cons]
    refine ⟨?_, nodup_segments_placedAll p [] children⟩
    -- The node itself has fewer segments than what is below it.
    intro member
    obtain ⟨v, inside, same⟩ := List.mem_map.mp member
    obtain ⟨name, number, _, tail, segments, _⟩ := extends_of_mem_placedAll inside
    have lengths := congrArg List.length (segments.symm.trans same)
    simp only [Place.child, List.length_append, List.length_cons] at lengths
    omega

/-- No two nodes of sibling trees have the same segments. -/
theorem nodup_segments_placedAll (p : Place) (seen : List String) :
    ∀ ns : List Node, ((placedAll p seen ns).map (fun v => v.1.segments)).Nodup
  | [] => by simp [placedAll]
  | n :: ns => by
    rw [placedAll, List.map_append, List.nodup_append]
    refine ⟨nodup_segments_placed _ n, nodup_segments_placedAll p _ ns, ?_⟩
    intro segments here others later same
    obtain ⟨v, first, rfl⟩ := List.mem_map.mp here
    obtain ⟨w, second, rfl⟩ := List.mem_map.mp later
    obtain ⟨tail, below, _⟩ := extends_of_mem_placed first
    obtain ⟨name, number, bound, tail', below', _⟩ := extends_of_mem_placedAll second
    rw [below, below', Place.child, Place.child, List.append_assoc, List.append_assoc] at same
    have heads := (List.cons.inj (List.append_cancel_left same)).1
    obtain ⟨names, numbers⟩ := Segment.numbered_injective heads
    -- Later siblings of one name have greater numbers.
    rw [← names, List.count_cons_self] at bound
    omega

end

/-! ## Contents -/

/-- A loop whose finds are labelled by the rounds in which they turned up. -/
theorem nodup_map_filterMap {α β γ : Type} {find : α → Option β} {label : β → γ} {round : α → γ}
    (labelled : ∀ x y, find x = some y → label y = round x) {xs : List α}
    (distinct : (xs.map round).Nodup) : ((xs.filterMap find).map label).Nodup := by
  -- The labels of what is found are among the labels of all rounds, in the same order.
  refine distinct.sublist ?_
  clear distinct
  induction xs with
  | nil => simp
  | cons x xs ih =>
    cases found : find x with
    | none => simpa [found] using ih.cons (round x)
    | some y => simpa [found, labelled x y found] using ih.cons_cons (round x)

theorem nodup_map_zipIdx {α γ : Type} (xs : List α) (label : Nat → γ)
    (distinct : ∀ i < xs.length, ∀ j < xs.length, label i = label j → i = j) :
    (xs.zipIdx.map (fun x => label x.2)).Nodup := by
  have indices : xs.zipIdx.map (fun x => label x.2) = (List.range' 0 xs.length).map label := by
    rw [← List.zipIdx_map_snd, List.map_map]
    rfl
  rw [indices]
  refine List.Nodup.map_on (fun i here j there => distinct i ?_ j ?_) List.nodup_range'
  · simpa [List.mem_range'_1] using here
  · simpa [List.mem_range'_1] using there

theorem exists_mark_colorContents {role : PaintRole} {paints : List Paint} {m : Mark}
    (member : m ∈ (colorContents role paints).map Prod.fst) : ∃ index, m = .color role index := by
  obtain ⟨c, found, rfl⟩ := List.mem_map.mp member
  obtain ⟨⟨paint, index⟩, _, made⟩ := List.mem_filterMap.mp found
  obtain ⟨color, _, rfl⟩ := Option.map_eq_some_iff.mp made
  exact ⟨index, rfl⟩

theorem exists_mark_effectContents {options : ExtractionOptions} {effects : List Effect}
    {m : Mark} (member : m ∈ (effectContents options effects).map Prod.fst) :
    ∃ index, m = .shadow index := by
  obtain ⟨c, found, rfl⟩ := List.mem_map.mp member
  obtain ⟨⟨effect, index⟩, _, made⟩ := List.mem_filterMap.mp found
  simp only [Option.ite_none_right_eq_some, Option.some.injEq] at made
  exact ⟨index, by rw [← made.2]⟩

theorem nodup_marks_colorContents (role : PaintRole) (paints : List Paint) :
    ((colorContents role paints).map Prod.fst).Nodup := by
  refine nodup_map_filterMap ?_
    (nodup_map_zipIdx paints (Mark.color role) fun _ _ _ _ same => by cases same; rfl)
  rintro ⟨paint, index⟩ c made
  obtain ⟨color, _, rfl⟩ := Option.map_eq_some_iff.mp made
  rfl

theorem nodup_marks_effectContents (options : ExtractionOptions) (effects : List Effect) :
    ((effectContents options effects).map Prod.fst).Nodup := by
  refine nodup_map_filterMap ?_
    (nodup_map_zipIdx effects Mark.shadow fun _ _ _ _ same => by cases same; rfl)
  rintro ⟨effect, index⟩ c made
  simp only [Option.ite_none_right_eq_some, Option.some.injEq] at made
  rw [← made.2]

/-- No two contributions of a node have the same mark. -/
theorem nodup_marks_contents (options : ExtractionOptions) (n : Node) :
    ((n.contents options).map Prod.fst).Nodup := by
  have fills := nodup_marks_colorContents .fill n.own.fills
  have strokes := nodup_marks_colorContents .stroke n.own.strokes
  have effects := nodup_marks_effectContents options n.own.effects
  have fillMarks := @exists_mark_colorContents .fill n.own.fills
  have strokeMarks := @exists_mark_colorContents .stroke n.own.strokes
  have effectMarks := @exists_mark_effectContents options n.own.effects
  simp only [contents, List.map_append]
  generalize (colorContents .fill n.own.fills).map Prod.fst = fs at *
  generalize (colorContents .stroke n.own.strokes).map Prod.fst = ss at *
  generalize (effectContents options n.own.effects).map Prod.fst = es at *
  -- What is left are parts of at most one mark each.
  cases n.own.text? <;> cases n.own.layout? <;> cases n.own.kind.isComponentLike <;>
    simp only [Option.map_none, Option.map_some, Option.toList_none, Option.toList_some,
      List.map_nil, List.map_cons, List.append_nil, if_true, Bool.false_eq_true, if_false,
      List.nodup_append, List.mem_append, List.mem_singleton] <;>
    grind

end Node

/-! ## Ids -/

theorem map_id_extract (options : ExtractionOptions) (n : Node) :
    (extract options n).map Token.id =
      (n.placed (Place.root n.name)).flatMap (fun v =>
        ((v.2.contents options).map Prod.fst).map (Mark.id v.1)) := by
  rw [map_extract (fun _ => rfl), Node.outline, List.map_flatMap]
  congr 1
  funext v
  show (v.2.block options v.1).map Token.id = _
  rw [Node.block_eq_map, List.map_map, List.map_map]
  rfl

/-- No two tokens of an extraction have the same id. -/
theorem nodup_ids_extract (options : ExtractionOptions) (n : Node) :
    ((extract options n).map Token.id).Nodup := by
  rw [map_id_extract, List.nodup_flatMap]
  constructor
  · intro v _
    exact (Node.nodup_marks_contents options v.2).map (fun _ _ same => (Mark.id_injective same).1)
  · -- One id at two nodes would give them the same segments.
    have apart := List.pairwise_map.mp (Node.nodup_segments_placed (Place.root n.name) n)
    refine apart.imp_of_mem ?_
    intro v w first second different id here there
    obtain ⟨m, _, rfl⟩ := List.mem_map.mp here
    obtain ⟨m', _, same⟩ := List.mem_map.mp there
    have clean : ∀ s ∈ (Place.root n.name).segments, '/' ∉ s.toList := by
      simp [Place.root, Segment.not_mem_escape]
    exact different (Place.text_injective (by simp [Place.root]) clean
      (Node.extends_of_mem_placed first) (Node.extends_of_mem_placed second)
      (Mark.id_injective same).2.symm)

end DesignTokens
