import DesignTokens.Proofs.Files.Tree

/-!
# Paths around a path

A path around another one is a part of it that ends before a slash.  So its
names are the first names of the other path, and it starts at the same place.
-/

namespace DesignTokens.Path

/-! ## Cutting a path -/

/-- Whether a reversed path is what is left of another one when its end was cut off behind
a slash. -/
def IsCut (rest whole : List Char) : Prop :=
  rest = whole ∨ ∃ dropped, whole = dropped ++ '/' :: rest

theorem IsCut.trans {cs ds es : List Char} (first : IsCut cs ds) (second : IsCut ds es) :
    IsCut cs es := by
  rcases first with rfl | ⟨dropped, rfl⟩
  · exact second
  · rcases second with rfl | ⟨dropped', rfl⟩
    · exact .inr ⟨dropped, rfl⟩
    · exact .inr ⟨dropped' ++ '/' :: dropped, by simp⟩

theorem isCut_trimReversed (cs : List Char) : IsCut (trimReversed cs) cs := by
  fun_induction trimReversed cs with
  | case1 cs ih => exact ih.trans (.inr ⟨[], rfl⟩)
  | case2 cs ih => exact ih.trans (.inr ⟨['.'], rfl⟩)
  | case3 cs => exact .inl rfl

/-- The name at the end goes together with the slashes before it. -/
theorem isCut_trimReversed_dropWhile (cs : List Char) :
    IsCut (trimReversed (cs.dropWhile (· ≠ '/'))) cs ∨
      trimReversed (cs.dropWhile (· ≠ '/')) = [] := by
  cases slash : cs.dropWhile (· ≠ '/') with
  | nil => exact .inr rfl
  | cons c rest =>
    have here : c = '/' := by
      have stops := List.head?_dropWhile_not (· ≠ '/') cs
      rw [slash] at stops
      simpa using stops
    subst here
    have whole : cs = cs.takeWhile (· ≠ '/') ++ '/' :: rest := by
      rw [← slash, List.takeWhile_append_dropWhile]
    exact .inl ((isCut_trimReversed rest).trans (.inr ⟨_, whole⟩))

theorem eq_or_append_of_isCut {path before : String}
    (cut : IsCut before.toList.reverse path.toList.reverse) :
    before = path ∨ ∃ rest, path.toList = before.toList ++ '/' :: rest := by
  rcases cut with same | ⟨dropped, same⟩
  · exact .inl (String.ext (List.reverse_inj.mp same))
  · exact .inr ⟨dropped.reverse, by simpa using congrArg List.reverse same⟩

theorem names_prefix_of_isCut {path before : String}
    (cut : IsCut before.toList.reverse path.toList.reverse) : names before <+: names path := by
  rcases eq_or_append_of_isCut cut with rfl | ⟨rest, whole⟩
  · exact List.prefix_rfl
  · rw [names, names, whole, parts_append, List.map_append, List.filter_append]
    exact List.prefix_append _ _

theorem isAbsolute_of_isCut {path before : String} (given : before ≠ "")
    (cut : IsCut before.toList.reverse path.toList.reverse) :
    isAbsolute before = isAbsolute path := by
  rcases eq_or_append_of_isCut cut with rfl | ⟨rest, whole⟩
  · rfl
  · have chars : before.toList ≠ [] := fun none => given (String.toList_eq_nil_iff.mp none)
    rw [isAbsolute, isAbsolute, whole]
    cases parts : before.toList with
    | nil => exact absurd parts chars
    | cons c cs => rfl

/-! ## Parents -/

/-- A path that starts where another one starts and goes along its first names. -/
structure IsAround (before path : String) : Prop where
  names : names before <+: names path
  start : isAbsolute before = isAbsolute path

theorem IsAround.refl (path : String) : IsAround path path := ⟨List.prefix_rfl, rfl⟩

theorem IsAround.trans {a b c : String} (first : IsAround a b) (second : IsAround b c) :
    IsAround a c :=
  ⟨first.names.trans second.names, first.start.trans second.start⟩

theorem isAround_of_parent? {path parent : String} (found : parent? path = some parent) :
    IsAround parent path := by
  unfold parent? at found
  split at found
  · cases found
  · rename_i cs trimmed
    have nothing : names "/" = [] ∧ names "" = [] := by decide
    split at found
    · cases found
      split
      · rename_i absolute
        exact ⟨nothing.1 ▸ List.nil_prefix, absolute.symm⟩
      · rename_i relative
        exact ⟨nothing.2 ▸ List.nil_prefix, (Bool.eq_false_iff.mpr relative).symm⟩
    · rename_i given
      cases found
      have cut := (isCut_trimReversed_dropWhile _).resolve_right given
      have reversed := cut.trans (isCut_trimReversed path.toList.reverse)
      generalize trimReversed (List.dropWhile _ _) = rest at given reversed
      have text : (String.ofList rest.reverse).toList.reverse = rest := by simp
      rw [← text] at reversed
      refine ⟨names_prefix_of_isCut reversed, isAbsolute_of_isCut ?_ reversed⟩
      intro none
      rw [none] at text
      exact given text.symm

theorem isAround_of_mem_parents {path before : String} (member : before ∈ parents path) :
    IsAround before path := by
  fun_induction parents path with
  | case1 => cases member
  | case2 path parent found shorter ih =>
    rcases List.mem_cons.mp member with rfl | further
    · exact isAround_of_parent? found
    · exact (ih further).trans (isAround_of_parent? found)
  | case3 => cases member

end DesignTokens.Path
