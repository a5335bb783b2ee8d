import DesignTokens.Proofs.Generation.Files

/-!
# What a project depends on

A project sees no more of a token than what it becomes: a color or a text style
becomes properties under its name, and a component becomes files.  Ids, paths,
usage, other tokens and the order between styles and components do not show.
-/

namespace DesignTokens

/-! ## Contents of tokens -/

/-- What a stylesheet is made of: the name and the payload of a color or a text
style. -/
def Token.styleContent? (t : Token) : Option (String × Payload) :=
  match t.payload with
  | .color _ | .typography _ => some (t.name, t.payload)
  | _ => none

/-- A token with nothing but a content. -/
def Token.ofContent (content : String × Payload) : Token where
  id := ""
  name := content.1
  path := []
  payload := content.2
  usage := none

/-- What nothing is taken from may as well be left out. -/
theorem filterMap_filter_of_none {α β : Type} {keep : α → Bool} {f : α → Option β}
    (nothing : ∀ x, keep x = false → f x = none) (xs : List α) :
    (xs.filter keep).filterMap f = xs.filterMap f := by
  rw [List.filterMap_filter]
  apply List.filterMap_congr
  intro x _
  by_cases kept : keep x = true
  · rw [if_pos kept]
  · rw [if_neg kept, nothing x (by simpa using kept)]

/-! ## Stylesheets -/

namespace Sheet

theorem add_eq (s : Sheet) (t : Token) :
    s.add t = match t.styleContent? with
      | some content => s.add (Token.ofContent content)
      | none => s := by
  obtain ⟨id, name, path, payload, usage⟩ := t
  cases payload <;> rfl

/-- A sheet is made of the contents of its tokens alone. -/
theorem ofTokens_eq_contents (ts : List Token) :
    ofTokens ts =
      (ts.filterMap Token.styleContent?).foldl (fun s content => s.add (.ofContent content))
        empty := by
  -- Both are folds over all tokens, and a token without a content leaves either sheet as it is.
  rw [List.foldl_filterMap, ofTokens]
  congr 1
  funext s t
  rw [s.add_eq t]
  cases t.styleContent? <;> rfl

end Sheet

/-- Tokens that are no styles have no place in a stylesheet. -/
theorem filterMap_styleContent?_filter (ts : List Token) :
    (ts.filter (fun t => t.kind.isStyle)).filterMap Token.styleContent? =
      ts.filterMap Token.styleContent? := by
  apply filterMap_filter_of_none
  rintro ⟨id, name, path, payload, usage⟩ other
  -- Everything but a component counts as a style, also what a sheet then goes past.
  cases payload with
  | component c => rfl
  | _ => cases other

theorem StyleFormat.globalFile_eq_of_contents (format : StyleFormat) {ts us : List Token}
    (same : ts.filterMap Token.styleContent? = us.filterMap Token.styleContent?) :
    format.globalFile ts = format.globalFile us := by
  have sheets : Sheet.ofTokens ts = Sheet.ofTokens us := by
    rw [Sheet.ofTokens_eq_contents, Sheet.ofTokens_eq_contents, same]
  cases format <;> simp only [globalFile, globalText, sheets]

/-! ## Projects -/

theorem Session.generate_eq_of_contents (s : Session) {ts us : List Token}
    (styles : ts.filterMap Token.styleContent? = us.filterMap Token.styleContent?)
    (components : ts.filterMap Token.component? = us.filterMap Token.component?) :
    s.generate ts = s.generate us := by
  have stylesheet : s.styleFormat.globalFile (ts.filter (fun t => t.kind.isStyle)) =
      s.styleFormat.globalFile (us.filter (fun t => t.kind.isStyle)) := by
    apply StyleFormat.globalFile_eq_of_contents
    rw [filterMap_styleContent?_filter, filterMap_styleContent?_filter, styles]
  simp only [generate, rawFiles, stylesheet, components]

/-- Lists of tokens with the same contents have the same files, whatever the options, and not even
a session with other generators tells them apart. -/
theorem projects_depend_on_contents {ts us : List Token}
    (styles : ts.filterMap Token.styleContent? = us.filterMap Token.styleContent?)
    (components : ts.filterMap Token.component? = us.filterMap Token.component?) :
    (∀ options, ∃ files,
      (Session.start .standard options >>= fun s => s.generate ts) = .ok files ∧
        (Session.start .standard options >>= fun s => s.generate us) = .ok files) ∧
    ∀ s : Session, s.generate ts = s.generate us := by
  have same : ∀ s : Session, s.generate ts = s.generate us :=
    fun s => s.generate_eq_of_contents styles components
  refine ⟨fun options => ?_, same⟩
  simp only [same]
  exact ⟨_, start_bind_generate options us, start_bind_generate options us⟩

/-- A color, a text style and two components. -/
def plainTokens : List Token :=
  [.ofColor "Ink" (.opaqueOf 0.0 0.0 0.0), ⟨"title", "Title", [], .typography .standard, none⟩,
    .ofComponent (.bare "Card"), .ofComponent (.bare "Badge")]

/-- The same contents under other ids, at other places and among other tokens. -/
def scatteredTokens : List Token :=
  [⟨"1", "Ghost", ["Page"], .component (.bare "Card"), some ⟨true, false, 1⟩⟩,
    ⟨"2", "Ink", ["Page", "Card"], .color ⟨.opaqueOf 0.0 0.0 0.0, .fill, 0⟩, none⟩,
    ⟨"2", "Gap", [], .spacing .standard, none⟩,
    ⟨"3", "", [], .component (.bare "Badge"), none⟩,
    ⟨"4", "Ink", [], .shadow ⟨.dropShadow, 4.0, none, none, none⟩, some ⟨false, true, 2⟩⟩,
    ⟨"", "Title", ["Page"], .typography .standard, none⟩]

theorem projects_depend_on_contents_scatteredTokens :
    (plainTokens.filterMap Token.styleContent? = scatteredTokens.filterMap Token.styleContent? ∧
      plainTokens.filterMap Token.component? = scatteredTokens.filterMap Token.component?) ∧
    (∀ options, ∃ files,
      (Session.start .standard options >>= fun s => s.generate plainTokens) = .ok files ∧
        (Session.start .standard options >>= fun s => s.generate scatteredTokens) = .ok files) ∧
    ∀ s : Session, s.generate plainTokens = s.generate scatteredTokens :=
  ⟨⟨rfl, rfl⟩, projects_depend_on_contents rfl rfl⟩

end DesignTokens
