import Scoreboard.Proofs.Grid.Visibility

/-!
# The axes of visibility

The selected participant, the selected round and the collapsed rounds hide things each on their own.
What a page shows is what all three of them show, name by name, also where things share a name and
the last one counts.

## Main definitions

- `Page.tagged` — the things of a page, each with the tags that must pass for it to be shown
- `Visibility.Within` — a visibility shows no more than another one

## Main statements

- `Page.exists_tags` — a name on a page is shown as some tags tell, whatever is selected and
  collapsed
- `Tags.visible_collapse` — what collapsing a round hides
- `Tags.visible_axes` — tags pass if they pass each axis
- `Page.visibility_axes` — what a page shows, axis by axis

## Design notes

What is selected and collapsed has no say in which things a page has and in which order they come.
So the last of several things of one name is always the same one.
-/

namespace Scoreboard

/-- A row and its cells, each with the tags that must pass for it to be shown. -/
def Row.tagged (tableId : String) (row : Row) : List (ElementId × List Tags) :=
  (.row tableId row.id, [row.tags]) :: row.cells.mapIdx fun column cell =>
    (.cell tableId row.id column, [row.tags, cell.tags])

/-- The headers and rows of a table, each with the tags that must pass for it to be shown. -/
def Table.tagged (table : Table) : List (ElementId × List Tags) :=
  table.groups.map (fun group => (.group table.id group.round, [{ round := some group.round }]))
    ++ table.columns.mapIdx (fun index column => (.header table.id index, [column.tags]))
    ++ table.rows.flatMap (Row.tagged table.id)

/-- The things of a page in page order, each with the tags that must pass for it to be shown. -/
def Page.tagged (page : Page) : List (ElementId × List Tags) :=
  page.tables.flatMap Table.tagged
    ++ page.elements.map fun element => (.element element.id, [element.tags])

/-- All of some tags pass. -/
def Tags.allVisible (selection : Selection) (collapse : Collapse) (tags : List Tags) : Bool :=
  tags.all fun tags => tags.visible selection collapse

/-- A visibility has the names of another one, and shows nothing that the other one hides. -/
def Visibility.Within (visibility wider : Visibility) : Prop :=
  visibility.keys = wider.keys ∧ ∀ id, visibility.get? id = some true → wider.get? id = some true

section

variable (selection : Selection) (collapse : Collapse)

theorem Row.shown_eq_map (tableId : String) (row : Row) :
    row.shown selection collapse tableId =
      (row.tagged tableId).map fun entry =>
        (entry.1, Tags.allVisible selection collapse entry.2) := by
  unfold shown tagged
  simp [Tags.allVisible, List.mapIdx_eq_zipIdx_map, Function.comp_def]

theorem Table.shown_eq_map (table : Table) :
    table.shown selection collapse =
      table.tagged.map fun entry => (entry.1, Tags.allVisible selection collapse entry.2) := by
  unfold shown tagged
  rw [List.map_append, List.map_append, List.map_map, List.map_flatMap]
  simp only [← Row.shown_eq_map]
  -- The header of a round belongs to no participant and is never hidden with the round.
  simp [Tags.allVisible, Tags.visible, Selection.allowsPlayer, Selection.passes_none,
    List.mapIdx_eq_zipIdx_map, Function.comp_def]

namespace Page

theorem shown_eq_map (page : Page) :
    page.shown selection collapse =
      page.tagged.map fun entry => (entry.1, Tags.allVisible selection collapse entry.2) := by
  unfold shown tagged
  rw [List.map_append, List.map_map, List.map_flatMap]
  simp only [← Table.shown_eq_map]
  simp [Tags.allVisible, Function.comp_def]

/-- Which names a page has does not depend on what is selected and collapsed. -/
theorem keys_visibility (page : Page) :
    (page.visibility selection collapse).keys = (SortedMap.ofList page.tagged).keys := by
  unfold visibility
  rw [shown_eq_map, SortedMap.keys_ofList_map]

theorem get?_visibility_eq_map (page : Page) (id : ElementId) :
    (page.visibility selection collapse).get? id =
      ((SortedMap.ofList page.tagged).get? id).map (Tags.allVisible selection collapse) := by
  unfold visibility
  rw [shown_eq_map, SortedMap.get?_ofList_map]

/-- A name on a page is shown as some tags tell, which are the same whatever is selected and
    collapsed. -/
theorem exists_tags {page : Page} {id : ElementId}
    (hid : id ∈ (page.visibility selection collapse).keys) :
    ∃ tags, ∀ selection collapse, (page.visibility selection collapse).get? id =
      some (Tags.allVisible selection collapse tags) := by
  rw [keys_visibility, SortedMap.mem_keys_iff] at hid
  obtain ⟨tags, htags⟩ := hid
  refine ⟨tags, fun selection collapse => ?_⟩
  rw [get?_visibility_eq_map, htags, Option.map_some]

end Page

end

section

variable {selection selection' : Selection} {collapse collapse' : Collapse} {round : RoundId}

/-- What hides fewer tags shows more names. -/
theorem Page.visibility_within (page : Page)
    (h : ∀ tags : Tags, tags.visible selection collapse = true →
      tags.visible selection' collapse' = true) :
    Visibility.Within (page.visibility selection collapse)
      (page.visibility selection' collapse') := by
  refine ⟨?_, fun id hid => ?_⟩
  · rw [keys_visibility, keys_visibility]
  · rw [get?_visibility_eq_map, Option.map_eq_some_iff] at hid ⊢
    obtain ⟨tags, htags, hall⟩ := hid
    refine ⟨tags, htags, ?_⟩
    unfold Tags.allVisible at hall ⊢
    rw [List.all_eq_true] at hall ⊢
    exact fun tag htag => h tag (hall tag htag)

theorem Collapse.isCollapsed_toggle {view : GroupView}
    (htoggle : collapse.toggle round = .ok (collapse', view)) (other : RoundId) :
    collapse'.isCollapsed other = (collapse.isCollapsed other ^^ decide (other = round)) := by
  unfold toggle at htoggle
  split at htoggle
  · cases htoggle
  · next fold hfold =>
    cases htoggle
    exact collapse.isCollapsed_insert_toggle hfold other

namespace Tags

variable {tags : Tags}

/-- Where a round is collapsed that was not before, what is hidden with it is hidden, and nothing
    else is. -/
theorem visible_collapse (hexpanded : collapse.isCollapsed round = false)
    (hturned : ∀ other, collapse'.isCollapsed other =
      (collapse.isCollapsed other ^^ decide (other = round))) (tags : Tags) :
    tags.visible selection collapse' =
      (tags.visible selection collapse && !(tags.hideable && tags.round = some round)) := by
  unfold visible
  cases tags.round with
  | none => simp
  | some other =>
    by_cases hsame : other = round
    · subst hsame
      simp [hturned, hexpanded]
    · simp [hturned, hsame]

theorem visible_of_collapse (hexpanded : collapse.isCollapsed round = false)
    (hturned : ∀ other, collapse'.isCollapsed other =
      (collapse.isCollapsed other ^^ decide (other = round)))
    (h : tags.visible selection collapse' = true) : tags.visible selection collapse = true := by
  rw [visible_collapse hexpanded hturned, Bool.and_eq_true] at h
  exact h.1

theorem visible_of_participant (hnone : selection.participant = none) {player : ParticipantId}
    (h : tags.visible { selection with participant := some player } collapse = true) :
    tags.visible selection collapse = true := by
  have hplayer : selection.allowsPlayer tags.player = true := by
    unfold Selection.allowsPlayer
    rw [hnone]
    rfl
  simp only [visible, Bool.and_eq_true] at h ⊢
  exact ⟨⟨hplayer, h.1.2⟩, h.2⟩

theorem visible_of_round (hnone : selection.round = none)
    (h : tags.visible { selection with round := some round } collapse = true) :
    tags.visible selection collapse = true := by
  have hround : selection.allowsRound tags.round = true := by
    unfold Selection.allowsRound
    rw [hnone]
    rfl
  simp only [visible, Bool.and_eq_true] at h ⊢
  exact ⟨⟨h.1.1, hround⟩, h.2⟩

end Tags

end

section

variable {expanded : Collapse} (hexpanded : ∀ round, expanded.isCollapsed round = false)

include hexpanded

namespace Tags

theorem any_isCollapsed_expanded (tags : Tags) :
    tags.round.any expanded.isCollapsed = false := by
  cases tags.round with
  | none => rfl
  | some round => exact hexpanded round

/-- Tags pass if they pass the participant, the round and the collapsed rounds, each alone. -/
theorem visible_axes (selection : Selection) (collapse : Collapse) (tags : Tags) :
    tags.visible selection collapse =
      (tags.visible { participant := selection.participant } expanded
        && tags.visible { round := selection.round } expanded && tags.visible {} collapse) := by
  simp [visible, Selection.allowsPlayer, Selection.allowsRound, Selection.passes,
    any_isCollapsed_expanded hexpanded]

theorem allVisible_axes (selection : Selection) (collapse : Collapse) (tags : List Tags) :
    allVisible selection collapse tags =
      (allVisible { participant := selection.participant } expanded tags
        && allVisible { round := selection.round } expanded tags
        && allVisible {} collapse tags) := by
  rw [Bool.eq_iff_iff]
  simp only [allVisible, visible_axes hexpanded selection collapse, Bool.and_eq_true,
    List.all_eq_true, imp_and, forall_and]

theorem allVisible_expanded (tags : List Tags) : allVisible {} expanded tags = true := by
  unfold allVisible
  rw [List.all_eq_true]
  intro tags _
  simp [visible, Selection.allowsPlayer, Selection.allowsRound, Selection.passes,
    any_isCollapsed_expanded hexpanded]

end Tags

/-- Which names a page shows or hides does not depend on what is selected and collapsed. Each of
    them is shown if it is shown with the participant alone, with the round alone and with the
    collapsed rounds alone. So to select a participant or a round where none was, or to collapse a
    round, shows nothing that was hidden; and with nothing selected and all rounds expanded, all is
    shown. -/
theorem Page.visibility_axes (page : Page) (selection : Selection) (collapse : Collapse) :
    let shown := page.visibility selection collapse
    let byParticipant := page.visibility { participant := selection.participant } expanded
    let byRound := page.visibility { round := selection.round } expanded
    let byCollapse := page.visibility {} collapse
    let whole := page.visibility {} expanded
    shown.keys = whole.keys ∧
      (∀ id ∈ shown.keys, ∃ participant round collapsed,
        byParticipant.get? id = some participant ∧ byRound.get? id = some round ∧
          byCollapse.get? id = some collapsed ∧
          shown.get? id = some (participant && round && collapsed)) ∧
      (selection.participant = none → ∀ player, Visibility.Within
        (page.visibility { selection with participant := some player } collapse) shown) ∧
      (selection.round = none → ∀ round, Visibility.Within
        (page.visibility { selection with round := some round } collapse) shown) ∧
      (∀ round collapse' view, collapse.isCollapsed round = false →
        collapse.toggle round = .ok (collapse', view) →
          Visibility.Within (page.visibility selection collapse') shown) ∧
      ∀ id ∈ whole.keys, whole.get? id = some true := by
  intro shown byParticipant byRound byCollapse whole
  refine ⟨?_, ?_, ?_, ?_, ?_, ?_⟩
  · rw [keys_visibility, keys_visibility]
  · intro id hid
    obtain ⟨tags, hget⟩ := exists_tags selection collapse hid
    refine ⟨_, _, _, hget _ _, hget _ _, hget _ _, ?_⟩
    rw [hget, Tags.allVisible_axes hexpanded]
  · intro hnone player
    exact page.visibility_within fun tags htags => Tags.visible_of_participant hnone htags
  · intro hnone round
    exact page.visibility_within fun tags htags => Tags.visible_of_round hnone htags
  · intro round collapse' view hround htoggle
    have hturned := Collapse.isCollapsed_toggle htoggle
    exact page.visibility_within fun tags htags => Tags.visible_of_collapse hround hturned htags
  · intro id hid
    obtain ⟨tags, hget⟩ := exists_tags {} expanded hid
    rw [hget, Tags.allVisible_expanded hexpanded]

end

/-- A page on which two rows of two participants share a name. A cell of the first one is hidden
    with its round, and that of the second one is not. -/
def Page.sameNames : Page where
  title := ""
  year := none
  tables := [{
    id := "t"
    year := none
    leading := []
    columns := [⟨"score", some ⟨1⟩, true⟩]
    groups := [⟨⟨1⟩, "round one", none⟩]
    rows := [⟨"a", some ⟨"ann"⟩, none, [⟨"3", some ⟨1⟩, none, true⟩]⟩,
      ⟨"a", some ⟨"bob"⟩, none, [⟨"2", some ⟨1⟩, none, false⟩]⟩] }]
  elements := []

/-- With the second participant selected and the round collapsed, the cell of that name is shown. -/
theorem Page.visibility_axes_sameNames :
    let start := Collapse.ofPage sameNames {}
    let selection : Selection := { participant := some ⟨"bob"⟩ }
    let collapse := (Store.new sameNames {}).run [(2025, .roundToggle ⟨1⟩)] |>.collapse
    let shown := sameNames.visibility selection collapse
    (∀ round, start.isCollapsed round = false) ∧ collapse.isCollapsed ⟨1⟩ = true ∧
      shown.keys = (sameNames.visibility {} start).keys ∧
      (∃ participant round collapsed,
        (sameNames.visibility selection start).get? (.cell "t" "a" 0) = some participant ∧
          (sameNames.visibility {} start).get? (.cell "t" "a" 0) = some round ∧
          (sameNames.visibility {} collapse).get? (.cell "t" "a" 0) = some collapsed ∧
          shown.get? (.cell "t" "a" 0) = some (participant && round && collapsed)) ∧
      shown.get? (.cell "t" "a" 0) = some true := by
  intro start selection collapse shown
  have hstart : ∀ round, start.isCollapsed round = false :=
    Collapse.isCollapsed_ofPage sameNames {}
  have hcell : ElementId.cell "t" "a" 0 ∈ shown.keys := by decide +kernel
  obtain ⟨hkeys, haxes, -⟩ := visibility_axes hstart sameNames selection collapse
  exact ⟨hstart, by decide +kernel, hkeys, haxes _ hcell, by decide +kernel⟩

end Scoreboard
