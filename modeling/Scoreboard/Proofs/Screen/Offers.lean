import Scoreboard.Proofs.Screen.Board
import Scoreboard.Proofs.Screen.SelectionBar
import Scoreboard.Proofs.Screen.Table

/-!
# What the board offers

The board offers no event that its store would refuse. In one frame several widgets can be clicked,
and what they ask for was drawn before the first of these events was taken. But whether an event is
refused can be told from the page as it was at first.

## Main statements

- `Table.event_of_mem_widgets` — what a table offers
- `Board.Shows.refusal?_of_mem` — what the board offers is not refused
- `Board.Shows.exists_answer` — nor is it refused after other events of the same frame
- `Board.Shows.lastError_foldl_take` — so the board never has to tell of a refusal
-/

namespace Scoreboard

namespace Page

variable {page : Page} {table : Table}

theorem refusal?_of_group (htable : table ∈ page.tables) {group : GroupHeader}
    (hgroup : group ∈ table.groups) : page.refusal? (.roundToggle group.round) = none :=
  if_pos ((Rearranged.refl page).hasRound_of_mem htable hgroup)

/-- Of a column number that does not fit, just the lower digits are told, which makes it smaller. -/
theorem refusal?_of_column (hnodup : (page.tables.map Table.id).Nodup)
    (htable : table ∈ page.tables) {column : Nat} (hcolumn : column < table.columns.length) :
    page.refusal? (.headerClick table.id (UInt64.ofNat column)) = none := by
  have hle : (UInt64.ofNat column).toNat ≤ column := by
    rw [UInt64.toNat_ofNat']
    exact Nat.mod_le column _
  simp only [refusal?, table?_of_nodup hnodup htable]
  exact if_pos (Nat.lt_of_le_of_lt hle hcolumn)

end Page

namespace Store

theorem Follows.exists_answer {page : Page} {store : Store} (h : Follows page store) (clock : Int)
    {event : Event} (haccepted : page.refusal? event = none) :
    ∃ answer, store.handle clock event = .ok answer := by
  cases hhandle : store.handle clock event with
  | ok answer => exact ⟨answer, rfl⟩
  | error error =>
    have hrefused := (apply_eq_error_iff h).1 (handle_eq_error_iff.1 hhandle)
    rw [Page.refusal?_eq_some_iff.2 hrefused] at haccepted
    cases haccepted

end Store

namespace Table

variable {table : Table} {render : Render} {offset : Nat} {widget : Widget} {event : Event}

theorem eq_groupWidget_of_mem {seen : List RoundId} {shown : List Nat}
    (h : widget ∈ table.groupWidgets render offset seen shown) :
    widget = .label "" ∨ ∃ group ∈ table.groups, widget = table.groupWidget render group := by
  induction shown generalizing seen with
  | nil => cases h
  | cons index rest ih =>
    rw [groupWidgets] at h
    cases hgroup : table.groupAt? offset seen index with
    | none =>
      rw [hgroup] at h
      exact (List.mem_cons.1 h).elim .inl ih
    | some group =>
      rw [hgroup] at h
      rcases List.mem_cons.1 h with rfl | hrest
      · exact .inr ⟨group, (of_groupAt? hgroup).2.2, rfl⟩
      · exact ih hrest

theorem event_of_groupWidget {group : GroupHeader}
    (haction : (table.groupWidget render group).action = some (.event event)) :
    event = .roundToggle group.round := by
  rw [action_groupWidget] at haction
  split at haction
  · cases haction
    rfl
  · cases haction

theorem event_of_headerWidget {index : Nat}
    (haction : (table.headerWidget render offset index).action = some (.event event)) :
    ∃ column < table.columns.length, event = .headerClick table.id (UInt64.ofNat column) := by
  simp only [headerWidget] at haction
  split at haction
  · cases haction
  · next column hcolumn =>
    split at haction
    · cases haction
      simp only [columnAt?, Option.ite_none_right_eq_some, Option.some_inj] at hcolumn
      obtain ⟨⟨-, hlt⟩, rfl⟩ := hcolumn
      exact ⟨_, hlt, rfl⟩
    · cases haction

/-- A table offers to turn the rounds of its headers and to sort by its columns, and nothing
    else. -/
theorem event_of_mem_widgets (h : widget ∈ table.widgets render offset)
    (haction : widget.action = some (.event event)) :
    (∃ group ∈ table.groups, event = .roundToggle group.round) ∨
      ∃ column < table.columns.length, event = .headerClick table.id (UInt64.ofNat column) := by
  rw [widgets, List.mem_append, List.mem_append] at h
  rcases h with (hgroup | hheader) | hcell
  · rcases eq_groupWidget_of_mem hgroup with rfl | ⟨group, hmem, rfl⟩
    · cases haction
    · exact .inl ⟨group, hmem, event_of_groupWidget haction⟩
  · obtain ⟨index, -, rfl⟩ := List.mem_map.1 hheader
    exact .inr (event_of_headerWidget haction)
  · obtain ⟨row, -, hrow⟩ := List.mem_flatMap.1 hcell
    obtain ⟨index, -, rfl⟩ := List.mem_map.1 hrow
    cases haction

end Table

namespace Page

variable {widget : Widget} {event : Event}

/-- No page refuses a choice of what is shown. -/
theorem refusal?_of_mem_selectionBar {page : Page} {selection : Selection}
    (h : widget ∈ page.selectionBar selection) (haction : widget.action = some (.event event))
    (other : Page) : other.refusal? event = none := by
  cases offers_of_mem_selectionBar h haction <;> rfl

theorem action_of_mem_elementWidgets {page : Page} {render : Render}
    (h : widget ∈ page.elementWidgets render) : widget.action = none := by
  simp only [elementWidgets] at h
  split at h
  · cases h
  · rcases List.mem_cons.1 h with rfl | hmem
    · rfl
    · obtain ⟨element, -, rfl⟩ := List.mem_map.1 hmem
      rfl

end Page

namespace Board

variable {page : Page} {settings : Settings} {board : Board} {event : Event}

theorem exists_widget_of_mem_eventsOf {clicked : List Nat}
    (h : event ∈ eventsOf (board.actions clicked)) :
    ∃ widget ∈ board.widgets, widget.action = some (.event event) := by
  obtain ⟨action, haction, hevent⟩ := List.mem_filterMap.1 h
  cases action with
  | event offered =>
    cases hevent
    obtain ⟨entry, hentry, hoffered⟩ := List.mem_filterMap.1 haction
    exact ⟨entry.1, List.fst_mem_of_mem_zipIdx (List.mem_filter.1 hentry).1, hoffered⟩
  | _ => cases hevent

/-- What the board offers is not refused by the page as it was at first. -/
theorem Shows.refusal?_of_mem (h : Shows page settings board)
    (hnodup : (page.tables.map Table.id).Nodup) {widget : Widget} (hmem : widget ∈ board.widgets)
    (haction : widget.action = some (.event event)) : page.refusal? event = none := by
  simp only [widgets, List.mem_append] at hmem
  rcases hmem with ((((hmem | hmem) | hmem) | hmem) | hmem) | hmem
  · rcases List.mem_pair.1 hmem with rfl | rfl
    · cases haction
    · cases haction
  · exact Page.refusal?_of_mem_selectionBar hmem haction page
  · obtain ⟨error, -, rfl⟩ := Option.map_eq_some_iff.1 (Option.mem_toList.1 hmem)
    cases haction
  · obtain ⟨report, -, rfl⟩ := Option.map_eq_some_iff.1 (Option.mem_toList.1 hmem)
    cases haction
  · obtain ⟨table', htable', hwidget⟩ := List.mem_flatMap.1 hmem
    -- The table was there at first, with other rows at most.
    obtain ⟨table, htable, hsame⟩ := h.follows.rearranged.exists_table htable'
    rcases Table.event_of_mem_widgets hwidget haction with
      ⟨group, hgroup, rfl⟩ | ⟨column, hcolumn, rfl⟩
    · rw [hsame.groups_eq] at hgroup
      exact Page.refusal?_of_group htable hgroup
    · rw [hsame.columns_eq] at hcolumn
      rw [hsame.id_eq]
      exact Page.refusal?_of_column hnodup htable hcolumn
  · rw [Page.action_of_mem_elementWidgets hmem] at haction
    cases haction

theorem Shows.refusal?_of_clicked (h : Shows page settings board)
    (hnodup : (page.tables.map Table.id).Nodup) (clicked : List Nat) :
    ∀ event ∈ eventsOf (board.actions clicked), page.refusal? event = none := by
  intro event hevent
  obtain ⟨widget, hmem, haction⟩ := exists_widget_of_mem_eventsOf hevent
  exact h.refusal?_of_mem hnodup hmem haction

/-- An event that the board offered is accepted, also after others. -/
theorem Shows.exists_answer (h : Shows page settings board)
    (haccepted : page.refusal? event = none) (earlier : List (Int × Event)) (clock : Int) :
    ∃ answer, (board.store.run earlier).handle clock event = .ok answer := by
  obtain ⟨events, hevents⟩ := h.store
  rw [hevents, ← Store.run_append]
  exact (Store.follows_run page settings (events ++ earlier)).exists_answer clock haccepted

theorem Shows.lastError_foldl_take (h : Shows page settings board)
    (hnone : board.lastError = none) (clock : Int) {events : List Event}
    (haccepted : ∀ event ∈ events, page.refusal? event = none) :
    (events.foldl (Board.take clock) board).lastError = none := by
  induction events generalizing board with
  | nil => exact hnone
  | cons event rest ih =>
    obtain ⟨hevent, hrest⟩ := List.forall_mem_cons.1 haccepted
    obtain ⟨answer, hanswer⟩ := h.follows.exists_answer clock hevent
    refine ih (h.take clock event) ?_ hrest
    simp only [Board.take, hanswer]

end Board

end Scoreboard
