import Scoreboard.Proofs.Grid.Visibility
import Scoreboard.Proofs.Page.Tags
import Scoreboard.Screen.Board

/-!
# What the selection bar offers

The selection bar offers the participants and rounds that the page mentions, and whatever happens to
the page it goes on to offer the same. A sort may move a participant to another place in the bar,
since rows move; the rounds stay where they are. What is selected makes no difference but for what
is lit.

## Main definitions

- `Widget.unlit` — a widget without telling whether it is lit
- `Selection.Offers` — a choice in the selection bar, with the event that it stands for

## Main statements

- `Page.Rearranged.selectionBar_perm` — a page with other orders of rows has the same selection bar
- `Store.lit_iff_of_mem_selectionBar` — lit is what would change nothing
- `Store.run_selectionBar` — the selection bar after any series of events
-/

namespace Scoreboard

/-- A widget without telling whether it is lit. -/
def Widget.unlit (widget : Widget) : Widget :=
  { widget with lit := false }

theorem Page.map_unlit_selectionBar (page : Page) (selection selection' : Selection) :
    (page.selectionBar selection).map Widget.unlit =
      (page.selectionBar selection').map Widget.unlit := by
  simp [selectionBar, Widget.unlit, Widget.choice, Function.comp_def]

/-- A choice in the selection bar, with the event that it stands for. -/
inductive Selection.Offers (selection : Selection) : Widget → Event → Prop where
  /-- All participants. -/
  | participantReset : Offers selection
      (.choice "All" selection.participant.isNone (.event .participantReset)) .participantReset
  /-- One participant. -/
  | participantClick (player : ParticipantId) : Offers selection
      (.choice player.name (selection.participant = some player)
        (.event (.participantClick player)))
      (.participantClick player)
  /-- All rounds. -/
  | roundReset : Offers selection
      (.choice "All rounds" selection.round.isNone (.event .roundReset)) .roundReset
  /-- One round. -/
  | roundSelect (round : RoundId) : Offers selection
      (.choice ("R" ++ round.text) (selection.round = some round) (.event (.roundSelect round)))
      (.roundSelect round)

theorem Page.offers_of_mem_selectionBar {page : Page} {selection : Selection} {widget : Widget}
    {event : Event} (h : widget ∈ page.selectionBar selection)
    (haction : widget.action = some (.event event)) : selection.Offers widget event := by
  simp only [selectionBar, List.mem_append, List.mem_cons, List.mem_map, List.not_mem_nil,
    or_false] at h
  rcases h with (((rfl | rfl) | ⟨player, -, rfl⟩) | rfl | rfl) | ⟨round, -, rfl⟩
  · cases haction
  · cases haction
    exact .participantReset
  · cases haction
    exact .participantClick player
  · cases haction
  · cases haction
    exact .roundReset
  · cases haction
    exact .roundSelect round

namespace Page.Rearranged

variable {page page' : Page} {player : ParticipantId} {round : RoundId}

theorem elements_eq (h : page.Rearranged page') : page'.elements = page.elements := by
  rw [h.same]

theorem tagsPlayer (h : page.Rearranged page') (htags : page'.TagsPlayer player) :
    page.TagsPlayer player := by
  cases htags with
  | row htable hrow htag =>
    obtain ⟨table, htable', hsame⟩ := h.exists_table htable
    exact .row htable' (hsame.perm.mem_iff.1 hrow) htag
  | element helement htag => exact .element (h.elements_eq ▸ helement) htag

theorem tagsPlayer_iff (h : page.Rearranged page') :
    page'.TagsPlayer player ↔ page.TagsPlayer player :=
  ⟨h.tagsPlayer, h.symm.tagsPlayer⟩

theorem tagsRound (h : page.Rearranged page') (htags : page'.TagsRound round) :
    page.TagsRound round := by
  cases htags with
  | group htable hgroup htag =>
    obtain ⟨table, htable', hsame⟩ := h.exists_table htable
    exact .group htable' (hsame.groups_eq ▸ hgroup) htag
  | column htable hcolumn htag =>
    obtain ⟨table, htable', hsame⟩ := h.exists_table htable
    exact .column htable' (hsame.columns_eq ▸ hcolumn) htag
  | row htable hrow htag =>
    obtain ⟨table, htable', hsame⟩ := h.exists_table htable
    exact .row htable' (hsame.perm.mem_iff.1 hrow) htag
  | element helement htag => exact .element (h.elements_eq ▸ helement) htag

theorem tagsRound_iff (h : page.Rearranged page') :
    page'.TagsRound round ↔ page.TagsRound round :=
  ⟨h.tagsRound, h.symm.tagsRound⟩

theorem rounds_eq (h : page.Rearranged page') : page'.rounds = page.rounds :=
  Page.rounds_eq fun _ => h.tagsRound_iff

theorem participants_perm (h : page.Rearranged page') :
    page'.participants.Perm page.participants :=
  Page.participants_perm fun _ => h.tagsPlayer_iff

/-- Rows in another order change at most the order of the participants in the selection bar. -/
theorem selectionBar_perm (h : page.Rearranged page') (selection : Selection) :
    (page'.selectionBar selection).Perm (page.selectionBar selection) := by
  unfold selectionBar
  rw [h.rounds_eq]
  exact (((h.participants_perm.map _).append_left _).append_right _).append_right _

end Page.Rearranged

namespace Store

/-- Of the choices in the selection bar, those are lit that would leave the selection as it is. -/
theorem lit_iff_of_mem_selectionBar (store : Store) (clock : Int) {widget : Widget} {event : Event}
    (h : widget ∈ store.page.selectionBar store.selection)
    (haction : widget.action = some (.event event)) :
    widget.lit = true ↔ (store.step clock event).selection = store.selection := by
  rw [step_selection]
  have hoffers := Page.offers_of_mem_selectionBar h haction
  generalize store.selection = selection at hoffers
  obtain ⟨participant, round⟩ := selection
  rw [@eq_comm Selection, Selection.mk.injEq]
  cases hoffers <;> simp [Widget.choice, Event.participantChoice?, Event.roundChoice?]

/-- The participants of a page are those that its rows and elements belong to, each once, as they
    first come up in the rows of its tables and then in its elements. The rounds are those of its
    round headers, columns, rows and elements, in strictly ascending order. Whatever events come,
    the rounds stay the same list, and the participants the same but for their order; so no widget
    comes into the selection bar or goes from it. Another selection makes no difference but for what
    is lit. -/
theorem run_selectionBar (page : Page) (settings : Settings) (events : List (Int × Event)) :
    ListsFirst page.participants page.playerTags ∧
      (∀ player, player ∈ page.participants ↔ page.TagsPlayer player) ∧
      page.rounds.Pairwise (fun a b => a.number < b.number) ∧
      (∀ round, round ∈ page.rounds ↔ page.TagsRound round) ∧
      let page' := ((Store.new page settings).run events).page
      page'.rounds = page.rounds ∧ page'.participants.Perm page.participants ∧
        ∀ selection, (page'.selectionBar selection).Perm (page.selectionBar selection) ∧
          ∀ selection', ((page'.selectionBar selection').map Widget.unlit).Perm
            ((page.selectionBar selection).map Widget.unlit) := by
  refine ⟨page.listsFirst_participants, fun _ => Page.mem_participants_iff, page.pairwise_rounds,
    fun _ => Page.mem_rounds_iff, ?_⟩
  have h : page.Rearranged ((Store.new page settings).run events).page :=
    run_rearranged (Store.new page settings) events
  refine ⟨h.rounds_eq, h.participants_perm, fun selection => ⟨h.selectionBar_perm selection, ?_⟩⟩
  intro selection'
  rw [page.map_unlit_selectionBar selection selection']
  exact (h.selectionBar_perm selection').map Widget.unlit

-- A sort moves the participants of the rows, and with them their places in the bar.
example :
    let row (name text : String) : Row := ⟨name, some ⟨name⟩, none, [.plain name, .plain text]⟩
    let rows := [row "bob" "2", row "ann" "1"]
    let table : Table := ⟨"t", none, [], [⟨"Score", none, false⟩], [], rows⟩
    let store := Store.new ⟨"Open", none, [table], []⟩ {}
    store.page.participants = [⟨"bob"⟩, ⟨"ann"⟩] ∧
      (store.run [(2025, .headerClick "t" 0)]).page.participants = [⟨"ann"⟩, ⟨"bob"⟩] := by
  decide +kernel

end Store

end Scoreboard
