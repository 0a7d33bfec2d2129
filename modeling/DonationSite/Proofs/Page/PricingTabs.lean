import DonationSite.Page.Pricing
import DonationSite.Proofs.Html.Elements
import DonationSite.Proofs.List
import DonationSite.Proofs.Ui.Runs
import DonationSite.Proofs.Ui.TabBar

/-!
# Tabs on a page

Clicking a tab selects its identifier, and nothing else on the page does. One link and one block of
content are marked, those of the tab that is current. What the blocks hold may be anything, so links
and blocks are looked for where the tabs put them and not in the whole tree.

## Key results

- `meaning`: what an event on the tabs means
- `state_after`: the tabs after any steps
- `links_view`, `blocks_view`: what stands on the page
- `one_tab_current`: exactly one tab is current, and it is the one that is shown
-/

namespace DonationSite.Page.Tabs

open Ui
open Html (Element Listener)

/-! ### What steps do -/

/-- The identifier of the tab that a step clicks. -/
def clicked? (tabs : List Tab) : Step → Option String
  | .fire .click number _ => tabs[number]?.map (·.id)
  | _ => none

/-- The listener of a tab. -/
def clicking (tab : Tab) : Listener Message :=
  { kind := .click, message := fun _ => some (.select tab.id) }

section Steps

variable (t : Tabs) (kind : Html.EventKind)

/-- The links listen to clicks alone. -/
theorem listeners_links : t.tabs.flatMap (fun tab => (linkView t.set tab).listeners kind) =
    if kind = .click then t.tabs.map clicking else [] := by
  by_cases hkind : kind = .click
  · rw [if_pos hkind, hkind, List.map_eq_flatMap]
    rfl
  · rw [if_neg hkind]
    refine List.flatMap_eq_nil_iff.2 fun tab _ => ?_
    simp [linkView, Html.listeners, Ne.symm hkind]

/-- The blocks of content mean nothing to the tabs. -/
theorem message_of_mem_blocks {listener : Listener Message}
    (hmem : listener ∈ t.tabs.flatMap fun tab => (contentView t.set tab).listeners kind)
    (value : String) : listener.message value = none := by
  obtain ⟨tab, -, hmem⟩ := List.mem_flatMap.1 hmem
  simp only [contentView, Html.listeners_node, List.flatMap_cons, List.flatMap_nil,
    List.append_nil] at hmem
  exact Html.message_of_mem_listeners_map hmem value

/-- An event means the selection of the tab that is clicked, if one is. -/
theorem meaning (number : Nat) (value : String) :
    (t.view.listeners kind)[number]?.bind (·.message value) =
      (clicked? t.tabs (.fire kind number value)).map .select := by
  have hview : t.view.listeners kind =
      (if kind = .click then t.tabs.map clicking else []) ++
        t.tabs.flatMap fun tab => (contentView t.set tab).listeners kind := by
    rw [← listeners_links, view]
    simp [List.flatMap_map]
  -- What stands in a block cannot send a message of the tabs.
  have hblocks (number : Nat) :
      (t.tabs.flatMap fun tab => (contentView t.set tab).listeners kind)[number]?.bind
        (·.message value) = none := by
    rw [Option.bind_eq_none_iff]
    intro listener hlistener
    exact t.message_of_mem_blocks kind (List.mem_of_getElem? hlistener) value
  rw [hview]
  cases kind with
  | click =>
    rw [if_pos rfl, clicked?]
    by_cases hlt : number < t.tabs.length
    · rw [List.getElem?_append_left (by simpa using hlt), List.getElem?_map,
        List.getElem?_eq_getElem hlt]
      rfl
    · -- Behind the links there are only blocks.
      rw [List.getElem?_append_right (by simpa using hlt), hblocks,
        List.getElem?_eq_none (by omega)]
      rfl
  | change | input | focusOut => exact hblocks number

end Steps

/-- A selection is made in the set of tabs, whether it is a known tab or not. -/
theorem update_select (t : Tabs) (id : String) :
    (t.update (.select id)).1 = { t with set := t.set.select id } := by
  rw [update, TabBar.select]
  cases t.set.select? id <;> rfl

/-- A step makes the selection that it clicks, if any. -/
theorem state_step (t : Tabs) (next : Step) : (component.step t next).state =
    { t with set := (clicked? t.tabs next).elim t.set t.set.select } := by
  cases next with
  | signal => rfl
  | fire kind number value =>
    rw [Component.state_fire]
    show (component.updateIfAny t ((t.view.listeners kind)[number]?.bind _)).1 = _
    rw [meaning]
    cases clicked? t.tabs (.fire kind number value) with
    | none => rfl
    | some id => exact t.update_select id

/-- The tabs after steps are those after the selections that were clicked. -/
theorem state_after (tabs : List Tab) (steps : List Step) :
    component.after (ofList tabs) steps =
      { tabs := tabs
        set := .selectAll (tabs.map (·.id)) (steps.filterMap (clicked? tabs)) } := by
  induction steps using List.reverseRecOn with
  | nil => rfl
  | append_singleton steps next ih =>
    rw [Component.after_concat, ih, state_step, List.filterMap_append]
    -- A step that clicks no tab adds no selection.
    cases hclicked : clicked? tabs next with
    | none => simp [hclicked]
    | some id => simp [hclicked, TabBar.selectAll_concat]

/-! ### What stands on the page -/

/-- The links in the list of tabs. -/
def links (page : Html Message) : List (Element Message) :=
  (Html.inside ((Html.inside page.roots).filter (·.hasClass "pricing-tabs"))).filter
    (·.hasClass "tab-link")

/-- The blocks of content beside the list of tabs. -/
def blocks (page : Html Message) : List (Element Message) :=
  (Html.inside page.roots).filter (·.hasClass "tab-content")

/-- The link of a tab. -/
def tabLink (set : TabBar) (tab : Tab) : Element Message where
  tag := "li"
  attributes :=
    { plain := [("data-tab", tab.id)], classes := "tab-link" :: currentClass set tab.id }
  body := .text tab.label

/-- The block of a tab. -/
def tabBlock (set : TabBar) (tab : Tab) : Element Message where
  tag := "div"
  attributes := { plain := [("id", tab.id)], classes := "tab-content" :: currentClass set tab.id }
  body := .concat [tab.content.map nofun]

section View

variable (t : Tabs) (set : TabBar) (tab : Tab)

/-- The class of the current tab stands exactly on the current one. -/
theorem mem_currentClass {name id : String} :
    name ∈ currentClass set id ↔ set.isCurrent id = true ∧ name = "current" := by
  rw [currentClass]
  split <;> simp_all

/-- A link is marked if its tab is the current one. -/
theorem hasClass_current_tabLink : (tabLink set tab).hasClass "current" = set.isCurrent tab.id := by
  rw [Bool.eq_iff_iff, Element.hasClass, List.contains_iff_mem]
  simp [tabLink, mem_currentClass]

/-- A block is marked if its tab is the current one. -/
theorem hasClass_current_tabBlock :
    (tabBlock set tab).hasClass "current" = set.isCurrent tab.id := by
  rw [Bool.eq_iff_iff, Element.hasClass, List.contains_iff_mem]
  simp [tabBlock, mem_currentClass]

/-- The list of tabs comes first, and the blocks follow. -/
theorem inside_view : Html.inside t.view.roots =
    ⟨"ul", { classes := ["pricing-tabs"] }, .concat (t.tabs.map (linkView t.set))⟩ ::
      t.tabs.map (tabBlock t.set) := by
  -- Each content view has one root, which is the block of its tab.
  have hblocks : (t.tabs.map (contentView t.set)).flatMap Html.roots =
      t.tabs.map (tabBlock t.set) := by
    rw [List.flatMap_map, List.map_eq_flatMap]
    rfl
  rw [view, Html.roots_node, Html.inside_singleton, Html.roots_concat, List.flatMap_cons, hblocks]
  rfl

/-- The blocks are those of the tabs, in order. -/
theorem blocks_view : blocks t.view = t.tabs.map (tabBlock t.set) := by
  have hblock (tab : Tab) : (tabBlock t.set tab).hasClass "tab-content" = true := by
    simp [Element.hasClass, tabBlock]
  rw [blocks, inside_view, List.filter_cons_of_neg (by simp), List.filter_eq_self]
  intro e hmem
  obtain ⟨tab, -, rfl⟩ := List.mem_map.1 hmem
  exact hblock tab

/-- The links are those of the tabs, in order. -/
theorem links_view : links t.view = t.tabs.map (tabLink t.set) := by
  have hlinks : (t.tabs.map (linkView t.set)).flatMap Html.roots =
      t.tabs.map (tabLink t.set) := by
    rw [List.flatMap_map, List.map_eq_flatMap]
    rfl
  -- No block is taken for the list of tabs.
  have hlist : (t.tabs.map (tabBlock t.set)).filter (·.hasClass "pricing-tabs") = [] := by
    refine List.filter_eq_nil_iff.2 fun e hmem => ?_
    obtain ⟨tab, -, rfl⟩ := List.mem_map.1 hmem
    simp [Element.hasClass, tabBlock, mem_currentClass]
  rw [links, inside_view, List.filter_cons_of_pos (by simp), hlist, Html.inside_singleton,
    Html.roots_concat, hlinks, List.filter_eq_self]
  intro e hmem
  obtain ⟨tab, -, rfl⟩ := List.mem_map.1 hmem
  simp [Element.hasClass, tabLink]

end View

/-- The page has a link and a block for each tab, and marks one of each, those of the tab with an
identifier. -/
structure ShowsOne (tabs : List Tab) (page : Html Message) (id : String) : Prop where
  links_eq : (links page).map (·.attributes.plain) = tabs.map fun tab => [("data-tab", tab.id)]
  blocks_eq : (blocks page).map (·.attributes.plain) = tabs.map fun tab => [("id", tab.id)]
  link : ∃ link, (links page).filter (·.hasClass "current") = [link] ∧
    link.attributes.plain = [("data-tab", id)]
  block : ∃ block, (blocks page).filter (·.hasClass "current") = [block] ∧
    block.attributes.plain = [("id", id)]

/-- Of tabs with distinct identifiers the current one is shown. -/
theorem showsOne_view (t : Tabs) {tab : Tab} (hnodup : (t.tabs.map (·.id)).Nodup)
    (hmem : tab ∈ t.tabs) (hcurrent : t.set.current? = some tab.id) :
    ShowsOne t.tabs t.view tab.id := by
  -- No two tabs have the same identifier, so only this one is current.
  have honly : t.tabs.filter (fun other => t.set.isCurrent other.id) = [tab] := by
    rw [← List.filter_eq_singleton_of_nodup hnodup hmem]
    congr 1
    funext other
    rw [Bool.eq_iff_iff, t.set.isCurrent_iff _ hcurrent, decide_eq_true_eq]
  -- The attributes tell a link or a block by its tab, and the marks follow the current one.
  refine ⟨?_, ?_, ⟨tabLink t.set tab, ?_, rfl⟩, ⟨tabBlock t.set tab, ?_, rfl⟩⟩
  · rw [links_view, List.map_map]
    rfl
  · rw [blocks_view, List.map_map]
    rfl
  · have hmarked : (fun e => Element.hasClass "current" e) ∘ tabLink t.set =
        fun other => t.set.isCurrent other.id := funext (hasClass_current_tabLink t.set)
    rw [links_view, List.filter_map, hmarked, honly, List.map_singleton]
  · have hmarked : (fun e => Element.hasClass "current" e) ∘ tabBlock t.set =
        fun other => t.set.isCurrent other.id := funext (hasClass_current_tabBlock t.set)
    rw [blocks_view, List.filter_map, hmarked, honly, List.map_singleton]

/-- Exactly one of some tabs with distinct identifiers is current after any selections, the one
selected last, or the first; a selection takes effect exactly if another one becomes current. After
any steps the page of the tabs shows that one. Without tabs nothing is ever selected. -/
theorem one_tab_current :
    (∀ ids selected : List String, ids ≠ [] → ids.Nodup → TabBar.OneCurrent ids selected) ∧
    (∀ (tabs : List Tab) (steps : List Step), tabs ≠ [] → (tabs.map (·.id)).Nodup →
      ∃ id, TabBar.lastKnown? (tabs.map (·.id)) (steps.filterMap (clicked? tabs)) = some id ∧
        (component.after (ofList tabs) steps).set.current? = some id ∧
        ShowsOne tabs (component.view (component.after (ofList tabs) steps)) id) ∧
    ∀ selected : List String, (TabBar.selectAll [] selected).current? = none ∧
      (∀ id, (TabBar.selectAll [] selected).isCurrent id = false) ∧
      ∀ id, (TabBar.selectAll [] selected).select? id = none := by
  refine ⟨fun ids selected hne hnodup => TabBar.oneCurrent hne hnodup selected,
    fun tabs steps hne hnodup => ?_, TabBar.no_tabs⟩
  have hne' : tabs.map (·.id) ≠ [] := by simpa using hne
  -- The selection that took effect last, or the first tab, is one of the tabs.
  obtain ⟨id, hid, hknown⟩ :=
    TabBar.exists_lastKnown hne' (steps.filterMap (clicked? tabs))
  obtain ⟨tab, hmem, rfl⟩ := List.mem_map.1 hid
  rw [state_after]
  have hcurrent := TabBar.current?_selectAll (tabs.map (·.id)) (steps.filterMap (clicked? tabs))
  rw [hknown] at hcurrent
  exact ⟨tab.id, hknown, hcurrent, showsOne_view { tabs := tabs, set := _ } hnodup hmem hcurrent⟩

/-- Tabs whose contents look like a marked link and like a marked block. -/
def lookAlikes : List Tab := [
  { id := "monthly"
    label := "Monthly"
    content := Html.node "li" { classes := ["tab-link", "current"] } [] },
  { id := "yearly"
    label := "Yearly"
    content := Html.node "div"
      { plain := [("id", "monthly")], classes := ["tab-content", "current"] } [] }]

/-- The second tab is clicked, a tab that is not there, and the second one again. -/
def yearlyTwice : List Step := [
  .fire .click 1 "",
  .fire .click 7 "",
  .fire .click 1 ""]

/-- The second tab stays, whatever the contents look like. -/
theorem one_tab_current_lookAlikes :
    ["monthly", "yearly", "dedicated"] ≠ [] ∧ ["monthly", "yearly", "dedicated"].Nodup ∧
      TabBar.OneCurrent ["monthly", "yearly", "dedicated"] ["dedicated", "enterprise", "yearly"] ∧
      lookAlikes ≠ [] ∧ (lookAlikes.map (·.id)).Nodup ∧
      ShowsOne lookAlikes (component.view (component.after (ofList lookAlikes) yearlyTwice))
        "yearly" := by
  obtain ⟨hbars, hpages, -⟩ := one_tab_current
  have hnodup : ["monthly", "yearly", "dedicated"].Nodup := by decide
  have hnodup' : (lookAlikes.map (·.id)).Nodup := by decide
  have hne : lookAlikes ≠ [] := List.cons_ne_nil _ _
  obtain ⟨id, hknown, -, hshows⟩ := hpages lookAlikes yearlyTwice hne hnodup'
  have hyearly : TabBar.lastKnown? (lookAlikes.map (·.id))
      (yearlyTwice.filterMap (clicked? lookAlikes)) = some "yearly" := by decide
  obtain rfl : "yearly" = id := Option.some.inj (hyearly.symm.trans hknown)
  exact ⟨by decide, hnodup, hbars _ _ (by decide) hnodup, hne, hnodup', hshows⟩

end DonationSite.Page.Tabs
