import Mathlib.Data.List.Induction
import DonationSite.Ui.TabBar

/-!
# The current tab

Tabs know their current one by its index, while those who select and show them know identifiers. A
selection makes the tab with the identifier current and leaves everything as it is if there is none,
so after any selections the last one of a tab decides.

## Key results

- `current?_select`: what one selection makes current
- `current?_selectAll`: what any number of selections makes current
- `isSome_select?_iff`: a selection takes effect exactly if another tab becomes current
-/

namespace DonationSite.Ui.TabBar

/-! ### One selection -/

section Selection

variable (tabs : TabBar) (id : String)

/-- An identifier of no tab selects nothing. -/
theorem select?_of_not_mem (h : id ∉ tabs.ids) : tabs.select? id = none := by
  have hfind : tabs.ids.findIdx? (· == id) = none := by
    rw [List.findIdx?_eq_none_iff]
    intro other hmem
    simpa using fun heq : other = id => h (heq ▸ hmem)
  rw [select?, hfind]

/-- An identifier of a tab is found at an index, and selected unless it is current there. -/
theorem exists_select?_of_mem (h : id ∈ tabs.ids) : ∃ index, tabs.ids[index]? = some id ∧
    tabs.select? id = if index = tabs.index then none else some { tabs with index := index } := by
  -- The search compares with the identifier itself, so it does not come back empty.
  have hfound : tabs.ids.findIdx? (· == id) ≠ none := by
    intro hnone
    have hne := List.findIdx?_eq_none_iff.1 hnone id h
    simp at hne
  obtain ⟨index, hfind⟩ := Option.ne_none_iff_exists'.1 hfound
  obtain ⟨hlt, hid, -⟩ := List.findIdx?_eq_some_iff_getElem.1 hfind
  refine ⟨index, ?_, ?_⟩
  · rw [List.getElem?_eq_getElem hlt, beq_iff_eq.1 hid]
  · rw [select?, hfind]

/-- A selection leaves the tabs as they are. -/
@[simp] theorem ids_select : (tabs.select id).ids = tabs.ids := by
  unfold select select?
  split
  · split <;> rfl
  · rfl

/-- The identifier of a tab becomes current; any other leaves the current one. -/
theorem current?_select :
    (tabs.select id).current? = if id ∈ tabs.ids then some id else tabs.current? := by
  by_cases hmem : id ∈ tabs.ids
  · obtain ⟨index, hget, hselect⟩ := tabs.exists_select?_of_mem id hmem
    rw [if_pos hmem, select, hselect]
    by_cases hindex : index = tabs.index
    · -- The tab is current already.
      rw [if_pos hindex, Option.getD_none, current?, ← hindex, hget]
    · rw [if_neg hindex, Option.getD_some]
      exact hget
  · rw [if_neg hmem, select, tabs.select?_of_not_mem id hmem, Option.getD_none]

/-- If a tab is current, it is the only one. -/
theorem isCurrent_iff {other : String} (h : tabs.current? = some id) :
    tabs.isCurrent other = true ↔ other = id := by
  rw [isCurrent, h, beq_iff_eq, Option.some_inj]
  exact eq_comm

/-- A selection takes effect exactly if it makes another tab current. -/
theorem isSome_select?_iff (hnodup : tabs.ids.Nodup) :
    (tabs.select? id).isSome = true ↔ (tabs.select id).current? ≠ tabs.current? := by
  rw [current?_select]
  by_cases hmem : id ∈ tabs.ids
  · obtain ⟨index, hget, hselect⟩ := tabs.exists_select?_of_mem id hmem
    have hlt := (List.getElem?_eq_some_iff.1 hget).1
    -- Distinct identifiers stand at distinct indices.
    have hinj : some id = tabs.current? ↔ index = tabs.index := by
      rw [current?, ← hget, List.getElem?_inj hlt hnodup]
    rw [if_pos hmem, hselect, Ne, hinj]
    by_cases hindex : index = tabs.index <;> simp [hindex]
  · simp [hmem, tabs.select?_of_not_mem id hmem]

end Selection

/-! ### Any number of selections -/

/-- The tabs with some identifiers after selections. -/
def selectAll (ids selected : List String) : TabBar :=
  selected.foldl select { ids := ids }

/-- The identifier selected last of those that there are, or the first one if there is none. -/
def lastKnown? (ids selected : List String) : Option String :=
  (selected.filter (· ∈ ids)).getLast?.or ids.head?

/-- The last selection is made among the tabs after the others. -/
theorem selectAll_concat (ids selected : List String) (id : String) :
    selectAll ids (selected ++ [id]) = (selectAll ids selected).select id := by
  rw [selectAll, List.foldl_append]
  rfl

/-- The last selection is the last known one if it is of a tab. -/
theorem lastKnown?_concat (ids selected : List String) (id : String) :
    lastKnown? ids (selected ++ [id]) = if id ∈ ids then some id else lastKnown? ids selected := by
  by_cases h : id ∈ ids <;> simp [lastKnown?, h]

/-- Selections leave the tabs as they are. -/
@[simp] theorem ids_selectAll (ids selected : List String) :
    (selectAll ids selected).ids = ids := by
  induction selected using List.reverseRecOn with
  | nil => rfl
  | append_singleton selected id ih => rw [selectAll_concat, ids_select, ih]

/-- After selections the last known one is current. -/
theorem current?_selectAll (ids selected : List String) :
    (selectAll ids selected).current? = lastKnown? ids selected := by
  induction selected using List.reverseRecOn with
  | nil =>
    show ids[0]? = _
    rw [← List.head?_eq_getElem?]
    rfl
  | append_singleton selected id ih =>
    rw [selectAll_concat, current?_select, ids_selectAll, ih, lastKnown?_concat]

/-- If there is a tab, one is always known. -/
theorem exists_lastKnown {ids : List String} (hne : ids ≠ []) (selected : List String) :
    ∃ id ∈ ids, lastKnown? ids selected = some id := by
  have hhead := List.head?_eq_some_head hne
  rw [lastKnown?]
  cases hlast : (selected.filter (· ∈ ids)).getLast? with
  | none => exact ⟨ids.head hne, List.head_mem hne, hhead⟩
  | some id =>
    have hmem := List.mem_of_getLast? hlast
    exact ⟨id, by simpa using (List.mem_filter.1 hmem).2, rfl⟩

/-- What has to be current after selections, and when another one takes effect. -/
structure OneCurrent (ids selected : List String) : Prop where
  /-- The last known identifier is current, and no other. -/
  current : ∃ id, lastKnown? ids selected = some id ∧
    (selectAll ids selected).current? = some id ∧
    ∀ other, (selectAll ids selected).isCurrent other = true ↔ other = id
  switches : ∀ id, ((selectAll ids selected).select? id).isSome = true ↔
    (selectAll ids (selected ++ [id])).current? ≠ (selectAll ids selected).current?

/-- Of tabs with distinct identifiers exactly one is current after any selections. -/
theorem oneCurrent {ids : List String} (hne : ids ≠ []) (hnodup : ids.Nodup)
    (selected : List String) : OneCurrent ids selected := by
  obtain ⟨id, -, hknown⟩ := exists_lastKnown hne selected
  have hcurrent : (selectAll ids selected).current? = some id :=
    (current?_selectAll ids selected).trans hknown
  refine ⟨⟨id, hknown, hcurrent, fun other => isCurrent_iff _ _ hcurrent⟩, fun next => ?_⟩
  rw [selectAll_concat]
  exact isSome_select?_iff _ _ (by rwa [ids_selectAll])

/-- Without tabs nothing can be selected and nothing is current. -/
theorem no_tabs (selected : List String) :
    (selectAll [] selected).current? = none ∧
      (∀ id, (selectAll [] selected).isCurrent id = false) ∧
      ∀ id, (selectAll [] selected).select? id = none := by
  -- There is neither a known selection nor a first tab.
  have hcurrent : (selectAll [] selected).current? = none := by
    rw [current?_selectAll]
    simp [lastKnown?]
  refine ⟨hcurrent, fun id => ?_, fun id => ?_⟩
  · rw [isCurrent, hcurrent]
    rfl
  · exact select?_of_not_mem _ _ (by simp)

end DonationSite.Ui.TabBar
