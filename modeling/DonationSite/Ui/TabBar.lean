/-!
# Tabs

A fixed set of tabs, each with an identifier, one of which is current: the first one until another
is selected.
-/

namespace DonationSite.Ui

/-- Tabs by identifier, and the index of the current one. -/
structure TabBar where
  ids : List String
  index : Nat := 0
  deriving DecidableEq, Repr

namespace TabBar

/-- The identifier of the current tab; none if there is no tab. -/
def current? (tabs : TabBar) : Option String :=
  tabs.ids[tabs.index]?

/-- Whether the current tab has an identifier. -/
def isCurrent (tabs : TabBar) (id : String) : Bool :=
  tabs.current? == some id

/-- Makes the first tab with an identifier current. None if that changes nothing: there is no such
tab, or it is current already. -/
def select? (tabs : TabBar) (id : String) : Option TabBar :=
  match tabs.ids.findIdx? (· == id) with
  | some index => if index = tabs.index then none else some { tabs with index := index }
  | none => none

/-- The tabs after selecting an identifier. -/
def select (tabs : TabBar) (id : String) : TabBar :=
  (tabs.select? id).getD tabs

end TabBar

end DonationSite.Ui
