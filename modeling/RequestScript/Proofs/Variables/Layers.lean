import RequestScript.Variables.Placeholder

/-!
# Setting variables

A variable that is set in one layer changes nothing else, and it is found unless a layer of higher
precedence has a value for its name.
-/

namespace RequestScript.Store

/-- The value of a name in a layer. -/
def held? (store : Store) (scope : Scope) (name : String) : Option Value :=
  Table.get? (store.layer scope).entries name

/-- The value of a name in the first layer of higher precedence than that of a scope. -/
def shadow? (store : Store) (scope : Scope) (name : String) : Option Value :=
  (Scope.all.takeWhile (· ≠ scope)).findSome? fun higher => store.held? higher name

/-- The store with a text set for a name in the layer of a scope. -/
def withText (store : Store) (scope : Scope) (name text : String) : Store :=
  store.setLayer scope ((store.layer scope).set name (.string text))

/-- Two stores hold the same values. -/
def SameLayers (store other : Store) : Prop :=
  ∀ scope, other.layer scope = store.layer scope

variable {store other : Store} {scope : Scope} {name text : String}

theorem held?_withText_self (store : Store) (scope : Scope) (name text : String) :
    (store.withText scope name text).held? scope name = some (.string text) := by
  rw [held?, withText, layer_setLayer_self]
  exact Table.get?_set_self _ _ _

/-- Other names, and the name in other layers, keep their values. -/
theorem held?_withText_of_ne {place : Scope} {key : String} (h : place ≠ scope ∨ key ≠ name) :
    (store.withText scope name text).held? place key = store.held? place key := by
  rw [held?, held?, withText]
  by_cases hplace : place = scope
  · subst hplace
    rw [layer_setLayer_self]
    exact Table.get?_set_of_ne _ _ (h.resolve_left (not_not_intro rfl))
  · rw [layer_setLayer_of_ne _ _ hplace]

/-- A text that has been set is found, unless a layer of higher precedence has the name. -/
theorem get_withText (store : Store) (scope : Scope) (name text : String) :
    (store.withText scope name text).get name =
      ((store.shadow? scope name).map Value.text).getD text := by
  have hall : Scope.all = Scope.all.takeWhile (· ≠ scope) ++
      scope :: (Scope.all.dropWhile (· ≠ scope)).tail := by
    cases scope <;> rfl
  have hhigher : (Scope.all.takeWhile (· ≠ scope)).findSome?
      (fun higher => (store.withText scope name text).held? higher name) =
        store.shadow? scope name := by
    have hother {place : Scope} (hne : place ≠ scope) :
        (store.withText scope name text).held? place name = store.held? place name :=
      held?_withText_of_ne (.inl hne)
    rw [shadow?]
    cases scope <;> simp [Scope.all, List.findSome?_cons, hother]
  have hvalue : (store.withText scope name text).value? name =
      (store.shadow? scope name).or (some (.string text)) := by
    have hfirst : (store.withText scope name text).value? name =
        Scope.all.findSome? fun place => (store.withText scope name text).held? place name := rfl
    rw [hfirst, hall, List.findSome?_append, hhigher, List.findSome?_cons, held?_withText_self]
  rw [get, lookup, hvalue]
  cases store.shadow? scope name <;> rfl

theorem held?_of_sameLayers (h : SameLayers store other) (scope : Scope) (name : String) :
    other.held? scope name = store.held? scope name := by
  rw [held?, held?, h]

/-- Stores with the same values find the same texts. -/
theorem get_of_sameLayers (h : SameLayers store other) (name : String) :
    other.get name = store.get name := by
  have hvalue : other.value? name = store.value? name :=
    congrArg Scope.all.findSome? (funext fun scope => held?_of_sameLayers h scope name)
  rw [get, get, lookup, lookup, hvalue]

end RequestScript.Store
