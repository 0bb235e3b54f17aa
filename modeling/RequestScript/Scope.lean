/-!
# Variable scopes

Variables live in four layers. A name is looked up in the order in which the scopes are listed.
-/

namespace RequestScript

/-- A layer of variables. -/
inductive Scope where
  /-- Variables of this run. -/
  | session
  /-- Variables kept beside the request script. -/
  | collection
  /-- Variables of the active environment. -/
  | env
  /-- Variables kept for all scripts. -/
  | global
  deriving DecidableEq

namespace Scope

/-- The scopes, from the highest precedence to the lowest. -/
def all : List Scope :=
  [.session, .collection, .env, .global]

/-- The word for a scope. -/
def word : Scope → String
  | .session => "session"
  | .collection => "collection"
  | .env => "env"
  | .global => "global"

/-- The scope that a word names. -/
def ofWord? (word : String) : Option Scope :=
  all.find? (·.word == word)

theorem mem_all (scope : Scope) : scope ∈ all := by
  cases scope <;> simp [all]

theorem ofWord?_word (scope : Scope) : ofWord? scope.word = some scope := by
  cases scope <;> rfl

end Scope

end RequestScript
