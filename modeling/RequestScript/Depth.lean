/-!
# Depth

Values inside values, and requests that wait for the ones that they refer to, are followed as long
as there is room. All that is being followed at a time shares the same room.
-/

namespace RequestScript.Depth

/-- The number of levels of lists and maps that there is room for at the start. -/
def limit : Nat := 980

/-- The number of levels that a request takes while it waits for another one. -/
def ofRequest : Nat := 2

end RequestScript.Depth
