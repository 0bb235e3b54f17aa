import RequestScript.Script.Lookup

/-!
# Plans

Before a request the requests run that it refers to, each with the requests that it refers to in
turn. An identifier is run at most once, so that circular references come to an end, and
references to no request are skipped. Which requests run, and in which order, follows from the
references alone.
-/

namespace RequestScript

/-- What happens for a reference of a request. -/
inductive Step where
  /-- The first request with the identifier runs after its own steps. -/
  | run (request : Request) (before : List Step)
  /-- The identifier has been run already, or is being run. -/
  | repeated (id : String)
  /-- No request has the identifier. -/
  | unknown (id : String)

namespace Plan

/-- Whether a request's identifier has been visited. -/
def isVisited (visited : List String) (request : Request) : Bool :=
  request.id.any visited.contains

/-- The number of requests whose identifier has not been visited. -/
def unvisited (requests : List Request) (visited : List String) : Nat :=
  requests.countP (!isVisited visited ·)

theorem isVisited_mono {visited more : List String} (h : visited ⊆ more) {request : Request}
    (hv : isVisited visited request = true) : isVisited more request = true := by
  unfold isVisited at *
  cases hid : request.id with
  | none => simp [hid] at hv
  | some id =>
    simp only [hid, Option.any_some, List.contains_iff_mem] at hv ⊢
    exact h hv

theorem unvisited_le {requests : List Request} {visited more : List String}
    (h : visited ⊆ more) : unvisited requests more ≤ unvisited requests visited := by
  refine List.countP_mono_left fun request _ hr => ?_
  cases hv : isVisited visited request with
  | false => rfl
  | true => simp [isVisited_mono h hv] at hr

theorem unvisited_cons_lt {requests : List Request} {visited : List String} {id : String}
    {request : Request} (hfind : Request.find? requests id = some request)
    (hid : id ∉ visited) : unvisited requests (id :: visited) < unvisited requests visited := by
  induction requests with
  | nil => simp [Request.find?] at hfind
  | cons first rest ih =>
    have hle : unvisited rest (id :: visited) ≤ unvisited rest visited :=
      unvisited_le (List.subset_cons_self id visited)
    by_cases hf : first.id = some id
    · have hbefore : isVisited visited first = false := by
        simp [isVisited, hf, hid]
      have hafter : isVisited (id :: visited) first = true := by
        simp [isVisited, hf]
      simp only [unvisited, List.countP_cons, hbefore, hafter] at hle ⊢
      simp only [Bool.not_false, Bool.not_true, if_true]
      simp only [Bool.false_eq_true, if_false]
      omega
    · have hrest : Request.find? rest id = some request := by
        simpa [Request.find?, List.find?_cons, hf] using hfind
      have hlt := ih hrest
      have hsame : isVisited (id :: visited) first = isVisited visited first := by
        unfold isVisited
        cases hfirst : first.id with
        | none => rfl
        | some other =>
          have hne : other ≠ id := fun h => hf (by rw [hfirst, h])
          simp [hne]
      simp only [unvisited, List.countP_cons, hsame] at hlt ⊢
      omega

/-- The steps for references, with the identifiers that have been visited after them. -/
def steps (requests : List Request) (visited : List String) (ids : List String) :
    List Step × { after : List String // visited ⊆ after } :=
  match ids with
  | [] => ([], ⟨visited, List.Subset.refl _⟩)
  | id :: rest =>
    if hid : id ∈ visited then
      let (more, after) := steps requests visited rest
      (.repeated id :: more, after)
    else
      match hfind : Request.find? requests id with
      | none =>
        let (more, after) := steps requests visited rest
        (.unknown id :: more, after)
      | some request =>
        have _hlt := unvisited_cons_lt hfind hid
        let (before, inner) := steps requests (id :: visited) request.pre
        have _hle : unvisited requests inner.val ≤ unvisited requests (id :: visited) :=
          unvisited_le inner.property
        let (more, after) := steps requests inner.val rest
        (.run request before :: more,
          ⟨after.val, fun _ h => after.property (inner.property (List.mem_cons_of_mem _ h))⟩)
termination_by (unvisited requests visited, ids.length)

/-- The steps before a request that runs by itself. Among no requests there are none. -/
def before (requests : List Request) (request : Request) : List Step :=
  if requests.isEmpty then [] else (steps requests request.id.toList request.pre).1

end Plan

end RequestScript
