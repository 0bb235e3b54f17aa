import RequestScript.Text.Quoted

/-!
# Faults

What can stop an operation. A failed request is not a fault but a result; faults are the errors
that no rule of the program turns into a result.
-/

namespace RequestScript

/-- The cause of a fault. -/
inductive Fault where
  /-- A decimal numeral has too many digits to be read. -/
  | numeralTooLong
  /-- An integer is too large to be a double. -/
  | numberTooLarge
  /-- A date is not in the years 1 to 9999, or a day offset has too many digits. -/
  | dateOutOfRange
  /-- A number is to be shown with more decimal places than can be shown. -/
  | tooManyPlaces
  /-- No variable scope has this name. -/
  | unknownScope (name : String)
  /-- No request stands at this place. -/
  | noSuchRequest
  /-- There is no file at the path. -/
  | noSuchFile
  /-- There is a directory at the path of a file. -/
  | isDirectory
  /-- A component of the path that has to be a directory is a file. -/
  | notADirectory
  /-- Something stands already where a directory is to be made. -/
  | alreadyThere
  /-- A name in a path has too many bytes, or the whole path has. -/
  | nameTooLong
  /-- A path has a null character. -/
  | nullInPath
  /-- A text file does not hold UTF-8. -/
  | notUtf8
  /-- Values or references are nested too deeply to be followed. -/
  | tooDeep
  /-- A configuration file is not well formed. -/
  | malformedConfiguration
  /-- An escape in a configuration file stands for no character. -/
  | notACharacter
  /-- A scalar that is marked as a number is no numeral. -/
  | notANumeral
  /-- A scalar that is marked as a number has nothing that a numeral could start with. -/
  | emptyNumeral
  /-- A scalar that is marked as a truth value is no word for one. -/
  | notATruthValue
  /-- A scalar that is marked as a time is not written like one. -/
  | notATime
  /-- A time is not on the calendar or on the clock. -/
  | impossibleTime
  /-- A value contains itself, so that it cannot be written. -/
  | endless
  /-- A value has a kind that the operation cannot take. -/
  | wrongKind
  /-- A value that has to be a map is something else. -/
  | notAMap
  /-- A value that has to be a list is something else. -/
  | notAList
  /-- There is no home directory for a path that needs one. -/
  | noHomeDirectory
  /-- The transport broke down in a way that is not a failed request. -/
  | transport
  deriving DecidableEq

namespace Fault

/-- The message about a scope that does not exist; other faults carry none. -/
def message? : Fault → Option String
  | .unknownScope name =>
    some <| "Unknown variable scope: " ++ String.ofList (Text.quoted name.toList) ++
      " (expected one of session, collection, env, global)"
  | _ => none

/-- What the file system says where it refuses what is asked of it. -/
def refusal? : Fault → Option String
  | .noSuchFile => some "[Errno 2] No such file or directory"
  | .alreadyThere => some "[Errno 17] File exists"
  | .notADirectory => some "[Errno 20] Not a directory"
  | .isDirectory => some "[Errno 21] Is a directory"
  | .nameTooLong => some "[Errno 36] File name too long"
  | _ => none

end Fault

/-- A computation has a result when its first part has one and the rest has one from there. -/
theorem bind_eq_ok_iff {ε α β : Type} {x : Except ε α} {f : α → Except ε β} {b : β} :
    x >>= f = .ok b ↔ ∃ a, x = .ok a ∧ f a = .ok b := by
  cases x <;> simp [bind, Except.bind]

theorem map_eq_ok_iff {ε α β : Type} {x : Except ε α} {f : α → β} {b : β} :
    x.map f = .ok b ↔ ∃ a, x = .ok a ∧ f a = b := by
  cases x <;> simp [Except.map]

/-- A computation fails where its first part fails, or where the rest fails from its result. -/
theorem bind_eq_error_iff {ε α β : Type} {x : Except ε α} {f : α → Except ε β} {fault : ε} :
    x >>= f = .error fault ↔ x = .error fault ∨ ∃ a, x = .ok a ∧ f a = .error fault := by
  cases x <;> simp [bind, Except.bind]

theorem map_eq_error_iff {ε α β : Type} {x : Except ε α} {f : α → β} {fault : ε} :
    x.map f = .error fault ↔ x = .error fault := by
  cases x <;> simp [Except.map]

/-- Two computations that fail alike where both fail may change places. -/
theorem bind_comm_of_error_eq {ε α β γ : Type} {x : Except ε α} {y : Except ε β}
    (h : ∀ first second, x = .error first → y = .error second → first = second)
    (f : α → β → Except ε γ) :
    (x >>= fun a => y >>= fun b => f a b) = y >>= fun b => x >>= fun a => f a b := by
  cases x with
  | ok a => rfl
  | error first =>
    cases y with
    | ok b => rfl
    | error second => exact congrArg Except.error (h first second rfl rfl)

section Lists

variable {ε α β γ : Type} {f : α → Except ε β} {xs : List α} {ys : List β} {fault : ε}

/-- A list has results where each of its items has one, and only there. -/
theorem exists_mapM_eq_ok_iff :
    (∃ ys, xs.mapM f = .ok ys) ↔ ∀ x ∈ xs, ∃ y, f x = .ok y := by
  induction xs with
  | nil => simp [pure, Except.pure]
  | cons x rest ih =>
    rw [List.forall_mem_cons, ← ih, List.mapM_cons]
    cases f x <;> cases rest.mapM f <;> simp [bind, Except.bind, pure, Except.pure]

/-- The first item of a list without a result is what leaves the list without results. -/
theorem mapM_eq_error_iff :
    xs.mapM f = .error fault ↔ ∃ before x after, xs = before ++ x :: after ∧
      (∀ earlier ∈ before, ∃ y, f earlier = .ok y) ∧ f x = .error fault := by
  induction xs with
  | nil => simp [pure, Except.pure]
  | cons x rest ih =>
    rw [List.mapM_cons, bind_eq_error_iff]
    constructor
    · rintro (hfirst | ⟨y, hy, hrest⟩)
      · exact ⟨[], x, rest, rfl, nofun, hfirst⟩
      · obtain ⟨before, bad, after, rfl, hbefore, hbad⟩ :=
          ih.mp ((bind_eq_error_iff.mp hrest).resolve_right (by simp [pure, Except.pure]))
        exact ⟨x :: before, bad, after, rfl, List.forall_mem_cons.mpr ⟨⟨y, hy⟩, hbefore⟩, hbad⟩
    · rintro ⟨before, bad, after, hxs, hbefore, hbad⟩
      cases before with
      | nil =>
        obtain ⟨rfl, rfl⟩ := List.cons.inj hxs
        exact .inl hbad
      | cons first before =>
        obtain ⟨rfl, rfl⟩ := List.cons.inj hxs
        obtain ⟨⟨y, hy⟩, hbefore⟩ := List.forall_mem_cons.mp hbefore
        exact .inr ⟨y, hy, bind_eq_error_iff.mpr (.inl (ih.mpr ⟨_, _, _, rfl, hbefore, hbad⟩))⟩

/-- The items of a list that fail only for one cause leave it without results for that cause. -/
theorem mapM_eq_error_iff_of_cause {bad : α → Prop} {cause : ε}
    (hf : ∀ x ∈ xs, ∀ fault, f x = .error fault ↔ fault = cause ∧ bad x) :
    xs.mapM f = .error fault ↔ fault = cause ∧ ∃ x ∈ xs, bad x := by
  rw [mapM_eq_error_iff]
  constructor
  · rintro ⟨before, x, after, rfl, -, hx⟩
    obtain ⟨rfl, hbad⟩ := (hf x (by simp) fault).mp hx
    exact ⟨rfl, x, by simp, hbad⟩
  · rintro ⟨rfl, x, hmem, hbad⟩
    have hx : f x = .error fault := (hf x hmem fault).mpr ⟨rfl, hbad⟩
    cases hall : xs.mapM f with
    | ok ys =>
      obtain ⟨y, hy⟩ := exists_mapM_eq_ok_iff.mp ⟨ys, hall⟩ x hmem
      rw [hx] at hy
      cases hy
    | error other =>
      obtain ⟨before, first, after, rfl, hbefore, hfirst⟩ := mapM_eq_error_iff.mp hall
      obtain ⟨rfl, -⟩ := (hf first (by simp) other).mp hfirst
      exact ⟨before, first, after, rfl, hbefore, hfirst⟩

/-- What the results of a list show of their items stands in the order of the items. -/
theorem map_eq_map_of_mapM {g : β → γ} {k : α → γ} (h : xs.mapM f = .ok ys)
    (hg : ∀ x y, f x = .ok y → g y = k x) : ys.map g = xs.map k := by
  induction xs generalizing ys with
  | nil =>
    cases h
    rfl
  | cons x rest ih =>
    rw [List.mapM_cons] at h
    obtain ⟨y, hy, hrest⟩ := bind_eq_ok_iff.mp h
    obtain ⟨others, hothers, hys⟩ := bind_eq_ok_iff.mp hrest
    cases hys
    rw [List.map_cons, List.map_cons, hg x y hy, ih hothers]

end Lists

end RequestScript
