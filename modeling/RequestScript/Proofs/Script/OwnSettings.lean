import RequestScript.Proofs.Script.Merging

/-!
# What a request sets itself

The last line of a block that gives a timeout decides on the timeout of its request, and the last
line that gives retries decides on the retries. The configuration block that a request takes its
defaults from fills in what no line of the request's own block gives. The two are not told apart
alike: retries of zero are kept, while a timeout of zero gives way to that of the configuration
block.
-/

namespace RequestScript

open Text

/-- The timeout that a line gives to its request. -/
def ScriptLine.timeout? : ScriptLine → Option Nat
  | .directive (some (.timeout milliseconds)) => some milliseconds
  | _ => none

/-- The retries that a line gives to its request. -/
def ScriptLine.retry? : ScriptLine → Option Retry
  | .directive (some (.retry retry)) => some retry
  | _ => none

namespace Document

/-- The timeout of a block of lines: that of the last line that gives one. -/
def blockTimeout (texts : List (List Char)) (first last : Nat) : Option Nat :=
  ((sayings texts first (last + 1)).filterMap ScriptLine.timeout?).getLast?

/-- The retries of a block of lines: those of the last line that gives any. -/
def blockRetry (texts : List (List Char)) (first last : Nat) : Option Retry :=
  ((sayings texts first (last + 1)).filterMap ScriptLine.retry?).getLast?

/-- A request keeps what its own block sets, and has what is left from the configuration block that
it takes its defaults from. -/
structure KeepsSettings (texts : List (List Char)) (request : Request) : Prop where
  /-- Retries are kept, with the delay that is given with them, however many they are. -/
  retry : ∀ own, blockRetry texts request.startLine request.endLine = some own →
    request.retry = some own
  /-- Where no line gives retries they are those of the configuration block, of which zero counts
  as none. -/
  retry_of_none : blockRetry texts request.startLine request.endLine = none →
    request.retry =
      ((request.config.bind (·.retries)).filter (· ≠ 0)).map fun count => { count }
  /-- A timeout other than zero is kept. -/
  timeout : ∀ own : Nat, blockTimeout texts request.startLine request.endLine = some own →
    own ≠ 0 → request.timeout = some (own : Int)
  /-- A timeout of zero is kept where the configuration block has no other one. -/
  timeout_of_zero : blockTimeout texts request.startLine request.endLine = some 0 →
    request.timeout = ((request.config.bind (·.timeout)).filter (· ≠ 0)).or (some 0)
  /-- Where no line gives a timeout it is that of the configuration block, of which zero counts as
  none. -/
  timeout_of_none : blockTimeout texts request.startLine request.endLine = none →
    request.timeout = (request.config.bind (·.timeout)).filter (· ≠ 0)

end Document

/-! ## What the lines give -/

namespace Request

theorem timeout_applyLine (request : Request) (said : ScriptLine) :
    (request.applyLine said).timeout =
      (said.timeout?.map fun own : Nat => some (own : Int)).getD request.timeout := by
  cases said with
  | comment | method | header | other => rfl
  | directive content =>
    cases content with
    | none => rfl
    | some content => cases content <;> rfl

theorem retry_applyLine (request : Request) (said : ScriptLine) :
    (request.applyLine said).retry = (said.retry?.map some).getD request.retry := by
  cases said with
  | comment | method | header | other => rfl
  | directive content =>
    cases content with
    | none => rfl
    | some content => cases content <;> rfl

/-- No line of a block names a configuration block. -/
theorem config_applyLine (request : Request) (said : ScriptLine) :
    (request.applyLine said).config = request.config := by
  cases said with
  | comment | method | header | other => rfl
  | directive content =>
    cases content with
    | none => rfl
    | some content => cases content <;> rfl

end Request

namespace Document

variable {texts : List (List Char)} {request : Request}

theorem IsTold.timeout_eq (h : IsTold texts request) :
    request.timeout =
      (blockTimeout texts request.startLine request.endLine).map fun own : Nat => (own : Int) := by
  have htimeout := congrArg Request.timeout h.bodiless
  change request.timeout = (Request.ofSayings _ _).timeout at htimeout
  rw [htimeout, Request.field_ofSayings Request.timeout_applyLine, ← blockTimeout]
  cases blockTimeout texts request.startLine request.endLine <;> rfl

theorem IsTold.retry_eq (h : IsTold texts request) :
    request.retry = blockRetry texts request.startLine request.endLine := by
  have hretry := congrArg Request.retry h.bodiless
  change request.retry = (Request.ofSayings _ _).retry at hretry
  rw [hretry, Request.field_ofSayings Request.retry_applyLine, ← blockRetry]
  cases blockRetry texts request.startLine request.endLine <;> rfl

/-- A request that only its own lines tell takes its defaults from no configuration block. -/
theorem IsTold.config_eq (h : IsTold texts request) : request.config = none := by
  have hnone (sayings : List ScriptLine) :
      (Request.ofSayings request.startLine sayings).config = none := by
    induction sayings using List.reverseRecOn with
    | nil => rfl
    | append_singleton sayings said ih =>
      rw [Request.ofSayings, List.foldl_append, ← Request.ofSayings, List.foldl_cons,
        List.foldl_nil, Request.config_applyLine, ih]
  have hconfig := congrArg Request.config h.bodiless
  exact hconfig.trans (hnone _)

/-! ## What is left to the configuration block -/

/-- The retries that a request sets count before those of its configuration block. -/
theorem retry_resolveConfig (configs : List ConfigBlock) (h : request.config = none) :
    (resolveConfig configs request).retry = request.retry.or
      ((((resolveConfig configs request).config.bind (·.retries)).filter (· ≠ 0)).map
        fun count => { count }) := by
  unfold resolveConfig
  cases configFor? configs request with
  | none => simp [h]
  | some block => exact retry_applyConfig block request

/-- A timeout of the configuration block counts where the request sets none, or zero. -/
theorem timeout_resolveConfig (configs : List ConfigBlock) (h : request.config = none) :
    (resolveConfig configs request).timeout =
      if isSet request.timeout then request.timeout
      else (((resolveConfig configs request).config.bind (·.timeout)).filter (· ≠ 0)).or
        request.timeout := by
  unfold resolveConfig
  cases configFor? configs request with
  | none => simp [h]
  | some block =>
    simp only [applyConfig, Option.bind_some]
    cases hown : isSet request.timeout with
    | true => simp
    | false =>
      cases hblock : block.timeout with
      | none => simp [isSet]
      | some n => by_cases hn : n = 0 <;> simp [isSet, hn, Option.filter]

/-- The defaults of a script and of its configuration blocks leave a request what its own block
sets. -/
theorem keepsSettings_of_isTold {own : Request} (h : IsTold texts own)
    (collection : Option String) (tags : List String) (configs : List ConfigBlock) :
    KeepsSettings texts (resolveConfig configs (applyDefaults collection tags own)) := by
  have hconfig : (applyDefaults collection tags own).config = none := h.config_eq
  have hretry := retry_resolveConfig configs hconfig
  have htimeout := timeout_resolveConfig configs hconfig
  obtain ⟨hfirst, hlast⟩ := startLine_endLine_of_defaults configs collection tags own
  generalize resolveConfig configs (applyDefaults collection tags own) = request at *
  have hownRetry : (applyDefaults collection tags own).retry =
      blockRetry texts request.startLine request.endLine := by
    rw [hfirst, hlast, ← h.retry_eq]
    rfl
  have hownTimeout : (applyDefaults collection tags own).timeout =
      (blockTimeout texts request.startLine request.endLine).map fun own : Nat => (own : Int) := by
    rw [hfirst, hlast, ← h.timeout_eq]
    rfl
  rw [hownRetry] at hretry
  rw [hownTimeout] at htimeout
  constructor
  · intro kept hkept
    rw [hretry, hkept, Option.some_or]
  · intro hnone
    rw [hretry, hnone, Option.none_or]
  · intro kept hkept hzero
    rw [htimeout, hkept]
    simp [isSet, hzero]
  · intro hzero
    rw [htimeout, hzero]
    rfl
  · intro hnone
    rw [htimeout, hnone]
    simp [isSet]

/-- **What a request sets itself counts before its configuration block**, for every script and
every request of it: retries whatever they are, and a timeout unless it is zero. The configuration
block fills in what no line of the request's own block gives, and a timeout of zero. -/
theorem parse_keeps_settings {text : String} {document : Document}
    (h : parse text = .ok document) :
    ∀ request ∈ document.requests, KeepsSettings (lines text.toList) request := by
  intro request hmem
  obtain ⟨own, htold, rfl⟩ := exists_isTold_of_mem_requests h hmem
  exact keepsSettings_of_isTold htold _ _ _

/-- A script whose configuration block gives a timeout and retries, and four requests: one that sets
both, twice, one that sets nothing, and two that set zero. -/
def settingsScript : String :=
  "@config\ntimeout: 5000\nretries: 3\n###\n@timeout 9\n@retry 1\nGET /own\n\n[]\n" ++
    "@retry 2 delay 0\n@timeout 7\n@timeout soon\n###\nGET /none\n###\n@retry 0\nGET /once\n" ++
    "###\n@timeout 0\nGET /zero\n"

theorem parse_keeps_settings_settingsScript :
    ∃ document, parse settingsScript = .ok document ∧
      document.requests.map (fun request => (request.timeout, request.retry)) =
        [(some 7, some { count := 2, delay := some 0 }), (some 5000, some { count := 3 }),
          (some 5000, some { count := 0 }), (some 5000, some { count := 3 })] ∧
      document.requests.map (fun request =>
          blockTimeout (lines settingsScript.toList) request.startLine request.endLine) =
        [some 7, none, none, some 0] ∧
      ∀ request ∈ document.requests, KeepsSettings (lines settingsScript.toList) request := by
  have hfacts : (parse settingsScript).map (fun document =>
      (document.requests.map fun request => (request.timeout, request.retry),
        document.requests.map fun request =>
          blockTimeout (lines settingsScript.toList) request.startLine request.endLine)) =
      .ok ([(some 7, some { count := 2, delay := some 0 }), (some 5000, some { count := 3 }),
          (some 5000, some { count := 0 }), (some 5000, some { count := 3 })],
        [some 7, none, none, some 0]) := by
    decide +kernel
  obtain ⟨document, hparse, hdocument⟩ := map_eq_ok_iff.mp hfacts
  obtain ⟨hsettings, hown⟩ := Prod.mk.inj hdocument
  exact ⟨document, hparse, hsettings, hown, parse_keeps_settings hparse⟩

/-- A timeout of zero is not kept: a request sets it, and has that of the configuration block. -/
theorem timeout_zero_not_kept :
    ¬∀ text document, parse text = .ok document → ∀ request ∈ document.requests, ∀ own : Nat,
      blockTimeout (lines text.toList) request.startLine request.endLine = some own →
        request.timeout = some (own : Int) := by
  intro hkept
  let text := "@config\ntimeout: 5000\n\n###\n@timeout 0\nGET http://h/\n"
  have hfacts : (parse text).map (fun document => document.requests.map fun request =>
      (blockTimeout (lines text.toList) request.startLine request.endLine, request.timeout)) =
      .ok [(some 0, some 5000)] := by
    decide +kernel
  obtain ⟨document, hparse, hdocument⟩ := map_eq_ok_iff.mp hfacts
  obtain ⟨request, hmem, hrequest⟩ := List.mem_map.mp (hdocument ▸ List.mem_singleton_self _)
  obtain ⟨hown, htimeout⟩ := Prod.mk.inj hrequest
  have hzero := hkept text document hparse request hmem 0 hown
  rw [htimeout] at hzero
  exact absurd hzero (by decide)

end Document

end RequestScript
