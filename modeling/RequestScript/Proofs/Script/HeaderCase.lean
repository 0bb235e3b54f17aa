import RequestScript.Proofs.Header
import RequestScript.Proofs.Script.OwnSettings

/-!
# The case of header names in scripts

The headers that the block of a request gives override those of its configuration block. Where the
two spell a name in two ways both of them stay, so that the name is found in the request's spelling
with the request's value, and in every other spelling with the value of the configuration block.
-/

namespace RequestScript

open Text

/-- The header that a line gives to its request. -/
def ScriptLine.header? : ScriptLine → Option (String × String)
  | .header key value | .directive (some (.header key value)) => some (key, value)
  | _ => none

namespace Request

/-- The headers of the configuration block that a request takes its defaults from. -/
def configHeaders (request : Request) : Headers :=
  request.config.elim [] (·.headers)

theorem headers_applyLine (request : Request) (said : ScriptLine) :
    (request.applyLine said).headers = Table.merge request.headers said.header?.toList := by
  cases said with
  | comment | method | header | other => rfl
  | directive content =>
    cases content with
    | none => rfl
    | some content => cases content <;> rfl

theorem headers_ofSayings (first : Nat) (sayings : List ScriptLine) :
    (ofSayings first sayings).headers =
      Table.ofPairs (sayings.filterMap ScriptLine.header?) := by
  induction sayings using List.reverseRecOn with
  | nil => rfl
  | append_singleton sayings said ih =>
    have happend (front back : Headers) :
        Table.ofPairs (front ++ back) = Table.merge (Table.ofPairs front) back :=
      List.foldl_append
    rw [ofSayings, List.foldl_append, ← ofSayings, List.foldl_cons, List.foldl_nil,
      headers_applyLine, ih, List.filterMap_append, happend]
    cases hsaid : said.header? <;> simp [hsaid]

end Request

namespace Document

/-- The headers that a block of lines gives; of one name the last header counts. -/
def blockHeaders (texts : List (List Char)) (first last : Nat) : Headers :=
  Table.ofPairs ((sayings texts first (last + 1)).filterMap ScriptLine.header?)

variable {texts : List (List Char)} {request : Request}

theorem IsTold.headers_eq (h : IsTold texts request) :
    request.headers = blockHeaders texts request.startLine request.endLine := by
  have hheaders := congrArg Request.headers h.bodiless
  exact hheaders.trans (Request.headers_ofSayings _ _)

/-- The headers of a request override those of its configuration block, if it has one. -/
theorem headers_resolveConfig (configs : List ConfigBlock) (h : request.config = none)
    (hnodup : (Table.names request.headers).Nodup) :
    (resolveConfig configs request).headers =
      Table.merge (resolveConfig configs request).configHeaders request.headers := by
  unfold resolveConfig
  cases configFor? configs request with
  | none =>
    rw [Request.configHeaders, h]
    exact (Table.ofPairs_of_nodup hnodup).symm
  | some block => rfl

/-- **Headers of a request override those of its configuration block**, for every script and every
request of it, if neither its own block nor the configuration block spells a name in two ways: no
name is there in two spellings and the request's value is found in every spelling, unless the two
blocks differ in how they spell it. -/
theorem parse_overrides_headers {text : String} {document : Document}
    (hparse : parse text = .ok document) {request : Request} (hmem : request ∈ document.requests)
    (hown : (blockHeaders (lines text.toList) request.startLine request.endLine).CaseDistinct)
    (hconfig : request.configHeaders.CaseDistinct) :
    Headers.Overrides request.configHeaders
      (blockHeaders (lines text.toList) request.startLine request.endLine) request.headers := by
  obtain ⟨own, htold, rfl⟩ := exists_isTold_of_mem_requests hparse hmem
  obtain ⟨hfirst, hlast⟩ := startLine_endLine_of_defaults document.configs document.collection
    document.tags own
  have hheaders : (resolveConfig document.configs (applyDefaults document.collection document.tags
      own)).headers = Table.merge (resolveConfig document.configs (applyDefaults document.collection
        document.tags own)).configHeaders own.headers :=
    headers_resolveConfig document.configs htold.config_eq htold.nodup_headers
  generalize resolveConfig document.configs (applyDefaults document.collection document.tags own) =
    request at *
  rw [hheaders, htold.headers_eq, ← hfirst, ← hlast]
  exact Headers.overrides_merge hconfig hown

/-- A script whose configuration block gives two headers, and a request that overrides both, the one
in another spelling. -/
def respellingScript : String :=
  "@config\nheaders:\n  Accept: a\n  X-Env: test\n###\nGET http://h/\naccept: b\nX-Env: own\n" ++
    "@header X-Own: 1\n"

theorem parse_overrides_headers_respellingScript :
    ∃ document, parse respellingScript = .ok document ∧
      document.requests.map (fun request => (request.headers,
          ["Accept", "accept", "ACCEPT", "x-env"].map request.headers.find?)) =
        [([("Accept", "a"), ("X-Env", "own"), ("accept", "b"), ("X-Own", "1")],
          [some "a", some "b", some "a", some "own"])] ∧
      ∀ request ∈ document.requests, Headers.Overrides request.configHeaders
        (blockHeaders (lines respellingScript.toList) request.startLine request.endLine)
        request.headers := by
  have hfacts : (parse respellingScript).map (fun document =>
      (document.requests.map fun request => (request.headers,
          ["Accept", "accept", "ACCEPT", "x-env"].map request.headers.find?),
        document.requests.all fun request =>
          (blockHeaders (lines respellingScript.toList) request.startLine
            request.endLine).CaseDistinct ∧ request.configHeaders.CaseDistinct)) =
      .ok ([([("Accept", "a"), ("X-Env", "own"), ("accept", "b"), ("X-Own", "1")],
          [some "a", some "b", some "a", some "own"])], true) := by
    decide +kernel
  obtain ⟨document, hparse, hdocument⟩ := map_eq_ok_iff.mp hfacts
  obtain ⟨hheaders, hdistinct⟩ := Prod.mk.inj hdocument
  refine ⟨document, hparse, hheaders, fun request hmem => ?_⟩
  obtain ⟨hown, hconfig⟩ := of_decide_eq_true (List.all_eq_true.mp hdistinct request hmem)
  exact parse_overrides_headers hparse hmem hown hconfig

/-- A header does not override one whose name is spelled in another way: the two stay, and most
spellings find the one of the configuration block. -/
theorem header_not_overridden :
    ¬∀ text document, parse text = .ok document → ∀ request ∈ document.requests,
      (blockHeaders (lines text.toList) request.startLine request.endLine).CaseDistinct →
      request.configHeaders.CaseDistinct →
        request.headers.CaseDistinct ∧
        ∀ name value, (name, value) ∈
            blockHeaders (lines text.toList) request.startLine request.endLine →
          ∀ spelling, Headers.sameName spelling name = true →
            request.headers.find? spelling = some value := by
  intro hoverrides
  let text := "@config\nheaders:\n  Accept: a\n###\nGET http://h/\naccept: b\n"
  have hfacts : (parse text).map (fun document => document.requests.map fun request =>
      (blockHeaders (lines text.toList) request.startLine request.endLine, request.configHeaders,
        request.headers)) =
      .ok [([("accept", "b")], [("Accept", "a")], [("Accept", "a"), ("accept", "b")])] := by
    decide +kernel
  obtain ⟨document, hparse, hdocument⟩ := map_eq_ok_iff.mp hfacts
  obtain ⟨request, hmem, hrequest⟩ := List.mem_map.mp (hdocument ▸ List.mem_singleton_self _)
  obtain ⟨hown, hheaders⟩ := Prod.mk.inj hrequest
  obtain ⟨hconfig, hmerged⟩ := Prod.mk.inj hheaders
  have hdistinct := (hoverrides text document hparse request hmem (by rw [hown]; decide)
    (by rw [hconfig]; decide)).1
  rw [hmerged] at hdistinct
  exact absurd hdistinct (by decide)

end Document

end RequestScript
