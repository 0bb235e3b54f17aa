import Mathlib.Data.List.Forall2
import RequestScript.Proofs.Percent
import RequestScript.Proofs.Variables.Fixed
import RequestScript.Script.Document
import RequestScript.Script.Resolved

/-!
# Query parameters

The query parameters of a request come behind its URL, each as an encoded key and an encoded value.
They can be told apart again, and each of them says the key and the value that were filled in. They
are the end of the query of the URL unless the URL has a fragment, which they end up in.
-/

namespace RequestScript

open Text
open List (Forall₂)

/-- A text with its placeholders replaced in a world, or the fault that stops this. -/
def World.filled (world : World) (text : String) : Except Fault String :=
  ((Action.interpolate text).on world).1

/-- The texts that a query parameter is made from. -/
def QueryPair.texts (pair : QueryPair) : List String :=
  [pair.key, pair.value]

/-- What a query parameter is in a world: its key and its value with their placeholders replaced. -/
structure QueryPair.Fills (world : World) (pair : QueryPair) (filled : String × String) : Prop where
  key : world.filled pair.key = .ok filled.1
  value : world.filled pair.value = .ok filled.2

/-- A key and a value as a part of a URL. -/
def encodedPair (filled : String × String) : String :=
  Percent.encode filled.1 ++ "=" ++ Percent.encode filled.2

/-! ## Parts of a URL -/

/-- No mark that divides a URL is in an encoded pair but the equals sign. -/
theorem not_mem_encodedPair {mark : Char} (h : mark ∈ ['&', '=', '#', '?']) (hequals : mark ≠ '=')
    (filled : String × String) : mark ∉ (encodedPair filled).toList := by
  have hkey := Percent.not_mem_encode h filled.1
  have hvalue := Percent.not_mem_encode h filled.2
  simp [encodedPair, hkey, hvalue, hequals]

/-- No number sign is in encoded query parameters. -/
theorem not_mem_encodedPairs (pairs : List (String × String)) :
    '#' ∉ ("&".intercalate (pairs.map encodedPair)).toList := by
  rw [String.toList_intercalate, ← join_eq_intercalate]
  intro hmem
  rcases mem_join hmem with hmem | ⟨text, htext, hmem⟩
  · revert hmem
    decide
  · rw [List.map_map] at htext
    obtain ⟨filled, -, rfl⟩ := List.mem_map.mp htext
    exact not_mem_encodedPair (by decide) (by decide) filled hmem

namespace Action

variable {text : String} {world : World}

end Action

namespace Request

open RequestScript.Action

variable {request : Request} {world : World}

theorem appendQuery_of_ne_nil {pairs : List String} (h : pairs ≠ []) (url : String) :
    appendQuery url pairs =
      url ++ (if '?' ∈ url.toList then "&" else "?") ++ "&".intercalate pairs := by
  simp [appendQuery, h]

/-- The query of a URL: what stands between the first question mark and the fragment, which begins
with a number sign. -/
def queryOf? (url : List Char) : Option (List Char) :=
  (cut? '?' (url.takeWhile (· != '#'))).map (·.2)

/-- A text is the end of the query of a URL. -/
def EndsQuery (params url : String) : Prop :=
  ∃ query, queryOf? url.toList = some query ∧ params.toList <:+ query

/-- Whatever comes behind a fragment belongs to it. -/
theorem queryOf?_append_of_mem {url : List Char} (h : '#' ∈ url) (rest : List Char) :
    queryOf? (url ++ rest) = queryOf? url := by
  have hcut : (url ++ rest).takeWhile (· != '#') = url.takeWhile (· != '#') := by
    rw [List.takeWhile_append, if_neg]
    intro hlength
    have hself := List.takeWhile_eq_self_iff.mp
      ((List.takeWhile_prefix (· != '#')).eq_of_length hlength) '#' h
    cases hself
  rw [queryOf?, queryOf?, hcut]

/-- A URL without a fragment is cut at its first question mark. -/
theorem queryOf?_of_not_mem {url : List Char} (h : '#' ∉ url) :
    queryOf? url = (cut? '?' url).map (·.2) := by
  have hself : url.takeWhile (· != '#') = url :=
    List.takeWhile_eq_self_iff.mpr fun c hc => bne_iff_ne.mpr fun heq => h (heq ▸ hc)
  rw [queryOf?, hself]

/-- Parameters end the query of the URL that they are appended to if it has no fragment. With a
fragment they do not change the query. -/
theorem endsQuery_appendQuery_iff {pairs : List (String × String)} (hne : pairs ≠ [])
    (url : String) :
    EndsQuery ("&".intercalate (pairs.map encodedPair)) (appendQuery url (pairs.map encodedPair)) ↔
      '#' ∉ url.toList ∨ EndsQuery ("&".intercalate (pairs.map encodedPair)) url := by
  rw [appendQuery_of_ne_nil (by simpa using hne)]
  have hparams := not_mem_encodedPairs pairs
  generalize "&".intercalate (pairs.map encodedPair) = params at hparams
  unfold EndsQuery
  rw [String.toList_append, String.toList_append, List.append_assoc]
  by_cases hfragment : '#' ∈ url.toList
  · simp only [queryOf?_append_of_mem hfragment, hfragment, not_true_eq_false, false_or]
  · refine iff_of_true ?_ (.inl hfragment)
    have hwhole : '#' ∉ url.toList ++
        ((if '?' ∈ url.toList then "&" else "?").toList ++ params.toList) := by
      split <;> simp [hfragment, hparams]
    rw [queryOf?_of_not_mem hwhole]
    split
    · next hmark =>
      obtain ⟨front, back, hurl, hfront⟩ := List.eq_append_cons_of_mem hmark
      rw [hurl, List.append_assoc, List.cons_append, cut?_append hfront]
      exact ⟨_, rfl, (List.suffix_cons '&' _).trans (List.suffix_append back _)⟩
    · next hmark =>
      exact ⟨_, congrArg (Option.map Prod.snd) (cut?_append hmark params.toList), List.suffix_rfl⟩

/-- The parts of a URL that come from query parameters are encoded pairs. -/
theorem mapM_queryText_ok {query : List QueryPair} {texts : List String} {world after : World}
    (h : (query.mapM queryText).on world = (.ok texts, after)) :
    ∃ pairs : List (String × String), texts = pairs.map encodedPair ∧
      pairs.length = query.length := by
  induction query generalizing texts world with
  | nil =>
    cases h
    exact ⟨[], rfl, rfl⟩
  | cons pair query ih =>
    rw [List.mapM_cons] at h
    obtain ⟨first, between, hfirst, h⟩ := on_bind_ok h
    obtain ⟨rest, last, hrest, h⟩ := on_bind_ok h
    cases h
    obtain ⟨pairs, rfl, hlength⟩ := ih hrest
    unfold queryText at hfirst
    obtain ⟨key, _, -, hfirst⟩ := on_bind_ok hfirst
    obtain ⟨value, _, -, hfirst⟩ := on_bind_ok hfirst
    cases hfirst
    exact ⟨(key, value) :: pairs, rfl, congrArg Nat.succ hlength⟩

/-- **Parameters end the query of a URL without a fragment.** Where the URL of a request has its
placeholders replaced and is followed by encoded parameters, these end its query exactly if no
number sign stands in what comes before them, or if they end that query anyway. -/
theorem endsQuery_resolveUrl_iff (hquery : request.query ≠ []) {result : String} {after : World}
    (h : request.resolveUrl.on world = (.ok result, after)) :
    ∃ url between texts, (interpolate request.url).on world = (.ok url, between) ∧
      (request.query.mapM queryText).on between = (.ok texts, after) ∧
      (EndsQuery ("&".intercalate texts) result ↔
        '#' ∉ url.toList ∨ EndsQuery ("&".intercalate texts) url) := by
  unfold resolveUrl at h
  obtain ⟨url, between, hurl, h⟩ := on_bind_ok h
  obtain ⟨texts, last, htexts, h⟩ := on_bind_ok h
  cases h
  obtain ⟨pairs, rfl, hlength⟩ := mapM_queryText_ok htexts
  have hne : pairs ≠ [] := by
    rintro rfl
    exact hquery (List.length_eq_zero_iff.mp hlength.symm)
  exact ⟨url, between, _, hurl, htexts, endsQuery_appendQuery_iff hne url⟩

/-- A request with a query of its own and a parameter with a drawn value and a number sign. -/
def drawnRequest : Request where
  url := "http://h/?a=1"
  query := [⟨"b", "\x7b\x7b$randomInt\x7d\x7d#"⟩]

/-- The parameter of this request comes behind the query that its URL has. -/
theorem endsQuery_resolveUrl_iff_drawn :
    ∃ texts after, drawnRequest.resolveUrl.on World.quiet =
        (.ok "http://h/?a=1&b=0%23", after) ∧
      EndsQuery ("&".intercalate texts) "http://h/?a=1&b=0%23" := by
  have hresult : (drawnRequest.resolveUrl.on World.quiet).1 = .ok "http://h/?a=1&b=0%23" := by
    decide +kernel
  have hon : drawnRequest.resolveUrl.on World.quiet = (.ok "http://h/?a=1&b=0%23", _) :=
    Prod.ext hresult rfl
  obtain ⟨url, between, texts, hurl, -, hends⟩ := endsQuery_resolveUrl_iff (by decide) hon
  have hliteral : IsLiteral drawnRequest.url := by decide +kernel
  rw [on_interpolate_literal hliteral] at hurl
  obtain ⟨hsame, -⟩ := Prod.mk.inj hurl
  have hmark : '#' ∉ url.toList := by
    rw [← Except.ok.inj hsame]
    decide
  exact ⟨texts, _, hon, hends.mpr (.inl hmark)⟩

/-- A script with a query parameter for a URL that has a fragment. -/
def fragmentScript : String :=
  "###\n@query a=1\nGET http://h/#top\n"

/-- The parameter of this script ends up behind the fragment: the URL has no query. -/
theorem not_endsQuery_behind_fragment :
    ∃ document, Document.parse fragmentScript = .ok document ∧ ∃ request ∈ document.requests,
      request.query = [⟨"a", "1"⟩] ∧ encodedPair ("a", "1") = "a=1" ∧
      ∃ after, request.resolveUrl.on World.quiet = (.ok "http://h/#top?a=1", after) ∧
        ¬EndsQuery "a=1" "http://h/#top?a=1" := by
  have hfacts : (Document.parse fragmentScript).toOption.map (fun document =>
      document.requests.map fun request =>
        (request.query, (request.resolveUrl.on World.quiet).1)) =
      some [([⟨"a", "1"⟩], .ok "http://h/#top?a=1")] := by
    decide +kernel
  have hencoded : encodedPair ("a", "1") = "a=1" := by decide +kernel
  have hnone : queryOf? "http://h/#top?a=1".toList = none := by decide +kernel
  cases hparse : Document.parse fragmentScript with
  | error fault =>
    rw [hparse] at hfacts
    cases hfacts
  | ok document =>
    rw [hparse] at hfacts
    obtain ⟨request, hrequests, hrequest⟩ := List.map_eq_singleton_iff.mp (Option.some.inj hfacts)
    obtain ⟨hquery, hresult⟩ := Prod.mk.inj hrequest
    refine ⟨document, rfl, request, hrequests ▸ List.mem_singleton_self _, hquery, hencoded,
      _, Prod.ext hresult rfl, ?_⟩
    rintro ⟨query, hsome, -⟩
    rw [hnone] at hsome
    cases hsome

end Request

end RequestScript
