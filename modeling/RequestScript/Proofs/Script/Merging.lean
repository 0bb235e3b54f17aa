import RequestScript.Proofs.Script.WellFormed

/-!
# Defaults of configuration blocks

Every request takes its defaults from at most one configuration block: the first one for its
collection, or else the first one for no collection. What it says itself counts before what the
block says. The blocks of a script stay what their own lines say, however many requests take their
defaults from them.
-/

namespace RequestScript

open Text

/-! ## The block of a request -/

namespace Document

/-- A block is the first one for a collection, or for none. -/
structure FirstFor (configs : List ConfigBlock) (collection : Option String) (block : ConfigBlock) :
    Prop where
  collection_eq : block.collection = collection
  no_earlier : ∃ front back, configs = front ++ block :: back ∧
    ∀ earlier ∈ front, earlier.collection ≠ collection

/-- No block is for a collection, or for none. -/
def NoneFor (configs : List ConfigBlock) (collection : Option String) : Prop :=
  ∀ block ∈ configs, block.collection ≠ collection

/-- The block that a request of a collection takes its defaults from. -/
inductive Chooses (configs : List ConfigBlock) (collection : Option String) :
    Option ConfigBlock → Prop
  /-- The first block for the collection. -/
  | own {name : String} {block : ConfigBlock} : collection = some name →
      FirstFor configs collection block → Chooses configs collection (some block)
  /-- The first block for no collection, where there is none for the collection. -/
  | shared {block : ConfigBlock} : (∀ name, collection = some name → NoneFor configs (some name)) →
      FirstFor configs none block → Chooses configs collection (some block)
  /-- None, where all blocks are for other collections. -/
  | nothing : (∀ name, collection = some name → NoneFor configs (some name)) →
      NoneFor configs none → Chooses configs collection none

variable {configs : List ConfigBlock} {request : Request} {collection : Option String}

theorem find?_eq_some_iff {block : ConfigBlock} :
    configs.find? (·.collection == collection) = some block ↔
      FirstFor configs collection block := by
  rw [List.find?_eq_some_iff_append]
  constructor
  · rintro ⟨hblock, front, back, hsplit, hfront⟩
    exact ⟨by simpa using hblock, front, back, hsplit, by simpa using hfront⟩
  · rintro ⟨hblock, front, back, hsplit, hfront⟩
    exact ⟨by simpa using hblock, front, back, hsplit, by simpa using hfront⟩

theorem find?_eq_none_iff :
    configs.find? (·.collection == collection) = none ↔ NoneFor configs collection := by
  simp [NoneFor]

/-- The block for a request is looked for by the collections of the blocks alone. -/
theorem configFor?_eq (configs : List ConfigBlock) (request : Request) :
    configFor? configs request =
      (request.collection.bind fun name => configs.find? (·.collection == some name)).or
        (configs.find? (·.collection == none)) := by
  have hnone : (fun block : ConfigBlock => block.collection.isNone) = (·.collection == none) := by
    funext block
    cases block.collection <;> rfl
  rw [configFor?, Option.orElse_eq_or, hnone]

/-- The block for a request is the one that its collection chooses, and no other one. -/
theorem chooses_iff {chosen : Option ConfigBlock} :
    Chooses configs request.collection chosen ↔ configFor? configs request = chosen := by
  have hown : (request.collection.bind fun name => configs.find? (·.collection == some name)) =
      none ↔ ∀ name, request.collection = some name → NoneFor configs (some name) := by
    simp only [Option.bind_eq_none_iff, find?_eq_none_iff]
  rw [configFor?_eq]
  constructor
  · intro h
    cases h with
    | own hname hfirst =>
      rw [hname] at hfirst
      rw [hname, Option.bind_some, find?_eq_some_iff.mpr hfirst, Option.some_or]
    | shared hothers hfirst => rw [hown.mpr hothers, Option.none_or, find?_eq_some_iff.mpr hfirst]
    | nothing hothers hnone => rw [hown.mpr hothers, Option.none_or, find?_eq_none_iff.mpr hnone]
  · rintro rfl
    cases hfind : request.collection.bind fun name =>
        configs.find? (·.collection == some name) with
    | some block =>
      obtain ⟨name, hname, hfirst⟩ := Option.bind_eq_some_iff.mp hfind
      exact .own hname (hname ▸ find?_eq_some_iff.mp hfirst)
    | none =>
      rw [Option.none_or]
      cases hshared : configs.find? (·.collection == none) with
      | some block => exact .shared (hown.mp hfind) (find?_eq_some_iff.mp hshared)
      | none => exact .nothing (hown.mp hfind) (find?_eq_none_iff.mp hshared)

end Document

/-! ## A request with the defaults of a block -/

/-- A text without the slashes at its end. -/
structure Text.IsStem (text stem : String) : Prop where
  slashes : ∃ count, text.toList = stem.toList ++ List.replicate count '/'
  getLast? : stem.toList.getLast? ≠ some '/'

/-- A request with the defaults of a block, and with nothing else that it did not have before. -/
structure ConfigBlock.IsMerged (block : ConfigBlock) (request merged : Request) : Prop where
  /-- The block is known. -/
  config : merged.config = some block
  /-- A header has the value that the request gives it, or else the one that the block does. -/
  header : ∀ name, Table.get? merged.headers name =
    (Table.get? request.headers name).or (Table.get? block.headers name)
  /-- The headers of the block come first, and then the other ones of the request. -/
  names : Table.names merged.headers = Table.names block.headers ++
    (Table.names request.headers).filter (· ∉ Table.names block.headers)
  /-- No two headers have one name. -/
  nodup : (Table.names merged.headers).Nodup
  /-- The assertions of the block come first. -/
  assertions : merged.assertions = block.assertions ++ request.assertions
  /-- A URL that starts with a slash is put behind the base of the block. -/
  url_of_base : ∀ base ∈ block.baseUrl, request.url.toList.head? = some '/' →
    ∃ stem, IsStem base stem ∧ merged.url = stem ++ request.url
  /-- Every other URL stays as it is. -/
  url_of_none : block.baseUrl = none ∨ request.url.toList.head? ≠ some '/' →
    merged.url = request.url
  /-- A timeout other than zero counts before that of the block. -/
  timeout : merged.timeout.filter (· ≠ 0) =
    (request.timeout.filter (· ≠ 0)).or (block.timeout.filter (· ≠ 0))
  /-- Retries count before those of the block, of which zero counts as none. -/
  retry : merged.retry = request.retry.or
    ((block.retries.filter (· ≠ 0)).map fun count => { count })
  /-- Everything else stays as it is. -/
  rest : { merged with
    config := request.config
    headers := request.headers
    assertions := request.assertions
    url := request.url
    timeout := request.timeout
    retry := request.retry } = request

namespace Document

variable {request : Request} {block : ConfigBlock}

/-! ## Names of headers -/

theorem nodup_headers_ofSayings (first : Nat) (sayings : List ScriptLine) :
    (Table.names (Request.ofSayings first sayings).headers).Nodup := by
  induction sayings using List.reverseRecOn with
  | nil => exact List.nodup_nil
  | append_singleton sayings said ih =>
    rw [Request.ofSayings, List.foldl_append, ← Request.ofSayings, List.foldl_cons,
      List.foldl_nil]
    cases said with
    | header key value => exact Table.nodup_set ih key value
    | comment | method | other => exact ih
    | directive content =>
      cases content with
      | none => exact ih
      | some content =>
        cases content with
        | header key value => exact Table.nodup_set ih key value
        | _ => exact ih

theorem nodup_headers_applySectionLine {block : ConfigBlock}
    (h : (Table.names block.headers).Nodup) (cs : List Char) (kind : ConfigBlock.Section) :
    (Table.names (block.applySectionLine cs kind).headers).Nodup := by
  rcases block.cases_applySectionLine cs kind with hsame | ⟨key, value, hset⟩ | ⟨_, _, hadd⟩
  · rw [hsame]
    exact h
  · rw [hset]
    exact Table.nodup_set h key value
  · rw [hadd]
    exact h

theorem headers_applyScalarLine (block : ConfigBlock) (cs : List Char) :
    (block.applyScalarLine cs).block.headers = block.headers := by
  unfold ConfigBlock.applyScalarLine
  dsimp only
  split <;> rfl

/-- The names stay distinct with one more line of a block. -/
theorem nodup_headers_of_step? {current next : ConfigBlock.Reading} {index : Nat}
    {text : List Char} (h : (Table.names current.block.headers).Nodup)
    (hstep : current.step? index text = some next) : (Table.names next.block.headers).Nodup := by
  rcases ConfigBlock.Reading.cases_of_step? hstep with rfl | ⟨_, hnext, ⟨kind, rfl⟩ | rfl⟩
  · exact h
  · rw [hnext]
    exact nodup_headers_applySectionLine h (trim text) kind
  · rw [hnext]
    exact (headers_applyScalarLine current.block (trim text)).symm ▸ h

theorem nodup_headers_of_mem_configs {text : String} {document : Document}
    (h : parse text = .ok document) :
    ∀ block ∈ document.configs, (Table.names block.headers).Nodup :=
  forall_configs_of_parse (fun _ => List.nodup_nil) nodup_headers_of_step? h

theorem IsTold.nodup_headers {texts : List (List Char)} (h : IsTold texts request) :
    (Table.names request.headers).Nodup := by
  have hsame := congrArg Request.headers h.bodiless
  change request.headers = _ at hsame
  rw [hsame]
  exact nodup_headers_ofSayings _ _

/-- **No request of a script has two headers of one name.** -/
theorem nodup_headers_of_parse {text : String} {document : Document}
    (h : parse text = .ok document) :
    ∀ request ∈ document.requests, (Table.names request.headers).Nodup := by
  intro request hmem
  obtain ⟨own, htold, rfl⟩ := exists_isTold_of_mem_requests h hmem
  unfold resolveConfig
  split
  · next block hblock =>
    exact Table.nodup_merge (nodup_headers_of_mem_configs h block (mem_of_configFor? hblock)) _
  · exact htold.nodup_headers

/-! ## Merging -/

theorem isPrefixOf_slash_iff {cs : List Char} :
    ['/'].isPrefixOf cs = true ↔ cs.head? = some '/' := by
  cases cs with
  | nil => simp
  | cons c rest =>
    rw [List.isPrefixOf_cons_cons, List.isPrefixOf_nil_left, Bool.and_true, beq_iff_eq,
      List.head?_cons, Option.some_inj, eq_comm]

/-- A base is joined without the slashes at its end. -/
theorem exists_isStem_joinUrl (base url : String) :
    ∃ stem, IsStem base stem ∧ joinUrl base url = stem ++ url := by
  refine ⟨_, ⟨⟨(base.toList.rtakeWhile (· == '/')).length, ?_⟩, ?_⟩, rfl⟩
  · have hslashes : base.toList.rtakeWhile (· == '/') =
        List.replicate (base.toList.rtakeWhile (· == '/')).length '/' :=
      List.eq_replicate_of_mem fun c hc => by simpa using List.mem_rtakeWhile_imp hc
    rw [String.toList_ofList, ← hslashes]
    exact List.rdropWhile_append_rtakeWhile.symm
  · intro hlast
    rw [String.toList_ofList] at hlast
    obtain ⟨hne, hslash⟩ := List.mem_getLast?_eq_getLast hlast
    exact List.rdropWhile_last_not (· == '/') base.toList hne (beq_iff_eq.mpr hslash.symm)

theorem url_applyConfig_of_base {base : String} (hbase : base ∈ block.baseUrl)
    (hslash : request.url.toList.head? = some '/') :
    (applyConfig block request).url = joinUrl base request.url := by
  rw [applyConfig]
  simp only [Option.mem_def.mp hbase, isPrefixOf_slash_iff.mpr hslash, if_true]

theorem url_applyConfig_of_none
    (h : block.baseUrl = none ∨ request.url.toList.head? ≠ some '/') :
    (applyConfig block request).url = request.url := by
  unfold applyConfig
  dsimp only
  split
  · next base hbase =>
    have hslash : ¬['/'].isPrefixOf request.url.toList = true :=
      isPrefixOf_slash_iff.not.mpr (h.resolve_left (by rw [hbase]; nofun))
    rw [if_neg hslash]
  · rfl

/-- The timeout of a request counts before that of the block. -/
theorem timeout_applyConfig (block : ConfigBlock) (request : Request) :
    (applyConfig block request).timeout.filter (· ≠ 0) =
      (request.timeout.filter (· ≠ 0)).or (block.timeout.filter (· ≠ 0)) := by
  -- A timeout of zero counts as none on either side.
  have hfilter (n : Option Int) : n.filter (· ≠ 0) = if isSet n then n else none := by
    cases n with
    | none => rfl
    | some n => by_cases hzero : n = 0 <;> simp [isSet, Option.filter, hzero]
  unfold applyConfig
  simp only [hfilter]
  cases hown : isSet request.timeout with
  | false => cases hother : isSet block.timeout <;> simp [hown, hother]
  | true =>
    obtain ⟨own, hsome⟩ := Option.isSome_iff_exists.mp (Option.isSome_of_any hown)
    rw [hsome] at hown ⊢
    simp [hown]

/-- The attempts that a request asks for count before those of the block. -/
theorem retry_applyConfig (block : ConfigBlock) (request : Request) :
    (applyConfig block request).retry =
      request.retry.or ((block.retries.filter (· ≠ 0)).map fun count => { count }) := by
  unfold applyConfig
  dsimp only
  split
  · next count hown hretries =>
    rw [hown, hretries, Option.none_or, Option.filter_some]
    by_cases hzero : count = 0 <;> simp [hzero]
  · next hother =>
    cases hown : request.retry with
    | some retry => rw [Option.some_or]
    | none =>
      cases hretries : block.retries with
      | none => rfl
      | some count => exact absurd hretries (hother count hown)

theorem isMerged_applyConfig (hblock : (Table.names block.headers).Nodup)
    (hrequest : (Table.names request.headers).Nodup) :
    block.IsMerged request (applyConfig block request) where
  config := rfl
  header name := by
    rw [← Table.get?_reverse hrequest]
    exact Table.get?_merge _ _ name
  names := Table.names_merge _ hrequest
  nodup := Table.nodup_merge hblock _
  assertions := rfl
  url_of_base base hbase hslash := by
    obtain ⟨stem, hstem, hjoin⟩ := exists_isStem_joinUrl base request.url
    exact ⟨stem, hstem, by rw [url_applyConfig_of_base hbase hslash, hjoin]⟩
  url_of_none := url_applyConfig_of_none
  timeout := timeout_applyConfig block request
  retry := retry_applyConfig block request
  rest := rfl

/-- **Defaults of configuration blocks**, for every script and every request of it. The blocks are
what their own lines say. A request is what its own lines say, in its own collection or else that of
the script, and with the defaults of the block that this collection chooses, if there is one. -/
theorem parse_merges {text : String} {document : Document} (hparse : parse text = .ok document) :
    (∀ block ∈ document.configs, block.IsTold (lines text.toList)) ∧
      ∀ request ∈ document.requests, ∃ own before chosen,
        IsTold (lines text.toList) own ∧ own.span = request.span ∧
        before = { own with
          collection := own.collection.or document.collection
          tags := Directive.dedupe (document.tags ++ own.tags) } ∧
        Chooses document.configs before.collection chosen ∧
        (chosen = none → request = before) ∧
        ∀ block ∈ chosen, block ∈ document.configs ∧ block.IsMerged before request := by
  refine ⟨isTold_of_mem_configs hparse, fun request hmem => ?_⟩
  obtain ⟨own, htold, hrequest⟩ := exists_isTold_of_mem_requests hparse hmem
  have hspan : own.span = request.span := by
    rw [hrequest, span_resolveConfig, span_applyDefaults]
  have hbefore : applyDefaults document.collection document.tags own = { own with
      collection := own.collection.or document.collection
      tags := Directive.dedupe (document.tags ++ own.tags) } := by
    rw [← tags_applyDefaults document.collection _ htold.wellFormed.nodup_tags, applyDefaults,
      Option.orElse_eq_or]
  rw [hbefore] at hrequest
  refine ⟨own, _, _, htold, hspan, rfl, chooses_iff.mpr rfl, fun hnone => ?_,
    fun block hblock => ?_⟩
  · rw [hrequest, resolveConfig, hnone]
  · have hconfig := mem_of_configFor? hblock
    rw [hrequest, resolveConfig, hblock]
    exact ⟨hconfig, isMerged_applyConfig (nodup_headers_of_mem_configs hparse block hconfig)
      htold.nodup_headers⟩

/-- A script with a block for its collection and one for none, and a request for each of them. -/
def mergedScript : String :=
  "/**\n * @collection users\n */\n@config\nheaders:\n  X: 0\n@config\ncollection: users\n" ++
    "baseUrl: http://h//\nheaders:\n  A: 1\n  B: 2\nassert:\n  status == 200\n###\n" ++
    "@assert body.id exists\nGET /a\nC: 4\nB: 3\n###\n@collection other\nGET /b\n"

theorem parse_merges_mergedScript :
    ∃ document, parse mergedScript = .ok document ∧
      document.requests.map (fun request => (request.url, request.headers)) =
        [("http://h/a", [("A", "1"), ("B", "3"), ("C", "4")]), ("/b", [("X", "0")])] ∧
      document.requests.map (fun request => request.assertions.length) = [2, 0] ∧
      ∀ request ∈ document.requests, ∃ before chosen,
        Chooses document.configs before.collection chosen ∧
        ∀ block ∈ chosen, block ∈ document.configs ∧ block.IsMerged before request := by
  have hfacts : (parse mergedScript).map (fun document =>
      (document.requests.map fun request => (request.url, request.headers),
        document.requests.map fun request => request.assertions.length)) =
      .ok ([("http://h/a", [("A", "1"), ("B", "3"), ("C", "4")]), ("/b", [("X", "0")])],
        [2, 0]) := by
    decide +kernel
  obtain ⟨document, hparse, hdocument⟩ := map_eq_ok_iff.mp hfacts
  obtain ⟨hmerged, hlengths⟩ := Prod.mk.inj hdocument
  refine ⟨document, hparse, hmerged, hlengths, fun request hmem => ?_⟩
  obtain ⟨_, before, chosen, _, _, _, hchosen, _, hblock⟩ := (parse_merges hparse).2 request hmem
  exact ⟨before, chosen, hchosen, hblock⟩

end Document

end RequestScript
