import RequestScript.Proofs.Script.Directive
import RequestScript.Proofs.Script.Sayings
import RequestScript.Proofs.Script.Spans

/-!
# Well-formed requests

Every request of a script that can be read is well formed. What the lines of its block say is well
formed line by line; the defaults of the script and of its configuration block are well formed as
well, and a request stays so when it takes them.
-/

namespace RequestScript

open Text

/-- What holds of a request from the first line of its block on. -/
structure Request.Orderly (request : Request) : Prop where
  /-- The URL has no blanks around it. -/
  url : trimmed request.url = request.url
  /-- The identifier has six ASCII letters and digits. -/
  id : ∀ id ∈ request.id, Directive.isId id.toList = true
  /-- So have the identifiers of earlier requests. -/
  pre : ∀ id ∈ request.pre, Directive.isId id.toList = true
  /-- No tag is there twice. -/
  nodup_tags : request.tags.Nodup
  /-- No tag is blank or has blanks around it. -/
  tags : ∀ tag ∈ request.tags, Stripped tag
  /-- The body is not blank and has no blanks around it. -/
  body : ∀ body ∈ request.body, Stripped body
  /-- The captures are well formed. -/
  captures : ∀ capture ∈ request.captures, capture.WellFormed
  /-- The assertions are well formed. -/
  assertions : ∀ assertion ∈ request.assertions, assertion.WellFormed

/-- A request of a script. -/
structure Request.WellFormed (request : Request) : Prop extends Request.Orderly request where
  /-- There is a URL. -/
  url_ne_empty : request.url ≠ ""
  /-- An identifier is missing where there is none. -/
  hasMissingId_iff : request.hasMissingId = true ↔ request.id = none

/-- Defaults that requests can take and stay well formed. -/
structure ConfigBlock.WellFormed (block : ConfigBlock) : Prop where
  /-- The base of URLs is not blank and has no blanks around it. -/
  baseUrl : ∀ base ∈ block.baseUrl, Stripped base
  /-- The assertions are well formed. -/
  assertions : ∀ assertion ∈ block.assertions, assertion.WellFormed

/-- The tags that a line gives to its request. -/
def ScriptLine.tags? : ScriptLine → Option (List String)
  | .directive (some (.tags tags)) => some tags
  | _ => none

/-- The tags of a block of lines: those of the last line that gives any. -/
def Document.blockTags (texts : List (List Char)) (first last : Nat) : List String :=
  ((sayings texts first (last + 1)).filterMap ScriptLine.tags?).getLast?.getD []

namespace Request

theorem tags_applyLine (request : Request) (said : ScriptLine) :
    (request.applyLine said).tags = said.tags?.getD request.tags := by
  cases said with
  | comment | method | header | other => rfl
  | directive content =>
    cases content with
    | none => rfl
    | some content => cases content <;> rfl

/-- The last line that gives tags decides. -/
theorem tags_ofSayings (first : Nat) (sayings : List ScriptLine) :
    (ofSayings first sayings).tags = (sayings.filterMap ScriptLine.tags?).getLast?.getD [] := by
  have htags (request : Request) (said : ScriptLine) :
      (request.applyLine said).tags = (said.tags?.map fun tags => tags).getD request.tags := by
    rw [tags_applyLine, Option.map_id']
  rw [field_ofSayings htags, Option.map_id']

namespace Orderly

variable {request : Request}

/-- A request stays in order with what one more line says. -/
theorem applyLine (h : request.Orderly) {said : ScriptLine} (hsaid : said.WellFormed) :
    (request.applyLine said).Orderly := by
  cases said with
  | comment | other => exact h
  | method name url => exact { h with url := hsaid.trimmed_eq }
  | header key value => exact { h with }
  | directive content =>
    cases content with
    | none => exact h
    | some content =>
      cases content with
      | id letters =>
        exact { h with id := fun id hid => Option.some.inj hid ▸ hsaid }
      | tags kept => exact { h with nodup_tags := hsaid.1, tags := hsaid.2 }
      | pre letters =>
        refine { h with pre := fun id hid => ?_ }
        rcases List.mem_append.mp hid with hid | hid
        · exact h.pre id hid
        · exact List.mem_singleton.mp hid ▸ hsaid
      | capture kept =>
        refine { h with captures := fun capture hcapture => ?_ }
        rcases List.mem_append.mp hcapture with hcapture | hcapture
        · exact h.captures capture hcapture
        · exact List.mem_singleton.mp hcapture ▸ hsaid
      | assertion kept =>
        refine { h with assertions := fun assertion hassertion => ?_ }
        rcases List.mem_append.mp hassertion with hassertion | hassertion
        · exact h.assertions assertion hassertion
        · exact List.mem_singleton.mp hassertion ▸ hsaid
      | _ => exact { h with }

theorem ofSayings (first : Nat) {sayings : List ScriptLine}
    (h : ∀ said ∈ sayings, said.WellFormed) : (Request.ofSayings first sayings).Orderly := by
  induction sayings using List.reverseRecOn with
  | nil =>
    constructor
    · rfl
    all_goals simp [Request.ofSayings]
  | append_singleton sayings said ih =>
    rw [Request.ofSayings, List.foldl_append]
    have hfront := ih fun earlier hmem => h earlier (List.mem_append_left _ hmem)
    exact hfront.applyLine (h said (by simp))

end Orderly

end Request

namespace Document

variable {texts : List (List Char)} {request : Request}

theorem wellFormed_of_mem_sayings {first last : Nat} :
    ∀ said ∈ sayings texts first last, said.WellFormed := by
  intro said hmem
  obtain ⟨index, _, hsaid⟩ := List.mem_filterMap.mp hmem
  obtain ⟨text, hread⟩ := exists_read_of_saidAt hsaid
  exact ScriptLine.wellFormed_read hread

/-- What the lines of a block say makes a request in order. -/
theorem IsTold.orderly (h : IsTold texts request) : request.Orderly := by
  have hsayings : request.bodiless.Orderly := by
    rw [h.bodiless]
    exact { Request.Orderly.ofSayings request.startLine wellFormed_of_mem_sayings with }
  exact { hsayings with body := h.body }

theorem IsTold.wellFormed (h : IsTold texts request) : request.WellFormed :=
  { h.orderly with
    url_ne_empty := h.url
    hasMissingId_iff := Option.isNone_iff_eq_none }

theorem IsTold.tags_eq (h : IsTold texts request) :
    request.tags = blockTags texts request.startLine request.endLine := by
  have htags : request.bodiless.tags =
      (Request.ofSayings request.startLine
        (sayings texts request.startLine (request.endLine + 1))).tags := by
    rw [h.bodiless]
  rw [Request.tags_ofSayings] at htags
  exact htags

end Document

/-! ## Defaults -/

namespace ConfigBlock

variable {block : ConfigBlock}

theorem stripped_of_nonEmpty? {cs : List Char} : ∀ text ∈ nonEmpty? (trim cs), Stripped text := by
  intro text htext
  unfold nonEmpty? at htext
  split at htext
  · cases htext
  · next hne =>
    obtain rfl := Option.some.inj htext
    exact stripped_ofList_trim fun hnil => hne (List.isEmpty_iff.mpr hnil)

theorem WellFormed.applySectionLine (h : block.WellFormed) (cs : List Char) (kind : Section) :
    (block.applySectionLine cs kind).WellFormed := by
  rcases cases_applySectionLine block cs kind with hsame | ⟨_, _, hset⟩ | ⟨added, hread, hadd⟩
  · rw [hsame]
    exact h
  · rw [hset]
    exact { h with }
  · rw [hadd]
    refine { h with assertions := fun assertion hassertion => ?_ }
    rcases List.mem_append.mp hassertion with hassertion | hassertion
    · exact h.assertions assertion hassertion
    · exact List.mem_singleton.mp hassertion ▸ Assertion.wellFormed_ofChars? hread

theorem WellFormed.applyScalarLine (h : block.WellFormed) (cs : List Char) :
    (block.applyScalarLine cs).block.WellFormed := by
  unfold ConfigBlock.applyScalarLine
  dsimp only
  split
  case h_3 => exact { h with baseUrl := stripped_of_nonEmpty? }
  all_goals exact { h with }

theorem WellFormed.endAt (h : block.WellFormed) (index : Nat) :
    { block with endLine := index }.WellFormed :=
  ⟨h.baseUrl, h.assertions⟩

/-- A block stays well formed with one more line. -/
theorem WellFormed.of_step? {current next : Reading} {index : Nat} {text : List Char}
    (h : current.block.WellFormed) (hstep : current.step? index text = some next) :
    next.block.WellFormed := by
  rcases Reading.cases_of_step? hstep with rfl | ⟨_, hnext, ⟨kind, rfl⟩ | rfl⟩
  · exact h
  · rw [hnext]
    exact (h.applySectionLine (trim text) kind).endAt index
  · rw [hnext]
    exact (h.applyScalarLine (trim text)).endAt index

end ConfigBlock

namespace Document

namespace Reading

variable {reading next : Reading} {index : Nat} {text : List Char}

/-- The tags of the script after a part of it are the same, or they come from a list of tags. -/
def KeepsTags (reading next : Reading) : Prop :=
  next.tags = reading.tags ∨ ∃ cs, next.tags = Directive.splitTags cs

theorem keepsTags_docLine (draft : Option Draft) (cs : List Char) :
    KeepsTags reading (reading.docLine draft cs) := by
  have hdoc (cs : List Char) : KeepsTags reading (reading.applyDoc cs) := by
    unfold applyDoc
    dsimp only
    repeat' split
    all_goals first | exact .inl rfl | exact .inr ⟨_, rfl⟩
  unfold docLine
  split
  · next before _ => exact hdoc before
  · exact hdoc cs

theorem tags_closeBefore (reading : Reading) (index : Nat) :
    (reading.closeBefore index).tags = reading.tags := by
  unfold closeBefore
  split
  · rfl
  · split <;> rfl

theorem tags_headLine {draft : Draft} (h : reading.headLine draft (trim text) = .ok next) :
    next.tags = reading.tags := by
  obtain ⟨_, _, rfl | rfl⟩ := headLine_takes h <;> rfl

theorem tags_unmarkedLine (h : reading.unmarkedLine index text = .ok next) :
    next.tags = reading.tags := by
  unfold unmarkedLine at h
  split at h
  · exact tags_headLine h
  · split at h
    · exact tags_headLine h
    · obtain rfl := Except.ok.inj h
      rfl
  · split at h
    · obtain rfl := Except.ok.inj h
      rfl
    · exact tags_headLine h

theorem keepsTags_line (h : reading.line index text = .ok next) : KeepsTags reading next := by
  by_cases hdoc : ∃ draft, reading.mode = .doc draft
  · obtain ⟨draft, hmode⟩ := hdoc
    rw [line, hmode] at h
    obtain rfl := Except.ok.inj h
    exact keepsTags_docLine draft _
  rw [not_exists] at hdoc
  rw [line_eq hdoc] at h
  split at h
  · obtain rfl := Except.ok.inj h
    exact .inl (tags_closeBefore reading index)
  split at h
  · obtain rfl := Except.ok.inj h
    exact keepsTags_docLine _ _
  split at h
  · obtain rfl := Except.ok.inj h
    exact .inl (tags_closeBefore reading index)
  · exact .inl (tags_unmarkedLine h)

theorem keepsTags_step (h : reading.step index text = .ok next) : KeepsTags reading next := by
  unfold step at h
  split at h
  · split at h
    · obtain rfl := Except.ok.inj h
      exact .inl rfl
    · have hline := keepsTags_line h
      rw [KeepsTags, tags_closeBefore] at hline
      exact hline
  · exact keepsTags_line h

/-- No tag of the script is blank or has blanks around it. -/
theorem stripped_tags_of_steps {texts : List (List Char)}
    (h : ({} : Reading).steps 0 texts = .ok reading) : ∀ tag ∈ reading.tags, Stripped tag := by
  have hstep {before after : Reading} {index : Nat} {text : List Char}
      (hbefore : ∀ tag ∈ before.tags, Stripped tag) (hstep : before.step index text = .ok after) :
      ∀ tag ∈ after.tags, Stripped tag := by
    rcases keepsTags_step hstep with hsame | ⟨cs, hsplit⟩
    · rw [hsame]
      exact hbefore
    · rw [hsplit]
      exact Directive.stripped_of_mem_splitTags
  have hnone : ∀ tag ∈ ({} : Reading).tags, Stripped tag := by simp
  exact steps_induction (fun _ _ => hstep) hnone h

end Reading

variable {request : Request}

/-- A URL without blanks around it stays so where it is appended to a base without them. -/
theorem stripped_joinUrl {base url : String} (hbase : Stripped base) (hurl : Stripped url) :
    Stripped (joinUrl base url) := by
  have hne : url.toList ≠ [] := by simpa using hurl.ne_empty
  obtain ⟨hurlStart, hurlEnd⟩ := trim_eq_self_iff.mp (trimmed_eq_self_iff.mp hurl.trimmed_eq)
  have hbaseStart := (trim_eq_self_iff.mp (trimmed_eq_self_iff.mp hbase.trimmed_eq)).1
  have hjoined : (joinUrl base url).toList =
      base.toList.rdropWhile (· == '/') ++ url.toList := by
    simp [joinUrl, List.rdropWhile]
  refine ⟨fun hempty => ?_, ?_⟩
  · rw [hempty] at hjoined
    exact hne (List.append_eq_nil_iff.mp hjoined.symm).2
  · rw [trimmed_eq_self_iff, hjoined, trim_eq_self_iff]
    refine ⟨?_, trimEnd_append _ hne hurlEnd⟩
    obtain ⟨slashes, hslashes⟩ := List.rdropWhile_prefix (· == '/') base.toList
    generalize base.toList.rdropWhile (· == '/') = front at hslashes ⊢
    by_cases hfront : front = []
    · rw [hfront, List.nil_append]
      exact hurlStart
    · refine trimStart_append hfront (trimStart_eq_self_iff.mpr fun c hc => ?_)
      rw [← hslashes, trimStart_eq_self_iff, List.head?_append_of_ne_nil front hfront] at hbaseStart
      exact hbaseStart c hc

/-- A request stays well formed with the defaults of a well-formed block. -/
theorem wellFormed_applyConfig {block : ConfigBlock} (hblock : block.WellFormed)
    (h : request.WellFormed) : (applyConfig block request).WellFormed := by
  have hstripped : Stripped (applyConfig block request).url := by
    have hown : Stripped request.url := ⟨h.url_ne_empty, h.url⟩
    unfold applyConfig
    dsimp only
    split
    · next base hbase =>
      split
      · exact stripped_joinUrl (hblock.baseUrl base hbase) hown
      · exact hown
    · exact hown
  have hassertions : ∀ assertion ∈ block.assertions ++ request.assertions, assertion.WellFormed :=
    List.forall_mem_append.mpr ⟨hblock.assertions, h.assertions⟩
  exact { h with
    url := hstripped.trimmed_eq
    url_ne_empty := hstripped.ne_empty
    assertions := hassertions }

/-- The block that a request takes its defaults from is one of the script. -/
theorem mem_of_configFor? {configs : List ConfigBlock} {block : ConfigBlock}
    (h : configFor? configs request = some block) : block ∈ configs := by
  rw [configFor?, Option.orElse_eq_or, Option.or_eq_some_iff] at h
  rcases h with hown | ⟨_, hother⟩
  · obtain ⟨name, _, hfind⟩ := Option.bind_eq_some_iff.mp hown
    exact List.mem_of_find?_eq_some hfind
  · exact List.mem_of_find?_eq_some hother

theorem wellFormed_resolveConfig {configs : List ConfigBlock}
    (hconfigs : ∀ block ∈ configs, block.WellFormed) (h : request.WellFormed) :
    (resolveConfig configs request).WellFormed := by
  unfold resolveConfig
  split
  · next block hblock =>
    exact wellFormed_applyConfig (hconfigs block (mem_of_configFor? hblock)) h
  · exact h

/-- A request has the tags of the script before its own ones, and none of them twice. -/
theorem tags_applyDefaults (collection : Option String) (tags : List String)
    (h : request.tags.Nodup) :
    (applyDefaults collection tags request).tags = Directive.dedupe (tags ++ request.tags) := by
  cases tags with
  | nil => exact (Directive.dedupe_eq_self h).symm
  | cons tag rest => rfl

theorem wellFormed_applyDefaults {tags : List String} (htags : ∀ tag ∈ tags, Stripped tag)
    (collection : Option String) (h : request.WellFormed) :
    (applyDefaults collection tags request).WellFormed := by
  have hall := tags_applyDefaults collection tags h.nodup_tags
  refine { h with nodup_tags := ?_, tags := fun tag hmem => ?_ }
  · rw [hall]
    exact Directive.nodup_dedupe _
  · rw [hall, Directive.mem_dedupe, List.mem_append] at hmem
    exact hmem.elim (htags tag) (h.tags tag)

theorem tags_resolveConfig (configs : List ConfigBlock) (request : Request) :
    (resolveConfig configs request).tags = request.tags := by
  unfold resolveConfig
  split <;> rfl

/-- The defaults that a script has for its requests are well formed. -/
theorem wellFormed_defaults {text : String} {document : Document} (h : parse text = .ok document) :
    (∀ tag ∈ document.tags, Stripped tag) ∧ ∀ block ∈ document.configs, block.WellFormed := by
  refine ⟨?_, forall_configs_of_parse (fun _ => ⟨by simp, by simp⟩)
    ConfigBlock.WellFormed.of_step? h⟩
  obtain ⟨reading, hsteps, rfl⟩ := exists_reading_of_parse h
  have htags := Reading.tags_closeBefore reading (lines text.toList).length
  exact fun tag hmem => Reading.stripped_tags_of_steps hsteps tag (htags ▸ hmem)

/-- **Every request of a script is well formed**, and its tags are those of the script, then those
of its own block, without repetitions. -/
theorem wellFormed_parse {text : String} {document : Document} (h : parse text = .ok document) :
    ∀ request ∈ document.requests,
      request.WellFormed ∧
        request.tags = Directive.dedupe (document.tags ++
          blockTags (lines text.toList) request.startLine request.endLine) ∧
        Directive.dedupe document.tags <+: request.tags := by
  intro request hmem
  obtain ⟨hscriptTags, hconfigs⟩ := wellFormed_defaults h
  obtain ⟨own, htold, hrequest⟩ := exists_isTold_of_mem_requests h hmem
  have hown : own.WellFormed := htold.wellFormed
  have hspan : request.span = own.span := by
    rw [hrequest, span_resolveConfig, span_applyDefaults]
  have hfirst : request.startLine = own.startLine := congrArg Span.first hspan
  have hlast : request.endLine = own.endLine := congrArg Span.last hspan
  have htags : request.tags = Directive.dedupe (document.tags ++
      blockTags (lines text.toList) request.startLine request.endLine) := by
    rw [hfirst, hlast, ← htold.tags_eq, hrequest, tags_resolveConfig,
      tags_applyDefaults _ _ hown.nodup_tags]
  refine ⟨?_, htags, ?_⟩
  · rw [hrequest]
    exact wellFormed_resolveConfig hconfigs (wellFormed_applyDefaults hscriptTags _ hown)
  · rw [htags]
    exact Directive.dedupe_isPrefix_append _ _

/-- A script with tags of its own, a configuration block and a request with most directives. -/
def taggedScript : String :=
  "/**\n * @tags users, smoke\n */\n@config\nbaseUrl: https://host/\nassert:\n" ++
    "  status == 200\n###\n@id aB3xY9\n@pre Login1\n@tags slow, smoke\n" ++
    "@capture session.first.id = body.id\n@assert body.id exists\nPOST /users\n\n{}\n"

theorem wellFormed_parse_taggedScript :
    ∃ document, parse taggedScript = .ok document ∧
      document.requests.map (fun request => (request.url, request.tags)) =
        [("https://host/users", ["users", "smoke", "slow"])] ∧
      document.requests.map (fun request => (request.captures.length, request.assertions.length)) =
        [(1, 2)] ∧
      ∀ request ∈ document.requests, request.WellFormed := by
  have hurls : (parse taggedScript).map (fun document =>
      (document.requests.map fun request => (request.url, request.tags),
        document.requests.map fun request =>
          (request.captures.length, request.assertions.length))) =
      .ok ([("https://host/users", ["users", "smoke", "slow"])], [(1, 2)]) := by
    decide +kernel
  cases hparse : parse taggedScript with
  | error fault =>
    rw [hparse] at hurls
    cases hurls
  | ok document =>
    rw [hparse] at hurls
    obtain ⟨htags, hlengths⟩ := Prod.mk.inj (Except.ok.inj hurls)
    exact ⟨document, rfl, htags, hlengths, fun request hmem =>
      (wellFormed_parse hparse request hmem).1⟩

end Document

end RequestScript
