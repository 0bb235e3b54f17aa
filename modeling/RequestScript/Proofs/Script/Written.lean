import RequestScript.Proofs.Script.Document
import RequestScript.Proofs.Text.Lines

/-!
# Writing scripts

A description is what a block of a script says about its request: an identifier, a name, a method,
a URL, headers and a body. Descriptions are written block by block, and reading what is written
gives exactly the requests that are described.
-/

namespace RequestScript

open Text

/-- What is written about a request. -/
structure Description where
  /-- The identifier. -/
  id : Option String := none
  /-- The name. -/
  name : Option String := none
  /-- The method. -/
  method : String
  /-- The URL. -/
  url : String
  /-- The headers in order. -/
  headers : Headers := []
  /-- The body. -/
  body : Option String := none
  deriving DecidableEq

/-- A body that can be written down: no line of it opens a directive or separates blocks. -/
structure IsBody (cs : List Char) : Prop where
  /-- It is not empty. -/
  ne_nil : cs ≠ []
  /-- There are no blanks around it. -/
  trimmed : trim cs = cs
  /-- It has no carriage returns. -/
  no_return : '\r' ∉ cs
  /-- No line opens a directive. -/
  no_directive : ∀ line ∈ lines cs, ¬['@'] <+: trimStart line
  /-- No line separates blocks. -/
  no_separator : ∀ line ∈ lines cs, ¬blockSeparator <+: trimStart line

instance (cs : List Char) : Decidable (IsBody cs) :=
  decidable_of_iff (cs ≠ [] ∧ trim cs = cs ∧ '\r' ∉ cs ∧
      (∀ line ∈ lines cs, ¬['@'] <+: trimStart line) ∧
      ∀ line ∈ lines cs, ¬blockSeparator <+: trimStart line)
    ⟨fun ⟨ne_nil, trimmed, no_return, no_directive, no_separator⟩ =>
        { ne_nil, trimmed, no_return, no_directive, no_separator },
      fun h => ⟨h.ne_nil, h.trimmed, h.no_return, h.no_directive, h.no_separator⟩⟩

/-- What starts a trimmed line starts the line after its leading blanks, so every line of a body
stays in it. -/
theorem IsBody.isBodyLine {cs : List Char} (h : IsBody cs) :
    ∀ line ∈ lines cs, Document.IsBodyLine line := by
  intro line hmem
  have hstart := trim_isPrefix_trimStart line
  exact ⟨fun hat => h.no_directive line hmem (hat.trans hstart),
    fun hmark => h.no_separator line hmem (hmark.trans hstart)⟩

/-- What a request says, as far as a description tells it. -/
def Request.description (request : Request) : Description :=
  { id := request.id, name := request.name, method := request.method, url := request.url
    headers := request.headers, body := request.body }

namespace Description

/-- Whether a description can be written down. -/
structure WellFormed (description : Description) : Prop where
  /-- An identifier has six letters and digits. -/
  id : ∀ id ∈ description.id, Directive.isId id.toList
  /-- A name is a phrase. -/
  name : ∀ name ∈ description.name, name.toList ≠ [] ∧ IsPhrase name.toList
  /-- The method is a method. -/
  method : description.method.toList ∈ ScriptLine.methods
  /-- There is a URL. -/
  url_ne_nil : description.url.toList ≠ []
  /-- The URL is a phrase. -/
  url : IsPhrase description.url.toList
  /-- No header is there twice. -/
  distinct : (Table.names description.headers).Nodup
  /-- Every header has a name and a value that may be empty. -/
  headers : ∀ header ∈ description.headers,
    IsHeaderName header.1.toList ∧ IsPhrase header.2.toList
  /-- A body can be written down. -/
  body : ∀ body ∈ description.body, IsBody body.toList

instance (description : Description) : Decidable description.WellFormed :=
  decidable_of_iff ((∀ id ∈ description.id, Directive.isId id.toList) ∧
      (∀ name ∈ description.name, name.toList ≠ [] ∧ IsPhrase name.toList) ∧
      description.method.toList ∈ ScriptLine.methods ∧ description.url.toList ≠ [] ∧
      IsPhrase description.url.toList ∧ (Table.names description.headers).Nodup ∧
      (∀ header ∈ description.headers,
        IsHeaderName header.1.toList ∧ IsPhrase header.2.toList) ∧
      ∀ body ∈ description.body, IsBody body.toList)
    ⟨fun ⟨id, name, method, url_ne_nil, url, distinct, headers, body⟩ =>
        { id, name, method, url_ne_nil, url, distinct, headers, body },
      fun h => ⟨h.id, h.name, h.method, h.url_ne_nil, h.url, h.distinct, h.headers, h.body⟩⟩

/-- The lines before the body. -/
def head (description : Description) : List HeadLine :=
  (description.id.map .id).toList ++ (description.name.map .name).toList ++
    .method description.method description.url ::
      description.headers.map fun (key, value) => .header key value

/-- The block of a description, cut at line feeds, with the body in one piece. -/
def texts (description : Description) : List (List Char) :=
  blockSeparator :: description.head.map HeadLine.text ++
    match description.body with
    | some body => [[], body.toList]
    | none => []

/-- The script that descriptions are written as. -/
def write (descriptions : List Description) : String :=
  String.ofList (join ['\n'] (descriptions.flatMap texts))

/-! ## The lines of a block -/

/-- The lines of the block of a description. -/
def blockLines (description : Description) : List (List Char) :=
  blockSeparator :: description.head.map HeadLine.text ++
    match description.body with
    | some body => [] :: lines body.toList
    | none => []

variable {description : Description}

theorem WellFormed.url_ne_empty (h : description.WellFormed) : description.url ≠ "" := by
  intro heq
  exact h.url_ne_nil (by rw [heq]; rfl)

theorem WellFormed.head_spec (h : description.WellFormed) :
    ∀ line ∈ description.head, line.WellFormed := by
  intro line hline
  simp only [head, List.mem_append, List.mem_cons, Option.mem_toList, Option.map_eq_some_iff,
    List.mem_map] at hline
  rcases hline with (⟨id, hid, rfl⟩ | ⟨name, hname, rfl⟩) | rfl | ⟨header, hheader, rfl⟩
  · exact h.id id hid
  · exact h.name name hname
  · exact ⟨h.method, h.url_ne_nil, h.url⟩
  · exact h.headers header hheader

/-! ## The request of a block -/

/-- What the lines before the body describe, where the block starts at a line. -/
def headRequest (description : Description) (line : Nat) : Request :=
  { id := description.id, name := description.name, method := description.method
    url := description.url, headers := description.headers, startLine := line, endLine := line }

/-- The request that is described, where its block starts at a line. -/
def requestAt (description : Description) (line : Nat) : Request :=
  { description.headRequest line with
    body := description.body
    endLine := line + description.blockLines.length - 1 }

/-- Header lines set the headers in their order. -/
theorem applyHead_headers (request : Request) (headers : Headers) :
    request.applyHead (headers.map fun (key, value) => .header key value) =
      { request with headers := Table.merge request.headers headers } := by
  induction headers generalizing request with
  | nil => rfl
  | cons header rest ih => exact ih _

/-- The lines before the body say what they describe. -/
theorem WellFormed.applyHead_head (h : description.WellFormed) (line : Nat) :
    ({ startLine := line, endLine := line } : Request).applyHead description.head =
      description.headRequest line := by
  have hheaders : Table.merge [] description.headers = description.headers :=
    Table.merge_of_nodup h.distinct
  rw [head, Request.applyHead, List.foldl_append, List.foldl_append, List.foldl_cons,
    ← Request.applyHead, applyHead_headers]
  obtain ⟨id, name, method, url, headers, body⟩ := description
  cases id <;> cases name <;>
    simpa [HeadLine.said, Request.applyLine, Request.apply, headRequest] using hheaders

/-- The lines of a body join into the body again. -/
theorem endBody_lines {body : String} (h : IsBody body.toList) (request : Request) :
    ({ request, body := (lines body.toList).reverse } : Document.Draft).endBody =
      { request := { request with body := some body } } := by
  have htrim : trim (join ['\n'] (lines body.toList)) = body.toList := by
    rw [join_lines h.no_return, h.trimmed]
  have hempty : body.toList.isEmpty = false := by simpa using h.ne_nil
  simp only [Document.Draft.endBody, List.reverse_reverse, htrim, hempty, String.ofList_toList]
  rfl

/-- Reading a block finishes what was open and leaves the described request open. -/
theorem WellFormed.steps_blockLines (h : description.WellFormed) {reading : Document.Reading}
    {index : Nat} {requests : List Request} (hreading : reading.StandsAfter index requests) :
    ∃ mode draft, reading.steps index description.blockLines = .ok { mode, requests } ∧
      (mode = .head draft ∨ mode = .body draft) ∧
      draft.endBody =
        { request := { description.headRequest index with body := description.body } } := by
  have hfront : reading.steps index (blockSeparator :: description.head.map HeadLine.text) =
      .ok { mode := .head { request := description.headRequest index }, requests } := by
    have hhead := Document.Reading.steps_head { requests } (.start index) h.head_spec (index + 1)
    rw [Document.Reading.steps, hreading.step_separator]
    refine hhead.trans ?_
    rw [Document.Draft.start, h.applyHead_head]
  rw [blockLines, Document.Reading.steps_append, hfront]
  -- Without a body the block ends in its head; a body has the last line first.
  cases hbody : description.body with
  | none => exact ⟨_, _, rfl, .inl rfl, rfl⟩
  | some body =>
    have hwritten : IsBody body.toList := h.body body hbody
    refine ⟨_, _, ?_, .inr rfl, endBody_lines hwritten (description.headRequest index)⟩
    have hsteps := Document.Reading.steps_blank_body { requests }
      { request := description.headRequest index } h.url_ne_empty hwritten.isBodyLine
    rw [List.append_nil] at hsteps
    exact hsteps _

/-- Reading a block adds the described request to the finished ones. -/
theorem WellFormed.steps_block (h : description.WellFormed) {reading : Document.Reading}
    {index : Nat} {requests : List Request} (hreading : reading.StandsAfter index requests) :
    ∃ next, reading.steps index description.blockLines = .ok next ∧
      next.StandsAfter (index + description.blockLines.length)
        (description.requestAt index :: requests) := by
  obtain ⟨mode, draft, hsteps, hmode, hend⟩ := h.steps_blockLines hreading
  refine ⟨_, hsteps, Document.Reading.standsAfter_of_draft hmode ?_ requests⟩
  rw [Document.Draft.close?, hend]
  simp [headRequest, requestAt, h.url_ne_empty]

/-! ## Whole scripts -/

/-- The requests that are described, where the first block starts at a line. -/
def requestsFrom (line : Nat) : List Description → List Request
  | [] => []
  | description :: rest =>
    description.requestAt line :: requestsFrom (line + description.blockLines.length) rest

/-- The requests tell what is described, wherever their blocks start. -/
theorem map_requestsFrom (line : Nat) (descriptions : List Description) :
    (requestsFrom line descriptions).map Request.description = descriptions := by
  induction descriptions generalizing line with
  | nil => rfl
  | cons description rest ih => rw [requestsFrom, List.map_cons, ih]; rfl

/-- Reading the blocks of descriptions adds the described requests to the finished ones. -/
theorem steps_blocks {descriptions : List Description} (h : ∀ d ∈ descriptions, d.WellFormed)
    {reading : Document.Reading} {index : Nat} {requests : List Request}
    (hreading : reading.StandsAfter index requests) :
    ∃ next, reading.steps index (descriptions.flatMap blockLines) = .ok next ∧
      next.StandsAfter (index + (descriptions.flatMap blockLines).length)
        ((requestsFrom index descriptions).reverse ++ requests) := by
  induction descriptions generalizing reading index requests with
  | nil => exact ⟨reading, rfl, hreading⟩
  | cons description rest ih =>
    have hfirst := h description List.mem_cons_self
    have hrest : ∀ d ∈ rest, d.WellFormed := fun d hmem => h d (List.mem_cons_of_mem _ hmem)
    obtain ⟨middle, hblock, hmiddle⟩ := hfirst.steps_block hreading
    obtain ⟨next, hblocks, hnext⟩ := ih hrest hmiddle
    refine ⟨next, ?_, ?_⟩
    · rw [List.flatMap_cons, Document.Reading.steps_append, hblock]
      exact hblocks
    · rw [List.flatMap_cons, List.length_append, ← Nat.add_assoc, requestsFrom,
        List.reverse_cons, List.append_assoc]
      exact hnext

/-- The lines of the texts of a block are the lines of the block. -/
theorem WellFormed.lines_texts (h : description.WellFormed) :
    description.texts.flatMap lines = description.blockLines := by
  have hhead : (description.head.map HeadLine.text).flatMap lines =
      description.head.map HeadLine.text := by
    rw [List.flatMap_map, List.map_eq_flatMap]
    exact List.flatMap_congr fun line hline => (h.head_spec line hline).lines_text
  have hmark : lines blockSeparator = [blockSeparator] := rfl
  rw [texts, blockLines, List.flatMap_append, List.flatMap_cons, hhead, hmark]
  cases description.body with
  | none => rfl
  | some body => simp [lines]

/-- No text of a block ends with a carriage return. -/
theorem WellFormed.getLast?_texts (h : description.WellFormed) :
    ∀ text ∈ description.texts, text.getLast? ≠ some '\r' := by
  intro text htext
  rw [texts, List.mem_append, List.mem_cons, List.mem_map] at htext
  rcases htext with (rfl | ⟨line, hline, rfl⟩) | htext
  · decide
  · exact (h.head_spec line hline).getLast?_text
  · cases hbody : description.body with
    | none => simp [hbody] at htext
    | some body =>
      intro hlast
      have hreturn := List.mem_of_getLast? hlast
      simp only [hbody, List.mem_cons, List.not_mem_nil, or_false] at htext
      rcases htext with rfl | rfl
      · exact List.not_mem_nil hreturn
      · exact (h.body body hbody).no_return hreturn

/-- The lines of a script are the lines of its blocks. -/
theorem lines_write {descriptions : List Description} (hne : descriptions ≠ [])
    (h : ∀ d ∈ descriptions, d.WellFormed) :
    lines (write descriptions).toList = descriptions.flatMap blockLines := by
  have hnonempty : descriptions.flatMap texts ≠ [] := by
    obtain ⟨description, rest, rfl⟩ := List.exists_cons_of_ne_nil hne
    simp [texts]
  have hreturn : ∀ text ∈ descriptions.flatMap texts, text.getLast? ≠ some '\r' := by
    intro text htext
    obtain ⟨description, hmem, htext⟩ := List.mem_flatMap.mp htext
    exact (h description hmem).getLast?_texts text htext
  rw [write, String.toList_ofList, lines_join hnonempty hreturn, List.flatMap_assoc]
  exact List.flatMap_congr fun description hmem => (h description hmem).lines_texts

/-- A written script says exactly where each described request stands, and nothing else. -/
theorem parse_write_eq {descriptions : List Description} (h : ∀ d ∈ descriptions, d.WellFormed) :
    Document.parse (write descriptions) = .ok { requests := requestsFrom 0 descriptions } := by
  by_cases hne : descriptions = []
  · rw [hne]
    rfl
  · have hempty : ({} : Document.Reading).StandsAfter 0 [] := ⟨fun draft => by simp, rfl⟩
    obtain ⟨reading, hsteps, hreading⟩ := steps_blocks h hempty
    rw [Nat.zero_add, List.append_nil] at hreading
    have hdocument := hreading.ofReading
    rw [List.reverse_reverse] at hdocument
    rw [← hdocument, Document.parse, lines_write hne h]
    simp only [hsteps]
    rfl

/-- **Reading undoes writing**: of descriptions that can be written down, the script says exactly
the described requests in their order, and nothing else. -/
theorem parse_write {descriptions : List Description} (h : ∀ d ∈ descriptions, d.WellFormed) :
    ∃ requests, Document.parse (write descriptions) = .ok { requests } ∧
      requests.map Request.description = descriptions := by
  have hparse := parse_write_eq h
  exact ⟨_, hparse, map_requestsFrom 0 descriptions⟩

/-- Two descriptions: a request with everything, and one with a method and a URL only. -/
def users : List Description :=
  [{ id := some "a1B2c3", name := some "Create users", method := "POST", url := "/users"
     headers := [("X-Trace", ""), ("Accept", "a; b")]
     body := some "[1,\n\n  # no comment\n Accept: no header]" },
   { method := "GET", url := "http://localhost/users" }]

theorem parse_write_users :
    (users.flatMap texts).map String.ofList =
        ["###", "@id a1B2c3", "@name Create users", "POST /users", "X-Trace: ", "Accept: a; b", "",
          "[1,\n\n  # no comment\n Accept: no header]", "###", "GET http://localhost/users"] ∧
      ∃ requests, Document.parse (write users) = .ok { requests } ∧
        requests.map Request.description = users :=
  ⟨rfl, parse_write (by decide)⟩

end Description

end RequestScript
