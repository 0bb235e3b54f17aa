import RequestScript.Proofs.Script.Directive
import RequestScript.Proofs.Script.Document
import RequestScript.Proofs.Script.LineNumbers
import RequestScript.Proofs.Script.Sayings
import RequestScript.Proofs.Text.Lines

/-!
# Where directives stand

What a directive says about its request has nothing to do with the method line, the headers and the
body, unless it gives a header itself. So it says the same whether it stands before the method line
or behind the body, and all that counts is the order of the directives.
-/

namespace RequestScript

open Text

/-! ## Kinds of lines -/

/-- Only a directive of that name gives a header. -/
theorem Directive.name_of_read_header {name key value : String} {argument : List Char}
    (h : read name argument = .ok (some (.header key value))) : name = "header" := by
  unfold read at h
  split at h
  case h_10 => rfl
  case h_1 | h_3 | h_4 | h_15 =>
    obtain ⟨text, hother⟩ := exists_of_ofText (Except.ok.inj h)
    cases hother
  case h_2 | h_7 =>
    obtain ⟨letters, hother, -⟩ := exists_of_ofId (Except.ok.inj h)
    cases hother
  case h_5 =>
    dsimp only at h
    split at h <;> cases h
  case h_8 =>
    obtain ⟨count, delay, hother⟩ := exists_of_readRetry h
    cases hother
  case h_9 =>
    obtain ⟨n, hother⟩ := exists_of_readTimeout h
    cases hother
  case h_11 =>
    obtain ⟨capture, hother, -⟩ := exists_capture_of_readCapture (Except.ok.inj h)
    cases hother
  case h_12 | h_13 =>
    obtain ⟨said, -, hother⟩ := Option.map_eq_some_iff.mp (Except.ok.inj h)
    cases hother
  case h_14 =>
    obtain ⟨kept, hother⟩ := exists_of_readForm (Except.ok.inj h)
    cases hother
  case h_6 | h_16 => cases h

namespace ScriptLine

/-- Whether a line gives the method and the URL, or a header. -/
def IsHead : ScriptLine → Prop
  | .method _ _ | .header _ _ => True
  | .comment | .directive _ | .other => False

/-- Whether what a line says has nothing to do with the method, the URL and the headers. -/
def IsApart : ScriptLine → Prop
  | .method _ _ | .header _ _ | .directive (some (.header _ _)) => False
  | .comment | .directive _ | .other => True

variable {cs : List Char} {said : ScriptLine}

/-- The name of a header does not start with an at sign or a slash. -/
theorem headerLine?_of_head {c : Char} (hc : c ∈ ['@', '/']) (rest : List Char) :
    headerLine? (c :: rest) = none := by
  have hblank : isBlank c = false ∧ c ≠ ':' ∧ isHeaderChar c = false := by
    simp only [List.mem_cons, List.not_mem_nil, or_false] at hc
    rcases hc with rfl | rfl <;> decide
  have hkey (front : List Char) : isAll isHeaderChar (trim (c :: front)) = false := by
    simp [trim_cons_of_not_isBlank hblank.1, isAll, hblank.2.2]
  unfold headerLine?
  rw [cut?, if_neg hblank.2.1]
  cases cut? ':' rest with
  | none => simp
  | some parts => simp [hkey]

/-- No line that gives the method or a header starts like a comment or a directive. -/
theorem not_isHead_of_mark {c : Char} (hc : c ∈ ['#', '@', '/']) {rest : List Char}
    (h : read (c :: rest) = .ok said) : ¬said.IsHead := by
  have hblank : isBlank c = false := by
    simp only [List.mem_cons, List.not_mem_nil, or_false] at hc
    rcases hc with rfl | rfl | rfl <;> decide
  have hmethod : methodLine? (c :: rest) = none :=
    methodLine?_of_mark (List.mem_cons_of_mem ':' hc) (by simp [hblank])
  unfold read at h
  rw [hmethod] at h
  split at h
  · obtain rfl := Except.ok.inj h
    exact id
  next hcomment =>
  split at h
  · obtain ⟨directive, -, hsaid⟩ := bind_eq_ok_iff.mp h
    obtain rfl := Except.ok.inj hsaid
    exact id
  · have hother : c ∈ ['@', '/'] := by
      refine List.mem_of_ne_of_mem ?_ hc
      rintro rfl
      exact hcomment rfl
    rw [headerLine?_of_head hother] at h
    obtain rfl := Except.ok.inj h
    exact id

/-- What a directive says is read from its name and its argument. -/
theorem exists_split?_of_read {directive : Directive}
    (h : read cs = .ok (.directive (some directive))) :
    ∃ name argument, Directive.split? cs = some (name, argument) ∧
      Directive.read (String.ofList name) argument = .ok (some directive) := by
  unfold read at h
  split at h
  · cases h
  split at h
  · next name argument hsplit =>
    obtain ⟨content, hread, hsaid⟩ := bind_eq_ok_iff.mp h
    obtain rfl := ScriptLine.directive.inj (Except.ok.inj hsaid)
    exact ⟨name, argument, hsplit, hread⟩
  · repeat' split at h
    all_goals cases h

/-- A line that gives the method or a header is no mark. -/
theorem IsHead.unmarked (hhead : said.IsHead) (h : read cs = .ok said) : Document.Unmarked cs := by
  cases cs with
  | nil =>
    obtain rfl := Except.ok.inj h
    exact hhead.elim
  | cons c rest => exact Document.unmarked_of_head (fun hc => not_isHead_of_mark hc h hhead) rest

/-- What gives the method or a header does so before or after what has nothing to do with them. -/
theorem IsHead.applyLine_comm {apart : ScriptLine} (hhead : said.IsHead) (hother : apart.IsApart)
    (request : Request) :
    (request.applyLine said).applyLine apart = (request.applyLine apart).applyLine said := by
  cases said with
  | comment | directive _ | other => exact hhead.elim
  | method _ _ | header _ _ =>
    cases apart with
    | method _ _ | header _ _ => exact hother.elim
    | comment | other => rfl
    | directive directive =>
      cases directive with
      | none => rfl
      | some directive =>
        cases directive with
        | header _ _ => exact hother.elim
        | _ => rfl

end ScriptLine

/-- A line that starts with an at sign, and neither opens a configuration block nor is a directive
for a header. -/
@[mk_iff]
structure IsDirectiveLine (text : List Char) : Prop where
  /-- It starts with an at sign. -/
  at_sign : ['@'] <+: trim text
  /-- It does not open a configuration block. -/
  ne_config : trim text ≠ Document.Reading.configMarker
  /-- It is no directive for a header. -/
  no_header : (Directive.split? (trim text)).map Prod.fst ≠ some "header".toList

instance (text : List Char) : Decidable (IsDirectiveLine text) :=
  decidable_of_iff _ (isDirectiveLine_iff text).symm

namespace IsDirectiveLine

variable {text : List Char}

theorem unmarked (h : IsDirectiveLine text) : Document.Unmarked (trim text) := by
  obtain ⟨rest, hrest⟩ := h.at_sign
  refine ⟨?_, h.ne_config, ?_, ?_⟩
  · rw [← hrest]
    exact List.cons_ne_nil '@' rest
  · rw [← hrest]
    exact fun hdoc => absurd (List.cons_prefix_cons.mp hdoc).1 (by decide)
  · rw [← hrest]
    exact fun hseparator => absurd (List.cons_prefix_cons.mp hseparator).1 (by decide)

theorem isApart (h : IsDirectiveLine text) {said : ScriptLine}
    (hread : ScriptLine.read (trim text) = .ok said) : said.IsApart := by
  obtain ⟨rest, hrest⟩ := h.at_sign
  have hhead : ¬said.IsHead := ScriptLine.not_isHead_of_mark (by decide) (hrest ▸ hread)
  cases said with
  | comment | other => trivial
  | method _ _ | header _ _ => exact hhead trivial
  | directive directive =>
    cases directive with
    | none => trivial
    | some directive =>
      cases directive with
      | header key value =>
        obtain ⟨name, argument, hsplit, hheader⟩ := ScriptLine.exists_split?_of_read hread
        have hname := congrArg String.toList (Directive.name_of_read_header hheader)
        rw [String.toList_ofList] at hname
        exact absurd (by rw [hsplit, Option.map_some, hname]) h.no_header
      | _ => trivial

end IsDirectiveLine

/-- A line that stands anywhere in a block: a directive line, or a blank one. -/
def IsPlaceable (text : List Char) : Prop :=
  trim text = [] ∨ IsDirectiveLine text

instance (text : List Char) : Decidable (IsPlaceable text) :=
  inferInstanceAs (Decidable (trim text = [] ∨ IsDirectiveLine text))

/-- Where a line may stand does not depend on the blanks around it. -/
theorem isPlaceable_trim (text : List Char) : IsPlaceable (trim text) ↔ IsPlaceable text := by
  simp only [IsPlaceable, isDirectiveLine_iff, trim_trim]

/-! ## What lines say one after the other -/

namespace Request

/-- A request with what lines say about it, one after the other. -/
def tell (request : Request) (texts : List (List Char)) : Except Fault Request :=
  texts.foldlM (fun request text => (ScriptLine.read (trim text)).map request.applyLine) request

theorem tell_cons (request : Request) (text : List Char) (rest : List (List Char)) :
    request.tell (text :: rest) =
      ScriptLine.read (trim text) >>= fun said => (request.applyLine said).tell rest := by
  rw [tell, List.foldlM_cons]
  cases ScriptLine.read (trim text) <;> rfl

theorem tell_append (request : Request) (front back : List (List Char)) :
    request.tell (front ++ back) = request.tell front >>= fun told => told.tell back :=
  List.foldlM_append

/-- A blank line says nothing. -/
theorem tell_cons_of_blank {text : List Char} (hblank : trim text = []) (request : Request)
    (rest : List (List Char)) : request.tell (text :: rest) = request.tell rest := by
  rw [tell_cons, hblank]
  rfl

/-- All that lines say is what those say that are not blank. -/
theorem tell_filter (request : Request) (texts : List (List Char)) :
    request.tell (texts.filter fun text => !(trim text).isEmpty) = request.tell texts := by
  induction texts generalizing request with
  | nil => rfl
  | cons text rest ih =>
    by_cases hblank : trim text = []
    · rw [tell_cons_of_blank hblank, List.filter_cons_of_neg (by simp [hblank]), ih]
    · rw [tell_cons, List.filter_cons_of_pos (by simpa using hblank), tell_cons]
      simp only [ih]

/-- What lines say does not depend on the blanks around them. -/
theorem tell_congr {texts others : List (List Char)} (h : texts.map trim = others.map trim)
    (request : Request) : request.tell texts = request.tell others := by
  have htrim (lines : List (List Char)) : request.tell lines =
      (lines.map trim).foldlM (fun request text => (ScriptLine.read text).map request.applyLine)
        request := by
    rw [List.foldlM_map]
    rfl
  rw [htrim, htrim, h]

/-- What changes a request apart from what lines say can do so before or after them. -/
def Commutes (f : Request → Request) : Prop :=
  ∀ (request : Request) (said : ScriptLine), said.IsApart →
    f (request.applyLine said) = (f request).applyLine said

theorem map_tell {f : Request → Request} (hf : Commutes f) {texts : List (List Char)}
    (h : ∀ text ∈ texts, IsPlaceable text) (request : Request) :
    (request.tell texts).map f = (f request).tell texts := by
  induction texts generalizing request with
  | nil => rfl
  | cons text rest ih =>
    have hrest := ih fun line hmem => h line (List.mem_cons_of_mem text hmem)
    rcases h text List.mem_cons_self with hblank | hdirective
    · rw [tell_cons_of_blank hblank, tell_cons_of_blank hblank, hrest]
    · rw [tell_cons, tell_cons]
      cases hread : ScriptLine.read (trim text) with
      | error fault => rfl
      | ok said =>
        have hsaid := hf request said (hdirective.isApart hread)
        exact (hrest (request.applyLine said)).trans (congrArg (tell · rest) hsaid)

/-- Directives do not change the URL. -/
theorem url_of_tell {texts : List (List Char)} (h : ∀ text ∈ texts, IsPlaceable text)
    {request told : Request} (htold : request.tell texts = .ok told) : told.url = request.url := by
  have hcommutes : Commutes fun other => { other with url := request.url } := by
    intro other said hapart
    cases said with
    | method _ _ | header _ _ => exact hapart.elim
    | comment | other => rfl
    | directive directive =>
      cases directive with
      | none => rfl
      | some directive => cases directive <;> rfl
  have hsame := map_tell hcommutes h request
  rw [htold] at hsame
  exact (congrArg Request.url (Except.ok.inj hsame)).symm

end Request

/-! ## Reading the lines of a block -/

namespace Document

/-- A request is open, and this is what it will be once its body has ended. -/
inductive Mode.Says (request : Request) : Mode → Prop
  /-- No line of a body has been read. -/
  | head : Says request (.head { request })
  /-- The lines so far end a body. -/
  | body {draft : Draft} : draft.endBody = { request } → Says request (.body draft)

/-- The blanks around a body make no difference to it. -/
theorem Draft.endBody_congr {draft other : Draft} (hrequest : draft.request = other.request)
    (hbody : trim (join ['\n'] draft.body.reverse) = trim (join ['\n'] other.body.reverse)) :
    draft.endBody = other.endBody := by
  simp only [endBody, hrequest, hbody]

/-- A blank line at the end of a body is trimmed away. -/
theorem Draft.endBody_cons_of_blank {text : List Char} (hblank : trim text = []) (draft : Draft) :
    ({ draft with body := text :: draft.body } : Draft).endBody = draft.endBody := by
  have hall : ∀ c ∈ '\n' :: text, isBlank c = true := by
    rw [trim_eq_nil_iff, trimStart, List.dropWhile_eq_nil_iff] at hblank
    exact List.forall_mem_cons.mpr ⟨by decide, hblank⟩
  refine endBody_congr rfl ?_
  rw [List.reverse_cons]
  by_cases hnil : draft.body.reverse = []
  · rw [hnil]
    exact hblank
  · rw [join_concat hnil, List.append_assoc, List.singleton_append, trim_append_of_blank _ hall]

namespace Reading

/-- Lines of the head say what they say one after the other. -/
theorem steps_unmarked {texts : List (List Char)} (h : ∀ text ∈ texts, Unmarked (trim text))
    (request : Request) (index : Nat) :
    ({ mode := .head { request } } : Reading).steps index texts =
      (request.tell texts).map fun told => { mode := .head { request := told } } := by
  induction texts generalizing request index with
  | nil => rfl
  | cons text rest ih =>
    rw [steps, step_unmarked rfl (h text List.mem_cons_self), Request.tell_cons]
    cases ScriptLine.read (trim text) with
    | error fault => rfl
    | ok said => exact ih (fun line hmem => h line (List.mem_cons_of_mem text hmem)) _ _

/-- Before the method line directives say what they say one after the other, and blank lines say
nothing. -/
theorem steps_placeable {texts : List (List Char)} (h : ∀ text ∈ texts, IsPlaceable text)
    {request : Request} (hurl : request.url = "") (index : Nat) :
    ({ mode := .head { request } } : Reading).steps index texts =
      (request.tell texts).map fun told => { mode := .head { request := told } } := by
  induction texts generalizing request index with
  | nil => rfl
  | cons text rest ih =>
    have hrest : ∀ line ∈ rest, IsPlaceable line := fun line hmem =>
      h line (List.mem_cons_of_mem text hmem)
    rcases h text List.mem_cons_self with hblank | hdirective
    · rw [steps, step_blank_of_no_url rfl hblank hurl, Request.tell_cons_of_blank hblank]
      exact ih hrest hurl (index + 1)
    · rw [steps, step_unmarked rfl hdirective.unmarked, Request.tell_cons]
      cases hread : ScriptLine.read (trim text) with
      | error fault => rfl
      | ok said =>
        refine ih hrest ?_ (index + 1)
        have htold : request.tell [text] = .ok (request.applyLine said) := by
          rw [Request.tell_cons, hread]
          rfl
        exact (Request.url_of_tell (by simpa using .inr hdirective) htold).trans hurl

end Reading

namespace Mode.Says

variable {request : Request} {mode : Mode} {text : List Char}

/-- Whether a request ends with its body or with its head makes no difference. -/
theorem finished_eq (h : mode.Says request) :
    ({ mode } : Reading).finished = ({ mode := .head { request } } : Reading).finished := by
  cases h with
  | head => rfl
  | body hend =>
    have hdone : ({ request } : Draft).endBody = { request } := rfl
    simp [Reading.finished, Reading.closeBefore, Reading.draft?, Draft.close?, hend, hdone]

/-- A blank line goes on with the body, or opens one. -/
theorem step_blank (h : mode.Says request) (hblank : trim text = []) (index : Nat) :
    ∃ next, ({ mode } : Reading).step index text = .ok { mode := next } ∧ next.Says request := by
  cases h with
  | head =>
    by_cases hurl : request.url = ""
    · exact ⟨.head { request }, Reading.step_blank_of_no_url rfl hblank hurl index, .head⟩
    · exact ⟨.body { request }, Reading.step_blank rfl hblank hurl index, .body rfl⟩
  | @body draft hend =>
    have hline : IsBodyLine text := ⟨by simp [hblank], by simp [hblank, blockSeparator]⟩
    exact ⟨_, Reading.step_body rfl hline index,
      .body ((draft.endBody_cons_of_blank hblank).trans hend)⟩

/-- A directive ends the body. -/
theorem step_directive (h : mode.Says request) (htext : IsDirectiveLine text) (index : Nat) :
    ({ mode } : Reading).step index text = (ScriptLine.read (trim text)).map fun said =>
      { mode := .head { request := request.applyLine said } } := by
  cases h with
  | head => rw [Reading.step_unmarked rfl htext.unmarked]
  | body hend =>
    have hat : ['@'].isPrefixOf (trim text) = true := List.isPrefixOf_iff_prefix.mpr htext.at_sign
    have hseparator : isSeparator (trim text) = false :=
      Bool.eq_false_iff.mpr (by simpa [isSeparator] using htext.unmarked.no_separator)
    have hempty : (trim text).isEmpty = false := by simpa using htext.unmarked.ne_nil
    cases hread : ScriptLine.read (trim text) <;>
      simp [Reading.step, Reading.line, Reading.headLine, htext.ne_config, hat, hseparator, hempty,
        hend, hread, Except.map, bind, Except.bind, pure, Except.pure]

/-- Behind the body directives say what they say one after the other. -/
theorem finished_steps {texts : List (List Char)} (h : mode.Says request)
    (htexts : ∀ text ∈ texts, IsPlaceable text) (index : Nat) :
    (({ mode } : Reading).steps index texts).map Reading.finished =
      (request.tell texts).map fun told =>
        ({ mode := .head { request := told } } : Reading).finished := by
  induction texts generalizing request mode index with
  | nil => exact congrArg Except.ok h.finished_eq
  | cons text rest ih =>
    have hrest : ∀ line ∈ rest, IsPlaceable line := fun line hmem =>
      htexts line (List.mem_cons_of_mem text hmem)
    rcases htexts text List.mem_cons_self with hblank | hdirective
    · obtain ⟨next, hstep, hnext⟩ := h.step_blank hblank index
      rw [Reading.steps, hstep, Request.tell_cons_of_blank hblank]
      exact ih hnext hrest (index + 1)
    · rw [Reading.steps, h.step_directive hdirective, Request.tell_cons]
      cases ScriptLine.read (trim text) with
      | error fault => rfl
      | ok said => exact ih .head hrest (index + 1)

end Mode.Says

end Document

/-! ## The rest of a block -/

/-- What stands in the block of a request, but for directives. -/
structure Block where
  /-- The method line. -/
  method : List Char
  /-- The headers. -/
  headers : List (List Char)
  /-- The lines of the body. -/
  body : Option (List (List Char))

namespace Block

/-- Whether the lines of a block are what they stand for. -/
structure WellFormed (block : Block) : Prop where
  /-- The method line gives a method and a URL. -/
  method : '\n' ∉ block.method ∧
    ∃ verb url, ScriptLine.read (trim block.method) = .ok (.method verb url)
  /-- The headers are headers. -/
  headers : ∀ line ∈ block.headers, '\n' ∉ line ∧
    ∃ key value, ScriptLine.read (trim line) = .ok (.header key value)
  /-- The lines of the body stay in it. -/
  body : ∀ lines ∈ block.body, ∀ line ∈ lines, '\n' ∉ line ∧ Document.IsBodyLine line

/-- The lines that give the method and the headers. -/
def head (block : Block) : List (List Char) :=
  block.method :: block.headers

/-- A blank line and the body, if there is one. -/
def tail (block : Block) : List (List Char) :=
  block.body.elim [] fun lines => [] :: lines

/-- The lines of a block, with lines before the method line and behind the body. -/
def texts (block : Block) (front back : List (List Char)) : List (List Char) :=
  blockSeparator :: (front ++ (block.head ++ (block.tail ++ back)))

/-- A block that is written with lines before the method line and behind the body. -/
def write (block : Block) (front back : List (List Char)) : String :=
  String.ofList (join ['\n'] (block.texts front back))

/-- A request with the body of a block. -/
def addBody (block : Block) (request : Request) : Request :=
  block.body.elim request fun lines =>
    ({ request, body := (lines.map withoutReturn).reverse } : Document.Draft).endBody.request

open Document
open Document.Reading (configMarker)

variable {block : Block}

theorem url_addBody (block : Block) (request : Request) :
    (block.addBody request).url = request.url := by
  unfold addBody
  cases block.body with
  | none => rfl
  | some lines =>
    simp only [Option.elim_some, Draft.endBody]
    split <;> rfl

/-- A body has nothing to do with what lines say. -/
theorem commutes_addBody (block : Block) : Request.Commutes block.addBody := by
  intro request said _
  unfold addBody
  cases block.body with
  | none => rfl
  | some lines =>
    simp only [Option.elim_some, Document.Draft.endBody]
    split
    · rfl
    · exact (request.hear_withBody (some said) _).symm

theorem WellFormed.forall_head (h : block.WellFormed) : ∀ line ∈ block.head, ∃ said : ScriptLine,
    said.IsHead ∧ ScriptLine.read (trim line) = .ok said := by
  refine List.forall_mem_cons.mpr ⟨?_, fun line hmem => ?_⟩
  · obtain ⟨-, verb, url, hread⟩ := h.method
    exact ⟨.method verb url, trivial, hread⟩
  · obtain ⟨-, key, value, hread⟩ := h.headers line hmem
    exact ⟨.header key value, trivial, hread⟩

/-- What the lines of a head say can be said before or after what has nothing to do with it. -/
theorem exists_tell_head {head : List (List Char)} (h : ∀ line ∈ head, ∃ said : ScriptLine,
    said.IsHead ∧ ScriptLine.read (trim line) = .ok said) :
    ∃ f : Request → Request, Request.Commutes f ∧
      (∀ request : Request, request.tell head = .ok (f request)) ∧
      ∀ request : Request, request.url ≠ "" → (f request).url ≠ "" := by
  induction head with
  | nil => exact ⟨id, fun _ _ _ => rfl, fun _ => rfl, fun _ => id⟩
  | cons line rest ih =>
    obtain ⟨said, hsaid, hread⟩ := h line List.mem_cons_self
    obtain ⟨f, hf, htell, hurl⟩ := ih fun other hmem => h other (List.mem_cons_of_mem line hmem)
    refine ⟨fun request => f (request.applyLine said), fun request apart hapart => ?_,
      fun request => ?_, fun request hset => hurl _ ?_⟩
    · dsimp only
      rw [← hf _ _ hapart, hsaid.applyLine_comm hapart]
    · rw [Request.tell_cons, hread]
      exact htell _
    · cases said with
      | comment | directive _ | other => exact hsaid.elim
      | header _ _ => exact hset
      | method verb url => exact (ScriptLine.wellFormed_read hread).ne_empty

namespace WellFormed

/-- The head of a block gives a URL, whatever directives say. -/
theorem exists_tell_head (h : block.WellFormed) :
    ∃ f : Request → Request, Request.Commutes f ∧ (∀ request, (f request).url ≠ "") ∧
      ∀ request : Request, request.tell block.head = .ok (f request) := by
  obtain ⟨-, verb, url, hread⟩ := h.method
  obtain ⟨hmethod, hheaders⟩ := List.forall_mem_cons.mp h.forall_head
  obtain ⟨f, hf, htell, -⟩ := Block.exists_tell_head h.forall_head
  obtain ⟨g, -, hrest, hurl⟩ := Block.exists_tell_head hheaders
  refine ⟨f, hf, fun request => ?_, htell⟩
  have hsplit : (request.applyLine (.method verb url)).tell block.headers = .ok (f request) := by
    rw [← htell request, head, Request.tell_cons, hread]
    rfl
  rw [hrest] at hsplit
  rw [← Except.ok.inj hsplit]
  exact hurl _ (ScriptLine.wellFormed_read hread).ne_empty

/-- The body of a block adds itself to the request that is open. -/
theorem exists_steps_tail (h : block.WellFormed) {request : Request} (hurl : request.url ≠ "")
    {tail : List (List Char)} (htail : AreReadAs block.tail tail) (index : Nat) :
    ∃ mode : Mode, mode.Says (block.addBody request) ∧
      ({ mode := .head { request } } : Reading).steps index tail = .ok { mode } := by
  unfold Block.tail at htail
  unfold addBody
  cases hbody : block.body with
  | none =>
    rw [hbody] at htail
    cases htail
    exact ⟨_, .head, rfl⟩
  | some texts =>
    rw [hbody] at htail
    obtain ⟨read, rfl, hread⟩ := htail.exists_cons (by decide)
    have hlines := hread.forall_mem isBodyLine_trim
      fun line hmem => (h.body texts hbody line hmem).2
    have hopen := Reading.steps_blank_body {} { request } hurl hlines index
    rw [List.append_nil] at hopen
    have hend : ({ request, body := read.reverse } : Draft).endBody =
        ({ request, body := (texts.map withoutReturn).reverse } : Draft).endBody := by
      refine Draft.endBody_congr rfl ?_
      simp only [List.reverse_reverse]
      exact hread.isReadAs_join.trim_eq.symm
    exact ⟨_, .body hend, hopen⟩

/-- The method line, the headers and the body leave a request open that has what they say. -/
theorem exists_steps (h : block.WellFormed) :
    ∃ f : Request → Request, Request.Commutes f ∧ (∀ request, (f request).url ≠ "") ∧
      ∀ (request : Request) {head tail : List (List Char)}, AreReadAs block.head head →
        AreReadAs block.tail tail → ∀ index, ∃ mode : Mode, mode.Says (f request) ∧
          ({ mode := .head { request } } : Reading).steps index (head ++ tail) = .ok { mode } := by
  obtain ⟨f, hf, hurl, htell⟩ := h.exists_tell_head
  have hunmarked : ∀ line ∈ block.head, Unmarked (trim line) := fun line hmem => by
    obtain ⟨said, hsaid, hread⟩ := h.forall_head line hmem
    exact hsaid.unmarked hread
  refine ⟨fun request => block.addBody (f request), fun request said hapart => ?_,
    fun request => ?_, fun request head tail hhead htail index => ?_⟩
  · dsimp only
    rw [hf _ _ hapart, block.commutes_addBody _ _ hapart]
  · rw [url_addBody]
    exact hurl request
  · have hlines := hhead.forall_mem (p := fun line => Unmarked (trim line))
      (fun line => by rw [trim_trim]) hunmarked
    have hsteps := Reading.steps_unmarked hlines request index
    rw [Request.tell_congr hhead.map_trim_eq, htell] at hsteps
    rw [Reading.steps_append, hsteps]
    exact h.exists_steps_tail (hurl request) htail (index + head.length)

/-- Every line of a block is on one line. -/
theorem forall_texts (h : block.WellFormed) {front back : List (List Char)}
    (hlines : ∀ line ∈ front ++ back, '\n' ∉ line) :
    ∀ line ∈ block.texts front back, '\n' ∉ line := by
  have hbody : ∀ line ∈ block.tail, '\n' ∉ line := by
    unfold tail
    cases hbody : block.body with
    | none => exact nofun
    | some texts =>
      exact List.forall_mem_cons.mpr ⟨by decide, fun line hmem => (h.body texts hbody line hmem).1⟩
  intro line hmem
  simp only [texts, head, List.mem_cons, List.mem_append] at hmem
  rcases hmem with rfl | hfront | (rfl | hheader) | hbodyLine | hback
  · decide
  · exact hlines line (List.mem_append_left back hfront)
  · exact h.method.1
  · exact (h.headers line hheader).1
  · exact hbody line hbodyLine
  · exact hlines line (List.mem_append_right front hback)

/-- A block is read part by part, and only carriage returns are taken away at ends of lines. -/
theorem exists_lines (h : block.WellFormed) {front back : List (List Char)}
    (hlines : ∀ line ∈ front ++ back, '\n' ∉ line) :
    ∃ before head tail behind : List (List Char),
      lines (block.write front back).toList =
        blockSeparator :: (before ++ (head ++ tail ++ behind)) ∧
      AreReadAs front before ∧ AreReadAs block.head head ∧ AreReadAs block.tail tail ∧
      AreReadAs back behind := by
  have hread := areReadAs_lines_join (List.cons_ne_nil _ _) (h.forall_texts hlines)
  obtain ⟨reads, hreads, hread⟩ := hread.exists_cons (by decide)
  obtain ⟨before, reads, rfl, hfront, hread⟩ := hread.exists_append
  obtain ⟨head, reads, rfl, hhead, hread⟩ := hread.exists_append
  obtain ⟨tail, behind, rfl, htail, hback⟩ := hread.exists_append
  refine ⟨before, head, tail, behind, ?_, hfront, hhead, htail, hback⟩
  rw [write, String.toList_ofList, texts, hreads, List.append_assoc]

/-- What a block says is what it says without directives, and then what the directives say. -/
theorem exists_finished (h : block.WellFormed) :
    ∃ bare : Request, bare.url ≠ "" ∧ ∀ front back : List (List Char),
      (∀ line ∈ front ++ back, '\n' ∉ line ∧ IsPlaceable line) →
        (({} : Reading).steps 0 (lines (block.write front back).toList)).map Reading.finished =
          (bare.tell (front ++ back)).map fun told =>
            ({ mode := .head { request := told } } : Reading).finished := by
  obtain ⟨f, hf, hurl, hhead⟩ := h.exists_steps
  let first : Request := (Draft.start 0).request
  refine ⟨f first, hurl _, fun front back hlines => ?_⟩
  obtain ⟨before, head, tail, behind, hread, hbefore, hheadLines, htail, hbehind⟩ :=
    h.exists_lines fun line hmem => (hlines line hmem).1
  obtain ⟨hfront, hback⟩ := List.forall_mem_append.mp fun line hmem => (hlines line hmem).2
  have hopen : ({} : Reading).step 0 blockSeparator = .ok { mode := .head { request := first } } :=
    rfl
  have hfirst := Reading.steps_placeable (hbefore.forall_mem isPlaceable_trim hfront)
    (rfl : first.url = "") 1
  rw [Request.tell_congr hbefore.map_trim_eq] at hfirst
  rw [hread, Reading.steps, hopen, Request.tell_append, ← Request.map_tell hf hfront]
  change (({ mode := .head { request := first } } : Reading).steps 1
    (before ++ (head ++ tail ++ behind))).map Reading.finished = _
  rw [Reading.steps_append, hfirst]
  cases first.tell front with
  | error fault => rfl
  | ok told =>
    obtain ⟨mode, hsays, hsteps⟩ := hhead told hheadLines htail (1 + before.length)
    have hlast := hsays.finished_steps (hbehind.forall_mem isPlaceable_trim hback)
      (1 + before.length + (head ++ tail).length)
    rw [Request.tell_congr hbehind.map_trim_eq] at hlast
    change (({ mode := .head { request := told } } : Reading).steps (1 + before.length)
      (head ++ tail ++ behind)).map Reading.finished = _
    rw [Reading.steps_append, hsteps]
    exact hlast

end WellFormed

/-- A script with nothing but one request says that request. -/
theorem toDocument_finished {request : Request} (hurl : request.url ≠ "") :
    ({ mode := .head { request } } : Reading).finished.toDocument =
      { requests := [request.unnumbered] } := by
  have hdone : ({ request } : Draft).endBody = { request } := rfl
  have hclose : ({ request } : Draft).close? (0 - 1) = some { request with endLine := 0 - 1 } := by
    simp [Draft.close?, hdone, hurl]
  simp only [Reading.finished, Reading.closeBefore, Reading.draft?, hclose]
  change ({ requests := [(resolveConfig [] (applyDefaults none []
    { request with endLine := 0 - 1 }.unnumbered)).unnumbered] } : Document) = _
  rw [resolveConfig_nil, Request.unnumbered_unnumbered]
  rfl

/-- **Where directives stand does not matter**: blocks whose method lines, headers and bodies are
the same and that have the same directives in the same order say the same request, or cannot be read
for the same reason. Each directive may stand before the method line or behind the body, with blank
lines around it. -/
theorem parse_write_alike (h : block.WellFormed)
    {front back otherFront otherBack : List (List Char)}
    (hlines : ∀ line ∈ front ++ back, '\n' ∉ line ∧ IsPlaceable line)
    (hothers : ∀ line ∈ otherFront ++ otherBack, '\n' ∉ line ∧ IsPlaceable line)
    (hsame : (front ++ back).filter (fun line => !(trim line).isEmpty) =
      (otherFront ++ otherBack).filter fun line => !(trim line).isEmpty) :
    ∃ outcome : Except Fault Request,
      (parse (block.write front back)).map unnumbered =
        outcome.map (fun request => { requests := [request] }) ∧
      (parse (block.write otherFront otherBack)).map unnumbered =
        outcome.map fun request => { requests := [request] } := by
  obtain ⟨bare, hurl, hbare⟩ := h.exists_finished
  have hparse {front back : List (List Char)}
      (hlines : ∀ line ∈ front ++ back, '\n' ∉ line ∧ IsPlaceable line) :
      (parse (block.write front back)).map unnumbered =
        ((bare.tell (front ++ back)).map Request.unnumbered).map
          fun request => { requests := [request] } := by
    rw [map_unnumbered_parse, hbare front back hlines]
    cases htold : bare.tell (front ++ back) with
    | error fault => rfl
    | ok told =>
      have hplaced := Request.url_of_tell (fun line hmem => (hlines line hmem).2) htold
      exact congrArg Except.ok (toDocument_finished (hplaced ▸ hurl))
  refine ⟨_, hparse hlines, ?_⟩
  rw [hparse hothers, ← Request.tell_filter, ← Request.tell_filter bare (front ++ back), hsame]

/-- A block with a header and a body. -/
def posted : Block where
  method := "post http://h/users".toList
  headers := ["Accept: text/plain".toList]
  body := some ["[".toList, "  Name: x".toList, "".toList, "]\r".toList]

theorem wellFormed_posted : posted.WellFormed where
  method := ⟨by decide, "POST", "http://h/users", by rfl⟩
  headers := List.forall_mem_singleton.mpr ⟨by decide, "Accept", "text/plain", by rfl⟩
  body := by
    rintro lines ⟨⟩ line hmem
    have hall : ∀ line ∈ ["[".toList, "  Name: x".toList, "".toList, "]\r".toList],
        '\n' ∉ line ∧ ¬['@'] <+: trim line ∧ ¬blockSeparator <+: trim line := by
      decide
    obtain ⟨hsingle, hat, hseparator⟩ := hall line hmem
    exact ⟨hsingle, hat, hseparator⟩

/-- Directives: two that say something, one that is unknown, and two tags that the last one
replaces. -/
def postedDirectives : List (List Char) :=
  ["@name New user", "@tags a, b", "@unknown: 7", "  @assert status == 201\r", "@tags c"].map
    String.toList

theorem parse_write_alike_posted :
    ∃ outcome : Except Fault Request,
      (parse (posted.write (postedDirectives.take 2) (postedDirectives.drop 2))).map unnumbered =
        outcome.map (fun request => { requests := [request] }) ∧
      (parse (posted.write [] ([] :: postedDirectives.intersperse " ".toList))).map unnumbered =
        outcome.map (fun request => { requests := [request] }) ∧
      outcome.map (fun request => (request.name, request.tags, request.body)) =
        .ok (some "New user", ["c"], some "[\n  Name: x\n\n]") := by
  have hlines : ∀ line ∈ postedDirectives.take 2 ++ postedDirectives.drop 2,
      '\n' ∉ line ∧ IsPlaceable line := by
    decide +kernel
  have hothers : ∀ line ∈ [] ++ [] :: postedDirectives.intersperse " ".toList,
      '\n' ∉ line ∧ IsPlaceable line := by
    decide +kernel
  obtain ⟨outcome, hfirst, hsecond⟩ :=
    parse_write_alike wellFormed_posted hlines hothers (by decide +kernel)
  refine ⟨outcome, hfirst, hsecond, ?_⟩
  have hsaid : ((parse (posted.write (postedDirectives.take 2) (postedDirectives.drop 2))).map
      unnumbered).map (·.requests.map fun request => (request.name, request.tags, request.body)) =
      .ok [(some "New user", ["c"], some "[\n  Name: x\n\n]")] := by
    decide +kernel
  rw [hfirst] at hsaid
  cases outcome with
  | error fault => cases hsaid
  | ok request => exact congrArg Except.ok (List.singleton_injective (Except.ok.inj hsaid))

/-- A line that opens a configuration block where the blanks around it are taken away cannot stand
anywhere: behind it the block of the request has ended. -/
theorem config_with_blank_not_alike :
    ¬∀ block : Block, block.WellFormed → ∀ front back otherFront otherBack : List (List Char),
      (∀ line ∈ front ++ back, '\n' ∉ line ∧ line.head? = some '@' ∧ line ≠ configMarker ∧
        (Directive.split? (trim line)).map Prod.fst ≠ some "header".toList) →
      front ++ back = otherFront ++ otherBack →
        ((parse (block.write front back)).map unnumbered).map Document.requests =
          ((parse (block.write otherFront otherBack)).map unnumbered).map Document.requests := by
  intro halike
  have hlines : ∀ line ∈ ["@name x".toList, "@config ".toList] ++ [], '\n' ∉ line ∧
      line.head? = some '@' ∧ line ≠ configMarker ∧
      (Directive.split? (trim line)).map Prod.fst ≠ some "header".toList := by
    decide +kernel
  have hsame := halike posted wellFormed_posted _ _ [] _ hlines rfl
  have hnames : (((parse (posted.write ["@name x".toList, "@config ".toList] [])).map
      unnumbered).map Document.requests).map (·.map Request.name) = .ok [none] := by
    decide +kernel
  have hothers : (((parse (posted.write [] ["@name x".toList, "@config ".toList])).map
      unnumbered).map Document.requests).map (·.map Request.name) = .ok [some "x"] := by
    decide +kernel
  rw [hsame] at hnames
  exact absurd (hnames.symm.trans hothers) (by decide)

end Block

end RequestScript
