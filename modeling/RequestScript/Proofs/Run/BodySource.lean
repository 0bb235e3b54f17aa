import RequestScript.Proofs.Run.Preview
import RequestScript.Proofs.Variables.Fixed
import RequestScript.Proofs.World.Files

/-!
# What a call carries

A call carries the form of its request, or else its body file, or else its inline body. The first
of them that is given counts, even where it comes to nothing: fields that name no file are left out
of a form, and a body file that is not there is no reason to send the inline body. Placeholders are
replaced one text after another, so that the draws of a text come after those of the texts before.
-/

namespace RequestScript

open RequestScript.Action

/-- A text with its placeholders replaced by the variables of a world, and by draws from some dice
up to the next ones. -/
def World.Replaces (world : World) (text : String) (dice : Dice) (filled : String) (next : Dice) :
    Prop :=
  (world.store.interpolate world.clock text).on dice = (.ok filled, next)

/-- A header keeps its name. -/
def World.FillsHeader (world : World) (header : String × String) (dice : Dice)
    (filled : String × String) (next : Dice) : Prop :=
  filled.1 = header.1 ∧ world.Replaces header.2 dice filled.2 next

/-- A list is made item by item, each with the dice that the one before it has left. -/
inductive MadeInTurn {α β : Type} (made : α → Dice → β → Dice → Prop) :
    List α → Dice → List β → Dice → Prop
  | nil {dice : Dice} : MadeInTurn made [] dice [] dice
  | cons {x : α} {y : β} {xs : List α} {ys : List β} {dice between next : Dice} :
      made x dice y between → MadeInTurn made xs between ys next →
      MadeInTurn made (x :: xs) dice (y :: ys) next

/-- A call carries data, or none, and the headers as they are. -/
structure Call.CarriesData (call : Call) (headers : Headers) (data : Option ByteArray) : Prop where
  data : call.data = data
  parts : call.parts = none
  headers : call.headers = some headers

/-- A call carries a form, and the headers but for the content type. -/
structure Call.CarriesForm (call : Call) (headers : Headers) (parts : List Part) : Prop where
  data : call.data = none
  parts : call.parts = some parts
  headers : call.headers =
    some (headers.filter fun header => Text.lowercased header.1 != "content-type")

namespace Request

/-- What a field of a form becomes: a text, a file, or nothing where it names no file. -/
inductive MakesPart (request : Request) (world : World) (field : FormField) (dice : Dice) :
    Option Part → Dice → Prop
  | text {value : String} {next : Dice} :
      field.file.filter (!·.isEmpty) = none → world.Replaces field.value dice value next →
      MakesPart request world field dice (some (.text field.key value)) next
  | file {file name : String} {content : ByteArray} {next : Dice} :
      field.file.filter (!·.isEmpty) = some file → world.Replaces file dice name next →
      world.find (request.filePathOf name) = .ok (.file content) →
      MakesPart request world field dice
        (some (.file field.key (request.filePathOf name).name content
          ((field.mime.filter (!·.isEmpty)).getD (Mime.ofPath (request.filePathOf name))))) next
  | missing {file name : String} {next : Dice} :
      field.file.filter (!·.isEmpty) = some file → world.Replaces file dice name next →
      (∀ content, world.find (request.filePathOf name) ≠ .ok (.file content)) →
      MakesPart request world field dice none next

/-- What a call of a request carries, how a report shows it, and the dice that are left. -/
inductive CarriesBody (request : Request) (world : World) (headers : Headers) (dice : Dice)
    (call : Call) : Option String → Dice → Prop
  | form {parts : List (Option Part)} {next : Dice} :
      request.form ≠ [] → MadeInTurn (request.MakesPart world) request.form dice parts next →
      call.CarriesForm headers (parts.filterMap fun part => part) →
      CarriesBody request world headers dice call (some "[multipart]") next
  | textFile {file name text filled : String} {content : ByteArray} {between next : Dice} :
      request.form = [] → request.bodyFile.filter (!·.isEmpty) = some file →
      world.Replaces file dice name between →
      world.find (request.filePathOf name) = .ok (.file content) →
      Mime.isText (Mime.ofPath (request.filePathOf name)) = true →
      textOfBytes content = .ok text → world.Replaces text between filled next →
      call.CarriesData headers (some filled.toUTF8) →
      CarriesBody request world headers dice call (some filled) next
  | binaryFile {file name : String} {content : ByteArray} {next : Dice} :
      request.form = [] → request.bodyFile.filter (!·.isEmpty) = some file →
      world.Replaces file dice name next →
      world.find (request.filePathOf name) = .ok (.file content) →
      Mime.isText (Mime.ofPath (request.filePathOf name)) = false →
      call.CarriesData headers (if content.isEmpty then none else some content) →
      CarriesBody request world headers dice call (some "[binary]") next
  | missingFile {file name : String} {next : Dice} :
      request.form = [] → request.bodyFile.filter (!·.isEmpty) = some file →
      world.Replaces file dice name next →
      (∀ content, world.find (request.filePathOf name) ≠ .ok (.file content)) →
      call.CarriesData headers none →
      CarriesBody request world headers dice call none next
  | inline {body filled : String} {next : Dice} :
      request.form = [] → request.bodyFile.filter (!·.isEmpty) = none →
      request.body.filter (!·.isEmpty) = some body → world.Replaces body dice filled next →
      call.CarriesData headers (some filled.toUTF8) →
      CarriesBody request world headers dice call (some filled) next
  | nothing :
      request.form = [] → request.bodyFile.filter (!·.isEmpty) = none →
      request.body.filter (!·.isEmpty) = none → call.CarriesData headers none →
      CarriesBody request world headers dice call none dice

end Request

/-! ## Making a request ready -/

namespace World

variable {world between : World}

/-- Draws do not move any file. -/
theorem Draws.find_eq (h : Draws world between) (path : Path) :
    between.find path = world.find path := by
  obtain ⟨dice, logged, rfl, -⟩ := h
  rfl

/-- A text is replaced after some draws as the variables of the world before them say. -/
theorem Draws.replaces (h : Draws world between) {text filled : String} {after : World}
    (hon : (interpolate text).on between = (.ok filled, after)) :
    world.Replaces text between.dice filled after.dice := by
  obtain ⟨dice, logged, rfl, -⟩ := h
  rw [on_interpolate] at hon
  obtain ⟨hfilled, rfl⟩ := Prod.mk.inj hon
  exact Store.on_interpolate_of_within (Prod.ext hfilled rfl)

end World

/-- What makes each item of a list makes the list in turn. -/
theorem madeInTurn_of_mapM {α β : Type} {f : α → Action β} {made : α → Dice → β → Dice → Prop}
    {world : World} (hdraws : ∀ x, Moves World.Draws (f x))
    (hmade : ∀ {x between y after}, World.Draws world between →
      (f x).on between = (.ok y, after) → made x between.dice y after.dice)
    {xs : List α} {ys : List β} {between after : World} (hbetween : World.Draws world between)
    (h : (xs.mapM f).on between = (.ok ys, after)) :
    MadeInTurn made xs between.dice ys after.dice := by
  induction xs generalizing ys between with
  | nil =>
    cases h
    exact .nil
  | cons x xs ih =>
    rw [List.mapM_cons] at h
    obtain ⟨y, middle, hfirst, h⟩ := on_bind_ok h
    obtain ⟨rest, last, hrest, h⟩ := on_bind_ok h
    cases h
    have hmiddle : World.Draws world middle :=
      IsTrans.trans _ _ _ hbetween ((hdraws x).rel_of_on hfirst)
    exact .cons (hmade hbetween hfirst) (ih hmiddle hrest)

namespace Request

variable {request : Request} {world between after : World}

/-- The headers of a request are replaced in turn. -/
theorem fillsHeaders_of_resolveHeaders {headers : Headers} (hbetween : World.Draws world between)
    (h : request.resolveHeaders.on between = (.ok headers, after)) :
    MadeInTurn world.FillsHeader request.headers between.dice headers after.dice := by
  refine madeInTurn_of_mapM (fun _ => (draws_interpolate _).bind fun _ => .pure _) ?_ hbetween h
  intro header between filled after hbetween hheader
  obtain ⟨value, _, hvalue, hheader⟩ := on_bind_ok hheader
  cases hheader
  exact ⟨rfl, hbetween.replaces hvalue⟩

/-- What a field of a form becomes when it is made ready. -/
theorem makesPart_of_preparePart {field : FormField} {part : Option Part}
    (hbetween : World.Draws world between)
    (h : (request.preparePart field).on between = (.ok part, after)) :
    request.MakesPart world field between.dice part after.dice := by
  unfold preparePart at h
  split at h
  · next hfile =>
    obtain ⟨value, _, hvalue, h⟩ := on_bind_ok h
    cases h
    exact .text hfile (hbetween.replaces hvalue)
  · next file hfile =>
    obtain ⟨name, named, hname, h⟩ := on_bind_ok h
    obtain ⟨found, _, hisFile, h⟩ := on_bind_ok h
    obtain ⟨rfl, hfound⟩ := on_isFile_ok hisFile
    have hreplaces := hbetween.replaces hname
    have hfind : named.find (request.filePathOf name) = world.find (request.filePathOf name) :=
      World.Draws.find_eq (IsTrans.trans _ _ _ hbetween
        ((draws_interpolate file).rel_of_on hname)) _
    rw [hfind] at hfound
    split at h
    · obtain ⟨content, _, hread, h⟩ := on_bind_ok h
      obtain ⟨rfl, hcontent⟩ := on_readBytes_ok hread
      cases h
      exact .file hfile hreplaces (hfind ▸ hcontent)
    · next hmissing =>
      obtain ⟨_, _, hlog, h⟩ := on_bind_ok h
      cases hlog
      cases h
      exact .missing hfile hreplaces fun content hcontent =>
        hmissing (hfound.mpr ⟨content, hcontent⟩)

/-- What a body file becomes when it is made ready. -/
theorem carriesBody_of_prepareFile {file : String} {payload : Payload} {shown : Option String}
    (hform : request.form = []) (hfile : request.bodyFile.filter (!·.isEmpty) = some file)
    (hbetween : World.Draws world between)
    (h : (request.prepareFile file).on between = (.ok (payload, shown), after))
    (method url : String) (headers : Headers) (timeout : Option Seconds) :
    request.CarriesBody world headers between.dice
      (Call.make method url (some headers) payload timeout) shown after.dice := by
  unfold prepareFile at h
  obtain ⟨name, named, hname, h⟩ := on_bind_ok h
  obtain ⟨found, _, hisFile, h⟩ := on_bind_ok h
  obtain ⟨rfl, hfound⟩ := on_isFile_ok hisFile
  have hreplaces := hbetween.replaces hname
  have hnamed : World.Draws world named :=
    IsTrans.trans _ _ _ hbetween ((draws_interpolate file).rel_of_on hname)
  have hfind := hnamed.find_eq (request.filePathOf name)
  rw [hfind] at hfound
  split at h
  · split at h
    · next htype =>
      obtain ⟨text, _, hread, h⟩ := on_bind_ok h
      obtain ⟨rfl, content, hcontent, htext⟩ := on_readText_ok hread
      obtain ⟨filled, _, hfilled, h⟩ := on_bind_ok h
      cases h
      exact .textFile hform hfile hreplaces (hfind ▸ hcontent) htype htext
        (hnamed.replaces hfilled) ⟨rfl, rfl, rfl⟩
    · next htype =>
      obtain ⟨content, _, hread, h⟩ := on_bind_ok h
      obtain ⟨rfl, hcontent⟩ := on_readBytes_ok hread
      cases h
      exact .binaryFile hform hfile hreplaces (hfind ▸ hcontent) (Bool.eq_false_iff.mpr htype)
        ⟨rfl, rfl, rfl⟩
  · next hmissing =>
    obtain ⟨_, _, hlog, h⟩ := on_bind_ok h
    cases hlog
    cases h
    exact .missingFile hform hfile hreplaces
      (fun content hcontent => hmissing (hfound.mpr ⟨content, hcontent⟩)) ⟨rfl, rfl, rfl⟩

/-- What the body of a request becomes when it is made ready. -/
theorem carriesBody_of_preparePayload {payload : Payload} {shown : Option String}
    (hbetween : World.Draws world between)
    (h : request.preparePayload.on between = (.ok (payload, shown), after))
    (method url : String) (headers : Headers) (timeout : Option Seconds) :
    request.CarriesBody world headers between.dice
      (Call.make method url (some headers) payload timeout) shown after.dice := by
  unfold preparePayload at h
  split at h
  · next hform =>
    obtain ⟨parts, _, hparts, h⟩ := on_bind_ok h
    cases h
    refine .form (by simpa using hform) ?_ ⟨rfl, rfl, rfl⟩
    exact madeInTurn_of_mapM (draws_preparePart request) makesPart_of_preparePart hbetween hparts
  · next hform =>
    have hnil : request.form = [] := by simpa using hform
    split at h
    · next file _ hfile =>
      exact carriesBody_of_prepareFile hnil hfile hbetween h method url headers timeout
    · next body hfile hbody =>
      obtain ⟨filled, _, hfilled, h⟩ := on_bind_ok h
      cases h
      exact .inline hnil hfile hbody (hbetween.replaces hfilled) ⟨rfl, rfl, rfl⟩
    · next hfile hbody =>
      cases h
      exact .nothing hnil hfile hbody ⟨rfl, rfl, rfl⟩

/-! ## Runs -/

/-- A report on a run without references shows the body as it was made ready. -/
theorem shown_of_run (hpre : request.pre = []) {requests : List Request} {defaults : Defaults}
    {report : Report} {prepared : Prepared} {ready : World}
    (hrun : (request.run requests defaults).on world = (.ok report, after))
    (hprepare : request.prepare.on world = (.ok prepared, ready)) :
    report.requestBody = prepared.shown := by
  obtain ⟨same, _, _, _, _, _, hsame, -, -, hconclude⟩ :=
    runAfter_steps (runAfter_of_run hpre hrun)
  obtain ⟨hprepared, -⟩ := Prod.mk.inj (hprepare.symm.trans hsame)
  obtain rfl := Except.ok.inj hprepared
  exact (fields_of_conclude hconclude).2.1

/-- **What every call of a run carries.** A run without references that no fault stops replaces the
placeholders of the URL and of the headers, and then makes calls that carry the form of the request,
or else its body file, or else its inline body. The report shows the body that was carried. -/
theorem run_carries_body (hpre : request.pre = []) {requests : List Request} {defaults : Defaults}
    {report : Report} (hrun : (request.run requests defaults).on world = (.ok report, after)) :
    ∃ url addressed headers dice, request.resolveUrl.on world = (.ok url, addressed) ∧
      MadeInTurn world.FillsHeader request.headers addressed.dice headers dice ∧
      ∃ new, after.events = new ++ world.events ∧ (∃ call, .sent call ∈ new) ∧
        ∀ call, .sent call ∈ new → call.url = url ∧
          request.CarriesBody world headers dice call report.requestBody after.dice := by
  obtain ⟨prepared, ready, timeout, hprepare, hdice, new, hnew, hsent, hcalls⟩ :=
    sends_prepared hpre hrun
  have hshown := shown_of_run hpre hrun hprepare
  unfold prepare at hprepare
  obtain ⟨url, addressed, hurl, hprepare⟩ := on_bind_ok hprepare
  obtain ⟨headers, between, hheaders, hprepare⟩ := on_bind_ok hprepare
  obtain ⟨⟨payload, shown⟩, _, hpayload, hprepare⟩ := on_bind_ok hprepare
  obtain ⟨hprepared, rfl⟩ := Prod.mk.inj hprepare
  obtain rfl := Except.ok.inj hprepared
  have haddressed : World.Draws world addressed := (draws_resolveUrl request).rel_of_on hurl
  have hbetween : World.Draws world between :=
    IsTrans.trans _ _ _ haddressed ((draws_resolveHeaders request).rel_of_on hheaders)
  refine ⟨url, addressed, headers, between.dice, hurl,
    fillsHeaders_of_resolveHeaders haddressed hheaders, new, hnew, hsent, fun call hcall => ?_⟩
  rw [hcalls call hcall, hshown, hdice]
  refine ⟨?_, carriesBody_of_preparePayload hbetween hpayload _ _ _ _⟩
  cases payload <;> rfl

/-- A request with a drawn address, a content type, a form with a text, a file and a file that is
not there, and an inline body. -/
def formRequest : Request where
  method := "POST"
  url := "http://h/\x7b\x7b$randomInt\x7d\x7d"
  headers := [("CONTENT-Type", "text/plain"), ("X-Seen", "\x7b\x7b$randomInt\x7d\x7d")]
  form := [
    { key := "who", value := "\x7b\x7bname\x7d\x7d \x7b\x7b$randomInt\x7d\x7d" },
    { key := "log", file := some "\x7b\x7bname\x7d\x7d.json" },
    { key := "gone", file := some "no.txt" }]
  body := some "left out"
  filePath := some "/work/one.rext"

/-- A world with the file of this request. -/
def formWorld : World :=
  { World.quiet with
    files := ⟨[(["work"], .directory), (["work", "ann.json"], .file "[1]".toUTF8)]⟩
    dice := { source := fun n => 3 + n }
    store := { session := { entries := [("name", .string "ann")] } } }

/-- The calls of this request carry its form. -/
theorem run_carries_body_of_form :
    ∃ report after call url headers dice, (formRequest.run [] {}).on formWorld =
        (.ok report, after) ∧ report.requestBody = some "[multipart]" ∧
      .sent call ∈ after.events ∧ call.url = url ∧
      formRequest.CarriesBody formWorld headers dice call (some "[multipart]") after.dice := by
  have hshown : ((formRequest.run [] {}).on formWorld).1.toOption.map (·.requestBody) =
      some (some "[multipart]") := by
    cbv
  rcases hrun : (formRequest.run [] {}).on formWorld with ⟨fault | report, after⟩ <;>
    rw [hrun] at hshown
  · cases hshown
  · have hbody : report.requestBody = some "[multipart]" := Option.some.inj hshown
    obtain ⟨url, addressed, headers, dice, -, -, new, hnew, ⟨call, hsent⟩, hcalls⟩ :=
      run_carries_body rfl hrun
    obtain ⟨hurl, hcarries⟩ := hcalls call hsent
    rw [hbody] at hcarries
    exact ⟨report, after, call, url, headers, dice, rfl, hbody,
      hnew ▸ List.mem_append_left _ hsent, hurl, hcarries⟩

end Request

end RequestScript
