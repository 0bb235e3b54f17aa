import Mathlib
import RequestScript.CommandLine
import RequestScript.Proofs.Run.Preview
import RequestScript.Proofs.Variables.Fixed
import RequestScript.Proofs.World.Files

/-!
# What the command shows of a body

The command shows the body of a request where nothing comes before it: no form, and no body file
whose name is anything after its placeholders are replaced. A run looks at the body file before its
placeholders are replaced. So a request whose body file comes to nothing is shown with a body that
no run of it sends.
-/

namespace RequestScript

open RequestScript.Action

namespace ResolvedRequest

/-- The lines that a request is shown with before its body. -/
def heading (shown : ResolvedRequest) : List String :=
  (shown.method ++ " " ++ shown.url) :: shown.headers.map fun (name, value) => name ++ ": " ++ value

/-- A request is shown with a body. -/
def ShowsBody (shown : ResolvedRequest) (body : String) : Prop :=
  CommandLine.resolvedLines shown = shown.heading ++ ["", body, ""]

instance (shown : ResolvedRequest) (body : String) : Decidable (shown.ShowsBody body) :=
  inferInstanceAs (Decidable (_ = _))

/-- A line about a part of a form is not empty. -/
theorem formLine_ne_empty (field : FormField) : CommandLine.formLine field ≠ "" := by
  intro h
  have htext := congrArg String.toList h
  simp [CommandLine.formLine] at htext

/-- A body is shown if there are neither a form nor a body file with a name before it. -/
theorem ShowsBody.parts {shown : ResolvedRequest} {body : String} (h : shown.ShowsBody body) :
    shown.form = [] ∧ shown.bodyFile.filter (!·.isEmpty) = none ∧
      shown.body.filter (!·.isEmpty) = some body := by
  unfold ShowsBody CommandLine.resolvedLines heading at h
  have hsplit : shown.heading ++ ["", body, ""] = shown.heading ++ ["", body] ++ [""] := by
    rw [List.append_assoc, List.cons_append, List.cons_append, List.nil_append]
  rw [heading] at hsplit
  rw [hsplit, List.append_cancel_right_eq, List.append_cancel_left_eq] at h
  split at h
  · -- The first line about a form is not the empty line before a body.
    next hform =>
    cases hfields : shown.form with
    | nil => simp [hfields] at hform
    | cons field fields =>
      rw [hfields, List.map_cons] at h
      exact absurd (List.cons.inj h).1 (formLine_ne_empty field)
  · next hform =>
    have hnil : shown.form = [] := by simpa using hform
    split at h
    · exact absurd (congrArg List.length h) (by simp)
    · next hfile hbody =>
      obtain rfl : _ = body := by simpa using h
      exact ⟨hnil, hfile, hbody⟩
    · cases h

end ResolvedRequest

namespace Request

variable {request : Request} {world : World}

/-- A request with a form is shown with a form. -/
theorem form_of_resolve {shown : ResolvedRequest} {ready : World}
    (h : request.resolve.on world = (.ok shown, ready)) (hform : shown.form = []) :
    request.form = [] := by
  unfold resolve at h
  obtain ⟨_, _, -, h⟩ := on_bind_ok h
  obtain ⟨_, _, -, h⟩ := on_bind_ok h
  obtain ⟨_, _, -, h⟩ := on_bind_ok h
  obtain ⟨_, _, -, h⟩ := on_bind_ok h
  obtain ⟨form, last, hfields, h⟩ := on_bind_ok h
  obtain rfl : _ = shown := Except.ok.inj (Prod.mk.inj h).1
  obtain rfl : form = [] := hform
  cases hrequest : request.form with
  | nil => rfl
  | cons field fields =>
    rw [hrequest, List.mapM_cons] at hfields
    obtain ⟨_, _, -, hfields⟩ := on_bind_ok hfields
    obtain ⟨_, _, -, hfields⟩ := on_bind_ok hfields
    cases hfields

/-- A body without draws leaves the world as it is. -/
theorem on_interpolateGiven_fixed {text : Option String}
    (h : ∀ given, text = some given → CallsNoGenerator given) (world : World) :
    ((interpolateGiven text).on world).2 = world := by
  unfold interpolateGiven
  split
  · next given hgiven =>
    rw [on_map_snd]
    exact on_interpolate_fixed (h given (Option.filter_eq_some_iff.mp hgiven).1) world
  · rfl

/-- A body file that comes to nothing is no file, so that nothing is sent. -/
theorem prepareFile_of_empty {file : String} {payload : Payload} {text : Option String}
    {between ready after : World}
    (hplace : ∀ content, between.find (request.filePathOf "") ≠ .ok (.file content))
    (hname : (interpolate file).on between = (.ok "", ready))
    (h : (request.prepareFile file).on between = (.ok (payload, text), after)) :
    payload = .nothing := by
  have hready : ready.find (request.filePathOf "") = between.find (request.filePathOf "") := by
    obtain ⟨dice, logged, rfl, -⟩ := (draws_interpolate file).rel_of_on hname
    rfl
  unfold prepareFile at h
  obtain ⟨name, same, hsame, h⟩ := on_bind_ok h
  obtain ⟨hempty, rfl⟩ := Prod.mk.inj (hname.symm.trans hsame)
  obtain rfl : "" = name := Except.ok.inj hempty
  obtain ⟨found, last, hfound, h⟩ := on_bind_ok h
  rw [on_isFile, hready] at hfound
  have hmissing : found = false := by
    rcases hfind : between.find (request.filePathOf "") with fault | _ | content
    · rw [hfind] at hfound
      cases fault <;> cases hfound <;> rfl
    · rw [hfind] at hfound
      cases hfound
      rfl
    · exact absurd hfind (hplace content)
  rw [hmissing, if_neg Bool.false_ne_true] at h
  obtain ⟨_, _, -, h⟩ := on_bind_ok h
  exact (Prod.mk.inj (Except.ok.inj (Prod.mk.inj h).1)).1.symm

/-- Where a body is shown, the body file that is given comes to nothing, and nothing is sent. -/
theorem payload_of_given {shown : ResolvedRequest} {body file : String} {prepared : Prepared}
    {ready last : World} (hfixed : ∀ text, request.body = some text → CallsNoGenerator text)
    (hplace : ∀ content, world.find (request.filePathOf "") ≠ .ok (.file content))
    (hresolve : request.resolve.on world = (.ok shown, ready)) (hshows : shown.ShowsBody body)
    (hgiven : request.bodyFile.filter (!·.isEmpty) = some file)
    (hprepare : request.prepare.on world = (.ok prepared, last)) :
    shown.bodyFile = some "" ∧ prepared.payload = .nothing := by
  obtain ⟨hshownForm, hshownFile, -⟩ := hshows.parts
  have hform : request.form = [] := form_of_resolve hresolve hshownForm
  unfold resolve at hresolve
  obtain ⟨url, afterUrl, hurl, hresolve⟩ := on_bind_ok hresolve
  obtain ⟨headers, between, hheaders, hresolve⟩ := on_bind_ok hresolve
  obtain ⟨text, afterText, htext, hresolve⟩ := on_bind_ok hresolve
  obtain ⟨name, afterName, hname, hresolve⟩ := on_bind_ok hresolve
  obtain ⟨form, _, -, hresolve⟩ := on_bind_ok hresolve
  obtain rfl : _ = shown := Except.ok.inj (Prod.mk.inj hresolve).1
  -- The body draws nothing, so that both sides replace the placeholders of the name in one world.
  have hsame := on_interpolateGiven_fixed hfixed between
  rw [htext] at hsame
  obtain rfl : afterText = between := hsame
  unfold interpolateGiven at hname
  rw [hgiven] at hname
  obtain ⟨replaced, _, hreplaced, hname⟩ := on_bind_ok hname
  obtain ⟨hgivenName, rfl⟩ := Prod.mk.inj hname
  obtain rfl : some replaced = name := Except.ok.inj hgivenName
  have hempty : replaced = "" := by
    rw [Option.filter_some] at hshownFile
    simpa using hshownFile
  subst hempty
  have hfind : ∀ content, afterText.find (request.filePathOf "") ≠ .ok (.file content) := by
    have hdraws := (draws_resolveUrl request).bind (fun _ => draws_resolveHeaders request) world
    rw [on_bind, hurl] at hdraws
    dsimp only at hdraws
    rw [hheaders] at hdraws
    obtain ⟨dice, logged, rfl, -⟩ := hdraws
    exact hplace
  unfold prepare preparePayload at hprepare
  obtain ⟨_, _, hsame, hprepare⟩ := on_bind_ok hprepare
  obtain ⟨-, rfl⟩ := Prod.mk.inj (hurl.symm.trans hsame)
  obtain ⟨_, _, hsame, hprepare⟩ := on_bind_ok hprepare
  obtain ⟨-, rfl⟩ := Prod.mk.inj (hheaders.symm.trans hsame)
  obtain ⟨⟨payload, shown⟩, _, hpayload, hprepare⟩ := on_bind_ok hprepare
  rw [hform, hgiven] at hpayload
  have hnothing := prepareFile_of_empty hfind hreplaced hpayload
  obtain rfl : _ = prepared := Except.ok.inj (Prod.mk.inj hprepare).1
  exact ⟨rfl, hnothing⟩

/-- **A body that is shown is sent, unless a body file is given that comes to nothing.** Where a
request without references and whose body draws nothing is shown with a body, the calls of a run
send this body if the request gives no body file. Otherwise the name of the file comes to nothing,
where no file stands, and the calls send no data. -/
theorem run_sends_shown_body {requests : List Request} {defaults : Defaults} {after ready : World}
    {report : Report} {shown : ResolvedRequest} {body : String} (hpre : request.pre = [])
    (hfixed : ∀ text, request.body = some text → CallsNoGenerator text)
    (hplace : ∀ content, world.find (request.filePathOf "") ≠ .ok (.file content))
    (hresolve : request.resolve.on world = (.ok shown, ready)) (hshows : shown.ShowsBody body)
    (hrun : (request.run requests defaults).on world = (.ok report, after)) :
    ∃ new, after.events = new ++ world.events ∧ (∃ call, .sent call ∈ new) ∧
      ∀ call, .sent call ∈ new →
        match request.bodyFile.filter (!·.isEmpty) with
        | none => call.data = some body.toUTF8
        | some _ => shown.bodyFile = some "" ∧ call.data = none := by
  obtain ⟨prepared, last, timeout, hprepare, -, new, hnew, hsent, hcalls⟩ :=
    sends_prepared hpre hrun
  refine ⟨new, hnew, hsent, fun call hcall => ?_⟩
  obtain ⟨hshownForm, -, hbody⟩ := hshows.parts
  cases hgiven : request.bodyFile.filter (!·.isEmpty) with
  | none =>
    rw [prepare_eq_resolve (form_of_resolve hresolve hshownForm) hgiven] at hprepare
    obtain ⟨resolved, _, hagain, hprepare⟩ := on_bind_ok hprepare
    obtain ⟨hsame, rfl⟩ := Prod.mk.inj (hresolve.symm.trans hagain)
    obtain rfl : shown = resolved := Except.ok.inj hsame
    obtain rfl : shown.prepared = prepared := Except.ok.inj (Prod.mk.inj hprepare).1
    have hsome : shown.body = some body := (Option.filter_eq_some_iff.mp hbody).1
    rw [hcalls call hcall]
    simp [ResolvedRequest.prepared, hsome, Call.make]
  | some file =>
    obtain ⟨hempty, hnothing⟩ :=
      payload_of_given hfixed hplace hresolve hshows hgiven hprepare
    rw [hcalls call hcall, hnothing]
    exact ⟨hempty, rfl⟩

/-- A request whose body follows a file that a variable names. -/
def namingScript : String :=
  "@file \x7b\x7bfile\x7d\x7d\nPOST http://h/\n\nhello\n"

/-- A world without files where a variable is the name of the body file. -/
def namingWorld (file : String) : World :=
  { World.quiet with store := { session := { entries := [("file", .string file)] } } }

/-- The request of the script. -/
def namingRequest : Request where
  method := "POST"
  url := "http://h/"
  body := some "hello"
  bodyFile := some "\x7b\x7bfile\x7d\x7d"
  endLine := 4

theorem parse_namingScript :
    Document.parse namingScript = .ok { requests := [namingRequest] } := by
  decide +kernel

theorem find_namingWorld (file : String) :
    (namingWorld file).find (namingRequest.filePathOf "") = .ok .directory := by
  have hnames : (namingWorld file).locate (namingRequest.filePathOf "") = .ok [] :=
    World.locate_of_text (by decide +kernel) (by decide +kernel)
  rw [World.find, hnames]
  rfl

/-- A file whose name is empty comes to nothing, so that the run sends no data. -/
theorem run_sends_shown_body_unless_empty :
    ∃ shown ready report after, namingRequest.resolve.on (namingWorld "") = (.ok shown, ready) ∧
      shown.ShowsBody "hello" ∧ shown.bodyFile = some "" ∧
      (namingRequest.run [] {}).on (namingWorld "") = (.ok report, after) ∧
      ∃ call, .sent call ∈ after.events ∧ call.data = none := by
  have hok : ((namingRequest.run [] {}).on (namingWorld "")).1.isOk = true := by cbv
  have hresolves : (namingRequest.resolve.on (namingWorld "")).1.toOption.map
      (fun shown => decide (shown.ShowsBody "hello")) = some true := by
    decide +kernel
  obtain ⟨report, after, hrun⟩ := exists_on_of_isOk hok
  rcases hresolve : namingRequest.resolve.on (namingWorld "") with ⟨_ | shown, ready⟩ <;>
    rw [hresolve] at hresolves
  · cases hresolves
  · have hshows : shown.ShowsBody "hello" := of_decide_eq_true (Option.some.inj hresolves)
    have hfixed : ∀ text, namingRequest.body = some text → CallsNoGenerator text := by
      rintro _ ⟨⟩
      exact IsLiteral.callsNoGenerator (by decide)
    have hplace : ∀ content, (namingWorld "").find (namingRequest.filePathOf "") ≠
        .ok (.file content) := by
      simp [find_namingWorld]
    obtain ⟨new, hnew, ⟨call, hmem⟩, hcalls⟩ :=
      run_sends_shown_body rfl hfixed hplace hresolve hshows hrun
    obtain ⟨hempty, hnone⟩ := hcalls call hmem
    exact ⟨shown, ready, report, after, rfl, hshows, hempty, hrun, call,
      hnew ▸ List.mem_append_left _ hmem, hnone⟩

/-- The data of the calls among events. -/
def dataOf (events : List Event) : List (Option ByteArray) :=
  events.filterMap fun
    | .sent call => some call.data
    | _ => none

theorem mem_dataOf {events : List Event} {data : Option ByteArray} :
    data ∈ dataOf events ↔ ∃ call, .sent call ∈ events ∧ call.data = data := by
  unfold dataOf
  rw [List.mem_filterMap]
  constructor
  · rintro ⟨event, hmem, hevent⟩
    cases event <;> simp only [reduceCtorEq, Option.some.injEq] at hevent
    exact ⟨_, hmem, hevent⟩
  · rintro ⟨call, hmem, rfl⟩
    exact ⟨.sent call, hmem, rfl⟩

/-- A file whose name is empty: the body is shown, and the run sends no data. -/
theorem run_sends_nothing_of_shown :
    ∃ document, Document.parse namingScript = .ok document ∧ ∃ request ∈ document.requests,
      ∃ shown ready report after,
        request.resolve.on (namingWorld "") = (.ok shown, ready) ∧ shown.ShowsBody "hello" ∧
        (request.run [] {}).on (namingWorld "") = (.ok report, after) ∧
        ¬∀ call, .sent call ∈ after.events → call.data = some "hello".toUTF8 := by
  have hshows : (namingRequest.resolve.on (namingWorld "")).1.toOption.map
      (fun shown => decide (shown.ShowsBody "hello")) = some true := by
    decide +kernel
  have hok : ((namingRequest.run [] {}).on (namingWorld "")).1.isOk = true := by cbv
  have hdata : dataOf ((namingRequest.run [] {}).on (namingWorld "")).2.events = [none] := by cbv
  obtain ⟨report, after, hrun⟩ := exists_on_of_isOk hok
  rcases hresolve : namingRequest.resolve.on (namingWorld "") with ⟨_ | shown, ready⟩ <;>
    rw [hresolve] at hshows
  · cases hshows
  · refine ⟨_, parse_namingScript, namingRequest, List.mem_singleton_self _, shown, ready, report,
      after, hresolve, of_decide_eq_true (Option.some.inj hshows), hrun, fun hall => ?_⟩
    rw [hrun] at hdata
    obtain ⟨call, hmem, hnone⟩ := mem_dataOf.mp (hdata ▸ List.mem_singleton_self _)
    rw [hall call hmem] at hnone
    cases hnone

end Request

end RequestScript
