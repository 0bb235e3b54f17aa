import RequestScript.Run
import RequestScript.Proofs.World.SteadyActions

/-!
# The actions of a run

Keeping variables, making a request ready, sending it and reporting on it are steady, and so are
runs as a whole.
-/

namespace RequestScript

open RequestScript.Action

theorem steady_writeEntries (path : Path) (entries : Table Value) :
    Steady (writeEntries path entries) := by
  unfold writeEntries
  refine (steady_makeDirectories _ _).bind fun made => ?_
  dsimp only
  split
  · refine (steady_needRoom _).bind fun _ => ?_
    refine (steady_orRefused path (steady_writeText path _)).bind fun written => ?_
    split
    · exact .pure _
    · exact .log _ _
  · refine (Steady.pure _).bind fun written => ?_
    split
    · exact .pure _
    · exact .log _ _

theorem Layer.steady_save (layer : Layer) : Steady layer.save := by
  unfold Layer.save
  split
  · exact steady_writeEntries _ _
  · exact .pure _

namespace Store

theorem steady_update (f : Store → Store) : Steady (update f) :=
  .modify fun _ _ _ => rfl

theorem steady_set (scope : Scope) (name : String) (value : Datum) :
    Steady (set scope name value) := by
  unfold set replaceLayer
  refine (Steady.note _).bind fun _ => .bind_get (fun world => ?_) fun _ _ _ => rfl
  exact (steady_update _).bind fun _ => Layer.steady_save _

theorem steady_keep (name : String) (value : Datum) : Steady (keep name value) := by
  unfold keep
  refine .bind_get (fun world => ?_) fun _ _ _ => rfl
  split
  · exact .pure _
  · exact .note _
  · refine (Steady.lift _).bind fun changed => ?_
    split
    · exact (steady_update _).bind fun _ => steady_writeEntries _ _
    · exact .pure _

end Store

theorem Capture.steady_keep (outcome : Outcome) (capture : Capture) :
    Steady (Capture.keep outcome capture) := by
  unfold Capture.keep
  refine (Steady.lift _).bind fun found => ?_
  split
  · exact .log _ _
  · refine (Store.steady_set _ _ _).bind fun _ => ?_
    split
    · exact Store.steady_keep _ _
    · exact .pure _

namespace Request

theorem steady_queryText (pair : QueryPair) : Steady (queryText pair) := by
  unfold queryText
  exact (steady_interpolate _).bind fun _ => (steady_interpolate _).bind fun _ => .pure _

theorem steady_resolveUrl (request : Request) : Steady request.resolveUrl := by
  unfold resolveUrl
  refine (steady_interpolate _).bind fun _ => ?_
  exact (Steady.mapM steady_queryText _).bind fun _ => .pure _

theorem steady_resolveHeaders (request : Request) : Steady request.resolveHeaders := by
  unfold resolveHeaders
  exact .mapM (fun _ => (steady_interpolate _).bind fun _ => .pure _) _

theorem steady_preparePart (request : Request) (field : FormField) :
    Steady (request.preparePart field) := by
  unfold preparePart
  split
  · exact (steady_interpolate _).bind fun _ => .pure _
  · refine (steady_interpolate _).bind fun _ => (Steady.of_reads reads_isFile).bind fun found => ?_
    split
    · exact (Steady.of_reads reads_readBytes).bind fun _ => .pure _
    · exact (Steady.log _ _).bind fun _ => .pure _

theorem steady_prepareFile (request : Request) (file : String) :
    Steady (request.prepareFile file) := by
  unfold prepareFile
  refine (steady_interpolate _).bind fun _ => (Steady.of_reads reads_isFile).bind fun found => ?_
  split
  · split
    · refine (Steady.of_reads reads_readText).bind fun _ => ?_
      exact (steady_interpolate _).bind fun _ => .pure _
    · exact (Steady.of_reads reads_readBytes).bind fun _ => .pure _
  · exact (Steady.log _ _).bind fun _ => .pure _

theorem steady_preparePayload (request : Request) : Steady request.preparePayload := by
  unfold preparePayload
  split
  · exact (Steady.mapM (steady_preparePart request) _).bind fun _ => .pure _
  · split
    · exact steady_prepareFile _ _
    · exact (steady_interpolate _).bind fun _ => .pure _
    · exact .pure _

theorem steady_prepare (request : Request) : Steady request.prepare := by
  unfold prepare
  refine (steady_resolveUrl request).bind fun _ => (steady_resolveHeaders request).bind fun _ => ?_
  exact (steady_preparePayload request).bind fun _ => .pure _

theorem steady_attempt (prepared : Prepared) (timeout : Option Seconds)
    (delay maxAttempts made : Int) (left : Nat) :
    Steady (attempt prepared timeout delay maxAttempts made left) := by
  induction left generalizing made with
  | zero =>
    unfold attempt
    exact (steady_exchange _ _ _ _ _).bind fun _ => .pure _
  | succ left ih =>
    unfold attempt
    refine (steady_exchange _ _ _ _ _).bind fun outcome => ?_
    split
    · exact (Steady.log _ _).bind fun _ => (steady_sleep _).bind fun _ => ih _
    · exact .pure _

theorem reads_elapsedSince (start : Int) : Reads (elapsedSince start) := by
  unfold elapsedSince
  exact .bind_get (fun _ => .pure _) fun _ _ _ => rfl

theorem steady_conclude (request : Request) (prepared : Prepared) (before : List Report)
    (start : Int) (outcome : Outcome) (attempts : Int) :
    Steady (request.conclude prepared before start outcome attempts) := by
  have hduration := Steady.of_reads (reads_elapsedSince start)
  unfold conclude
  dsimp only
  split
  · exact hduration.bind fun _ => .pure _
  · refine (Steady.forM (Capture.steady_keep _) _).bind fun _ => hduration.bind fun _ => ?_
    exact (Steady.lift _).bind fun _ => .pure _

theorem steady_dispatch (request : Request) (defaults : Defaults) (prepared : Prepared)
    (before : List Report) (start : Int) :
    Steady (request.dispatch defaults prepared before start) := by
  unfold dispatch
  refine (Steady.lift _).bind fun timeout => (steady_attempt _ _ _ _ _ _).bind fun result => ?_
  exact steady_conclude _ _ _ _ _ _

theorem steady_runAfter (request : Request) (defaults : Defaults) (start : Int)
    (before : List Report) : Steady (request.runAfter defaults start before) := by
  unfold runAfter
  exact (steady_prepare request).bind fun _ => steady_dispatch _ _ _ _ _

mutual

theorem steady_runStep (defaults : Defaults) (step : Step) : Steady (runStep defaults step) := by
  match step with
  | .run request before =>
    rw [runStep]
    refine .bind (.deeper _ ?_) fun _ => .pure _
    refine .bind_get (fun world => ?_) fun _ _ _ => rfl
    exact (steady_runSteps defaults before).bind fun _ => steady_runAfter _ _ _ _
  | .repeated id | .unknown id =>
    rw [runStep]
    exact (Steady.log _ _).bind fun _ => .pure _
termination_by structural step

theorem steady_runSteps (defaults : Defaults) (steps : List Step) :
    Steady (runSteps defaults steps) := by
  match steps with
  | [] =>
    rw [runSteps]
    exact .pure _
  | step :: rest =>
    rw [runSteps]
    refine (steady_runStep defaults step).bind fun _ => ?_
    exact (steady_runSteps defaults rest).bind fun _ => .pure _
termination_by structural steps

end

theorem steady_run (request : Request) (requests : List Request) (defaults : Defaults) :
    Steady (request.run requests defaults) := by
  unfold run
  refine .bind_get (fun world => ?_) fun _ _ _ => rfl
  exact (steady_runSteps _ _).bind fun _ => steady_runAfter _ _ _ _

end Request

end RequestScript
