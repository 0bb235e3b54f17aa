import Mathlib.Order.Interval.Finset.Nat
import RequestScript.Proofs.Script.Step

/-!
# The lines of requests and configuration blocks

Each request and each configuration block of a script has lines of its own: no line belongs to two
of them. While a script is read, what is finished lies before what is open, and what is open starts
before the next line.
-/

namespace RequestScript

open Text

/-- Lines that follow each other, from the first to the last one. -/
structure Span where
  /-- The number of the first line. -/
  first : Nat
  /-- The number of the last line. -/
  last : Nat
  deriving DecidableEq

/-- The numbers of the lines. -/
def Span.lines (span : Span) : Finset Nat :=
  Finset.Icc span.first span.last

/-- The lines of a request. -/
def Request.span (request : Request) : Span :=
  ⟨request.startLine, request.endLine⟩

/-- The lines of a configuration block. -/
def ConfigBlock.span (block : ConfigBlock) : Span :=
  ⟨block.startLine, block.endLine⟩

/-- The lines of the requests and of the configuration blocks of a document. -/
def Document.spans (document : Document) : List Span :=
  document.requests.map Request.span ++ document.configs.map ConfigBlock.span

/-- Spans that come one after another, the last one first, and before a line. -/
structure Span.Chronicle (limit : Nat) (history : List Span) : Prop where
  /-- No span has started before the one before it has ended. -/
  ordered : history.Pairwise fun later earlier => earlier.last < later.first
  /-- Every span has a line, and all its lines are before the limit. -/
  bounded : ∀ span ∈ history, span.first ≤ span.last ∧ span.last < limit

namespace Span.Chronicle

variable {history : List Span} {limit : Nat}

theorem mono (h : Chronicle limit history) {more : Nat} (hle : limit ≤ more) :
    Chronicle more history :=
  ⟨h.ordered, fun span hspan =>
    ⟨(h.bounded span hspan).1, (h.bounded span hspan).2.trans_le hle⟩⟩

/-- A span from the limit on comes after the others. -/
theorem cons (h : Chronicle limit history) {span : Span} {more : Nat} (hfirst : limit ≤ span.first)
    (hspan : span.first ≤ span.last) (hlast : span.last < more) :
    Chronicle more (span :: history) := by
  refine ⟨List.pairwise_cons.mpr ⟨fun earlier hmem => ?_, h.ordered⟩, ?_⟩
  · have hearlier := (h.bounded earlier hmem).2
    omega
  · intro other hmem
    rcases List.mem_cons.mp hmem with rfl | hmem
    · exact ⟨hspan, hlast⟩
    · have hother := h.bounded other hmem
      omega

/-- Spans that come one after another have no line in common. -/
theorem pairwise_disjoint (h : Chronicle limit history) :
    history.Pairwise fun span other => Disjoint span.lines other.lines := by
  refine h.ordered.imp fun {later earlier} hlt => ?_
  rw [Finset.disjoint_left]
  intro line hlater hearlier
  simp only [Span.lines, Finset.mem_Icc] at hlater hearlier
  omega

/-- The first lines of some of the spans go down, as the last span comes first. -/
theorem pairwise_first (h : Chronicle limit history) {spans : List Span}
    (hspans : spans.Sublist history) : spans.Pairwise fun later earlier =>
      earlier.first < later.first := by
  refine (h.ordered.sublist hspans).imp_of_mem fun {later earlier} _ hmem hlt => ?_
  exact (h.bounded earlier (hspans.mem hmem)).1.trans_lt hlt

end Span.Chronicle

namespace Document.Reading

variable {reading next : Reading} {index limit : Nat} {text : List Char}

/-- What has been finished of a script came one after another, before a line. -/
def LaidOut (reading : Reading) (limit : Nat) : Prop :=
  ∃ history, Span.Chronicle limit history ∧
    (reading.requests.map Request.span).Sublist history ∧
    (reading.configs.map ConfigBlock.span).Sublist history ∧
    (reading.requests.map Request.span ++ reading.configs.map ConfigBlock.span).Perm history

namespace LaidOut

theorem mono (h : reading.LaidOut limit) {more : Nat} (hle : limit ≤ more) :
    reading.LaidOut more := by
  obtain ⟨history, hhistory, hparts⟩ := h
  exact ⟨history, hhistory.mono hle, hparts⟩

theorem of_sameFinished (h : reading.LaidOut limit) (hsame : SameFinished reading next) :
    next.LaidOut limit := by
  unfold LaidOut at h ⊢
  rw [hsame.requests, hsame.configs]
  exact h

/-- A finished request comes after what has been finished before it started. -/
theorem request (h : reading.LaidOut limit) {request : Request} {more : Nat}
    (hfirst : limit ≤ request.startLine) (hspan : request.startLine ≤ request.endLine)
    (hlast : request.endLine < more) (hrequests : next.requests = request :: reading.requests)
    (hconfigs : next.configs = reading.configs) : next.LaidOut more := by
  obtain ⟨history, hhistory, hparts, hblocks, hperm⟩ := h
  unfold LaidOut
  rw [hrequests, hconfigs]
  exact ⟨request.span :: history, hhistory.cons hfirst hspan hlast, hparts.cons_cons _,
    hblocks.cons _, hperm.cons _⟩

/-- A finished configuration block comes after what has been finished before it started. -/
theorem config (h : reading.LaidOut limit) {block : ConfigBlock} {more : Nat}
    (hfirst : limit ≤ block.startLine) (hspan : block.startLine ≤ block.endLine)
    (hlast : block.endLine < more) (hrequests : next.requests = reading.requests)
    (hconfigs : next.configs = block :: reading.configs) : next.LaidOut more := by
  obtain ⟨history, hhistory, hparts, hblocks, hperm⟩ := h
  unfold LaidOut
  rw [hrequests, hconfigs]
  exact ⟨block.span :: history, hhistory.cons hfirst hspan hlast, hparts.cons _,
    hblocks.cons_cons _, List.perm_middle.trans (hperm.cons _)⟩

end LaidOut

/-- What has been finished lies before what is open, and that starts before the next line. -/
inductive IsOrdered (index : Nat) (reading : Reading) : Prop
  /-- Nothing is open. -/
  | outside : reading.draft? = none → (∀ current, reading.mode ≠ .config current) →
      reading.LaidOut index → IsOrdered index reading
  /-- A request is open. -/
  | request {draft : Draft} : reading.draft? = some draft → draft.request.startLine < index →
      reading.LaidOut draft.request.startLine → IsOrdered index reading
  /-- A configuration block is open, whose last line so far is not before its first one. -/
  | config {current : ConfigBlock.Reading} : reading.mode = .config current →
      current.block.startLine ≤ current.block.endLine → current.block.endLine < index →
      reading.LaidOut current.block.startLine → IsOrdered index reading

namespace IsOrdered

/-- What is open ends before a line, and with it everything is finished that has started. -/
theorem closeBefore (h : reading.IsOrdered index) : (reading.closeBefore index).LaidOut index := by
  cases h with
  | outside hopen hconfig hfinished =>
    have hsame := sameFinished_closeBefore hopen hconfig index
    exact hfinished.of_sameFinished hsame.symm
  | config hmode hspan hlast hfinished =>
    rw [closeBefore_of_config hmode]
    exact hfinished.config le_rfl hspan hlast rfl rfl
  | @request draft hopen hfirst hfinished =>
    rw [closeBefore_of_draft hopen]
    cases hclose : draft.close? (index - 1) with
    | none => exact (hfinished.mono hfirst.le).of_sameFinished ⟨rfl, rfl⟩
    | some request =>
      obtain ⟨hrequest, _⟩ := Draft.close?_eq_some hclose
      have hstart : request.startLine = draft.request.startLine := by
        rw [hrequest, ← Draft.startLine_endBody draft]
      have hend : request.endLine = index - 1 := by rw [hrequest]
      exact hfinished.request (by omega) (by omega) (by omega) rfl rfl

/-- Every line keeps what is finished before what is open. -/
theorem step (h : reading.IsOrdered index) (hstep : reading.step index text = .ok next) :
    next.IsOrdered (index + 1) := by
  rcases step_advances hstep with ⟨hgoes, hsame⟩ | ⟨hopens, hsame⟩
  · cases h with
    | outside hopen hconfig hfinished =>
      cases hgoes with
      | request hdraft => simp [hopen] at hdraft
      | config hmode => exact absurd hmode (hconfig _)
    | request hopen hfirst hfinished =>
      cases hgoes with
      | request hdraft htaken htakes =>
        obtain rfl := Option.some.inj (hopen.symm.trans hdraft)
        have hstart := htakes.startLine_eq
        refine .request htaken (by omega) ?_
        rw [hstart]
        exact hfinished.of_sameFinished hsame
      | config hmode => simp [draft?, hmode] at hopen
    | config hmode hspan hlast hfinished =>
      cases hgoes with
      | request hdraft => simp [draft?, hmode] at hdraft
      | config hcurrent hnext hline =>
        obtain rfl := Mode.config.inj (hmode.symm.trans hcurrent)
        obtain ⟨hstart, hend⟩ := ConfigBlock.Reading.span_of_step? hline
        refine .config hnext (by omega) (by omega) ?_
        rw [hstart]
        exact hfinished.of_sameFinished hsame
  · have hfinished := h.closeBefore.of_sameFinished hsame
    cases hopens with
    | nothing hopen hconfig => exact .outside hopen hconfig (hfinished.mono (Nat.le_succ index))
    | request htaken htakes =>
      have hstart : _ = index := htakes.startLine_eq
      exact .request htaken (by omega) (hfinished.mono (by omega))
    | config _ hmode => exact .config hmode le_rfl (Nat.lt_succ_self index) hfinished

end IsOrdered

end Document.Reading

namespace Document

theorem span_applyDefaults (collection : Option String) (tags : List String) (request : Request) :
    (applyDefaults collection tags request).span = request.span := rfl

theorem span_resolveConfig (configs : List ConfigBlock) (request : Request) :
    (resolveConfig configs request).span = request.span := by
  unfold resolveConfig
  split <;> rfl

/-- With its defaults a request has the lines that it has without them. -/
theorem startLine_endLine_of_defaults (configs : List ConfigBlock) (collection : Option String)
    (tags : List String) (request : Request) :
    (resolveConfig configs (applyDefaults collection tags request)).startLine =
        request.startLine ∧
      (resolveConfig configs (applyDefaults collection tags request)).endLine =
        request.endLine := by
  have hspan := span_resolveConfig configs (applyDefaults collection tags request)
  exact Span.mk.inj (hspan.trans (span_applyDefaults collection tags request))

/-- Defaults do not move a request: its lines are those that have been read. -/
theorem map_span_requests_ofReading (reading : Reading) (count : Nat) :
    (ofReading reading count).requests.map Request.span =
      ((reading.closeBefore count).requests.map Request.span).reverse := by
  simp [ofReading, Function.comp_def, span_resolveConfig, span_applyDefaults]

theorem map_span_configs_ofReading (reading : Reading) (count : Nat) :
    (ofReading reading count).configs.map ConfigBlock.span =
      ((reading.closeBefore count).configs.map ConfigBlock.span).reverse := by
  simp [ofReading]

/-- **Requests and configuration blocks have lines of their own**: each has at least one line of
the script, none is in two of them, and they come in the order of their lines. -/
theorem spans_parse {text : String} {document : Document} (h : parse text = .ok document) :
    (∀ span ∈ document.spans, span.lines.Nonempty ∧
        span.lines ⊆ Finset.range (lines text.toList).length) ∧
      (document.spans.map Span.lines).Pairwise Disjoint ∧
      (document.requests.map (·.startLine)).Pairwise (· < ·) ∧
      (document.configs.map (·.startLine)).Pairwise (· < ·) := by
  obtain ⟨reading, hsteps, hdocument⟩ := exists_reading_of_parse h
  have hnone : ({} : Reading).LaidOut 0 := ⟨[], ⟨.nil, by simp⟩, .slnil, .slnil, .nil⟩
  have hordered : reading.IsOrdered (0 + (lines text.toList).length) :=
    Reading.steps_induction (fun _ _ => Reading.IsOrdered.step)
      (.outside rfl (by simp) hnone) hsteps
  rw [Nat.zero_add] at hordered
  obtain ⟨history, hhistory, hrequests, hconfigs, hperm⟩ := hordered.closeBefore
  have hrequestSpans := map_span_requests_ofReading reading (lines text.toList).length
  have hconfigSpans := map_span_configs_ofReading reading (lines text.toList).length
  rw [← hdocument] at hrequestSpans hconfigSpans
  have hspans : document.spans.Perm history := by
    rw [spans, hrequestSpans, hconfigSpans]
    exact ((List.reverse_perm _).append (List.reverse_perm _)).trans hperm
  refine ⟨fun span hspan => ?_, ?_, ?_, ?_⟩
  · obtain ⟨hspan, hlast⟩ := hhistory.bounded span (hspans.mem_iff.mp hspan)
    refine ⟨Finset.nonempty_Icc.mpr hspan, fun line hline => ?_⟩
    rw [Span.lines, Finset.mem_Icc] at hline
    exact Finset.mem_range.mpr (hline.2.trans_lt hlast)
  · rw [List.pairwise_map]
    exact hspans.symm.pairwise hhistory.pairwise_disjoint fun hdisjoint => hdisjoint.symm
  · have hfirst := List.pairwise_reverse.mpr (hhistory.pairwise_first hrequests)
    rw [← hrequestSpans, List.pairwise_map] at hfirst
    exact List.pairwise_map.mpr hfirst
  · have hfirst := List.pairwise_reverse.mpr (hhistory.pairwise_first hconfigs)
    rw [← hconfigSpans, List.pairwise_map] at hfirst
    exact List.pairwise_map.mpr hfirst

/-- A script with a doc comment, two configuration blocks, a request that opens without a
separator, and a request that is dropped, since it has no URL. -/
def mixedScript : String :=
  "/**\n * @collection users\n */\n@config\ntimeout: 5\n\nGET /one\n\nbody\n###\n" ++
    "@name no URL\n@config\nretries: 2\n###\nPOST /two\n"

theorem spans_parse_mixedScript :
    ∃ document, parse mixedScript = .ok document ∧
      document.spans = [⟨6, 8⟩, ⟨13, 15⟩, ⟨3, 4⟩, ⟨11, 12⟩] ∧
      (document.spans.map Span.lines).Pairwise Disjoint := by
  have hspans : (parse mixedScript).map Document.spans =
      .ok [⟨6, 8⟩, ⟨13, 15⟩, ⟨3, 4⟩, ⟨11, 12⟩] := by
    decide +kernel
  cases hparse : parse mixedScript with
  | error fault =>
    rw [hparse] at hspans
    cases hspans
  | ok document =>
    rw [hparse] at hspans
    exact ⟨document, rfl, Except.ok.inj hspans, (spans_parse hparse).2.1⟩

end Document

end RequestScript
