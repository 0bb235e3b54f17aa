import RequestScript.Proofs.Script.Method
import RequestScript.Proofs.Script.Merging

/-!
# How methods are spelled

The last method line of a block gives the method of its request. The first word of the line spells
one of the methods in letters of any case, among them the long s and the dotless i, which are those
of the method in upper case. Only the dotted capital i is its own upper case, so that a method with
this letter is none of the methods.
-/

namespace RequestScript

open Text

/-- The method and the URL that a line gives to its request. -/
def ScriptLine.target? : ScriptLine → Option (String × String)
  | .method name url => some (name, url)
  | _ => none

/-- The method and the URL of a request. -/
def Request.target (request : Request) : String × String :=
  (request.method, request.url)

namespace ScriptLine

variable {letters verb word : List Char}

/-! ## Words that spell methods -/

/-- A word that spells two texts in turn has a part for each of them. -/
theorem exists_append_of_matchesMethod {front back : List Char}
    (h : matchesMethod (front ++ back) word = true) : ∃ first second, word = first ++ second ∧
      matchesMethod front first = true ∧ matchesMethod back second = true := by
  induction front generalizing word with
  | nil => exact ⟨[], word, rfl, rfl, h⟩
  | cons letter front ih =>
    cases word with
    | nil => cases h
    | cons c word =>
      rw [List.cons_append, matchesMethod, Bool.and_eq_true] at h
      obtain ⟨first, second, rfl, hfirst, hsecond⟩ := ih h.2
      refine ⟨c :: first, second, rfl, ?_, hsecond⟩
      rw [matchesMethod, h.1, hfirst, Bool.and_self]

/-- A word without a dotted capital i spells its upper case. -/
theorem upper_eq_of_not_mem (hletters : letters.all fun letter => upperChar letter == [letter])
    (h : matchesMethod letters word = true) (hdotted : 'İ' ∉ word) : upper word = letters := by
  induction letters generalizing word with
  | nil =>
    cases word with
    | nil => rfl
    | cons c word => cases h
  | cons letter letters ih =>
    cases word with
    | nil => cases h
    | cons c word =>
      rw [matchesMethod, Bool.and_eq_true] at h
      rw [List.all_cons, Bool.and_eq_true, beq_iff_eq] at hletters
      obtain ⟨hletter, hrest⟩ := hletters
      obtain ⟨hc, hword⟩ : 'İ' ≠ c ∧ 'İ' ∉ word := by simpa using hdotted
      have hupper := upperChar_of_matchesLetter hletter h.1
      rw [if_neg (Ne.symm hc)] at hupper
      have hcons : upper (c :: word) = upperChar c ++ upper word := List.flatMap_cons
      rw [hcons, hupper, ih hrest h.2 hword, List.singleton_append]

/-- Only an i is spelled with a dotted capital i. -/
theorem not_mem_of_matchesMethod (hletters : letters.all fun letter => !matchesLetter letter 'İ')
    (h : matchesMethod letters word = true) : 'İ' ∉ word := by
  intro hdotted
  obtain ⟨letter, hmem, hletter⟩ := exists_matchesLetter h hdotted
  have hother := List.all_eq_true.mp hletters letter hmem
  rw [hletter] at hother
  cases hother

/-- Spelled with a dotted capital i, the one method with an i keeps this letter in upper case. -/
theorem upper_of_mem (h : matchesMethod "OPTIONS".toList word = true) (hdotted : 'İ' ∈ word) :
    upper word = "OPTİONS".toList := by
  have hparts : "OPTIONS".toList = "OPT".toList ++ ("I".toList ++ "ONS".toList) := by decide
  rw [hparts] at h
  obtain ⟨first, others, rfl, hfirst, hothers⟩ := exists_append_of_matchesMethod h
  obtain ⟨second, third, rfl, hsecond, hthird⟩ := exists_append_of_matchesMethod hothers
  have hnofirst : 'İ' ∉ first := not_mem_of_matchesMethod (by decide) hfirst
  have hnothird : 'İ' ∉ third := not_mem_of_matchesMethod (by decide) hthird
  -- The dotted i can only stand for the letter in the middle.
  obtain rfl : second = ['İ'] := by
    cases second with
    | nil => cases hsecond
    | cons c rest =>
      cases rest with
      | cons d more => simp [matchesMethod] at hsecond
      | nil => simpa [hnofirst, hnothird, eq_comm] using hdotted
  have hupper : upper (first ++ (['İ'] ++ third)) =
      upper first ++ (upper ['İ'] ++ upper third) := by
    simp [upper]
  have hdot : upper ['İ'] = ['İ'] := by decide +kernel
  rw [hupper, upper_eq_of_not_mem (by decide) hfirst hnofirst, hdot,
    upper_eq_of_not_mem (by decide) hthird hnothird]
  rfl

/-- **What a word that spells a method is in upper case**: the method, unless the word has a dotted
capital i, which only one of the methods can be spelled with. -/
theorem upper_of_matchesMethod (hverb : verb ∈ methods) (h : matchesMethod verb word = true) :
    ('İ' ∉ word ∧ upper word = verb) ∨
      ('İ' ∈ word ∧ verb = "OPTIONS".toList ∧ upper word = "OPTİONS".toList) := by
  have hself : ∀ verb ∈ methods, verb.all fun letter => upperChar letter == [letter] := by
    decide
  have honly : ∀ verb ∈ methods, verb = "OPTIONS".toList ∨
      verb.all fun letter => !matchesLetter letter 'İ' := by
    decide
  by_cases hdotted : 'İ' ∈ word
  · obtain rfl := (honly verb hverb).resolve_right fun hnone =>
      not_mem_of_matchesMethod hnone h hdotted
    exact .inr ⟨hdotted, rfl, upper_of_mem h hdotted⟩
  · exact .inl ⟨hdotted, upper_eq_of_not_mem (hself verb hverb) h hdotted⟩

/-- The method that a line gives is its first word in upper case, and the word spells one of the
methods. -/
theorem exists_verb_of_read {cs : List Char} {method url : String}
    (h : read cs = .ok (.method method url)) :
    ∃ verb ∈ methods, matchesMethod verb (cs.takeWhile (!isBlank ·)) = true ∧
      method = uppercased (String.ofList (cs.takeWhile (!isBlank ·))) := by
  have hline := methodLine?_of_read h
  unfold methodLine? at hline
  dsimp only at hline
  split at hline
  · next hspelled =>
    obtain ⟨rfl, -⟩ := Prod.mk.inj (Option.some.inj hline)
    obtain ⟨verb, hmem, hmatch⟩ := List.any_eq_true.mp (Bool.and_eq_true_iff.mp hspelled).1
    exact ⟨verb, hmem, hmatch, by rw [uppercased, String.toList_ofList]⟩
  · cases hline

end ScriptLine

namespace Document

/-- The method and the URL that the line with a number gives to the request that it belongs to. -/
def targetAt (texts : List (List Char)) (index : Nat) : Option (String × String) :=
  (saidAt texts index).bind ScriptLine.target?

/-- A word is the one that gives a request its method, and spells one of the methods. -/
structure SpellsMethod (texts : List (List Char)) (request : Request) (verb word : List Char) :
    Prop where
  /-- The word opens the last method line of the block. -/
  line : ∃ index line url, request.startLine ≤ index ∧ index ≤ request.endLine ∧
    texts[index]? = some line ∧ word = (trim line).takeWhile (!isBlank ·) ∧
    targetAt texts index = some (request.method, url) ∧
    ∀ later, index < later → later ≤ request.endLine → targetAt texts later = none
  /-- It spells one of the methods, in letters of any case. -/
  mem_methods : verb ∈ ScriptLine.methods
  spelled : ScriptLine.matchesMethod verb word = true
  /-- The method of the request is the word in upper case. -/
  uppercased : request.method = uppercased (String.ofList word)
  /-- That is one of the methods, unless the word has a dotted capital i. -/
  method_eq : 'İ' ∉ word → request.method.toList = verb
  /-- With a dotted capital i it is none of them. -/
  method_eq_dotted : 'İ' ∈ word → verb = "OPTIONS".toList ∧ request.method = "OPTİONS"

variable {texts : List (List Char)} {request : Request}

theorem target_applyLine (request : Request) (said : ScriptLine) :
    (request.applyLine said).target = (said.target?.map id).getD request.target := by
  cases said with
  | comment | method | header | other => rfl
  | directive content =>
    cases content with
    | none => rfl
    | some content => cases content <;> rfl

/-- The last of the values at consecutive places. -/
theorem exists_last_of_getLast? {α : Type} {f : Nat → Option α} {first count : Nat} {value : α}
    (h : ((List.range' first count).filterMap f).getLast? = some value) :
    ∃ index, first ≤ index ∧ index < first + count ∧ f index = some value ∧
      ∀ later, index < later → later < first + count → f later = none := by
  induction count with
  | zero => cases h
  | succ count ih =>
    rw [List.range'_1_concat, List.filterMap_append, List.getLast?_append] at h
    cases hlast : f (first + count) with
    | some last =>
      have hvalue : last = value := by simpa [hlast] using h
      exact ⟨first + count, by omega, by omega, by rw [hlast, hvalue], by omega⟩
    | none =>
      obtain ⟨index, hfirst, hindex, hfound, hlater⟩ := ih (by simpa [hlast] using h)
      refine ⟨index, hfirst, by omega, hfound, fun later hless hend => ?_⟩
      by_cases heq : later = first + count
      · rw [heq, hlast]
      · exact hlater later hless (by omega)

/-- A request has its method and its URL from the last method line of its block. -/
theorem IsTold.exists_targetAt (h : IsTold texts request) :
    ∃ index, request.startLine ≤ index ∧ index ≤ request.endLine ∧
      targetAt texts index = some request.target ∧
      ∀ later, index < later → later ≤ request.endLine → targetAt texts later = none := by
  have htarget := congrArg Request.target h.bodiless
  change request.target = (Request.ofSayings _ _).target at htarget
  have hsame : (fun index => (saidAt texts index).bind ScriptLine.target?) = targetAt texts := rfl
  rw [Request.field_ofSayings target_applyLine, Option.map_id_fun, id, sayings,
    List.filterMap_filterMap, hsame] at htarget
  cases hlast : ((List.range' request.startLine (request.endLine + 1 - request.startLine)).filterMap
      (targetAt texts)).getLast? with
  | none =>
    rw [hlast] at htarget
    exact absurd (Prod.mk.inj htarget).2 h.url
  | some target =>
    rw [hlast] at htarget
    obtain ⟨index, hfirst, hindex, hfound, hlater⟩ := exists_last_of_getLast? hlast
    refine ⟨index, hfirst, by omega, by rw [hfound, htarget]; rfl, fun later hless hend => ?_⟩
    exact hlater later hless (by omega)

/-- **The spelling of methods**, for every script and every request of it. -/
theorem exists_spellsMethod {text : String} {document : Document} (h : parse text = .ok document)
    {request : Request} (hmem : request ∈ document.requests) :
    ∃ verb word, SpellsMethod (lines text.toList) request verb word := by
  obtain ⟨own, htold, rfl⟩ := exists_isTold_of_mem_requests h hmem
  obtain ⟨hfirst, hlast⟩ := startLine_endLine_of_defaults document.configs document.collection
    document.tags own
  have hmethod : (resolveConfig document.configs (applyDefaults document.collection document.tags
      own)).method = own.method := by
    unfold resolveConfig
    split <;> rfl
  generalize resolveConfig document.configs (applyDefaults document.collection document.tags own) =
    request at *
  obtain ⟨index, hstart, hend, htarget, hlater⟩ := htold.exists_targetAt
  rw [← hfirst] at hstart
  rw [← hlast] at hend hlater
  rw [Request.target, ← hmethod] at htarget
  obtain ⟨said, hsaid, hsays⟩ := Option.bind_eq_some_iff.mp htarget
  obtain ⟨line, hline, hread⟩ := exists_line_of_saidAt hsaid
  -- What gives a method is a method line, so that the line can be read back.
  obtain rfl : said = .method request.method own.url := by
    cases said with
    | method method url =>
      obtain ⟨rfl, rfl⟩ := Prod.mk.inj (Option.some.inj hsays)
      rfl
    | comment | directive | header | other => cases hsays
  obtain ⟨verb, hverb, hspelled, hupper⟩ := ScriptLine.exists_verb_of_read hread
  have hcases := ScriptLine.upper_of_matchesMethod hverb hspelled
  refine ⟨verb, _, ⟨index, line, _, hstart, hend, hline, rfl, htarget, hlater⟩, hverb, hspelled,
    hupper, fun hdotted => ?_, fun hdotted => ?_⟩
  · obtain ⟨-, hsame⟩ := hcases.resolve_right fun hother => hdotted hother.1
    rw [hupper, uppercased, String.toList_ofList, String.toList_ofList, hsame]
  · obtain ⟨-, hoptions, hother⟩ := hcases.resolve_left fun hnone => hnone.1 hdotted
    refine ⟨hoptions, ?_⟩
    rw [hupper, uppercased, String.toList_ofList, hother]
    rfl

end Document

end RequestScript
