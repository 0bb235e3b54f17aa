import RequestScript.Proofs.Script.Line
import RequestScript.Proofs.Script.Sayings

/-!
# Methods of requests

A method line gives its method in upper case, whatever the letters of the line are. A request of a
script has the method of such a line, or else the first of all methods, so that upper case makes no
difference to it any more.
-/

namespace RequestScript

open Text

/-- A request that stands in a script, which may be in a file. -/
def Request.StandsInScript (request : Request) : Prop :=
  ∃ text document path, Document.parse text = .ok document ∧
    ∃ own ∈ document.requests, request = { own with filePath := path }

namespace ScriptLine

/-- The upper case of a character that is taken for a letter is the letter, but the dotted i stays
as it is. -/
theorem upperChar_of_matchesLetter {letter c : Char} (hletter : upperChar letter = [letter])
    (h : matchesLetter letter c = true) : upperChar c = [if c = 'İ' then c else letter] := by
  have hlong : upperChar 'ſ' = ['S'] := by decide +kernel
  have hdotless : upperChar 'ı' = ['I'] := by decide +kernel
  have hdotted : upperChar 'İ' = ['İ'] := by decide +kernel
  simp only [matchesLetter, Bool.or_eq_true, Bool.and_eq_true, beq_iff_eq] at h
  rcases h with (hsame | ⟨rfl, rfl⟩) | ⟨rfl, rfl | rfl⟩
  · by_cases hascii : c.toNat < 0x80
    · have hne : c ≠ 'İ' := by
        rintro rfl
        exact absurd hascii (by decide)
      rw [upperChar, if_pos hascii, hsame, if_neg hne]
    · -- Outside ASCII the character is the letter itself.
      have hself : c.toUpper = c := by
        rw [Char.toUpper, dif_neg]
        rintro ⟨-, hle⟩
        rw [UInt32.le_iff_toNat_le] at hle
        exact hascii (Nat.lt_of_le_of_lt hle (by decide))
      rw [hself] at hsame
      rw [hsame, ite_self, hletter]
  · exact hlong
  · exact hdotless
  · exact hdotted

/-- The upper case of a character that is taken for a letter is its own upper case. -/
theorem exists_upperChar_of_matchesLetter {letter c : Char} (hletter : upperChar letter = [letter])
    (h : matchesLetter letter c = true) : ∃ d, upperChar c = [d] ∧ upperChar d = [d] := by
  have hc := upperChar_of_matchesLetter hletter h
  refine ⟨_, hc, ?_⟩
  split
  · next hdotted => rwa [if_pos hdotted] at hc
  · exact hletter

theorem upper_upper_of_matchesMethod {letters word : List Char}
    (hletters : ∀ letter ∈ letters, upperChar letter = [letter])
    (h : matchesMethod letters word = true) : upper (upper word) = upper word := by
  induction word generalizing letters with
  | nil => rfl
  | cons c word ih =>
    cases letters with
    | nil => cases h
    | cons letter letters =>
      rw [matchesMethod, Bool.and_eq_true] at h
      obtain ⟨hletter, hrest⟩ := List.forall_mem_cons.mp hletters
      obtain ⟨d, hupper, hself⟩ := exists_upperChar_of_matchesLetter hletter h.1
      have hword : upper (c :: word) = d :: upper word := by
        rw [upper, List.flatMap_cons, hupper]
        rfl
      rw [hword, upper, List.flatMap_cons, hself, ← upper, ih hrest h.2]
      rfl

/-- The method of a method line is in upper case. -/
theorem uppercased_of_methodLine? {cs : List Char} {method url : String}
    (h : methodLine? cs = some (method, url)) : uppercased method = method := by
  have hletters : ∀ letters ∈ methods, letters.all fun letter => upperChar letter == [letter] := by
    decide
  unfold methodLine? at h
  dsimp only at h
  split at h
  · next hline =>
    obtain ⟨rfl, -⟩ := Prod.mk.inj (Option.some.inj h)
    obtain ⟨letters, hmem, hmatch⟩ := List.any_eq_true.mp (Bool.and_eq_true_iff.mp hline).1
    have hall : ∀ letter ∈ letters, upperChar letter = [letter] := by
      simpa using hletters letters hmem
    rw [uppercased, String.toList_ofList, upper_upper_of_matchesMethod hall hmatch]
  · cases h

/-- Only a method line says something about the method. -/
theorem methodLine?_of_read {cs : List Char} {method url : String}
    (h : read cs = .ok (.method method url)) : methodLine? cs = some (method, url) := by
  unfold read at h
  split at h
  · cases h
  split at h
  · obtain ⟨_, _, hsaid⟩ := map_eq_ok_iff.mp h
    cases hsaid
  split at h
  · next hline =>
    cases h
    exact hline
  · split at h <;> cases h

/-- What a line says about the method is in upper case. -/
theorem uppercased_of_read {cs : List Char} {method url : String}
    (h : read cs = .ok (.method method url)) : uppercased method = method :=
  uppercased_of_methodLine? (methodLine?_of_read h)

end ScriptLine

namespace Request

/-- A line keeps the method in upper case. -/
theorem uppercased_applyLine {request : Request} (h : uppercased request.method = request.method)
    {cs : List Char} {said : ScriptLine} (hread : ScriptLine.read cs = .ok said) :
    uppercased (request.applyLine said).method = (request.applyLine said).method := by
  cases said with
  | comment | header | other => exact h
  | method method url => exact ScriptLine.uppercased_of_read hread
  | directive content =>
    cases content with
    | none => exact h
    | some content => cases content <;> exact h

theorem uppercased_ofSayings (first : Nat) {sayings : List ScriptLine}
    (h : ∀ said ∈ sayings, ∃ cs, ScriptLine.read cs = .ok said) :
    uppercased (ofSayings first sayings).method = (ofSayings first sayings).method := by
  induction sayings using List.reverseRecOn with
  | nil =>
    have hget : uppercased "GET" = "GET" := by decide +kernel
    exact hget
  | append_singleton sayings said ih =>
    obtain ⟨cs, hread⟩ := h said (by simp)
    rw [ofSayings, List.foldl_append, ← ofSayings]
    exact uppercased_applyLine (ih fun earlier hmem => h earlier (by simp [hmem])) hread

/-- **The method of a request of a script is in upper case.** -/
theorem StandsInScript.uppercased_method {request : Request} (h : request.StandsInScript) :
    uppercased request.method = request.method := by
  obtain ⟨text, document, path, hparse, parsed, hmem, rfl⟩ := h
  obtain ⟨own, htold, rfl⟩ := Document.exists_isTold_of_mem_requests hparse hmem
  have hsame : (Document.resolveConfig document.configs
      (Document.applyDefaults document.collection document.tags own)).method =
      own.bodiless.method := by
    unfold Document.resolveConfig
    split <;> rfl
  dsimp only
  rw [hsame, htold.bodiless]
  refine uppercased_ofSayings _ fun said hsaid => ?_
  obtain ⟨index, -, hindex⟩ := List.mem_filterMap.mp hsaid
  obtain ⟨line, hread⟩ := Document.exists_read_of_saidAt hindex
  exact ⟨_, hread⟩

end Request

end RequestScript
