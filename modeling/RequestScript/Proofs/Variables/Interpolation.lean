import RequestScript.Proofs.Chance
import RequestScript.Proofs.Text.Blank
import RequestScript.Proofs.Text.Word
import RequestScript.Proofs.Variables.Placeholder

/-!
# What replaces the placeholders of a text

The placeholders that call a generator are replaced by what the generators make, one after the
other; every other placeholder stands for the name of the active environment, for the value of a
variable, or for itself. What stands outside the placeholders stays, and what replaces them is not
looked through.
-/

namespace RequestScript

open Text

/-- The generator that a placeholder calls, with its arguments. -/
def Segment.call? : Segment → Option (Generator × List (List Char))
  | .char _ => none
  | .placeholder inner =>
    let key := trim inner
    if key = "$env".toList then none
    else (Generator.ofName? (String.ofList (key.takeWhile (· != ':')))).map
      (·, (pieces ':' key).tail)

/-- What a generator makes of its arguments at a time. -/
def Generator.answer (clock : Int) (call : Generator × List (List Char)) : Chance (List Char) :=
  call.1.generate clock call.2

namespace Store

/-- A value is that of a name in the first layer that has one. -/
def FirstHolds (store : Store) (name : String) (value : Value) : Prop :=
  ∃ before scope after, Scope.all = before ++ scope :: after ∧
    (∀ earlier ∈ before, Table.get? (store.layer earlier).entries name = none) ∧
    Table.get? (store.layer scope).entries name = some value

/-- The name of the active environment is a value that is no text. -/
def HasOddName (store : Store) : Prop :=
  ∃ value, store.active = some value ∧ value.isGiven = true ∧ ∀ name, value ≠ .string name

/-- What a segment that calls no generator stands for. -/
inductive Stands (store : Store) : Segment → List Char → Prop
  /-- A character outside placeholders stands for itself. -/
  | char (c : Char) : Stands store (.char c) [c]
  /-- The name of the active environment. -/
  | active {inner : List Char} {name : String} : trim inner = "$env".toList →
      store.active.filter Value.isGiven = some (.string name) →
      Stands store (.placeholder inner) name.toList
  /-- What is shown where no environment is active. -/
  | inactive {inner : List Char} : trim inner = "$env".toList →
      store.active.filter Value.isGiven = none →
      Stands store (.placeholder inner) "default".toList
  /-- The text of a variable. -/
  | variable {inner : List Char} {value : Value} : isName (trim inner) = true →
      store.FirstHolds (String.ofList (trim inner)) value →
      Stands store (.placeholder inner) value.text.toList
  /-- A placeholder for nothing stands for itself. -/
  | itself {inner : List Char} : trim inner ≠ "$env".toList →
      ¬(isName (trim inner) = true ∧
        ∃ value, store.FirstHolds (String.ofList (trim inner)) value) →
      Stands store (.placeholder inner) (Segment.placeholder inner).text

/-- Segments are filled: those that call generators by the given values in their order, and the
others by what they stand for. -/
inductive Fills (store : Store) : List Segment → List (List Char) → List Char → Prop
  /-- There is nothing to fill. -/
  | nil : Fills store [] [] []
  /-- A segment that calls a generator takes the next value. -/
  | generated {segment : Segment} {segments : List Segment} {values : List (List Char)}
      {call : Generator × List (List Char)} {value filled : List Char} :
      segment.call? = some call → Fills store segments values filled →
      Fills store (segment :: segments) (value :: values) (value ++ filled)
  /-- Any other segment takes what it stands for. -/
  | stands {segment : Segment} {segments : List Segment} {values : List (List Char)}
      {text filled : List Char} :
      segment.call? = none → store.Stands segment text → Fills store segments values filled →
      Fills store (segment :: segments) values (text ++ filled)

end Store

/-! ## One placeholder -/

namespace Generator

theorem exists_name_eq (generator : Generator) : ∃ rest, generator.name.toList = '$' :: rest := by
  cases generator <;> exact ⟨_, rfl⟩

/-- The name of the generator that a text calls ends before the first colon. -/
theorem call?_eq (cs : List Char) :
    call? cs = (ofName? (String.ofList (cs.takeWhile (· != ':')))).map
      (·, (pieces ':' cs).tail) := by
  rw [call?, pieces_eq_cons]
  rfl

/-- Only a text that starts with a dollar sign calls a generator. -/
theorem isPrefix_of_call? {cs : List Char} {call : Generator × List (List Char)}
    (h : call? cs = some call) : ['$'] <+: cs := by
  rw [call?_eq] at h
  obtain ⟨generator, hfind, _⟩ := Option.map_eq_some_iff.mp h
  have hname : generator.name = String.ofList (cs.takeWhile (· != ':')) := by
    simpa using List.find?_some hfind
  obtain ⟨rest, hrest⟩ := generator.exists_name_eq
  rw [hname, String.toList_ofList] at hrest
  exact (hrest ▸ ⟨rest, rfl⟩ : ['$'] <+: cs.takeWhile (· != ':')).trans (List.takeWhile_prefix _)

end Generator

namespace Segment

theorem call?_placeholder {inner : List Char} (h : trim inner ≠ "$env".toList) :
    (placeholder inner).call? = Generator.call? (trim inner) := by
  rw [call?, if_neg h, Generator.call?_eq]

theorem call?_active {inner : List Char} (h : trim inner = "$env".toList) :
    (placeholder inner).call? = none := by
  rw [call?, if_pos h]

end Segment

namespace Store

variable {store : Store} {clock : Int} {segment : Segment} {dice : Dice}

theorem firstHolds_iff {name : String} {value : Value} :
    store.FirstHolds name value ↔ store.value? name = some value := by
  rw [value?, List.findSome?_eq_some_iff]
  constructor
  · rintro ⟨before, scope, after, hall, hbefore, hvalue⟩
    exact ⟨before, scope, after, hall, hvalue, hbefore⟩
  · rintro ⟨before, scope, after, hall, hvalue, hbefore⟩
    exact ⟨before, scope, after, hall, hbefore, hvalue⟩

/-- A name in a placeholder does not start with a dollar sign. -/
theorem not_isPrefix_of_isName {cs : List Char} (h : isName cs = true) : ¬['$'] <+: cs := by
  rintro ⟨rest, rfl⟩
  have hdollar := (isAll_iff.mp h).2 '$' (by simp)
  revert hdollar
  decide

/-- A name in a placeholder has neither blanks nor braces. -/
theorem isName_spec {cs : List Char} (h : isName cs = true) :
    trim cs = cs ∧ Segment.IsInner cs := by
  obtain ⟨hne, hall⟩ := isAll_iff.mp h
  have hchar : ∀ c ∈ cs, isBlank c = false ∧ Segment.isBrace c = false := by
    intro c hc
    have hname := hall c hc
    simp only [Bool.or_eq_true, beq_iff_eq] at hname
    rcases hname with (hword | rfl) | rfl
    · refine ⟨isBlank_of_isWord hword, ?_⟩
      rw [Segment.isBrace, Bool.or_eq_false_iff, beq_eq_false_iff_ne, beq_eq_false_iff_ne]
      constructor <;> rintro rfl <;> revert hword <;> decide
    · decide
    · decide
  exact ⟨trim_of_forall fun c hc => (hchar c hc).1, hne, fun c hc => (hchar c hc).2⟩

/-- A segment that calls a generator is replaced by what the generator makes. -/
theorem on_expand?_of_call? {call : Generator × List (List Char)} (h : segment.call? = some call) :
    (store.expand? clock segment).on dice =
      match (Generator.answer clock call).on dice with
      | (.ok value, last) => (.ok (some value), last)
      | (.error fault, last) => (.error fault, last) := by
  cases segment with
  | char c => cases h
  | placeholder inner =>
    by_cases hactive : trim inner = "$env".toList
    · rw [Segment.call?_active hactive] at h
      cases h
    · rw [Segment.call?_placeholder hactive] at h
      have hdollar : ['$'].isPrefixOf (trim inner) = true := by
        simpa using Generator.isPrefix_of_call? h
      unfold expand? valueOf Generator.generate?
      simp only [if_neg hactive, if_pos hdollar, h, Chance.on_bind, Chance.on_pure]
      rw [Generator.answer]
      rcases (Generator.generate clock call.2 call.1).on dice with ⟨_ | _, _⟩ <;> rfl

/-- A name that calls no generator stands for the text of its variable, if there is one. -/
theorem valueOf_of_call? (store : Store) (clock : Int) {key : List Char}
    (h : Generator.call? key = none) :
    ∃ found, (∀ dice, (store.valueOf clock key).on dice = (.ok found, dice)) ∧
      ((∃ value, isName key = true ∧ store.FirstHolds (String.ofList key) value ∧
          found = some value.text.toList) ∨
        ¬(isName key = true ∧ ∃ value, store.FirstHolds (String.ofList key) value) ∧
          found = none) := by
  simp only [firstHolds_iff]
  unfold valueOf
  split
  · next hdollar =>
    have hname : ¬isName key = true := fun hname =>
      not_isPrefix_of_isName hname (by simpa using hdollar)
    refine ⟨none, fun dice => ?_, .inr ⟨fun hkey => hname hkey.1, rfl⟩⟩
    rw [Generator.generate?, h]
    rfl
  split
  · next hname =>
    refine ⟨_, fun dice => rfl, ?_⟩
    cases hvalue : store.value? (String.ofList key) with
    | none => exact .inr ⟨by simp, by rw [lookup, hvalue]; rfl⟩
    | some value => exact .inl ⟨value, hname, rfl, by rw [lookup, hvalue]; rfl⟩
  · next hname => exact ⟨none, fun dice => rfl, .inr ⟨fun hkey => hname hkey.1, rfl⟩⟩

/-- Any other segment is replaced by what it stands for, unless that is a name that is no text. -/
theorem expand?_of_call? (clock : Int) (h : segment.call? = none) :
    ∃ piece, (∀ dice, (store.expand? clock segment).on dice = (.ok piece, dice)) ∧
      ((∃ text, piece = some text ∧ store.Stands segment text) ∨
        piece = none ∧ store.HasOddName ∧
          ∃ inner, segment = .placeholder inner ∧ trim inner = "$env".toList) := by
  cases segment with
  | char c => exact ⟨some [c], fun _ => rfl, .inl ⟨[c], rfl, .char c⟩⟩
  | placeholder inner =>
    by_cases hkey : trim inner = "$env".toList
    · refine ⟨store.activeName?, fun dice => ?_, ?_⟩
      · rw [expand?, if_pos hkey]
        rfl
      · unfold activeName?
        split
        · next hnone => exact .inl ⟨_, rfl, .inactive hkey hnone⟩
        · next name hname => exact .inl ⟨_, rfl, .active hkey hname⟩
        · next value hodd hvalue =>
          obtain ⟨hactive, hgiven⟩ := Option.filter_eq_some_iff.mp hvalue
          exact .inr ⟨rfl, ⟨value, hactive, hgiven, hodd⟩, inner, rfl, hkey⟩
    · rw [Segment.call?_placeholder hkey] at h
      obtain ⟨found, hvalueOf, hfound⟩ := store.valueOf_of_call? clock h
      refine ⟨some (found.getD (Segment.placeholder inner).text), fun dice => ?_, .inl ⟨_, rfl, ?_⟩⟩
      · simp only [expand?, if_neg hkey, Chance.on_bind, hvalueOf, Chance.on_pure]
      · rcases hfound with ⟨value, hname, hvalue, rfl⟩ | ⟨hmissing, rfl⟩
        · exact .variable hname hvalue
        · exact .itself hkey hmissing

/-! ## The whole text -/

theorem mapM_id_map_some {α : Type} (items : List α) : (items.map some).mapM id = some items := by
  induction items with
  | nil => rfl
  | cons item items ih =>
    rw [List.map_cons, List.mapM_cons, ih]
    rfl

theorem mapM_id_of_mem {α : Type} {items : List (Option α)} (h : none ∈ items) :
    items.mapM id = none := by
  induction items with
  | nil => cases h
  | cons item items ih =>
    rw [List.mapM_cons]
    cases item with
    | none => rfl
    | some item =>
      rw [ih ((List.mem_cons.mp h).resolve_left (by simp))]
      rfl

/-- A placeholder with a name is replaced by the text of the variable, if there is one. -/
theorem on_interpolate_name (store : Store) (clock : Int) {name : String}
    (h : isName name.toList = true) (dice : Dice) :
    (store.interpolate clock ("\x7b\x7b" ++ name ++ "\x7d\x7d")).on dice =
      (.ok (store.get name), dice) := by
  obtain ⟨htrim, hinner⟩ := isName_spec h
  have htext : ("\x7b\x7b" ++ name ++ "\x7d\x7d").toList =
      (Segment.placeholder name.toList).text := by
    simp [Segment.text]
  have hsplit : Segment.split ("\x7b\x7b" ++ name ++ "\x7d\x7d").toList =
      [.placeholder name.toList] := by
    have hwhole := Segment.split_placeholder hinner []
    rwa [List.append_nil, ← htext, Segment.split] at hwhole
  have hdollar : ¬['$'].isPrefixOf name.toList = true := by
    simpa using not_isPrefix_of_isName h
  have hactive : name.toList ≠ "$env".toList := by
    intro heq
    rw [heq] at hdollar
    exact hdollar rfl
  have hvalue : store.expand? clock (.placeholder name.toList) =
      pure (some ((store.lookup name).getD
        ("\x7b\x7b" ++ name ++ "\x7d\x7d")).toList) := by
    simp only [expand?, htrim, if_neg hactive, valueOf, if_neg hdollar, if_pos h,
      String.ofList_toList, pure_bind, ← htext]
    cases store.lookup name <;> rfl
  have hone (text : List Char) : [some text].mapM id = some [text] := mapM_id_map_some [text]
  rw [interpolate, hsplit, List.mapM_cons, hvalue, List.mapM_nil]
  simp only [pure_bind, hone, List.flatten_cons, List.flatten_nil, List.append_nil,
    String.ofList_toList]
  rfl

/-- What replaces segments: the texts that fill them, unless the name of the active environment is
asked for and is no text. -/
inductive Pieces (store : Store) (segments : List Segment) (values : List (List Char)) :
    List (Option (List Char)) → Prop
  /-- Every segment is replaced by a text. -/
  | filled {texts : List (List Char)} : store.Fills segments values texts.flatten →
      Pieces store segments values (texts.map some)
  /-- A segment has no text. -/
  | odd {pieces : List (Option (List Char))} {inner : List Char} : none ∈ pieces →
      store.HasOddName → .placeholder inner ∈ segments → trim inner = "$env".toList →
      Pieces store segments values pieces

namespace Pieces

variable {segments : List Segment} {values : List (List Char)} {pieces : List (Option (List Char))}

theorem generated {call : Generator × List (List Char)} {value : List Char}
    (h : store.Pieces segments values pieces) (hcall : segment.call? = some call) :
    store.Pieces (segment :: segments) (value :: values) (some value :: pieces) := by
  cases h with
  | @filled texts hfills =>
    have hmore : store.Fills (segment :: segments) (value :: values) (value :: texts).flatten :=
      .generated hcall hfills
    exact .filled hmore
  | odd hnone hodd hmem hkey =>
    exact .odd (List.mem_cons_of_mem _ hnone) hodd (List.mem_cons_of_mem _ hmem) hkey

theorem stands {text : List Char} (h : store.Pieces segments values pieces)
    (hcall : segment.call? = none) (hstands : store.Stands segment text) :
    store.Pieces (segment :: segments) values (some text :: pieces) := by
  cases h with
  | @filled texts hfills =>
    have hmore : store.Fills (segment :: segments) values (text :: texts).flatten :=
      .stands hcall hstands hfills
    exact .filled hmore
  | odd hnone hodd hmem hkey =>
    exact .odd (List.mem_cons_of_mem _ hnone) hodd (List.mem_cons_of_mem _ hmem) hkey

end Pieces

/-- The generators that segments call run one after the other, and their values replace the
segments. -/
theorem on_mapM_expand? (store : Store) (clock : Int) (segments : List Segment) (dice : Dice) :
    match ((segments.filterMap Segment.call?).mapM (Generator.answer clock)).on dice with
    | (.error fault, last) =>
      (segments.mapM (store.expand? clock)).on dice = (.error fault, last)
    | (.ok values, last) => ∃ pieces,
        (segments.mapM (store.expand? clock)).on dice = (.ok pieces, last) ∧
          store.Pieces segments values pieces := by
  induction segments generalizing dice with
  | nil =>
    have hfills : store.Fills [] [] ([] : List (List Char)).flatten := .nil
    exact ⟨[], rfl, .filled hfills⟩
  | cons segment segments ih =>
    rw [List.mapM_cons, Chance.on_bind]
    cases hcall : segment.call? with
    | none =>
      obtain ⟨piece, hpiece, hstands⟩ := expand?_of_call? clock hcall
      rw [List.filterMap_cons_none hcall, hpiece dice]
      dsimp only
      rw [Chance.on_bind]
      have hrest := ih dice
      revert hrest
      rcases ((segments.filterMap Segment.call?).mapM (Generator.answer clock)).on dice with
        ⟨fault | values, last⟩
      · intro hrest
        dsimp only at hrest ⊢
        rw [hrest]
      · rintro ⟨pieces, hrest, hpieces⟩
        dsimp only
        rw [hrest]
        refine ⟨piece :: pieces, rfl, ?_⟩
        rcases hstands with ⟨text, rfl, hstands⟩ | ⟨rfl, hodd, inner, rfl, hkey⟩
        · exact hpieces.stands hcall hstands
        · exact .odd List.mem_cons_self hodd List.mem_cons_self hkey
    | some call =>
      rw [List.filterMap_cons_some hcall, List.mapM_cons, Chance.on_bind, on_expand?_of_call? hcall]
      rcases (Generator.answer clock call).on dice with ⟨fault | value, middle⟩
      · rfl
      · dsimp only
        rw [Chance.on_bind, Chance.on_bind]
        have hrest := ih middle
        revert hrest
        rcases ((segments.filterMap Segment.call?).mapM (Generator.answer clock)).on middle with
          ⟨fault | values, last⟩
        · intro hrest
          dsimp only at hrest ⊢
          rw [hrest]
        · rintro ⟨pieces, hrest, hpieces⟩
          dsimp only
          rw [hrest]
          exact ⟨some value :: pieces, rfl, hpieces.generated hcall⟩

end Store

end RequestScript
