import PlachemMonitor.OpenClaw.Status

/-!
# The last word of the assistant

`_extract_result` and `_terminal_assistant_text` look through the same messages from the end, each for
the first content that it can take: an object or the text of one, and a text that is not blank. What
they find stands in one message just if the last content that either can take is the text of an object,
or there is no object at all (`last_word_iff`).
-/

namespace Plachem

namespace OpenClawAdapter

/-- The text of a content that is recorded. -/
def spoken (content : Value) : Option String := (content_text content).filter fun s => !is_blank s

theorem terminal_eq (payload : Dict) :
    terminal_assistant_text payload = (contents payload).findSome? spoken := rfl

variable (a : Collector)

/-- The result is the JSON of the last content with a text, and the text that is recorded. -/
def LastWord (payload result : Dict) : Prop :=
  ∃ later content earlier text, contents payload = later ++ content :: earlier ∧
    (∀ c ∈ later, a.content_object c = none ∧ spoken c = none) ∧
    a.content_object content = some result ∧ spoken content = some text ∧
    loads_object text = some result

/-- A content that one of the two scans takes. -/
def Collector.takes (content : Value) : Bool :=
  (a.content_object content).isSome || (spoken content).isSome

/-- The content is the text of an object, which is read of it. -/
def Collector.TellsObject (content : Value) : Prop :=
  ∃ text ∈ spoken content, (loads_object text).isSome ∧ loads_object text = a.content_object content

variable {a} {payload result : Dict} {content : Value}

/-- The text that is recorded is that of the result. -/
theorem LastWord.terminal (h : LastWord a payload result) :
    ∃ text, terminal_assistant_text payload = some text ∧ loads_object text = some result := by
  obtain ⟨later, content, earlier, text, hcontents, hlater, -, htext, hloads⟩ := h
  refine ⟨text, ?_, hloads⟩
  rw [terminal_eq, hcontents, List.findSome?_append,
    List.findSome?_eq_none_iff.mpr fun c hc => (hlater c hc).2, Option.none_or,
    List.findSome?_cons_of_isSome (by rw [htext]; rfl), htext]

/-- The last content that a scan takes. -/
theorem find_takes_cases (payload : Dict) :
    (contents payload).find? a.takes = none ∨
      ∃ later content earlier, contents payload = later ++ content :: earlier ∧
        (contents payload).find? a.takes = some content ∧ a.takes content = true ∧
        ∀ c ∈ later, a.content_object c = none ∧ spoken c = none := by
  cases hfind : (contents payload).find? a.takes with
  | none => exact .inl rfl
  | some content =>
    obtain ⟨htakes, later, earlier, hcontents, hlater⟩ := List.find?_eq_some_iff_append.mp hfind
    refine .inr ⟨later, content, earlier, hcontents, rfl, htakes, fun c hc => ?_⟩
    have hnot : a.takes c = false := by simpa using hlater c hc
    unfold Collector.takes at hnot
    rw [Bool.or_eq_false_iff] at hnot
    exact ⟨Option.not_isSome_iff_eq_none.mp (by rw [hnot.1]; decide),
      Option.not_isSome_iff_eq_none.mp (by rw [hnot.2]; decide)⟩

/-- Of the contents behind which nothing is taken, the last one that is taken is unique. -/
theorem last_taken {later later' earlier earlier' : List Value} {content content' : Value}
    (h : later ++ content :: earlier = later' ++ content' :: earlier')
    (hlater : ∀ c ∈ later, a.content_object c = none ∧ spoken c = none)
    (hlater' : ∀ c ∈ later', a.content_object c = none ∧ spoken c = none)
    (htakes : a.takes content = true) (htakes' : a.takes content' = true) : content = content' := by
  have hnot : ∀ {c}, a.content_object c = none ∧ spoken c = none → ¬ a.takes c = true := by
    intro c hc htakes
    unfold Collector.takes at htakes
    rw [hc.1, hc.2] at htakes
    cases htakes
  rcases List.append_eq_append_iff.mp h with ⟨t, rfl, ht⟩ | ⟨t, rfl, ht⟩
  · cases t with
    | nil => exact (List.cons.inj ht).1
    | cons c t =>
      obtain ⟨rfl, -⟩ := List.cons.inj ht
      exact absurd htakes (hnot (hlater' _ (by simp)))
  · cases t with
    | nil => exact (List.cons.inj ht).1.symm
    | cons c t =>
      obtain ⟨rfl, -⟩ := List.cons.inj ht
      exact absurd htakes' (hnot (hlater _ (by simp)))

/-- A result that is extracted is the last word of the assistant just if no content is an object, or
the last content that a scan takes is the text of the object that is read of it. -/
theorem last_word_iff (a : Collector) {payload : Dict}
    (hresult : (payload.value? "result").bind Value.dict? = none) :
    (∀ result, a.extract_result payload = some result → LastWord a payload result) ↔
      (∀ c ∈ contents payload, a.content_object c = none) ∨
        ∃ content ∈ (contents payload).find? a.takes, a.TellsObject content := by
  have hextract : a.extract_result payload = (contents payload).findSome? a.content_object := by
    unfold Collector.extract_result
    rw [hresult]
  rw [hextract]
  rcases find_takes_cases (a := a) payload with
    hnone | ⟨later, content, earlier, hcontents, hfind, htakes, hlater⟩
  · have hno : ∀ c ∈ contents payload, a.content_object c = none := by
      intro c hc
      have hnot : a.takes c = false := by simpa using List.find?_eq_none.mp hnone c hc
      exact Option.not_isSome_iff_eq_none.mp (by rw [(Bool.or_eq_false_iff.mp hnot).1]; decide)
    refine iff_of_true (fun result h => ?_) (.inl hno)
    rw [List.findSome?_eq_none_iff.mpr hno] at h
    cases h
  have hbehind : (contents payload).findSome? a.content_object =
      (content :: earlier).findSome? a.content_object := by
    rw [hcontents, List.findSome?_append,
      List.findSome?_eq_none_iff.mpr fun c hc => (hlater c hc).1, Option.none_or]
  constructor
  · intro h
    by_cases hno : ∀ c ∈ contents payload, a.content_object c = none
    · exact .inl hno
    right
    cases hobject : (contents payload).findSome? a.content_object with
    | none => exact absurd (List.findSome?_eq_none_iff.mp hobject) hno
    | some result =>
      obtain ⟨later', content', earlier', text, hcontents', hlater', hobject', htext, hloads⟩ :=
        h result hobject
      have htakes' : a.takes content' = true := by
        unfold Collector.takes
        rw [hobject', htext]
        rfl
      obtain rfl := last_taken (hcontents.symm.trans hcontents') hlater hlater' htakes htakes'
      refine ⟨content, hfind, text, htext, ?_, hloads.trans hobject'.symm⟩
      rw [hloads]
      rfl
  · rintro (hno | ⟨content', hfind', text, htext, hsome, hloads⟩) result hresult
    · rw [List.findSome?_eq_none_iff.mpr hno] at hresult
      cases hresult
    · obtain rfl := Option.some.inj (hfind.symm.trans hfind')
      rw [hloads] at hsome
      rw [hbehind, List.findSome?_cons_of_isSome hsome] at hresult
      exact ⟨later, content, earlier, text, hcontents, hlater, hresult, htext, hloads.trans hresult⟩

/-! ## Contents whose texts are strings -/

/-- No block of the content has another value for its text. -/
def Plain (content : Value) : Prop :=
  ∀ items, content.json = .arr items → ∀ ms, .obj ms ∈ items →
    ∀ v, Json.getMember ms "text" = some v → v.truthy = true → ∃ s, v = .str s

/-- What is shown of the blocks is the text of them. -/
theorem join_shown (items : List Json)
    (h : ∀ ms, .obj ms ∈ items → ∀ v, Json.getMember ms "text" = some v → v.truthy = true →
      ∃ s, v = .str s) :
    String.join (items.filterMap a.shown) = String.join (items.filterMap block_text) := by
  induction items with
  | nil => rfl
  | cons item items ih =>
    have ih := ih fun ms hms => h ms (List.mem_cons_of_mem _ hms)
    have hitem : a.shown item = block_text item ∨
        (a.shown item = some "" ∧ block_text item = none) := by
      cases item with
      | obj ms =>
        unfold Collector.shown Collector.str_or block_text
        dsimp only
        cases hmember : Json.getMember ms "text" with
        | none => exact .inr ⟨rfl, rfl⟩
        | some v =>
          dsimp only
          cases htruthy : v.truthy with
          | true =>
            obtain ⟨s, rfl⟩ := h ms List.mem_cons_self v hmember htruthy
            exact .inl rfl
          | false =>
            cases v with
            | str s =>
              obtain rfl : s = "" := by simpa [Json.truthy] using htruthy
              exact .inl rfl
            | null | bool b | int n | float t | arr xs | obj ms => exact .inr ⟨rfl, rfl⟩
      | null | bool b | int n | float t | str s | arr xs => exact .inl rfl
    rcases hitem with hitem | ⟨hshown, htext⟩
    · cases htext : block_text item with
      | none =>
        rw [htext] at hitem
        rw [List.filterMap_cons_none hitem, List.filterMap_cons_none htext, ih]
      | some s =>
        rw [htext] at hitem
        rw [List.filterMap_cons_some hitem, List.filterMap_cons_some htext, String.join_cons,
          String.join_cons, ih]
    · rw [List.filterMap_cons_some hshown, List.filterMap_cons_none htext, String.join_cons, ih,
        String.empty_append]

/-- Of such a content the object is read of the text that is recorded. -/
theorem Plain.tellsObject (hplain : Plain content) :
    a.TellsObject content ↔ ∃ text ∈ spoken content, (loads_object text).isSome := by
  constructor
  · rintro ⟨text, htext, hsome, -⟩
    exact ⟨text, htext, hsome⟩
  rintro ⟨text, htext, hsome⟩
  refine ⟨text, htext, hsome, ?_⟩
  obtain ⟨hcontent, -⟩ := Option.filter_eq_some_iff.mp htext
  have hshown : a.shown_text content = content_text content := by
    unfold Collector.shown_text content_text
    cases hjson : content.json with
    | arr items => exact congrArg some (join_shown items (hplain items hjson))
    | null | bool b | int n | float t | str s | obj ms => rfl
  have hdict : content.dict? = none := by
    cases hd : content.dict? with
    | none => rfl
    | some d =>
      have hjson : content.json = d.json := by
        unfold Value.dict? at hd
        split at hd
        · rw [← Option.some.inj hd]
          rfl
        · cases hd
      unfold content_text at hcontent
      rw [hjson] at hcontent
      cases hcontent
  unfold Collector.content_object
  rw [hdict, hshown, hcontent]
  rfl

/-! ## What `wait` gives the validator -/

theorem value?_merge {d e : Dict} {skip : List String} {key : String}
    (h : key ∈ skip ∨ e.value? key = none) : (merge d e skip).value? key = d.value? key := by
  unfold merge
  have hkeys : ∀ k ∈ (e.members.map Prod.fst).filter (· ∉ skip), k = key → e.value? k = none := by
    rintro k hk rfl
    rcases h with h | h
    · exact absurd h (by simpa using (List.mem_filter.mp hk).2)
    · exact h
  generalize (e.members.map Prod.fst).filter (· ∉ skip) = keys at hkeys
  induction keys generalizing d with
  | nil => rfl
  | cons k keys ih =>
    rw [List.foldl_cons, ih fun k' hk' => hkeys k' (List.mem_cons_of_mem _ hk')]
    cases hv : e.value? k with
    | none => rfl
    | some v =>
      by_cases hk : k = key
      · rw [hkeys k List.mem_cons_self hk] at hv
        cases hv
      · exact Dict.value?_set_ne d v (Ne.symm hk)

/-- The validator is given no result but what is in the history. -/
theorem validation_payload_result {response context history : Dict}
    (h : context.value? "result" = none) :
    ((validation_payload response context history).value? "result").bind Value.dict? = none := by
  unfold validation_payload
  rw [Dict.value?_set_ne _ _ (by decide), value?_merge (.inr h), value?_merge (.inl (by decide))]
  rfl

namespace Sample

def say (text : String) : Value :=
  .ofDict ((Dict.empty.set "role" (.str "assistant")).set "content" (.str text))

/-- What the validator is given after these answers. -/
def told_by (texts : List String) : Dict :=
  validation_payload .empty .empty (history (texts.map say))

def completed : String := "\x7b\"status\":\"completed\"\x7d"

theorem told_by_result (texts : List String) :
    ((told_by texts).value? "result").bind Value.dict? = none := validation_payload_result rfl

end Sample

open Sample in
/-- An object that was said before is the result, though the last answer is no object. -/
theorem earlier_accepted : ∃ payload result text,
    (payload.value? "result").bind Value.dict? = none ∧
      gateway.extract_result payload = some result ∧ terminal_assistant_text payload = some text ∧
      loads_object text = none ∧ ¬ LastWord gateway payload result := by
  have hresult : gateway.extract_result (told_by [completed, "No."]) =
      some (Dict.empty.set "status" (.str "completed")) := by decide +kernel
  have htext : terminal_assistant_text (told_by [completed, "No."]) = some "No." := by decide +kernel
  have hloads : loads_object "No." = none := by decide +kernel
  refine ⟨_, _, _, told_by_result _, hresult, htext, hloads, fun h => ?_⟩
  obtain ⟨text, htext', hloads'⟩ := h.terminal
  obtain rfl := Option.some.inj (htext.symm.trans htext')
  rw [hloads] at hloads'
  cases hloads'

open Sample in
/-- The object is the result if it is said last. -/
theorem last_word_sample : ∃ result, gateway.extract_result (told_by ["No.", completed]) = some result ∧
    LastWord gateway (told_by ["No.", completed]) result := by
  have hextracted : (gateway.extract_result (told_by ["No.", completed])).isSome = true := by
    decide +kernel
  obtain ⟨result, hresult⟩ := Option.isSome_iff_exists.mp hextracted
  refine ⟨result, hresult, (last_word_iff gateway (told_by_result _)).mpr (.inr ?_) result hresult⟩
  refine ⟨.str completed, by decide +kernel, completed, ?_, ?_, ?_⟩ <;> decide +kernel

end OpenClawAdapter

end Plachem
