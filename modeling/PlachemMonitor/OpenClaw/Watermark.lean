import PlachemMonitor.FastGateway.Collecting
import PlachemMonitor.OpenClaw.Bindings

/-!
# The watermark of a session

Before the worker is started, `submit` notes the last assistant message of the session
(`_capture_watermark`); `wait` gives the validator only what stands behind it
(`_history_after_watermark`). A page is the end of the history, the newest message last.

* `kept_of_later`: of the messages that were there before the submit, no assistant message is kept.
* `candidates_behind`: what stands behind the noted message is kept.
-/

namespace Plachem

namespace OpenClawAdapter

/-! ## Cursors -/

/-- `_message_cursor` -/
def message_cursor (message : Dict) : Option Int × Option String :=
  let metadata := (message.value? "__openclaw").bind Value.dict?
  let seq :=
    match metadata.bind (Dict.get? · "seq") with
    | some (.int n) => some n
    | _ => none
  let text : Option Json → Option String
    | some (.str s) => if s = "" then none else some s
    | _ => none
  let message_id :=
    match text (metadata.bind (Dict.get? · "id")) with
    | some id => some id
    | none =>
      match message.get? "id" with
      | some v => if v.truthy then text (some v) else text (message.get? "messageId")
      | none => text (message.get? "messageId")
  (seq, message_id)

/-- `history.get("messages")`, which has to be a list. -/
def messages_of (history : Dict) : Except AdapterError (List Value) :=
  match (history.value? "messages").bind Value.list? with
  | some messages => .ok messages
  | none => .error (.gateway_contract "HISTORY_WATERMARK_UNVERIFIABLE")

/-- `isinstance(item, Mapping) and item.get("role") == "assistant"` -/
def is_assistant (item : Value) : Bool := item.dict?.any by_assistant

/-- `_capture_watermark`: the cursor of the last assistant message, and whether there is none. -/
def capture_watermark (history : Dict) :
    Except AdapterError (Option Int × Option String × Bool) := do
  let messages ← messages_of history
  match (messages.filter is_assistant).getLast?.bind Value.dict? with
  | none => pure (none, none, true)
  | some last =>
    let (seq, message_id) := message_cursor last
    pure (seq, message_id, false)

/-- The message is the one of the watermark. -/
def marks (preparation : RunPreparation) (message : Value) : Bool :=
  message.dict?.any fun d =>
    match preparation.watermark_seq with
    | some seq => (message_cursor d).1 == some seq &&
      (preparation.watermark_message_id.isNone ||
        (message_cursor d).2 == preparation.watermark_message_id)
    | none => (message_cursor d).2 == preparation.watermark_message_id

/-- The messages of a page that `_history_after_watermark` goes on with. -/
def candidates (messages : List Value) (preparation : RunPreparation) :
    Except AdapterError (List Value) :=
  if preparation.history_was_empty then .ok messages
  else if preparation.watermark_seq = none ∧ preparation.watermark_message_id = none then
    .error (.gateway_contract "HISTORY_WATERMARK_UNVERIFIABLE")
  else
    match messages.findIdx? (marks preparation) with
    | some boundary => .ok (messages.drop (boundary + 1))
    | none => .error (.gateway_contract "HISTORY_WATERMARK_UNVERIFIABLE")

/-- `_history_after_watermark` -/
def history_after_watermark (history : Dict) (preparation : RunPreparation) :
    Except AdapterError Dict := do
  let messages ← messages_of history
  let kept ← candidates messages preparation
  if kept.any is_assistant then pure (history.set "messages" (.list kept))
  else throw (.gateway_contract "MISSING_POST_SUBMIT_RESULT")

/-! ## Pages -/

section Pages

variable {α : Type*} {p : α → Bool}

/-- The last element of which the predicate holds. -/
theorem exists_last_of_any {l : List α} (h : l.any p = true) :
    ∃ pre w q, l = pre ++ w :: q ∧ p w = true ∧ q.any p = false := by
  induction l using List.reverseRecOn with
  | nil => cases h
  | append_singleton l a ih =>
    cases ha : p a with
    | true => exact ⟨l, a, [], rfl, ha, rfl⟩
    | false =>
      obtain ⟨pre, w, q, rfl, hw, hq⟩ := ih (by simpa [ha] using h)
      refine ⟨pre, w, q ++ [a], by simp, hw, ?_⟩
      rw [List.any_append, hq]
      simp [ha]

/-- A page of `l ++ r` reaches back into `l`, or it does not. -/
theorem suffix_append_cases {s l r : List α} (h : s <:+ l ++ r) :
    (∃ t, t <:+ l ∧ s = t ++ r) ∨ s <:+ r := by
  rcases List.suffix_or_suffix_of_suffix h (List.suffix_append l r) with hs | ⟨t, rfl⟩
  · exact .inr hs
  · exact .inl ⟨t, List.suffix_append_self_iff.mp h, rfl⟩

/-- Of a list with at most one such element, the part behind it. -/
theorem behind_unique {x y x' y' : List α} {a a' : α} (hp : p a = true) (hp' : p a' = true)
    (hcount : (x ++ a :: y).countP p ≤ 1) (h : x ++ a :: y = x' ++ a' :: y') : y = y' := by
  rcases List.append_eq_append_iff.mp h with ⟨t, rfl, ht⟩ | ⟨t, rfl, ht⟩
  · cases t with
    | nil => exact (List.cons.inj ht).2
    | cons b t =>
      obtain ⟨rfl, rfl⟩ := List.cons.inj ht
      simp [hp, hp'] at hcount
      omega
  · cases t with
    | nil => exact (List.cons.inj ht).2.symm
    | cons b t =>
      obtain ⟨rfl, rfl⟩ := List.cons.inj ht
      simp [hp, hp'] at hcount
      omega

/-- The first element of which the predicate holds, and what stands behind it. -/
theorem findIdx?_split {l : List α} {i : Nat} (h : l.findIdx? p = some i) :
    ∃ x a, l = x ++ a :: l.drop (i + 1) ∧ p a = true ∧ x.any p = false := by
  obtain ⟨hlt, hp, hfirst⟩ := List.findIdx?_eq_some_iff_getElem.mp h
  refine ⟨l.take i, l[i], ?_, hp, ?_⟩
  · rw [List.getElem_cons_drop, List.take_append_drop]
  · rw [List.any_eq_false]
    intro b hb
    obtain ⟨j, hj, rfl⟩ := List.mem_take_iff_getElem.mp hb
    simpa using hfirst j (by omega)

end Pages

/-! ## What is noted of a session -/

/-- The preparation has the watermark of the page. -/
def Prepared (captured : Dict) (preparation : RunPreparation) : Prop :=
  capture_watermark captured = .ok (preparation.watermark_seq, preparation.watermark_message_id,
    preparation.history_was_empty)

instance (captured : Dict) (preparation : RunPreparation) : Decidable (Prepared captured preparation) :=
  inferInstanceAs (Decidable (_ = _))

variable {captured later out : Dict} {H D page₀ page pre q : List Value} {w : Value}
  {preparation : RunPreparation}

theorem prepared_empty (hpage : messages_of captured = .ok page₀)
    (hprep : Prepared captured preparation) (hno : page₀.any is_assistant = false) :
    preparation.history_was_empty = true := by
  have hfilter : page₀.filter is_assistant = [] :=
    List.filter_eq_nil_iff.mpr (List.any_eq_false.mp hno)
  unfold Prepared capture_watermark at hprep
  rw [bind_of_ok hpage, hfilter] at hprep
  exact (congrArg (·.2.2) (Except.ok.inj hprep)).symm

/-- The last assistant message of the page is noted, by its cursor. -/
theorem prepared_last (hpage : messages_of captured = .ok (pre ++ w :: q))
    (hprep : Prepared captured preparation) (hw : is_assistant w = true)
    (hq : q.any is_assistant = false) :
    preparation.history_was_empty = false ∧ ∃ d, w.dict? = some d ∧
      message_cursor d = (preparation.watermark_seq, preparation.watermark_message_id) := by
  obtain ⟨d, hd⟩ : ∃ d, w.dict? = some d := by
    cases hd : w.dict? with
    | none => simp [is_assistant, hd] at hw
    | some d => exact ⟨d, rfl⟩
  have hlast : ((pre ++ w :: q).filter is_assistant).getLast? = some w := by
    have hq' : q.filter is_assistant = [] :=
      List.filter_eq_nil_iff.mpr (List.any_eq_false.mp hq)
    simp [List.filter_append, hw, hq']
  unfold Prepared capture_watermark at hprep
  rw [bind_of_ok hpage, hlast, Option.bind_some, hd] at hprep
  have heq := Except.ok.inj hprep
  exact ⟨(congrArg (·.2.2) heq).symm, d, hd, Prod.ext (congrArg (·.1) heq) (congrArg (·.2.1) heq)⟩

/-- The noted message is marked, if its cursor says anything. -/
theorem marks_noted {d : Dict} (hd : w.dict? = some d)
    (hcursor : message_cursor d = (preparation.watermark_seq, preparation.watermark_message_id)) :
    marks preparation w = true := by
  unfold marks
  rw [hd, Option.any_some, hcursor]
  cases preparation.watermark_seq <;> simp

theorem candidates_noted (hne : preparation.history_was_empty = false) {kept : List Value}
    (h : candidates page preparation = .ok kept) :
    ∃ x m, page = x ++ m :: kept ∧ marks preparation m = true := by
  unfold candidates at h
  rw [hne, if_neg nofun] at h
  split at h
  · cases h
  · split at h
    · rename_i i hfind
      cases h
      obtain ⟨x, m, hsplit, hm, -⟩ := findIdx?_split hfind
      exact ⟨x, m, hsplit, hm⟩
    · cases h

@[simp] theorem messages_of_set (history : Dict) (messages : List Value) :
    messages_of (history.set "messages" (.list messages)) = .ok messages := by
  simp [messages_of]

/-- What `_history_after_watermark` gives is a page of the kept messages, one of an assistant. -/
theorem history_after_watermark_ok (h : history_after_watermark later preparation = .ok out) :
    ∃ messages kept, messages_of later = .ok messages ∧ candidates messages preparation = .ok kept ∧
      kept.any is_assistant = true ∧ messages_of out = .ok kept := by
  obtain ⟨messages, hmessages, h⟩ := bind_eq_ok.mp h
  obtain ⟨kept, hkept, h⟩ := bind_eq_ok.mp h
  split at h
  · rename_i hany
    rw [pure_eq_ok] at h
    exact ⟨messages, kept, hmessages, hkept, hany, h ▸ messages_of_set later kept⟩
  · exact absurd h throw_ne_ok

/-! ## Stale messages -/

/-- No two messages of the history answer to the watermark. -/
def Unmistakable (preparation : RunPreparation) (H : List Value) : Prop :=
  H.countP (marks preparation) ≤ 1

/-- What is kept of a later page is, up to messages of no assistant, of the messages that came after
the submit. -/
theorem kept_of_later (hpage₀ : messages_of captured = .ok page₀) (hsuffix₀ : page₀ <:+ H)
    (hprep : Prepared captured preparation) (huniq : Unmistakable preparation H)
    (hreach : page₀.any is_assistant = true ∨ page <:+ page₀ ++ D) (hsuffix : page <:+ H ++ D)
    {kept : List Value} (hkept : candidates page preparation = .ok kept) :
    ∃ K D', kept = K ++ D' ∧ K <:+ H ∧ D' <:+ D ∧ K.any is_assistant = false := by
  cases hany : page₀.any is_assistant with
  | false =>
    have hempty := prepared_empty hpage₀ hprep hany
    rw [candidates, if_pos hempty] at hkept
    cases hkept
    rcases hreach with habsurd | hreach
    · rw [hany] at habsurd
      cases habsurd
    · rcases suffix_append_cases hreach with ⟨K, hK, rfl⟩ | hD
      · refine ⟨K, D, rfl, hK.trans hsuffix₀, List.suffix_rfl, ?_⟩
        rw [List.any_eq_false] at hany ⊢
        exact fun m hm => hany m (hK.subset hm)
      · exact ⟨[], page, rfl, List.nil_suffix, hD, rfl⟩
  | true =>
    obtain ⟨pre, w, q, rfl, hw, hq⟩ := exists_last_of_any hany
    obtain ⟨hne, d, hd, hcursor⟩ := prepared_last hpage₀ hprep hw hq
    obtain ⟨x, m, rfl, hm⟩ := candidates_noted hne hkept
    rcases suffix_append_cases hsuffix with ⟨P, hP, hsplit⟩ | hD
    · rcases List.append_eq_append_iff.mp hsplit with ⟨t, rfl, ht⟩ | ⟨t, rfl, ht⟩
      · cases t with
        | nil =>
          refine ⟨[], kept, rfl, List.nil_suffix, ⟨[m], ?_⟩, rfl⟩
          simpa using ht
        | cons b K =>
          -- the marked message is of the history, and so the one that was noted
          obtain ⟨rfl, rfl⟩ := List.cons.inj ht
          obtain ⟨h, rfl⟩ := hP
          obtain ⟨h', hH⟩ := hsuffix₀
          have heq : K = q := by
            have hcount : (h ++ x ++ m :: K).countP (marks preparation) ≤ 1 := by
              simpa [Unmistakable] using huniq
            have hsame : h ++ x ++ m :: K = h' ++ pre ++ w :: q := by simpa using hH.symm
            exact behind_unique hm (marks_noted hd hcursor) hcount hsame
          refine ⟨K, D, rfl, ⟨h ++ x ++ [m], by simp⟩, List.suffix_rfl, heq ▸ hq⟩
      · refine ⟨[], kept, rfl, List.nil_suffix, ⟨t ++ [m], ?_⟩, rfl⟩
        simpa using ht.symm
    · have hkeep : kept <:+ x ++ [m] ++ kept := List.suffix_append _ _
      exact ⟨[], kept, rfl, List.nil_suffix, hkeep.trans (by simpa using hD), rfl⟩

/-- The first message that answers to the watermark is not behind one that does. -/
theorem candidates_behind {x y : List Value} {m : Value} (hne : preparation.history_was_empty = false)
    (hcursor : ¬(preparation.watermark_seq = none ∧ preparation.watermark_message_id = none))
    (hm : marks preparation m = true) :
    ∃ kept, candidates (x ++ m :: y) preparation = .ok kept ∧ y <:+ kept := by
  rw [candidates, hne, if_neg nofun, if_neg hcursor]
  cases hfind : (x ++ m :: y).findIdx? (marks preparation) with
  | none =>
    have hno := List.findIdx?_eq_none_iff.mp hfind m (by simp)
    rw [hm] at hno
    cases hno
  | some i =>
    refine ⟨_, rfl, ?_⟩
    have hle : i ≤ x.length := by
      obtain ⟨hlt, -, hfirst⟩ := List.findIdx?_eq_some_iff_getElem.mp hfind
      by_contra hlt'
      have := hfirst x.length (by omega)
      simp [hm] at this
    have hy : y <:+ x ++ m :: y := ⟨x ++ [m], by simp⟩
    refine List.suffix_of_suffix_length_le hy (List.drop_suffix _ _) ?_
    · simp only [List.length_drop, List.length_append, List.length_cons]
      omega

/-- The result of a run is attributed to it by the watermark: of the messages that were there before
the submit no assistant message is kept, if the later page reaches no further back than the noted one
or the noted one had an assistant message; and of those that came after it all are kept, if the
noted message is on the page and has a cursor. -/
theorem watermark_attributes (hpage₀ : messages_of captured = .ok page₀) (hsuffix₀ : page₀ <:+ H)
    (hprep : Prepared captured preparation) (huniq : Unmistakable preparation H)
    (hpage : messages_of later = .ok page) (hsuffix : page <:+ H ++ D) :
    (∀ out, history_after_watermark later preparation = .ok out →
      page₀.any is_assistant = true ∨ page <:+ page₀ ++ D →
      ∃ K D', messages_of out = .ok (K ++ D') ∧ K <:+ H ∧ D' <:+ D ∧ K.any is_assistant = false) ∧
    ∀ pre w q, page₀ = pre ++ w :: q → is_assistant w = true → q.any is_assistant = false →
      w :: q ++ D <:+ page → D.any is_assistant = true →
      if preparation.watermark_seq = none ∧ preparation.watermark_message_id = none then
        history_after_watermark later preparation =
          .error (.gateway_contract "HISTORY_WATERMARK_UNVERIFIABLE")
      else ∃ out kept, history_after_watermark later preparation = .ok out ∧
        messages_of out = .ok kept ∧ D <:+ kept := by
  constructor
  · intro out hout hreach
    obtain ⟨messages, kept, hmessages, hkept, -, hof⟩ := history_after_watermark_ok hout
    obtain rfl : page = messages := Except.ok.inj (hpage.symm.trans hmessages)
    obtain ⟨K, D', rfl, hK, hD, hno⟩ :=
      kept_of_later hpage₀ hsuffix₀ hprep huniq hreach hsuffix hkept
    exact ⟨K, D', hof, hK, hD, hno⟩
  · rintro pre w q rfl hw hq ⟨x, rfl⟩ hD
    obtain ⟨hne, d, hd, hcursor⟩ := prepared_last hpage₀ hprep hw hq
    split
    · rename_i hnone
      rw [history_after_watermark, bind_of_ok hpage, candidates, hne, if_neg nofun, if_pos hnone]
      rfl
    · rename_i hsome
      obtain ⟨kept, hkept, hsuff⟩ := candidates_behind (x := x) (y := q ++ D) hne hsome
        (marks_noted hd hcursor)
      have hDkept : D <:+ kept := (List.suffix_append q D).trans hsuff
      have hany : kept.any is_assistant = true := by
        obtain ⟨m, hm, hassistant⟩ := List.any_eq_true.mp hD
        exact List.any_eq_true.mpr ⟨m, hDkept.subset hm, hassistant⟩
      refine ⟨_, kept, ?_, messages_of_set later kept, hDkept⟩
      rw [history_after_watermark, bind_of_ok hpage]
      rw [bind_of_ok (by simpa using hkept), if_pos hany]
      rfl

/-- An assistant message of before the submit is kept, though the cursors of the history differ. -/
def Stale (H D page₀ page : List Value) : Prop :=
  page₀ <:+ H ∧ page <:+ H ++ D ∧ ((H.filterMap Value.dict?).map message_cursor).Nodup ∧
    ∃ captured later preparation out, messages_of captured = .ok page₀ ∧
      messages_of later = .ok page ∧ Prepared captured preparation ∧
      history_after_watermark later preparation = .ok out ∧
      ¬∃ K D', messages_of out = .ok (K ++ D') ∧ D' <:+ D ∧ K.any is_assistant = false

namespace Sample

def history (messages : List Value) : Dict := Dict.empty.set "messages" (.list messages)

def message (role : String) (cursor : Dict) : Value :=
  .ofDict ((Dict.empty.set "role" (.str role)).set "__openclaw" (.ofDict cursor))

def noted (seq : Option Int) (empty : Bool) : RunPreparation :=
  ⟨"core-1", "agent", "agent:agent:1", "key", seq, none, 0, empty⟩

/-- An answer, and the question after it. -/
def answered : Value := message "assistant" (Dict.empty.set "seq" (.int 1))

def asked : Value := message "user" (Dict.empty.set "seq" (.int 2))

/-- A question and its answer under one number; the answer has no id. -/
def asked_five : Value :=
  message "user" ((Dict.empty.set "seq" (.int 5)).set "id" (.str "a"))

def answered_five : Value := message "assistant" (Dict.empty.set "seq" (.int 5))

/-- The kept messages are none of those that came after the submit. -/
theorem not_attributed {out : Dict} {kept : List Value} (hof : messages_of out = .ok kept)
    (hany : kept.any is_assistant = true) :
    ¬∃ K D', messages_of out = .ok (K ++ D') ∧ D' <:+ [] ∧ K.any is_assistant = false := by
  rintro ⟨K, D', heq, hD, hno⟩
  obtain rfl := List.suffix_nil.mp hD
  obtain rfl : kept = K ++ [] := Except.ok.inj (hof.symm.trans heq)
  simp [hno] at hany

end Sample

open Sample in
/-- The question was there before the submit, and is kept with the answer to it. -/
theorem watermark_attributes_sample : ∃ out kept,
    history_after_watermark (history [answered, asked, answered_five]) (noted (some 1) false) =
        .ok out ∧
      messages_of out = .ok kept ∧ [answered_five] <:+ kept ∧
      ∃ K D', messages_of out = .ok (K ++ D') ∧ K <:+ [answered, asked] ∧ D' <:+ [answered_five] ∧
        K.any is_assistant = false := by
  have huniq : Unmistakable (noted (some 1) false) [answered, asked] := by
    unfold Unmistakable
    decide +kernel
  have hpage₀ : messages_of (history [answered, asked]) = .ok [answered, asked] :=
    messages_of_set _ _
  have hpage : messages_of (history [answered, asked, answered_five]) =
      .ok [answered, asked, answered_five] := messages_of_set _ _
  obtain ⟨hkept, hall⟩ := watermark_attributes (D := [answered_five]) hpage₀ List.suffix_rfl
    (by decide +kernel) huniq hpage List.suffix_rfl
  obtain ⟨out, kept, hout, hof, hsuffix⟩ := hall [] answered [asked] rfl (by decide +kernel)
    (by decide +kernel) List.suffix_rfl (by decide +kernel)
  exact ⟨out, kept, hout, hof, hsuffix, hkept out hout (.inr List.suffix_rfl)⟩

open Sample in
/-- A page that reaches further back than the noted one, which had no assistant message; and a
watermark without an id whose number an earlier message has too. -/
theorem stale_kept : Stale [answered, asked] [] [asked] [answered, asked] ∧
    Stale [asked_five, answered_five] [] [asked_five, answered_five] [asked_five, answered_five] := by
  constructor
  · refine ⟨⟨[answered], rfl⟩, List.suffix_rfl, by decide +kernel, history [asked],
      history [answered, asked], noted none true,
      (history [answered, asked]).set "messages" (.list [answered, asked]), messages_of_set _ _,
      messages_of_set _ _, by decide +kernel, by decide +kernel, ?_⟩
    exact not_attributed (messages_of_set _ _) (by decide +kernel)
  · refine ⟨List.suffix_rfl, List.suffix_rfl, by decide +kernel,
      history [asked_five, answered_five], history [asked_five, answered_five],
      noted (some 5) false,
      (history [asked_five, answered_five]).set "messages" (.list [answered_five]),
      messages_of_set _ _, messages_of_set _ _, by decide +kernel, by decide +kernel, ?_⟩
    exact not_attributed (messages_of_set _ _) (by decide +kernel)

end OpenClawAdapter

end Plachem
