import PlachemMonitor.WarRoom.FollowUps

/-!
# Whose response a delivery names

A response is stored if the row names none yet, also that of an attempt that fails; and no retry forgets
it. So a delivery that has responded may name what an earlier attempt has said (`stale_response`). Where
each receipt of a response comes for a row that names none, it names the response of the attempt that has
made it responded (`response_of_last_attempt`).

`hearing` is the War Room with the receipt that was heard last of each delivery.
-/

namespace Plachem

namespace WarRoom

/-- The receipt that the step writes to the row of a delivery: of a call that owns its claim, or of a
poll. -/
def World.heard (cfg : Config) (w : World) : Label → Option (String × DeliveryReceipt)
  | .hand_over token env seen r => do
    let c ← w.call (.hand_over token env seen r)
    if w.db.deliveries.rows.any (owns_claim c) then
      match lane cfg env c.row (c.row.is_qa_delivery (w.view seen .task)) with
      | .refused _ error_code => some (c.row.delivery.id, refusal error_code)
      | .direct _ => some (c.row.delivery.id, r)
      | .detached => none
    else none
  | .record token env r => do
    let c ← w.call (.record token env r)
    if w.db.deliveries.rows.any (owns_claim c) then some (c.row.delivery.id, r) else none
  | .recover id _ _ (.run r) =>
    if w.db.deliveries.rows.any (is_received id) then some (id, r) else none
  | _ => none

/-- A world, with the receipt that was heard last of each delivery. -/
structure Heard where
  world : World
  last : String → Option DeliveryReceipt

/-- The receipts after one more. -/
def hear (last : String → Option DeliveryReceipt) :
    Option (String × DeliveryReceipt) → String → Option DeliveryReceipt
  | some (id, r), id' => if id' = id then some r else last id'
  | none, id' => last id'

/-- The War Room, and what is heard in it. -/
def hearing (cfg : Config) : Machine Heard Label where
  init h := (warRoom cfg).init h.world ∧ ∀ id, h.last id = none
  step h l := (step cfg h.world l).map fun w => ⟨w, hear h.last (h.world.heard cfg l)⟩

/-- The message that the delivery names is the response of the receipt, as it is stored. -/
def NamesResponse (cfg : Config) (db : DB) (d : Delivery) (r : DeliveryReceipt) : Prop :=
  ∃ body m, response_text r = some body ∧ m ∈ db.messages ∧ d.response_message_id = some m.id ∧
    m.body = cfg.stored body

/-- A receipt of a response comes for a row that names no response yet. -/
def FirstResponse (cfg : Config) (w : World) (l : Label) : Prop :=
  ∀ row ∈ w.row l, ∀ heard ∈ w.heard cfg l, receipt_status heard.2.status = some .responded →
    row.delivery.response_message_id.getD "" = ""

instance (cfg : Config) (w : World) (l : Label) : Decidable (FirstResponse cfg w l) := by
  unfold FirstResponse
  infer_instance

variable {cfg : Config} {w w' : World} {l : Label} {a b c db db' : DB} {d d' : Delivery}
  {env : Env} {row : DeliveryRow} {heard : Option (String × DeliveryReceipt)}

/-! ## What explains a response -/

/-- What has responded had responded before, or names the response of the receipt that is heard. -/
structure Explained (cfg : Config) (heard : Option (String × DeliveryReceipt)) (a b : DB) : Prop where
  messages : ∀ m ∈ a.messages, m ∈ b.messages
  responded : ∀ d' ∈ b.deliveries, d'.status = .responded →
    (∃ d ∈ a.deliveries, d.id = d'.id ∧ d.status = .responded ∧
      d.response_message_id = d'.response_message_id) ∨
    ∃ r, heard = some (d'.id, r) ∧ NamesResponse cfg b d' r

theorem NamesResponse.mono {r : DeliveryReceipt} (h : NamesResponse cfg a d r)
    (hm : ∀ m ∈ a.messages, m ∈ b.messages) : NamesResponse cfg b d r := by
  obtain ⟨body, m, hbody, hmem, hid, heq⟩ := h
  exact ⟨body, m, hbody, hm m hmem, hid, heq⟩

namespace Explained

theorem refl (a : DB) : Explained cfg heard a a where
  messages _ h := h
  responded d hd hs := .inl ⟨d, hd, rfl, hs, rfl⟩

/-- What follows explains itself. -/
theorem follows {id : String} (h : Explained cfg heard a b) (hf : Follows id b c) :
    Explained cfg heard a c where
  messages m hm := hf.messages m (h.messages m hm)
  responded d hd hs := by
    refine (h.responded d (hf.responded d hd hs) hs).imp_right ?_
    rintro ⟨r, hr, hnames⟩
    exact ⟨r, hr, hnames.mono hf.messages⟩

/-- A statement on other tables. -/
theorem other (h : Explained cfg heard a b) (hm : c.messages = b.messages)
    (hd : c.deliveries = b.deliveries) : Explained cfg heard a c :=
  h.follows (.of_eq hm hd : Follows "" b c)

/-- Nothing is heard before the last statement. -/
theorem after (h : Explained cfg none a b) (h' : Explained cfg heard b c) :
    Explained cfg heard a c where
  messages m hm := h'.messages m (h.messages m hm)
  responded d hd hs := by
    refine (h'.responded d hd hs).imp_left ?_
    rintro ⟨q, hq, hid, hs', hresponse⟩
    rcases h.responded q hq hs' with ⟨p, hp, hpid, hps, hpresponse⟩ | ⟨r, hr, -⟩
    · exact ⟨p, hp, hpid.trans hid, hps, hpresponse.trans hresponse⟩
    · cases hr

/-- A statement on deliveries that makes no response. -/
theorem update {cond : Delivery → Bool} {f : Delivery → Delivery} {hf : ∀ d, (f d).id = d.id}
    (hstatus : ∀ d ∈ a.deliveries, cond d = true → (f d).status = .responded →
      d.status = .responded ∧ d.response_message_id = (f d).response_message_id) :
    Explained cfg heard a { a with deliveries := a.deliveries.update cond f hf } where
  messages _ h := h
  responded d hd hs := by
    rw [Table.mem_update] at hd
    obtain ⟨q, hq, rfl⟩ := hd
    split at hs
    · rename_i hcond
      obtain ⟨hs', hresponse⟩ := hstatus q hq hcond hs
      rw [if_pos hcond]
      exact .inl ⟨q, hq, (hf q).symm, hs', hresponse⟩
    · rename_i hcond
      rw [if_neg hcond]
      exact .inl ⟨q, hq, rfl, hs, rfl⟩

end Explained

/-! ## Steps without a receipt -/

theorem stop_status_ne (r : DeliveryReceipt) : stop_status r ≠ .responded := by
  unfold stop_status
  split
  · exact DeliveryStatus.noConfusion
  · split <;> exact DeliveryStatus.noConfusion

/-- A statement of a step that has no delivery at hand makes no response. -/
theorem DeliveryMove.responded (hrow : w.row l = none)
    (hl : ∀ id env seen poll, l ≠ .recover id env seen poll) (h : DeliveryMove cfg w l db d d')
    (hs : d'.status = .responded) :
    d.status = .responded ∧ d.response_message_id = d'.response_message_id := by
  have hnone : ∀ row : DeliveryRow, w.row l ≠ some row := fun row h => by
    rw [hrow] at h
    cases h
  cases h with
  | project_answered r => exact absurd hs (stop_status_ne r)
  | task_answered r => exact absurd hs (stop_status_ne r)
  | worker_answered r => exact absurd hs (stop_status_ne r)
  | bound session => exact ⟨hs, rfl⟩
  | @recorded l _ _ c o r now hcall =>
    refine absurd ?_ (hnone c.row)
    cases l with
    | hand_over => exact congrArg (Option.map Call.row) hcall
    | record => exact congrArg (Option.map Call.row) hcall
    | _ => cases hcall
  | answered _ hrow' => exact absurd hrow' (hnone _)
  | postponed => exact ⟨hs, rfl⟩
  | polled => exact absurd rfl (hl _ _ _ _)
  | _ => cases hs

theorem Write.explained (hrow : w.row l = none)
    (hl : ∀ id env seen poll, l ≠ .recover id env seen poll) (h : Write cfg w l a b) :
    Explained cfg none a b where
  messages m hm := by
    cases h with
    | insert_message m' hT => exact (Table.mem_insert hT).mpr (.inl hm)
    | _ => exact hm
  responded d' hd hs := by
    rcases h.delivery_back hd with ⟨d, hd, hid, rfl | hmove⟩ | ⟨hnew, -, -⟩
    · exact .inl ⟨_, hd, rfl, hs, rfl⟩
    · obtain ⟨hs', hresponse⟩ := hmove.responded hrow hl hs
      exact .inl ⟨d, hd, hid.symm, hs', hresponse⟩
    · cases hnew <;> cases hs

/-- A step that has no delivery at hand. -/
theorem explained_writes (hrow : w.row l = none)
    (hl : ∀ id env seen poll, l ≠ .recover id env seen poll) (h : Writes cfg w l a b) :
    Explained cfg none a b :=
  h.extends .refl (fun _ _ _ h h' => h.after h') fun _ _ => Write.explained hrow hl

/-- A row of a pass, up to its claim. -/
theorem process_row_explained (view : View) :
    Explained cfg none db (process_row view db env row).1 := by
  have hfail : ∀ {cond : Delivery → Bool} {f : Delivery → Delivery} {hf : ∀ d, (f d).id = d.id}
      (error_code : String), (∀ d, (f d).status ≠ .responded) → Explained cfg none db
        (fail_task { db with deliveries := db.deliveries.update cond f hf } env row error_code) :=
    fun error_code hf => .follows (.update fun d _ _ hs => absurd hs (hf d)) (fail_task_follows _)
  unfold process_row
  dsimp only
  split
  · exact hfail _ fun _ => DeliveryStatus.noConfusion
  split
  · exact hfail _ fun _ => DeliveryStatus.noConfusion
  split
  · exact .update fun d _ _ hs => ⟨hs, rfl⟩
  · refine .update fun d _ _ hs => ?_
    cases hs

/-! ## Receipts -/

/-- The row of the delivery gets a new status, and its response is stored: a row that responds names it. -/
theorem store_response_explained {own : Delivery → Bool} {f : Delivery → Delivery}
    {hf : ∀ d, (f d).id = d.id} {status : DeliveryStatus} {r : DeliveryReceipt}
    (h : store_response cfg { db with deliveries := db.deliveries.update own f hf } env row status r =
      .ok db')
    (hown : ∀ q, own q = true → q.id = row.delivery.id) (hstatus : ∀ q, (f q).status = status)
    (hfirst : status = .responded → (response_text r).isSome = true ∧
      row.delivery.response_message_id.getD "" = "")
    (hq : ∃ q ∈ db.deliveries, own q = true) :
    Explained cfg (some (row.delivery.id, r)) db db' := by
  have hsilent : status ≠ .responded → Explained cfg (some (row.delivery.id, r)) db
      { db with deliveries := db.deliveries.update own f hf } :=
    fun hne => .update fun q _ _ hs => absurd ((hstatus q).symm.trans hs) hne
  unfold store_response at h
  split at h
  · rename_i hnone
    cases h
    refine hsilent fun hs => ?_
    have hsome := (hfirst hs).1
    rw [hnone] at hsome
    cases hsome
  · rename_i body hbody
    split at h
    · rename_i hnamed
      cases h
      exact hsilent fun hs => hnamed (hfirst hs).2
    · obtain ⟨T, hT, h⟩ := bind_eq_ok.mp h
      rw [inserted_eq_ok] at hT
      rw [← pure_eq_ok.mp h]
      refine ⟨fun m hm => (Table.mem_insert hT).mpr (.inl hm), fun d' hd hs => ?_⟩
      rw [Table.mem_update] at hd
      obtain ⟨p, hp, rfl⟩ := hd
      rw [Table.mem_update] at hp
      obtain ⟨q, hq', rfl⟩ := hp
      by_cases ho : own q = true
      · -- the row of the delivery names the message that is stored
        have hcond : ((f q).id == row.delivery.id && (f q).status == status) = true := by
          rw [hf, hown q ho, hstatus, beq_self_eq_true, beq_self_eq_true]
          rfl
        rw [if_pos ho, if_pos hcond]
        refine .inr ⟨r, ?_, body, _, hbody, (Table.mem_insert hT).mpr (.inr rfl), rfl, rfl⟩
        show some (row.delivery.id, r) = some ((f q).id, r)
        rw [hf, hown q ho]
      · obtain ⟨q₀, hq₀, ho₀⟩ := hq
        have hid : q.id ≠ row.delivery.id := fun hid => by
          obtain rfl := Table.eq_of_key hq' hq₀ (hid.trans (hown q₀ ho₀).symm)
          exact ho ho₀
        have hcond : ¬ (q.id == row.delivery.id && q.status == status) = true := by
          rw [Bool.and_eq_true, beq_iff_eq]
          exact fun h => hid h.1
        rw [if_neg ho, if_neg hcond] at hs ⊢
        exact .inl ⟨q, hq', rfl, hs, rfl⟩

/-- An outcome of a response has a text, where the row names no response. -/
theorem outcome_text {is_qa : Bool} {status : DeliveryStatus} {r : DeliveryReceipt} {missing : String}
    (hnone : row.delivery.response_message_id.getD "" = "")
    (h : (outcome cfg db row is_qa status r missing).status = .responded) :
    (response_text r).isSome = true := by
  have hstatus := outcome_responded h
  rw [hstatus] at h
  unfold outcome at h
  split at h
  · rename_i hbody
    rw [hbody]
    rfl
  · rw [if_pos hnone] at h
    cases h
  · rename_i hsome hnone
    cases htext : response_text r with
    | none => exact (hnone rfl htext).elim
    | some body => exact (hsome body rfl htext).elim

theorem record_receipt_explained {c : Call} {is_qa : Bool} {r : DeliveryReceipt}
    (hfirst : receipt_status r.status = some .responded →
      c.row.delivery.response_message_id.getD "" = "")
    (h : record_receipt cfg db env c is_qa r = .ok (some db')) :
    Explained cfg (some (c.row.delivery.id, r)) db db' := by
  unfold record_receipt at h
  split at h
  · rename_i howns
    obtain ⟨q, hq, howns⟩ := List.any_eq_true.mp howns
    obtain ⟨written, hwritten, h⟩ := map_eq_ok.mp h
    obtain rfl := Option.some.inj h
    refine .follows ?_ (follow_outcome_follows _ _)
    unfold write_receipt at hwritten
    refine store_response_explained hwritten (fun q ho => ?_) (fun q => rfl) (fun hs => ?_)
      ⟨q, hq, howns⟩
    · rw [owns_claim, Bool.and_eq_true, Bool.and_eq_true, beq_iff_eq] at ho
      exact ho.1.1
    · have hresponded : (call_outcome cfg db c is_qa r).status = .responded := by
        split at hs
        · cases hs
        · exact hs
      have hstatus : receipt_status r.status = some .responded := by
        have hgetD := outcome_responded hresponded
        cases hreceipt : receipt_status r.status with
        | none =>
          rw [hreceipt] at hgetD
          cases hgetD
        | some status =>
          rw [hreceipt] at hgetD
          exact congrArg some hgetD
      exact ⟨outcome_text (hfirst hstatus) hresponded, hfirst hstatus⟩
  · cases h

theorem recover_outcome_explained {is_qa : Bool} {status : DeliveryStatus} {r : DeliveryReceipt}
    (hfirst : status = .responded → row.delivery.response_message_id.getD "" = "")
    (h : recover_outcome cfg db env row is_qa status r = .ok db') :
    Explained cfg (some (row.delivery.id, r)) db db' := by
  unfold recover_outcome at h
  dsimp only at h
  split at h
  · rename_i hreceived
    obtain ⟨q, hq, hreceived⟩ := List.any_eq_true.mp hreceived
    obtain ⟨written, hwritten, rfl⟩ := map_eq_ok.mp h
    refine .follows ?_ (follow_poll_follows _ _)
    unfold write_poll at hwritten
    refine store_response_explained hwritten (fun q ho => ?_) (fun q => rfl) (fun hs => ?_)
      ⟨q, hq, hreceived⟩
    · rw [is_received, Bool.and_eq_true, beq_iff_eq] at ho
      exact ho.1
    · have hnone := hfirst (outcome_responded hs)
      exact ⟨outcome_text hnone hs, hnone⟩
  · cases h
    exact .refl db

theorem recover_expired_explained : Explained cfg heard db (recover_expired cfg db env row) := by
  unfold recover_expired
  dsimp only
  split
  · refine Explained.follows (.update fun q _ _ hs => ?_) (terminal_validation_failure_follows _ _ _)
    cases hs
  · split
    · exact (Explained.refl db).other rfl rfl
    · exact .refl db

theorem resolve_row_explained : Explained cfg none db (resolve_row db row) := by
  refine (Explained.refl db).other ?_ resolve_row_deliveries
  unfold resolve_row
  split <;> rfl

theorem recover_row_explained {view : View} {poll : Poll}
    (hheard : ∀ r, poll = .run r → db.deliveries.rows.any (is_received row.delivery.id) = true →
      heard = some (row.delivery.id, r) ∧ (receipt_status r.status = some .responded →
        row.delivery.response_message_id.getD "" = ""))
    (h : recover_row cfg view db env row poll = .ok db') : Explained cfg heard db db' := by
  have hunbound : ∀ error_code,
      Explained cfg heard db (fail_binding db env row.delivery.id error_code) := by
    intro error_code
    refine .update fun q _ _ hs => ?_
    cases hs
  have hexpired : ∀ db : DB, Explained cfg heard db
      (if row.delivery.deadline_at.any (decide <| · ≤ env.now) then recover_expired cfg db env row
        else db) := by
    intro db
    split
    · exact recover_expired_explained
    · exact .refl db
  -- an outcome is written only if the row is received, and then it is heard
  have houtcome : ∀ (db₁ : DB) (r : DeliveryReceipt) (is_qa : Bool) (status : DeliveryStatus),
      db₁.deliveries = db.deliveries → poll = .run r → receipt_status r.status = some status →
      recover_outcome cfg db₁ env row is_qa status r = .ok db' → Explained cfg heard db₁ db' := by
    intro db₁ r is_qa status hdb hpoll hstatus h
    by_cases hreceived : db.deliveries.rows.any (is_received row.delivery.id) = true
    · obtain ⟨rfl, hfirst⟩ := hheard r hpoll hreceived
      exact recover_outcome_explained (fun hs => hfirst (hs ▸ hstatus)) h
    · unfold recover_outcome at h
      dsimp only at h
      rw [hdb, if_neg hreceived] at h
      cases h
      exact .refl _
  unfold recover_row at h
  dsimp only at h
  split at h
  · cases h
    exact hunbound _
  split at h
  · cases h
    exact hunbound _
  split at h
  · cases h
    split
    · split
      · exact (Explained.refl db).other rfl rfl
      · exact .refl db
    · exact .refl db
  split at h
  · cases h
    exact .refl db
  split at h
  · cases h
    exact resolve_row_explained.after (hexpired _)
  · cases h
    exact hexpired db
  · rename_i hstatus
    exact resolve_row_explained.after (houtcome _ _ _ _ resolve_row_deliveries rfl hstatus h)
  · rename_i hstatus
    exact houtcome db _ _ _ rfl rfl hstatus h

/-! ## Steps -/

/-- The session of a row does not matter. -/
theorem write_session_explained (id : String) (session : String × String) :
    Explained cfg none db (write_session db id session) :=
  .update fun _ _ _ hs => ⟨hs, rfl⟩

theorem write_session_owns {id : String} {session : String × String} {c : Call}
    (h : (write_session db id session).deliveries.rows.any (owns_claim c) = true) :
    db.deliveries.rows.any (owns_claim c) = true := by
  obtain ⟨d, hd, howns⟩ := List.any_eq_true.mp h
  rw [← Table.mem_def, write_session, Table.mem_update] at hd
  obtain ⟨q, hq, rfl⟩ := hd
  refine List.any_eq_true.mpr ⟨q, hq, ?_⟩
  split at howns
  · exact howns
  · exact howns

theorem record_receipt_owns {c : Call} {is_qa : Bool} {r : DeliveryReceipt}
    (h : record_receipt cfg db env c is_qa r = .ok (some db')) :
    db.deliveries.rows.any (owns_claim c) = true := by
  unfold record_receipt at h
  split at h
  · assumption
  · cases h

/-- The end of a call, on tables in which nothing has responded since. -/
theorem finish_explained {c : Call} {is_qa : Bool} {r : DeliveryReceipt} {events : List Event}
    (hdb : Explained cfg none w.db db)
    (hheard : db.deliveries.rows.any (owns_claim c) = true → heard = some (c.row.delivery.id, r) ∧
      (receipt_status r.status = some .responded → c.row.delivery.response_message_id.getD "" = ""))
    (h : w.finish cfg db env c is_qa r events = some w') : Explained cfg heard w.db w'.db := by
  rcases finish_eq_some h with hrecord | heq | heq
  · obtain ⟨rfl, hfirst⟩ := hheard (record_receipt_owns hrecord)
    exact hdb.after (record_receipt_explained hfirst hrecord)
  · rw [heq]
    exact hdb.after (.refl db)
  · rw [heq]
    exact .refl _

theorem step_explained (hfirst : FirstResponse cfg w l) (h : step cfg w l = some w') :
    Explained cfg (w.heard cfg l) w.db w'.db := by
  have hwrites := step_writes h
  cases l with
  | process id env seen =>
    simp only [step, Option.bind_eq_bind, Option.bind_eq_some_iff] at h
    obtain ⟨row, -, _, -, h⟩ := h
    split at h
    · obtain ⟨-, rfl⟩ := World.commit_eq_some.mp h
      exact process_row_explained _
    · obtain ⟨-, rfl⟩ := World.commit_eq_some.mp h
      exact process_row_explained _
  | hand_over token env seen r =>
    simp only [step, Option.bind_eq_bind, Option.bind_eq_some_iff] at h
    obtain ⟨c, hcall, _, -, h⟩ := h
    have hcall : w.call (.hand_over token env seen r) = some c := hcall
    have hrow : w.row (.hand_over token env seen r) = some c.row := congrArg (Option.map Call.row) hcall
    unfold World.hand_over at h
    dsimp only at h
    split at h
    · rename_i error_code hlane
      refine finish_explained (.refl w.db) (fun howns => ⟨?_, fun hs => by cases hs⟩) h
      simp only [World.heard, hcall, Option.bind_eq_bind, Option.bind_some, if_pos howns, hlane]
    · rename_i session error_code hlane
      refine finish_explained (write_session_explained _ session)
        (fun howns => ⟨?_, fun hs => by cases hs⟩) h
      simp only [World.heard, hcall, Option.bind_eq_bind, Option.bind_some,
        if_pos (write_session_owns howns), hlane]
    · rename_i session hlane
      refine finish_explained (write_session_explained _ session) (fun howns => ?_) h
      have hheard : w.heard cfg (.hand_over token env seen r) = some (c.row.delivery.id, r) := by
        simp only [World.heard, hcall, Option.bind_eq_bind, Option.bind_some,
        if_pos (write_session_owns howns), hlane]
      exact ⟨hheard, hfirst c.row hrow _ hheard⟩
    · obtain ⟨-, rfl⟩ := World.commit_eq_some.mp h
      exact .refl w.db
  | record token env r =>
    simp only [step, Option.bind_eq_bind, Option.bind_eq_some_iff] at h
    obtain ⟨c, hcall, _, -, h⟩ := h
    have hcall : w.call (.record token env r) = some c := hcall
    have hrow : w.row (.record token env r) = some c.row := congrArg (Option.map Call.row) hcall
    refine finish_explained (.refl w.db) (fun howns => ?_) h
    have hheard : w.heard cfg (.record token env r) = some (c.row.delivery.id, r) := by
      simp only [World.heard, hcall, Option.bind_eq_bind, Option.bind_some, if_pos howns]
    exact ⟨hheard, hfirst c.row hrow _ hheard⟩
  | recover id env seen poll =>
    simp only [step, Option.bind_eq_bind, Option.bind_eq_some_iff] at h
    obtain ⟨row, hrow, _, -, h⟩ := h
    obtain ⟨-, -, rfl, -⟩ := delivery_row_eq_some hrow
    split at h
    · rename_i hrecover
      obtain ⟨-, rfl⟩ := World.commit_eq_some.mp h
      refine recover_row_explained (fun r hpoll hreceived => ?_) hrecover
      subst hpoll
      have hheard : w.heard cfg (.recover row.delivery.id env seen (.run r)) =
          some (row.delivery.id, r) := by
        simp only [World.heard, if_pos hreceived]
      exact ⟨hheard, hfirst row hrow _ hheard⟩
    · cases h
  | _ => exact explained_writes rfl (fun _ _ _ _ h => by cases h) hwrites

/-- What is heard is for a delivery that was sent, and has no outcome. -/
theorem heard_sent {id : String} {r : DeliveryReceipt} (h : w.heard cfg l = some (id, r)) :
    ∃ q ∈ w.db.deliveries, q.id = id ∧ q.sent = true := by
  have howned : ∀ c : Call, w.db.deliveries.rows.any (owns_claim c) = true →
      ∃ q ∈ w.db.deliveries, q.id = c.row.delivery.id ∧ q.sent = true := by
    intro c howns
    obtain ⟨q, hq, howns⟩ := List.any_eq_true.mp howns
    have hsent := owns_claim_sent howns
    rw [owns_claim, Bool.and_eq_true, Bool.and_eq_true, beq_iff_eq] at howns
    exact ⟨q, hq, howns.1.1, hsent⟩
  unfold World.heard at h
  split at h
  · obtain ⟨c, -, h⟩ := Option.bind_eq_some_iff.mp h
    split at h
    · rename_i howns
      have hid : c.row.delivery.id = id := by
        split at h
        · exact congrArg Prod.fst (Option.some.inj h)
        · exact congrArg Prod.fst (Option.some.inj h)
        · cases h
      exact hid ▸ howned c howns
    · cases h
  · obtain ⟨c, -, h⟩ := Option.bind_eq_some_iff.mp h
    split at h
    · rename_i howns
      have hid : c.row.delivery.id = id := congrArg Prod.fst (Option.some.inj h)
      exact hid ▸ howned c howns
    · cases h
  · split at h
    · rename_i hreceived
      obtain ⟨q, hq, hreceived⟩ := List.any_eq_true.mp hreceived
      obtain ⟨rfl, -⟩ := Prod.mk.inj (Option.some.inj h)
      rw [is_received, Bool.and_eq_true, beq_iff_eq] at hreceived
      refine ⟨q, hq, hreceived.1, ?_⟩
      rw [Delivery.sent, hreceived.2, Bool.or_true]
    · cases h
  · cases h

/-- Each delivery that has responded names what was heard of it last. -/
def LastResponses (cfg : Config) (h : Heard) : Prop :=
  ∀ d ∈ h.world.db.deliveries, d.status = .responded →
    ∃ r, h.last d.id = some r ∧ NamesResponse cfg h.world.db d r

theorem last_responses_step {h h' : Heard} (hlast : LastResponses cfg h)
    (hfirst : FirstResponse cfg h.world l) (hstep : (hearing cfg).step h l = some h') :
    LastResponses cfg h' := by
  obtain ⟨w', hw', rfl⟩ := Option.map_eq_some_iff.mp hstep
  have hexplained := step_explained hfirst hw'
  intro d' hd' hs
  dsimp only at hd' ⊢
  rcases hexplained.responded d' hd' hs with ⟨d, hd, hid, hs, hresponse⟩ | ⟨r, hheard, hnames⟩
  · obtain ⟨r, hr, body, m, hbody, hm, hmid, heq⟩ := hlast d hd hs
    have hother : hear h.last (h.world.heard cfg l) d'.id = h.last d.id := by
      cases hheard : h.world.heard cfg l with
      | none => exact congrArg h.last hid.symm
      | some heard =>
        obtain ⟨q, hq, hqid, hsent⟩ := heard_sent hheard
        have hne : d'.id ≠ heard.1 := by
          intro heq
          obtain rfl := Table.eq_of_key hq hd (hqid.trans (heq.symm.trans hid.symm))
          rw [Delivery.sent, hs] at hsent
          cases hsent
        rw [hear, if_neg hne, hid]
    exact ⟨r, hother.trans hr, body, m, hbody, hexplained.messages m hm, hresponse ▸ hmid, heq⟩
  · refine ⟨r, ?_, hnames⟩
    rw [hheard, hear, if_pos rfl]

/-- In every run in which each receipt of a response comes for a row that names none, each delivery that
has responded names the response that was heard of it last. -/
theorem response_of_last_attempt {h : Heard}
    (hreach : (hearing cfg).ReachableIf (fun h l => FirstResponse cfg h.world l) h) :
    LastResponses cfg h := by
  have hinductive : (hearing cfg).InductiveIf (fun h l => FirstResponse cfg h.world l)
      (LastResponses cfg) := by
    constructor
    · rintro h ⟨⟨hprovisioned, -⟩, -⟩ d hd
      rw [Table.mem_def, hprovisioned.deliveries] at hd
      cases hd
    · exact fun h l h' hlast hfirst hstep => last_responses_step hlast hfirst hstep
  exact hinductive.reachable hreach

namespace Sample

/-- Nothing is heard yet. -/
def unheard : Heard := ⟨world, fun _ => none⟩

/-- The receipt of an attempt that fails, with what it has said. -/
def failure (text : String) : DeliveryReceipt := ⟨"failed", none, some "OPENCLAW_ERROR", none, some text⟩

/-- The first attempt fails with a text, and the second one responds. -/
def answered_twice : List Label :=
  [prepare, execute, claim "d" "c" 2, hand "c" 2 (answer ""), ended "c" 2 (failure "draft"),
    claim "d" "c2" 4, hand "c2" 4 (answer ""), ended "c2" 4 (answer "done")]

/-- The first attempt responds. -/
def answered_once : List Label :=
  [prepare, execute, claim "d" "c" 2, hand "c" 2 (answer ""), ended "c" 2 (answer "done")]

end Sample

open Sample in
/-- The delivery names what the attempt before the last has said. -/
theorem stale_response : (hearing (config false)).Reachable
      ((hearing (config false)).after unheard answered_twice) ∧
    ¬ LastResponses (config false) ((hearing (config false)).after unheard answered_twice) := by
  have hinit : (hearing (config false)).init unheard := ⟨init _, fun _ => rfl⟩
  refine ⟨Machine.reachable_after hinit _, fun h => ?_⟩
  obtain ⟨d, hd, hs, hid⟩ : ∃ d ∈ ((hearing (config false)).after unheard
      answered_twice).world.db.deliveries.rows, d.status = .responded ∧ d.id = "d" := by decide +kernel
  obtain ⟨r, hr, body, m, hbody, hm, -, heq⟩ := h d hd hs
  have hlast : ((hearing (config false)).after unheard answered_twice).last "d" =
      some (answer "done") := by decide +kernel
  rw [hid, hlast] at hr
  obtain rfl := Option.some.inj hr
  have hdone : body = "done" := Option.some.inj (hbody.symm.trans (by decide +kernel))
  have hnone : ∀ m ∈ ((hearing (config false)).after unheard answered_twice).world.db.messages.rows,
      m.body ≠ "done" := by decide +kernel
  exact hnone m hm (heq.trans hdone)

open Sample in
theorem response_of_last_attempt_sample :
    LastResponses (config false) ((hearing (config false)).after unheard answered_once) := by
  have hinit : (hearing (config false)).init unheard := ⟨init _, fun _ => rfl⟩
  exact response_of_last_attempt (Machine.reachableIf_after hinit (by decide +kernel))

end WarRoom

end Plachem
