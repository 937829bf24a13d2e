import Mathlib.Algebra.Order.Field.Rat
import Mathlib.Tactic.Linarith
import Mathlib.Tactic.Positivity
import PlachemMonitor.Spec.Machine

/-!
# Telemetry of the AI server

`collect_ai_server`, called from any number of threads: each call reads the cache, takes the lock, and then
serves what it has read, waits for the refresh that is in flight, or runs one of its own over SSH. The writes
of a refresh are outside the lock, one at a time.

* `Single`: one refresh at a time, and what `last_failure_ts` says once its writes are done.
* `Honest`: what the flag of a returned sample says, by the way it was returned.
* `telemetry_lawful`: both hold in every interleaving.
-/

namespace Plachem

namespace Telemetry

/-! ## Payloads -/

/-- What `time.time()` returns: seconds since the epoch. -/
structure Time where
  seconds : ℚ
  positive : 0 < seconds

/-- `int(now_ts)` -/
def Time.int (t : Time) : Int := t.seconds.floor

/-- `gpus` and `system` of a payload. -/
inductive Metrics (δ : Type) where
  | parsed (data : δ)
  /-- No GPU, every metric `None` and the status `"error"`. -/
  | panel

structure Payload (δ : Type) where
  metrics : Metrics δ
  collected_ts : Int
  error : Option String
  stale : Bool
  stale_reason : Option String

variable {δ : Type}

/-- The payload holds what a refresh has collected. -/
def Payload.Sample (p : Payload δ) : Prop := ∃ data, p.metrics = .parsed data

def AI_SSH_MIN_INTERVAL_SECONDS : ℚ := 10

def GPU_STALE_AFTER_SECONDS : ℚ := 60

/-- `now_ts - float(cached.get("collected_ts", 0))` -/
def age (now : Time) (p : Payload δ) : ℚ := now.seconds - p.collected_ts

def _ai_server_error_payload (error : String) (collected_ts : Int) : Payload δ where
  metrics := .panel
  collected_ts := collected_ts
  error := some (String.ofList (error.toList.take 200))
  stale := false
  stale_reason := none

/-- A copy with `stale` and `error` set. -/
def Payload.failed (p : Payload δ) (error : String) : Payload δ :=
  { p with stale := true, error := some error }

/-- The first branch of `_ai_server_inflight_response`. -/
def Payload.served (p : Payload δ) (now : Time) : Payload δ :=
  if age now p > GPU_STALE_AFTER_SECONDS then
    { p with stale := true, stale_reason := some "cache_age" }
  else p

/-! ## The round trip -/

/-- What `parse_ai_server_output` does. -/
inductive Parsed (δ : Type) where
  | usable (data : δ)
  | unusable
  /-- `int` of a field that is infinite or no number. -/
  | raised

inductive Outcome (δ : Type) where
  | client_missing
  /-- `safe_run` returns `None`. -/
  | no_process
  | process (returncode : Int) (parsed : Parsed δ)

/-- `result` or `error` after the round trip; `none` if it raises. -/
def Outcome.collected : Outcome δ → Option (Except String δ)
  | .client_missing => some (.error "ssh_client_missing")
  | .no_process => some (.error "ssh_timeout")
  | .process returncode parsed =>
    if returncode ≠ 0 then some (.error ("ssh_exit_" ++ toString returncode)) else
      match parsed with
      | .usable data => some (.ok data)
      | .unusable => some (.error "parse_failure")
      | .raised => none

/-! ## The cache -/

/-- `_ai_server_cache`; a missing time is `0`. -/
structure Cache (δ : Type) where
  result : Option (Payload δ)
  last_attempt_ts : ℚ
  last_failure_ts : ℚ
  last_error : Option String
  error_payload : Option (Payload δ)

inductive Write (δ : Type) where
  | result (p : Payload δ)
  | last_failure_ts (t : ℚ)
  | last_error (error : String)
  | error_payload (p : Payload δ)
  | pop_error_payload
  | pop_last_error

def Cache.write (c : Cache δ) : Write δ → Cache δ
  | .result p => { c with result := some p }
  | .last_failure_ts t => { c with last_failure_ts := t }
  | .last_error error => { c with last_error := some error }
  | .error_payload p => { c with error_payload := some p }
  | .pop_error_payload => { c with error_payload := none }
  | .pop_last_error => { c with last_error := none }

/-- `str(cache.get("last_error") or "collect_failed")` -/
def Cache.error (c : Cache δ) : String :=
  match c.last_error with
  | some error => if error = "" then "collect_failed" else error
  | none => "collect_failed"

/-- A failure inside the minimal interval. -/
def Cache.backoff (c : Cache δ) (now : Time) : Bool :=
  decide (c.last_failure_ts ≠ 0) &&
    decide (now.seconds - c.last_failure_ts < AI_SSH_MIN_INTERVAL_SECONDS)

/-! ## Calls -/

/-- How a refresh ended. -/
inductive Ending where
  | stored
  | failed
  /-- With an exception, and nothing written. -/
  | raised
  deriving DecidableEq

structure Ended where
  start : Time
  ending : Ending

/-- What a call finds when it takes the lock: `_ai_server_updating`, and the refreshes that have ended (the newest
first). -/
structure View where
  busy : Bool
  ended : List Ended

/-- Where a call is. -/
inductive Stage (δ : Type) where
  | idle
  /-- The clock is read. -/
  | entered (now : Time)
  /-- `cached` is read, and not inside its TTL. -/
  | looked (now : Time) (cached : Option (Payload δ))
  /-- The lock is released, and the call waits for `_ai_server_done_event`. -/
  | waiting (now : Time) (view : View)
  /-- After the wait, the cache has no sample. -/
  | unsettled (now : Time) (view : View)
  /-- The lock is released, and SSH runs. -/
  | refreshing (now : Time) (cached : Option (Payload δ)) (view : View)
  /-- The writes that are left, and what will be returned (`none`: raised). -/
  | writing (now : Time) (cached : Option (Payload δ)) (view : View) (pending : List (Write δ))
      (payload : Option (Payload δ)) (ending : Ending)
  /-- `_ai_server_updating` is reset. -/
  | released (now : Time) (cached : Option (Payload δ)) (view : View) (payload : Option (Payload δ))
      (ending : Ending)
  | returned

/-- A returned payload, and how the call came to it: what it had read before the lock, what it found there
(`none`: it took no lock), and how its own refresh ended. -/
structure Answer (δ : Type) where
  now : Time
  cached : Option (Payload δ)
  view : Option View
  own : Option Ending
  payload : Payload δ

/-- `ended` and `answers` record the run; no call reads them. -/
structure State (δ : Type) where
  clock : Time
  cache : Cache δ
  _ai_server_updating : Bool
  _ai_server_done_event : Bool
  stage : Nat → Stage δ
  ended : List Ended
  answers : List (Answer δ)

def State.move (s : State δ) (i : Nat) (stage : Stage δ) : State δ :=
  { s with stage := Function.update s.stage i stage }

def State.returns (s : State δ) (i : Nat) (a : Answer δ) : State δ :=
  { s.move i .returned with answers := a :: s.answers }

inductive Label (δ : Type) where
  | enter (i : Nat) (now : Time)
  | look (i : Nat)
  | lock (i : Nat)
  | wake (i : Nat) (timed_out : Bool)
  | give_up (i : Nat)
  | collect (i : Nat) (outcome : Outcome δ)
  | write (i : Nat)
  | release (i : Nat)
  | signal (i : Nat)

/-- The clock does not go back. -/
def enter (s : State δ) (i : Nat) (now : Time) : Option (State δ) :=
  match s.stage i with
  | .idle =>
    if s.clock.seconds ≤ now.seconds then some { s.move i (.entered now) with clock := now } else none
  | _ => none

def look (s : State δ) (i : Nat) : Option (State δ) :=
  match s.stage i with
  | .entered now =>
    match s.cache.result with
    | some cached =>
      if age now cached < AI_SSH_MIN_INTERVAL_SECONDS then
        some (s.returns i ⟨now, some cached, none, none, cached⟩)
      else some (s.move i (.looked now (some cached)))
    | none => some (s.move i (.looked now none))
  | _ => none

/-- What is returned inside the minimal interval after a failure. -/
def backoff_response (c : Cache δ) (now : Time) : Option (Payload δ) → Payload δ
  | some cached => cached.failed c.error
  | none => c.error_payload.getD (_ai_server_error_payload "collect_failed" now.int)

def lock (s : State δ) (i : Nat) : Option (State δ) :=
  match s.stage i with
  | .looked now cached =>
    if s._ai_server_updating then
      match cached with
      | some p => some (s.returns i ⟨now, cached, some ⟨true, s.ended⟩, none, p.served now⟩)
      | none => some (s.move i (.waiting now ⟨true, s.ended⟩))
    else if s.cache.backoff now then
      some (s.returns i ⟨now, cached, some ⟨false, s.ended⟩, none, backoff_response s.cache now cached⟩)
    else
      some { s.move i (.refreshing now cached ⟨false, s.ended⟩) with
        _ai_server_updating := true
        _ai_server_done_event := false
        cache := { s.cache with last_attempt_ts := now.seconds } }
  | _ => none

/-- `cache.get("result")` after the wait. -/
def wake (s : State δ) (i : Nat) (timed_out : Bool) : Option (State δ) :=
  match s.stage i with
  | .waiting now view =>
    if s._ai_server_done_event || timed_out then
      match s.cache.result with
      | some p => some (s.returns i ⟨now, none, some view, none, p⟩)
      | none => some (s.move i (.unsettled now view))
    else none
  | _ => none

/-- `cache.get("error_payload")`, else an error of its own. -/
def give_up (s : State δ) (i : Nat) : Option (State δ) :=
  match s.stage i with
  | .unsettled now view =>
    some (s.returns i ⟨now, none, some view, none,
      s.cache.error_payload.getD (_ai_server_error_payload "collect_in_progress" now.int)⟩)
  | _ => none

/-- What is written after the round trip, in order, and what is returned. -/
def settle (now : Time) (cached : Option (Payload δ)) :
    Option (Except String δ) → List (Write δ) × Option (Payload δ) × Ending
  | some (.ok data) =>
    ([.result ⟨.parsed data, now.int, none, false, none⟩, .last_failure_ts 0, .pop_error_payload,
        .pop_last_error],
      some ⟨.parsed data, now.int, none, false, none⟩, .stored)
  | some (.error error) =>
    match cached with
    | some p => ([.last_error error, .last_failure_ts now.seconds], some (p.failed error), .failed)
    | none =>
      ([.last_error error, .last_failure_ts now.seconds, .error_payload (_ai_server_error_payload error now.int)],
        some (_ai_server_error_payload error now.int), .failed)
  | none => ([], none, .raised)

def collect (s : State δ) (i : Nat) (outcome : Outcome δ) : Option (State δ) :=
  match s.stage i with
  | .refreshing now cached view =>
    match settle now cached outcome.collected with
    | (pending, payload, ending) => some (s.move i (.writing now cached view pending payload ending))
  | _ => none

def write (s : State δ) (i : Nat) : Option (State δ) :=
  match s.stage i with
  | .writing now cached view (w :: pending) payload ending =>
    some { s.move i (.writing now cached view pending payload ending) with cache := s.cache.write w }
  | _ => none

/-- The lock of the `finally` block. -/
def release (s : State δ) (i : Nat) : Option (State δ) :=
  match s.stage i with
  | .writing now cached view [] payload ending =>
    some { s.move i (.released now cached view payload ending) with
      _ai_server_updating := false
      ended := ⟨now, ending⟩ :: s.ended }
  | _ => none

def signal (s : State δ) (i : Nat) : Option (State δ) :=
  match s.stage i with
  | .released now cached view payload ending =>
    match payload with
    | some p => some { s.returns i ⟨now, cached, some view, some ending, p⟩ with _ai_server_done_event := true }
    | none => some { s.move i .returned with _ai_server_done_event := true }
  | _ => none

def step (s : State δ) : Label δ → Option (State δ)
  | .enter i now => enter s i now
  | .look i => look s i
  | .lock i => lock s i
  | .wake i timed_out => wake s i timed_out
  | .give_up i => give_up s i
  | .collect i outcome => collect s i outcome
  | .write i => write s i
  | .release i => release s i
  | .signal i => signal s i

def start (clock : Time) : State δ where
  clock := clock
  cache := ⟨none, 0, 0, none, none⟩
  _ai_server_updating := false
  _ai_server_done_event := false
  stage _ := .idle
  ended := []
  answers := []

/-- The calls of the threads, in any order of their steps. -/
def machine (δ : Type) : Machine (State δ) (Label δ) where
  init s := ∃ clock, s = start clock
  step := step

/-! ## What a step does -/

/-- The steps, one case for each way through the source. -/
inductive Moved (s : State δ) : Label δ → State δ → Prop
  | enter {i : Nat} {now : Time} : s.stage i = .idle → s.clock.seconds ≤ now.seconds →
      Moved s (.enter i now) { s.move i (.entered now) with clock := now }
  | hit {i : Nat} {now : Time} {cached : Payload δ} : s.stage i = .entered now → s.cache.result = some cached →
      age now cached < AI_SSH_MIN_INTERVAL_SECONDS →
      Moved s (.look i) (s.returns i ⟨now, some cached, none, none, cached⟩)
  | miss {i : Nat} {now : Time} : s.stage i = .entered now →
      Moved s (.look i) (s.move i (.looked now s.cache.result))
  | served {i : Nat} {now : Time} {p : Payload δ} : s.stage i = .looked now (some p) →
      s._ai_server_updating = true →
      Moved s (.lock i) (s.returns i ⟨now, some p, some ⟨true, s.ended⟩, none, p.served now⟩)
  | waits {i : Nat} {now : Time} : s.stage i = .looked now none → s._ai_server_updating = true →
      Moved s (.lock i) (s.move i (.waiting now ⟨true, s.ended⟩))
  | backoff {i : Nat} {now : Time} {cached : Option (Payload δ)} : s.stage i = .looked now cached →
      s._ai_server_updating = false → s.cache.backoff now = true →
      Moved s (.lock i)
        (s.returns i ⟨now, cached, some ⟨false, s.ended⟩, none, backoff_response s.cache now cached⟩)
  | claim {i : Nat} {now : Time} {cached : Option (Payload δ)} : s.stage i = .looked now cached →
      s._ai_server_updating = false → s.cache.backoff now = false →
      Moved s (.lock i) { s.move i (.refreshing now cached ⟨false, s.ended⟩) with
        _ai_server_updating := true
        _ai_server_done_event := false
        cache := { s.cache with last_attempt_ts := now.seconds } }
  | woken {i : Nat} {timed_out : Bool} {now : Time} {view : View} {p : Payload δ} :
      s.stage i = .waiting now view → s.cache.result = some p →
      Moved s (.wake i timed_out) (s.returns i ⟨now, none, some view, none, p⟩)
  | unsettled {i : Nat} {timed_out : Bool} {now : Time} {view : View} : s.stage i = .waiting now view →
      Moved s (.wake i timed_out) (s.move i (.unsettled now view))
  | give_up {i : Nat} {now : Time} {view : View} : s.stage i = .unsettled now view →
      Moved s (.give_up i) (s.returns i ⟨now, none, some view, none,
        s.cache.error_payload.getD (_ai_server_error_payload "collect_in_progress" now.int)⟩)
  | collect {i : Nat} {outcome : Outcome δ} {now : Time} {cached : Option (Payload δ)} {view : View} :
      s.stage i = .refreshing now cached view →
      Moved s (.collect i outcome) (s.move i (.writing now cached view
        (settle now cached outcome.collected).1 (settle now cached outcome.collected).2.1
        (settle now cached outcome.collected).2.2))
  | write {i : Nat} {now : Time} {cached : Option (Payload δ)} {view : View} {w : Write δ}
      {pending : List (Write δ)} {payload : Option (Payload δ)} {ending : Ending} :
      s.stage i = .writing now cached view (w :: pending) payload ending →
      Moved s (.write i)
        { s.move i (.writing now cached view pending payload ending) with cache := s.cache.write w }
  | release {i : Nat} {now : Time} {cached : Option (Payload δ)} {view : View} {payload : Option (Payload δ)}
      {ending : Ending} : s.stage i = .writing now cached view [] payload ending →
      Moved s (.release i) { s.move i (.released now cached view payload ending) with
        _ai_server_updating := false
        ended := ⟨now, ending⟩ :: s.ended }
  | answer {i : Nat} {now : Time} {cached : Option (Payload δ)} {view : View} {p : Payload δ}
      {ending : Ending} : s.stage i = .released now cached view (some p) ending →
      Moved s (.signal i)
        { s.returns i ⟨now, cached, some view, some ending, p⟩ with _ai_server_done_event := true }
  | raise {i : Nat} {now : Time} {cached : Option (Payload δ)} {view : View} {ending : Ending} :
      s.stage i = .released now cached view none ending →
      Moved s (.signal i) { s.move i .returned with _ai_server_done_event := true }

theorem moved_of_step {s s' : State δ} {a : Label δ} (h : step s a = some s') : Moved s a s' := by
  cases a with
  | enter i now =>
    simp only [step, Telemetry.enter] at h
    split at h
    · rename_i hstage
      split at h
      · rename_i hclock
        obtain rfl := Option.some.inj h
        exact .enter hstage hclock
      · cases h
    · cases h
  | look i =>
    simp only [step, look] at h
    split at h
    · rename_i now hstage
      split at h
      · rename_i cached hcached
        split at h
        · rename_i hage
          obtain rfl := Option.some.inj h
          exact .hit hstage hcached hage
        · obtain rfl := Option.some.inj h
          rw [← hcached]
          exact .miss hstage
      · rename_i hcached
        obtain rfl := Option.some.inj h
        rw [← hcached]
        exact .miss hstage
    · cases h
  | lock i =>
    simp only [step, lock] at h
    split at h
    · rename_i now cached hstage
      split at h
      · rename_i hbusy
        split at h
        · obtain rfl := Option.some.inj h
          exact .served hstage hbusy
        · obtain rfl := Option.some.inj h
          exact .waits hstage hbusy
      · rename_i hfree
        have hfree := Bool.eq_false_iff.mpr hfree
        split at h
        · rename_i hback
          obtain rfl := Option.some.inj h
          exact .backoff hstage hfree hback
        · rename_i hback
          obtain rfl := Option.some.inj h
          exact .claim hstage hfree (Bool.eq_false_iff.mpr hback)
    · cases h
  | wake i timed_out =>
    simp only [step, wake] at h
    split at h
    · rename_i now view hstage
      split at h
      · split at h
        · rename_i p hresult
          obtain rfl := Option.some.inj h
          exact .woken hstage hresult
        · obtain rfl := Option.some.inj h
          exact .unsettled hstage
      · cases h
    · cases h
  | give_up i =>
    simp only [step, give_up] at h
    split at h
    · rename_i hstage
      obtain rfl := Option.some.inj h
      exact .give_up hstage
    · cases h
  | collect i outcome =>
    simp only [step, collect] at h
    split at h
    · rename_i hstage
      obtain rfl := Option.some.inj h
      exact .collect hstage
    · cases h
  | write i =>
    simp only [step, write] at h
    split at h
    · rename_i hstage
      obtain rfl := Option.some.inj h
      exact .write hstage
    · cases h
  | release i =>
    simp only [step, release] at h
    split at h
    · rename_i hstage
      obtain rfl := Option.some.inj h
      exact .release hstage
    · cases h
  | signal i =>
    simp only [step, signal] at h
    split at h
    · rename_i hstage
      split at h
      · obtain rfl := Option.some.inj h
        exact .answer hstage
      · obtain rfl := Option.some.inj h
        exact .raise hstage
    · cases h

/-! ## One refresh at a time -/

/-- A refresh is in flight. -/
def Stage.active : Stage δ → Bool
  | .refreshing .. | .writing .. => true
  | _ => false

/-- The latest refresh that ended with a sample or with an error. -/
def latest (ended : List Ended) : Option Ended := ended.find? fun e => e.ending ≠ .raised

/-- When the latest refresh started, if it failed. -/
def last_failure (ended : List Ended) : ℚ :=
  match latest ended with
  | some e => if e.ending = .failed then e.start.seconds else 0
  | none => 0

/-- What `last_failure_ts` will be, once the writes of a refresh are done. -/
def Stage.Tracks (ended : List Ended) (cache : Cache δ) : Stage δ → Prop
  | .refreshing .. => cache.last_failure_ts = last_failure ended
  | .writing now _ _ pending _ ending =>
    (pending.foldl Cache.write cache).last_failure_ts = last_failure (⟨now, ending⟩ :: ended)
  | _ => True

structure Single (s : State δ) : Prop where
  free : s._ai_server_updating = false →
    (∀ i, (s.stage i).active = false) ∧ s.cache.last_failure_ts = last_failure s.ended
  sole : ∀ i j, (s.stage i).active = true → (s.stage j).active = true → i = j
  tracks : ∀ i, (s.stage i).Tracks s.ended s.cache

theorem Stage.tracks_of_passive {st : Stage δ} (h : st.active = false) (ended : List Ended) (cache : Cache δ) :
    st.Tracks ended cache := by
  cases st with
  | refreshing | writing => cases h
  | _ => trivial

@[simp] theorem State.move_stage (s : State δ) (i : Nat) (st : Stage δ) :
    (s.move i st).stage = Function.update s.stage i st := rfl

@[simp] theorem State.returns_stage (s : State δ) (i : Nat) (a : Answer δ) :
    (s.returns i a).stage = Function.update s.stage i .returned := rfl

/-- A step of a call that runs no refresh, and starts none. -/
theorem Single.passive {s s' : State δ} (h : Single s) {i : Nat} {st : Stage δ} (hst : st.active = false)
    (hstage : s'.stage = Function.update s.stage i st) (hbusy : s'._ai_server_updating = s._ai_server_updating)
    (hcache : s'.cache = s.cache) (hended : s'.ended = s.ended) : Single s' := by
  have hactive : ∀ j, (s'.stage j).active = true → (s.stage j).active = true := by
    intro j hj
    by_cases hji : j = i
    · rw [hstage, hji, Function.update_self, hst] at hj
      cases hj
    · rwa [hstage, Function.update_of_ne hji] at hj
  refine ⟨fun hfree => ?_, fun j k hj hk => h.sole j k (hactive j hj) (hactive k hk), fun j => ?_⟩
  · obtain ⟨hidle, hfailure⟩ := h.free (hbusy ▸ hfree)
    refine ⟨fun j => ?_, by rw [hcache, hended, hfailure]⟩
    cases hj : (s'.stage j).active with
    | false => rfl
    | true => rw [← hactive j hj, hidle j]
  · rw [hcache, hended]
    by_cases hji : j = i
    · rw [hstage, hji, Function.update_self]
      exact Stage.tracks_of_passive hst _ _
    · rw [hstage, Function.update_of_ne hji]
      exact h.tracks j

/-- The refresh of a call takes a step, or starts. -/
theorem Single.active {s s' : State δ} {i : Nat} {st : Stage δ}
    (hother : ∀ j, j ≠ i → (s.stage j).active = false) (hbusy : s'._ai_server_updating = true)
    (hstage : s'.stage = Function.update s.stage i st) (htracks : st.Tracks s'.ended s'.cache) :
    Single s' := by
  have hone : ∀ j, (s'.stage j).active = true → j = i := by
    intro j hj
    by_contra hji
    rw [hstage, Function.update_of_ne hji, hother j hji] at hj
    cases hj
  refine ⟨fun hfree => ?_, fun j k hj hk => (hone j hj).trans (hone k hk).symm, fun j => ?_⟩
  · rw [hbusy] at hfree
    cases hfree
  · by_cases hji : j = i
    · rw [hstage, hji, Function.update_self]
      exact htracks
    · rw [hstage, Function.update_of_ne hji]
      exact Stage.tracks_of_passive (hother j hji) _ _

theorem Single.others {s : State δ} (h : Single s) {i : Nat} (hi : (s.stage i).active = true) :
    s._ai_server_updating = true ∧ ∀ j, j ≠ i → (s.stage j).active = false := by
  constructor
  · cases hbusy : s._ai_server_updating with
    | true => rfl
    | false => rw [(h.free hbusy).1 i] at hi; cases hi
  · intro j hji
    cases hj : (s.stage j).active with
    | false => rfl
    | true => exact absurd (h.sole j i hj hi) hji

theorem last_failure_raised (now : Time) (ended : List Ended) :
    last_failure (⟨now, .raised⟩ :: ended) = last_failure ended := rfl

/-- The writes of a refresh leave the mark of how it ended. -/
theorem settle_tracks (now : Time) (cached : Option (Payload δ)) (o : Option (Except String δ))
    (ended : List Ended) {c : Cache δ} (h : c.last_failure_ts = last_failure ended) :
    ((settle now cached o).1.foldl Cache.write c).last_failure_ts =
      last_failure (⟨now, (settle now cached o).2.2⟩ :: ended) := by
  cases o with
  | none => exact h
  | some r =>
    cases r with
    | ok data => rfl
    | error e => cases cached <;> rfl

theorem single_start (clock : Time) : Single (start clock : State δ) where
  free _ := ⟨fun _ => rfl, rfl⟩
  sole _ _ hi := by cases hi
  tracks _ := trivial

theorem Single.step {s s' : State δ} {a : Label δ} (h : Single s) (hs : Telemetry.step s a = some s') :
    Single s' := by
  cases moved_of_step hs with
  | enter | miss | waits | unsettled => exact h.passive rfl rfl rfl rfl rfl
  | hit | served | backoff | woken | give_up | answer | raise => exact h.passive rfl rfl rfl rfl rfl
  | claim _ hfree _ =>
    obtain ⟨hidle, hfailure⟩ := h.free hfree
    exact Single.active (fun j _ => hidle j) rfl rfl hfailure
  | @collect i outcome now cached view hstage =>
    have hi : (s.stage i).active = true := by rw [hstage]; rfl
    have htracks := h.tracks i
    rw [hstage] at htracks
    exact Single.active (h.others hi).2 (h.others hi).1 rfl (settle_tracks now cached _ _ htracks)
  | @write i now cached view w pending payload ending hstage =>
    have hi : (s.stage i).active = true := by rw [hstage]; rfl
    have htracks := h.tracks i
    rw [hstage] at htracks
    exact Single.active (h.others hi).2 (h.others hi).1 rfl htracks
  | @release i now cached view payload ending hstage =>
    have hi : (s.stage i).active = true := by rw [hstage]; rfl
    have htracks := h.tracks i
    rw [hstage] at htracks
    have hidle : ∀ j, (Function.update s.stage i (.released now cached view payload ending) j).active = false := by
      intro j
      by_cases hji : j = i
      · rw [hji, Function.update_self]
        rfl
      · rw [Function.update_of_ne hji]
        exact (h.others hi).2 j hji
    refine ⟨fun _ => ⟨hidle, htracks⟩, fun j k hj _ => ?_, fun j => Stage.tracks_of_passive (hidle j) _ _⟩
    rw [State.move_stage, hidle j] at hj
    cases hj

/-- Past the minimal interval, or after no failure. -/
theorem spaced_of_claim {s s' : State δ} (h : Single s) {i : Nat} {now : Time} {cached : Option (Payload δ)}
    {view : View} (hs : Telemetry.step s (.lock i) = some s') (hi : s'.stage i = .refreshing now cached view)
    {e : Ended} (he : latest s.ended = some e) (hfailed : e.ending = .failed) :
    e.start.seconds + AI_SSH_MIN_INTERVAL_SECONDS ≤ now.seconds := by
  cases moved_of_step hs with
  | served | waits | backoff =>
    simp only [State.move_stage, State.returns_stage, Function.update_self] at hi
    cases hi
  | claim hstage hfree hback =>
    simp only [State.move_stage, Function.update_self] at hi
    cases hi
    have hfailure := (h.free hfree).2
    rw [last_failure, he] at hfailure
    simp only [hfailed, if_true] at hfailure
    have hpos := e.start.positive
    simp only [Cache.backoff, hfailure, Bool.and_eq_false_iff, decide_eq_false_iff_not, not_lt] at hback
    rcases hback with hzero | hlate
    · exact absurd hpos.ne' hzero
    · linarith

/-! ## What the flag says -/

/-- A sample as it was collected. -/
structure Payload.Fresh (p : Payload δ) : Prop where
  sample : p.Sample
  stale : p.stale = false

/-- How the latest refresh ended: the own one, if the call ran one, else as the call found it. -/
def Answer.latest (a : Answer δ) : Option Ending :=
  match a.own with
  | some ending => some ending
  | none => a.view.bind fun v => (Telemetry.latest v.ended).map Ended.ending

/-- What the flag of a returned sample says. -/
structure Honest (a : Answer δ) : Prop where
  /-- Without the lock: inside the TTL, and as it was collected. -/
  direct : a.view = none → a.payload.stale = false ∧ age a.now a.payload < AI_SSH_MIN_INTERVAL_SECONDS
  /-- No refresh was in flight: flagged, if it is not what the own refresh has collected. -/
  settled : ∀ v, a.view = some v → v.busy = false → (a.payload.stale = true ↔ a.own ≠ some .stored)
  collected : a.own = some .stored → a.payload.collected_ts = a.now.int
  /-- A refresh was in flight, and a sample was read before: flagged by its age. -/
  served : ∀ v p, a.view = some v → v.busy = true → a.cached = some p →
    (a.payload.stale = true ↔ GPU_STALE_AFTER_SECONDS < age a.now a.payload)
  /-- Flagged before its time: for a failure. -/
  blamed : a.payload.stale = true → age a.now a.payload ≤ GPU_STALE_AFTER_SECONDS → a.latest = some .failed

/-- What a refresh returns, if it is a sample. -/
structure Own (now : Time) (payload : Payload δ) (ending : Ending) : Prop where
  flag : payload.stale = true ↔ ending ≠ .stored
  collected : ending = .stored → payload.collected_ts = now.int
  blamed : payload.stale = true → ending = .failed

def Write.Sound : Write δ → Prop
  | .result p => p.Fresh
  | .error_payload p => ¬ p.Sample
  | _ => True

def Cache.Sound (c : Cache δ) : Prop :=
  (∀ p, c.result = some p → p.Fresh) ∧ ∀ p, c.error_payload = some p → ¬ p.Sample

def Stage.Sound : Stage δ → Prop
  | .looked _ cached => ∀ p, cached = some p → p.Fresh
  | .waiting _ view | .unsettled _ view => view.busy = true
  | .refreshing _ cached view => view.busy = false ∧ ∀ p, cached = some p → p.Fresh
  | .writing now _ view pending payload ending =>
    view.busy = false ∧ (∀ w ∈ pending, w.Sound) ∧ ∀ p, payload = some p → p.Sample → Own now p ending
  | .released now _ view payload ending =>
    view.busy = false ∧ ∀ p, payload = some p → p.Sample → Own now p ending
  | _ => True

structure Sound (s : State δ) : Prop where
  cache : s.cache.Sound
  stage : ∀ i, (s.stage i).Sound
  answers : ∀ a ∈ s.answers, a.payload.Sample → Honest a

theorem error_payload_panel (error : String) (t : Int) :
    ¬ (_ai_server_error_payload error t : Payload δ).Sample := by
  rintro ⟨data, h⟩
  cases h

theorem Cache.Sound.write {c : Cache δ} (h : c.Sound) {w : Write δ} (hw : w.Sound) : (c.write w).Sound := by
  obtain ⟨hresult, herror⟩ := h
  cases w with
  | result p =>
    refine ⟨fun q hq => ?_, herror⟩
    obtain rfl := Option.some.inj hq
    exact hw
  | error_payload p =>
    refine ⟨hresult, fun q hq => ?_⟩
    obtain rfl := Option.some.inj hq
    exact hw
  | pop_error_payload => exact ⟨hresult, fun q hq => by cases hq⟩
  | last_failure_ts | last_error | pop_last_error => exact ⟨hresult, herror⟩

/-- A step of the call `i`, which leaves the answers alone. -/
theorem Sound.moved {s s' : State δ} (h : Sound s) {i : Nat} (st : Stage δ) (hst : st.Sound)
    (hstage : s'.stage = Function.update s.stage i st) (hcache : s'.cache.Sound)
    (hanswers : s'.answers = s.answers) : Sound s' := by
  refine ⟨hcache, fun j => ?_, hanswers ▸ h.answers⟩
  rw [hstage]
  by_cases hji : j = i
  · rw [hji, Function.update_self]
    exact hst
  · rw [Function.update_of_ne hji]
    exact h.stage j

/-- The call `i` returns. -/
theorem Sound.returned {s s' : State δ} (h : Sound s) {i : Nat} {a : Answer δ} (ha : a.payload.Sample → Honest a)
    (hstage : s'.stage = Function.update s.stage i .returned) (hcache : s'.cache = s.cache)
    (hanswers : s'.answers = a :: s.answers) : Sound s' := by
  refine ⟨hcache ▸ h.cache, fun j => ?_, fun b hb => ?_⟩
  · rw [hstage]
    by_cases hji : j = i
    · rw [hji, Function.update_self]
      trivial
    · rw [Function.update_of_ne hji]
      exact h.stage j
  · rw [hanswers] at hb
    rcases List.mem_cons.mp hb with rfl | hb
    · exact ha
    · exact h.answers b hb

theorem honest_hit {now : Time} {p : Payload δ} (hp : p.Fresh) (hage : age now p < AI_SSH_MIN_INTERVAL_SECONDS) :
    Honest ⟨now, some p, none, none, p⟩ where
  direct _ := ⟨hp.stale, hage⟩
  settled v hv := by cases hv
  collected h := by cases h
  served v q hv := by cases hv
  blamed h := by rw [hp.stale] at h; cases h

theorem honest_served {now : Time} {p : Payload δ} (hp : p.Fresh) (ended : List Ended) :
    Honest ⟨now, some p, some ⟨true, ended⟩, none, p.served now⟩ := by
  have hflag : (p.served now).stale = true ↔ GPU_STALE_AFTER_SECONDS < age now (p.served now) := by
    unfold Payload.served
    split
    · rename_i hage
      exact ⟨fun _ => hage, fun _ => rfl⟩
    · rename_i hage
      rw [hp.stale]
      exact ⟨fun h => (by cases h), fun h => absurd h hage⟩
  refine ⟨fun h => (by cases h), fun v hv hbusy => ?_, fun h => (by cases h), fun v q hv hbusy hq => hflag,
    fun h hage => ?_⟩
  · cases hv
    cases hbusy
  · exact absurd (hflag.mp h) (not_lt.mpr hage)

theorem honest_backoff {c : Cache δ} (hc : c.Sound) {now : Time} {cached : Option (Payload δ)} {ended : List Ended}
    (hback : c.backoff now = true) (hfailure : c.last_failure_ts = last_failure ended)
    (hsample : (backoff_response c now cached).Sample) :
    Honest ⟨now, cached, some ⟨false, ended⟩, none, backoff_response c now cached⟩ := by
  cases cached with
  | none =>
    unfold backoff_response at hsample
    cases herror : c.error_payload with
    | none =>
      rw [herror] at hsample
      exact absurd hsample (error_payload_panel _ _)
    | some p =>
      rw [herror] at hsample
      exact absurd hsample (hc.2 p herror)
  | some p =>
    -- the mark is set, so the latest refresh failed
    have hlatest : (latest ended).map Ended.ending = some .failed := by
      rw [Cache.backoff, hfailure, last_failure, Bool.and_eq_true, decide_eq_true_iff] at hback
      cases hl : latest ended with
      | none => simp [hl] at hback
      | some e =>
        by_cases he : e.ending = .failed
        · simp [he]
        · simp [hl, he] at hback
    exact {
      direct := fun h => by cases h
      settled := fun v hv hbusy => ⟨fun _ h => (by cases h), fun _ => rfl⟩
      collected := fun h => by cases h
      served := fun v q hv hbusy => by cases hv; cases hbusy
      blamed := fun _ _ => hlatest }

theorem honest_own {now : Time} {cached : Option (Payload δ)} {view : View} {p : Payload δ} {ending : Ending}
    (hbusy : view.busy = false) (h : Own now p ending) : Honest ⟨now, cached, some view, some ending, p⟩ where
  direct hv := by cases hv
  settled v hv _ := h.flag.trans (by simp)
  collected hown := h.collected (Option.some.inj hown)
  served v q hv hb := by
    cases hv
    rw [hbusy] at hb
    cases hb
  blamed hstale _ := congrArg some (h.blamed hstale)

theorem honest_waited {now : Time} {view : View} {p : Payload δ} (hbusy : view.busy = true) (hp : p.Fresh) :
    Honest ⟨now, none, some view, none, p⟩ where
  direct hv := by cases hv
  settled v hv hfree := by
    cases hv
    rw [hbusy] at hfree
    cases hfree
  collected h := by cases h
  served v q hv _ hq := by cases hq
  blamed h := by rw [hp.stale] at h; cases h

theorem settle_sound (now : Time) {cached : Option (Payload δ)} (hcached : ∀ p, cached = some p → p.Fresh)
    (o : Option (Except String δ)) :
    (∀ w ∈ (settle now cached o).1, w.Sound) ∧
      ∀ p, (settle now cached o).2.1 = some p → p.Sample → Own now p (settle now cached o).2.2 := by
  cases o with
  | none => exact ⟨fun w hw => (by cases hw), fun p hp => (by cases hp)⟩
  | some r =>
    cases r with
    | ok data =>
      refine ⟨fun w hw => ?_, fun p hp _ => ?_⟩
      · simp only [settle, List.mem_cons, List.not_mem_nil, or_false] at hw
        rcases hw with rfl | rfl | rfl | rfl
        · exact ⟨⟨data, rfl⟩, rfl⟩
        all_goals trivial
      · obtain rfl := Option.some.inj hp
        exact ⟨by simp [settle], fun _ => rfl, fun h => (by cases h)⟩
    | error e =>
      cases cached with
      | some q =>
        refine ⟨fun w hw => ?_, fun p hp _ => ?_⟩
        · simp only [settle, List.mem_cons, List.not_mem_nil, or_false] at hw
          rcases hw with rfl | rfl <;> trivial
        · obtain rfl := Option.some.inj hp
          exact ⟨by simp [settle, Payload.failed], fun h => (by cases h), fun _ => rfl⟩
      | none =>
        refine ⟨fun w hw => ?_, fun p hp hsample => ?_⟩
        · simp only [settle, List.mem_cons, List.not_mem_nil, or_false] at hw
          rcases hw with rfl | rfl | rfl
          · trivial
          · trivial
          · exact error_payload_panel _ _
        · obtain rfl := Option.some.inj hp
          exact absurd hsample (error_payload_panel _ _)

theorem sound_start (clock : Time) : Sound (start clock : State δ) where
  cache := ⟨fun p hp => (by cases hp), fun p hp => (by cases hp)⟩
  stage _ := trivial
  answers a ha := by cases ha

theorem Sound.step {s s' : State δ} {a : Label δ} (hsingle : Single s) (h : Sound s)
    (hs : Telemetry.step s a = some s') : Sound s' := by
  cases moved_of_step hs with
  | @enter i now => exact h.moved (.entered now) trivial rfl h.cache rfl
  | hit hstage hcached hage => exact h.returned (fun _ => honest_hit (h.cache.1 _ hcached) hage) rfl rfl rfl
  | miss => exact h.moved (.looked _ _) h.cache.1 rfl h.cache rfl
  | @served i now p hstage hbusy =>
    have hst := h.stage i
    rw [hstage] at hst
    exact h.returned (fun _ => honest_served (hst p rfl) _) rfl rfl rfl
  | @waits i now => exact h.moved (.waiting now ⟨true, s.ended⟩) rfl rfl h.cache rfl
  | backoff hstage hfree hback =>
    exact h.returned (fun hsample => honest_backoff h.cache hback (hsingle.free hfree).2 hsample) rfl rfl rfl
  | @claim i now cached hstage =>
    have hst := h.stage i
    rw [hstage] at hst
    exact h.moved (.refreshing now cached ⟨false, s.ended⟩) ⟨rfl, hst⟩ rfl h.cache rfl
  | @woken i timed_out now view p hstage hresult =>
    have hst := h.stage i
    rw [hstage] at hst
    exact h.returned (fun _ => honest_waited hst (h.cache.1 p hresult)) rfl rfl rfl
  | @unsettled i timed_out now view hstage =>
    have hst := h.stage i
    rw [hstage] at hst
    exact h.moved (.unsettled now view) hst rfl h.cache rfl
  | @give_up i now view hstage =>
    refine h.returned (fun hsample => ?_) rfl rfl rfl
    cases herror : s.cache.error_payload with
    | none =>
      rw [herror] at hsample
      exact absurd hsample (error_payload_panel _ _)
    | some p =>
      rw [herror] at hsample
      exact absurd hsample (h.cache.2 p herror)
  | @collect i outcome now cached view hstage =>
    have hst := h.stage i
    rw [hstage] at hst
    have hst' : (Stage.writing now cached view (settle now cached outcome.collected).1
        (settle now cached outcome.collected).2.1 (settle now cached outcome.collected).2.2).Sound :=
      ⟨hst.1, settle_sound now hst.2 outcome.collected⟩
    exact h.moved _ hst' rfl h.cache rfl
  | @write i now cached view w pending payload ending hstage =>
    have hst := h.stage i
    rw [hstage] at hst
    obtain ⟨hview, hpending, howned⟩ := hst
    have hst' : (Stage.writing now cached view pending payload ending).Sound :=
      ⟨hview, fun w' hw' => hpending w' (List.mem_cons_of_mem _ hw'), howned⟩
    exact h.moved _ hst' rfl (h.cache.write (hpending w List.mem_cons_self)) rfl
  | @release i now cached view payload ending hstage =>
    have hst := h.stage i
    rw [hstage] at hst
    exact h.moved (.released now cached view payload ending) ⟨hst.1, hst.2.2⟩ rfl h.cache rfl
  | @answer i now cached view p ending hstage =>
    have hst := h.stage i
    rw [hstage] at hst
    exact h.returned (fun hsample => honest_own hst.1 (hst.2 p rfl hsample)) rfl rfl rfl
  | raise => exact h.moved .returned trivial rfl h.cache rfl

theorem invariant : (machine δ).InductiveIf (fun _ _ => True) fun s => Single s ∧ Sound s where
  init s hs := by
    obtain ⟨clock, rfl⟩ := hs
    exact ⟨single_start clock, sound_start clock⟩
  step s a s' h _ hs := ⟨h.1.step hs, h.2.step h.1 hs⟩

/-! ## Every interleaving -/

/-- At most one refresh is in flight; one that starts is past the minimal interval after the latest failed one;
what the flags of the returned samples say. -/
structure Lawful (s : State δ) : Prop where
  sole : ∀ i j, (s.stage i).active = true → (s.stage j).active = true → i = j
  spaced : ∀ i s' now cached view, step s (.lock i) = some s' → s'.stage i = .refreshing now cached view →
    ∀ e, latest s.ended = some e → e.ending = .failed →
      e.start.seconds + AI_SSH_MIN_INTERVAL_SECONDS ≤ now.seconds
  honest : ∀ a ∈ s.answers, a.payload.Sample → Honest a

theorem telemetry_lawful {s : State δ} (h : (machine δ).Reachable s) : Lawful s := by
  obtain ⟨hsingle, hsound⟩ := invariant.reachable h
  exact ⟨hsingle.sole, fun i s' now cached view hs hi e he hfailed => spaced_of_claim hsingle hs hi he hfailed,
    hsound.answers⟩

namespace Sample

def time (n : ℕ) : Time := ⟨1000 + n, by positivity⟩

/-- A refresh of the call `i` at the given time, with its writes. -/
def refresh (i : Nat) (now : Time) (outcome : Outcome Unit) (writes : Nat) : List (Label Unit) :=
  [.enter i now, .look i, .lock i, .collect i outcome] ++ List.replicate writes (.write i) ++
    [.release i, .signal i]

/-- One refresh succeeds, the next fails; the third is in flight when the last call comes. -/
def labels : List (Label Unit) :=
  refresh 0 (time 0) (.process 0 (.usable ())) 4 ++ refresh 1 (time 11) .no_process 2 ++
    [.enter 2 (time 22), .look 2, .lock 2, .enter 3 (time 23), .look 3, .lock 3]

def served : State Unit := (machine Unit).after (start (time 0)) labels

theorem served_reachable : (machine Unit).Reachable served :=
  have hinit : (machine Unit).init (start (time 0)) := ⟨time 0, rfl⟩
  Machine.reachable_after hinit labels

/-- The call found the latest refresh failed, ran none, and returns a sample without a flag. -/
def silent (a : Answer Unit) : Bool :=
  match a.payload.metrics, a.view, a.own with
  | .parsed _, some v, none => !a.payload.stale && v.ended.head?.any fun e => e.ending = .failed
  | _, _, _ => false

theorem of_silent {a : Answer Unit} (h : silent a = true) :
    a.payload.Sample ∧ a.own = none ∧ a.payload.stale = false ∧
      ∃ v e, a.view = some v ∧ v.ended.head? = some e ∧ e.ending = .failed := by
  unfold silent at h
  split at h
  · rename_i data v hmetrics hview hown
    rw [Bool.and_eq_true, Bool.not_eq_true', Option.any_eq_true] at h
    obtain ⟨hstale, e, he, hfailed⟩ := h
    exact ⟨⟨data, hmetrics⟩, hown, hstale, v, e, hview, he, of_decide_eq_true hfailed⟩
  · cases h

end Sample

theorem telemetry_lawful_sample : Lawful Sample.served :=
  telemetry_lawful Sample.served_reachable

/-- Served unflagged to a call that finds a refresh in flight after one that failed. -/
theorem served_unflagged_after_failure :
    ∃ s : State Unit, (machine Unit).Reachable s ∧ ∃ a ∈ s.answers, a.payload.Sample ∧ a.own = none ∧
      a.payload.stale = false ∧ ∃ v e, a.view = some v ∧ v.ended.head? = some e ∧ e.ending = .failed := by
  have hany : Sample.served.answers.any Sample.silent = true := by decide +kernel
  obtain ⟨a, ha, hsilent⟩ := List.any_eq_true.mp hany
  exact ⟨Sample.served, Sample.served_reachable, a, ha, Sample.of_silent hsilent⟩

end Telemetry

end Plachem
