import PlachemMonitor.Engine.Suffixes

/-!
# Duplicate reports

A repeated block of a scope is known by the hash of the last characters of the text, as many as it is
long. A chunk that ends elsewhere in the block ends with another rotation of it, which is reported as
well (`rotated_twice`). So what is reported once in `cooldown_seconds` are the loops of a run in which
the chunks end with the same block (`reported_once`), as those do that end at the same position of it
(`same_block`).
-/

namespace Plachem

namespace LoopDetector

variable {τ : Type}

/-- The block that the tail ends with copies enough of: the shortest one. -/
def RepeatedBlock (unicode : Unicode) (config : LoopDetectorConfig τ) (tail block : List Char) : Prop :=
  ∃ size, IsLeast { s | Repeats config (normalize unicode (normalize unicode tail)) s } size ∧
    block = (normalize unicode tail).rtake size

/-- A call reads the clock. -/
def Call.time? : Call τ → Option τ
  | .observe _ _ now => some now
  | .clear _ => none

section Runs

variable [Sub τ] [LT τ] [DecidableLT τ]
variable (unicode : Unicode) (sha256 : String → String) (config : LoopDetectorConfig τ)

/-- The detector after the calls. -/
def after (calls : List (Call τ)) : Detector τ :=
  (answering (Call.run unicode sha256 config) Detector.init calls).2

/-- What is answered to the call after the others. -/
def answer (calls : List (Call τ)) (call : Call τ) : Option LoopEvent :=
  (call.run unicode sha256 config (after unicode sha256 config calls)).1

/-- The end of what was said in the scope, as the detector keeps it. -/
def tail_said (scope : RunScope) (calls : List (Call τ)) : List Char :=
  (said scope [] calls).rtake config.tail_chars

/-- Two of the calls, on the scope and less than `cooldown_seconds` apart, with the calls before the first
and between them. -/
def Near (scope : RunScope) (calls before between : List (Call τ)) (call call' : Call τ) : Prop :=
  (∃ after, calls = before ++ call :: between ++ call' :: after) ∧
    ∃ output output' now now', call = .observe scope output now ∧
      call' = .observe scope output' now' ∧ now' - now < config.cooldown_seconds

/-- In any window shorter than `cooldown_seconds` at most one event of the scope is returned. -/
def ReportedOnce (scope : RunScope) (calls : List (Call τ)) : Prop :=
  ∀ before between call call', Near config scope calls before between call call' →
    answer unicode sha256 config before call = none ∨
      answer unicode sha256 config (before ++ call :: between) call' = none

/-- In any such window the calls that end with a repeated block, no exception, end with the same one. -/
def SameBlocks (scope : RunScope) (calls : List (Call τ)) : Prop :=
  ∀ before between call call', Near config scope calls before between call call' →
    ∀ block block', excepted unicode config block = false → excepted unicode config block' = false →
      RepeatedBlock unicode config (tail_said config scope (before ++ [call])) block →
      RepeatedBlock unicode config
        (tail_said config scope (before ++ call :: between ++ [call'])) block' →
      block = block'

end Runs

/-! ## What is reported -/

section Reports

variable [Sub τ] [LT τ] [DecidableLT τ] {unicode : Unicode} {sha256 : String → String}
  {config : LoopDetectorConfig τ} {detector : Detector τ} {scope : RunScope} {now : τ}

/-- A report is of a block that was not reported within the cooldown, and remembers it. -/
theorem report_some {tail : List Char}
    (h : (report unicode sha256 config detector scope tail now).1 ≠ none) :
    ∃ block, RepeatedBlock unicode config tail block ∧ excepted unicode config block = false ∧
      (∀ last ∈ detector.last_event scope (sha256 (String.ofList block)),
        ¬ now - last < config.cooldown_seconds) ∧
      (report unicode sha256 config detector scope tail now).2 =
        detector.set_last_event scope (sha256 (String.ofList block)) now := by
  unfold report at h ⊢
  dsimp only at h ⊢
  split at h
  · exact absurd rfl h
  rename_i found hfound
  split at h
  · exact absurd rfl h
  rename_i hexcepted
  split at h
  · exact absurd rfl h
  rename_i hlast
  rw [if_neg hexcepted, if_neg hlast]
  refine ⟨(normalize unicode tail).rtake found.unit_chars, ⟨found.unit_chars, ?_, rfl⟩,
    Bool.eq_false_iff.mpr hexcepted, fun last hmem hnear => hlast ⟨last, hmem, hnear⟩, rfl⟩
  exact (((repeated_suffix_iff unicode config (normalize unicode tail)).1 found.repeat_count
    found.unit_chars).mp hfound).1

/-- What a report makes of the last events of a scope. -/
theorem report_last_event (detector : Detector τ) (scope scope' : RunScope) (tail : List Char)
    (now : τ) :
    (report unicode sha256 config detector scope tail now).2.last_event scope' =
        detector.last_event scope' ∨
      ∃ signature, (report unicode sha256 config detector scope tail now).2.last_event scope' =
        Function.update (detector.last_event scope') signature (some now) := by
  unfold report
  dsimp only
  split
  · exact .inl rfl
  split
  · exact .inl rfl
  split
  · exact .inl rfl
  · rw [last_event_set_last_event]
    split
    · exact .inr ⟨_, rfl⟩
    · exact .inl rfl

end Reports

section Window

variable [Preorder τ] [Sub τ] [DecidableLT τ] {unicode : Unicode} {sha256 : String → String}
  {config : LoopDetectorConfig τ} {scope : RunScope} {signature : String}

/-- The block was reported at this time or later. -/
def Remembers (scope : RunScope) (signature : String) (since : τ) (detector : Detector τ) : Prop :=
  ∃ last, detector.last_event scope signature = some last ∧ since ≤ last

/-- A later call remembers that too, if it does not clear the scope. -/
theorem Remembers.run {since : τ} {detector : Detector τ} (h : Remembers scope signature since detector)
    {call : Call τ} (hclear : call ≠ .clear scope) (hclock : ∀ now ∈ call.time?, since ≤ now) :
    Remembers scope signature since (call.run unicode sha256 config detector).2 := by
  obtain ⟨last, hlast, hle⟩ := h
  cases call with
  | clear scope' =>
    refine ⟨last, ?_, hle⟩
    unfold Call.run
    dsimp only
    rw [last_event_clear, if_neg fun h => hclear (congrArg Call.clear h), hlast]
  | observe scope' output now =>
    have hnow : since ≤ now := hclock now rfl
    unfold Call.run LoopDetector.observe
    dsimp only
    rcases report_last_event (detector.set_tail scope' _) scope' scope _ now with hsame | ⟨s, hupdate⟩
    · exact ⟨last, by rw [hsame, last_event_set_tail, hlast], hle⟩
    · unfold Remembers
      rw [hupdate, last_event_set_tail]
      by_cases hs : signature = s
      · rw [hs, Function.update_self]
        exact ⟨now, rfl, hnow⟩
      · rw [Function.update_of_ne hs]
        exact ⟨last, hlast, hle⟩

theorem Remembers.answering {since : τ} {detector : Detector τ} {calls : List (Call τ)}
    (h : Remembers scope signature since detector) (hclear : .clear scope ∉ calls)
    (hclock : ∀ call ∈ calls, ∀ now ∈ call.time?, since ≤ now) :
    Remembers scope signature since
      (answering (Call.run unicode sha256 config) detector calls).2 := by
  induction calls generalizing detector with
  | nil => exact h
  | cons call calls ih =>
    rw [List.mem_cons, not_or] at hclear
    rw [List.forall_mem_cons] at hclock
    rw [answering_cons]
    exact ih (h.run (Ne.symm hclear.1) hclock.1) hclear.2 hclock.2

/-- The detector after more calls. -/
theorem after_append (calls calls' : List (Call τ)) :
    after unicode sha256 config (calls ++ calls') =
      (answering (Call.run unicode sha256 config) (after unicode sha256 config calls) calls').2 := by
  unfold after
  generalize Detector.init = detector
  induction calls generalizing detector with
  | nil => rfl
  | cons call calls ih => exact ih _

/-- A call on the scope reads the end of what was said in it. -/
theorem observe_tail (calls : List (Call τ)) (scope : RunScope) (output : String) (now : τ) :
    ((after unicode sha256 config calls).tail scope ++ output.toList).rtake config.tail_chars =
      tail_said config scope (calls ++ [.observe scope output now]) := by
  have hinit : (Detector.init : Detector τ).tail scope = ([] : List Char).rtake config.tail_chars := by
    rw [List.rtake_nil]
    rfl
  have htail : (answering (Call.run unicode sha256 config) Detector.init
      (calls ++ [.observe scope output now])).2.tail scope =
        tail_said config scope (calls ++ [.observe scope output now]) := tail_run hinit _
  rw [show (answering _ _ _).2 = after unicode sha256 config (calls ++ [.observe scope output now])
    from rfl, after_append, answering_cons] at htail
  refine Eq.trans ?_ htail
  show _ = (LoopDetector.observe unicode sha256 config _ scope output now).2.tail scope
  unfold LoopDetector.observe
  dsimp only
  rw [report_tail, tail_set_tail, if_pos rfl]

/-- The event of a call. -/
theorem answer_some {calls : List (Call τ)} {output : String} {now : τ}
    (h : answer unicode sha256 config calls (.observe scope output now) ≠ none) :
    ∃ block, RepeatedBlock unicode config
        (tail_said config scope (calls ++ [.observe scope output now])) block ∧
      excepted unicode config block = false ∧
      (∀ last ∈ (after unicode sha256 config calls).last_event scope (sha256 (String.ofList block)),
        ¬ now - last < config.cooldown_seconds) ∧
      (after unicode sha256 config (calls ++ [.observe scope output now])).last_event scope
        (sha256 (String.ofList block)) = some now := by
  obtain ⟨block, hblock, hexcepted, hlast, hafter⟩ := report_some h
  rw [observe_tail] at hblock
  refine ⟨block, hblock, hexcepted, hlast, ?_⟩
  rw [after_append, answering_cons]
  show (LoopDetector.observe unicode sha256 config _ scope output now).2.last_event scope _ = _
  unfold LoopDetector.observe
  dsimp only
  rw [hafter, last_event_set_last_event, if_pos rfl, Function.update_self]

/-- If the chunks within a cooldown that end with a repeated block end with the same one, only one of
them is reported. -/
theorem reported_once {calls : List (Call τ)}
    (hsub : ∀ a b c : τ, a ≤ b → c - b ≤ c - a)
    (hclock : (calls.filterMap Call.time?).Pairwise (· ≤ ·)) (hclear : .clear scope ∉ calls)
    (hsame : SameBlocks unicode config scope calls) :
    ReportedOnce unicode sha256 config scope calls := by
  intro before between call call' hnear
  have hblocks := hsame before between call call' hnear
  obtain ⟨⟨rest, rfl⟩, output, output', now, now', rfl, rfl, hwindow⟩ := hnear
  by_contra hboth
  rw [not_or] at hboth
  obtain ⟨block, hblock, hexcepted, -, hnow⟩ := answer_some hboth.1
  obtain ⟨block', hblock', hexcepted', hlast, -⟩ := answer_some hboth.2
  obtain rfl := hblocks block block' hexcepted hexcepted' hblock hblock'
  -- the block is remembered until the second call
  have hremembers : Remembers scope (sha256 (String.ofList block)) now
      (after unicode sha256 config (before ++ .observe scope output now :: between)) := by
    rw [List.append_cons, after_append]
    refine Remembers.answering ⟨now, hnow, le_refl now⟩ ?_ ?_
    · exact fun h => hclear (by simp [h])
    · intro c hc t ht
      have hlist : (Call.observe scope output now :: between).Sublist
          (before ++ .observe scope output now :: between ++ .observe scope output' now' :: rest) :=
        (List.sublist_append_right before _).trans (List.sublist_append_left _ _)
      have hpair := hclock.sublist (hlist.filterMap Call.time?)
      rw [List.filterMap_cons_some (f := Call.time?) (b := now) rfl] at hpair
      exact (List.pairwise_cons.mp hpair).1 t (List.mem_filterMap.mpr ⟨c, hc, ht⟩)
  obtain ⟨last, hlast', hle⟩ := hremembers
  exact hlast last hlast' (lt_of_le_of_lt (hsub now last now' hle) hwindow)

end Window

/-! ## The same position -/

/-- `str.casefold` folds each character for itself, and what is folded no more. -/
structure Unicode.Folds (unicode : Unicode) : Prop where
  append : ∀ a b, unicode.casefold (a ++ b) = unicode.casefold a ++ unicode.casefold b
  again : ∀ text, normalize unicode (normalize unicode text) = normalize unicode text

section Position

variable {unicode : Unicode} {config : LoopDetectorConfig τ} {text text' : List Char}

theorem normalize_suffix (hfolds : unicode.Folds) (h : text <:+ text') :
    normalize unicode text <:+ normalize unicode text' := by
  obtain ⟨before, rfl⟩ := h
  unfold normalize
  rw [hfolds.append, List.filter_append]
  exact List.suffix_append _ _

theorem rtake_suffix (n : Nat) (h : text <:+ text') : text.rtake n <:+ text'.rtake n := by
  obtain ⟨before, rfl⟩ := h
  unfold List.rtake
  rw [List.drop_append, List.length_append]
  rw [show before.length + text.length - n - before.length = text.length - n by omega]
  exact List.suffix_append _ _

/-- The last characters of a text are those of its end. -/
theorem rtake_of_suffix {n : Nat} (h : text <:+ text') (hn : n ≤ text.length) :
    text'.rtake n = text.rtake n := by
  obtain ⟨before, rfl⟩ := h
  unfold List.rtake
  rw [List.drop_append, List.length_append, List.drop_of_length_le (by omega), List.nil_append]
  congr 1
  omega

theorem EndsWith.least {size k m : Nat} (h : EndsWith text size k) (hm : m ≤ k) :
    EndsWith text size m := by
  refine ⟨h.1, List.IsSuffix.trans ?_ h.2⟩
  obtain ⟨n, rfl⟩ := Nat.exists_eq_add_of_le' hm
  rw [List.replicate_add, List.flatten_append]
  exact List.suffix_append _ _

/-- A text ends with the copies that its end ends with. -/
theorem EndsWith.of_suffix {size k : Nat} (h : EndsWith text size k) (hsuffix : text <:+ text') :
    EndsWith text' size k := by
  refine ⟨h.1.trans hsuffix.length_le, ?_⟩
  rw [rtake_of_suffix hsuffix h.1]
  exact h.2.trans hsuffix

/-- The end of a text has the copies that it has room for. -/
theorem EndsWith.suffix {size k : Nat} (h : EndsWith text' size k) (hsuffix : text <:+ text')
    (hk : 0 < k) (hroom : k * size ≤ text.length) : EndsWith text size k := by
  have hsize : size ≤ text.length := (Nat.le_mul_of_pos_left size hk).trans hroom
  have hends := h.2
  rw [rtake_of_suffix hsuffix hsize] at hends
  refine ⟨hsize, List.suffix_of_suffix_length_le hends hsuffix ?_⟩
  rw [length_copies, List.rtake, List.length_drop]
  calc k * (text.length - (text.length - size)) = k * size := by rw [Nat.sub_sub_self hsize]
    _ ≤ text.length := hroom

theorem EndsWith.room {size k : Nat} (h : EndsWith text size k) : k * size ≤ text.length := by
  have hlength := h.2.length_le
  rwa [length_copies, List.rtake, List.length_drop, Nat.sub_sub_self h.1] at hlength

/-- A text and its end have one shortest block. -/
theorem least_of_suffix (hsuffix : text <:+ text') {size size' : Nat}
    (h : IsLeast { s | Repeats config text s } size)
    (h' : IsLeast { s | Repeats config text' s } size') : size = size' := by
  have htwo := config.repeats
  obtain ⟨⟨hmin, hmax, k, hk, hends⟩, hleast⟩ := h
  obtain ⟨⟨hmin', hmax', k', hk', hends'⟩, hleast'⟩ := h'
  have hle : size' ≤ size := hleast' ⟨hmin, hmax, k, hk, hends.of_suffix hsuffix⟩
  refine Nat.le_antisymm (hleast ⟨hmin', hmax', _, Nat.le_refl _, ?_⟩) hle
  refine (hends'.least hk').suffix hsuffix (by omega) ?_
  calc config.min_repeats * size' ≤ k * size := Nat.mul_le_mul hk hle
    _ ≤ text.length := hends.room

/-- What ends at the same position of a loop ends with the same block. -/
theorem same_block (hfolds : unicode.Folds) {block block' : List Char} (hsuffix : text <:+ text')
    (h : RepeatedBlock unicode config (text.rtake config.tail_chars) block)
    (h' : RepeatedBlock unicode config (text'.rtake config.tail_chars) block') : block = block' := by
  obtain ⟨size, hleast, rfl⟩ := h
  obtain ⟨size', hleast', rfl⟩ := h'
  have hnormalized := normalize_suffix hfolds (rtake_suffix config.tail_chars hsuffix)
  rw [hfolds.again] at hleast hleast'
  obtain rfl := least_of_suffix hnormalized hleast hleast'
  exact (rtake_of_suffix hnormalized hleast.1.size_le).symm

/-- Two parts of a loop that end at the same position of its block. -/
theorem suffix_of_periodic {block : List Char} {n : Nat} (h : text <+: (List.replicate n block).flatten)
    (h' : text' <+: (List.replicate n block).flatten) (hle : text.length ≤ text'.length)
    (hmod : text.length % block.length = text'.length % block.length) : text <:+ text' := by
  have hlength := h'.length_le
  rw [length_copies] at hlength
  obtain ⟨q, hq⟩ := Nat.dvd_of_mod_eq_zero (Nat.sub_mod_eq_zero_of_mod_eq hmod.symm)
  have hblocks : q * block.length ≤ n * block.length := by
    rw [Nat.mul_comm q, ← hq]
    omega
  rcases Nat.eq_zero_or_pos block.length with hempty | hpos
  · rw [hempty, Nat.mul_zero, Nat.le_zero_eq, List.length_eq_zero_iff] at hlength
    rw [hlength, List.length_nil, Nat.le_zero_eq, List.length_eq_zero_iff] at hle
    rw [hle]
    exact List.nil_suffix
  obtain ⟨m, rfl⟩ := Nat.exists_eq_add_of_le (Nat.le_of_mul_le_mul_right hblocks hpos)
  -- the first text is one of the last blocks
  have htext : text = (List.replicate m block).flatten.take text.length := by
    rw [Nat.add_comm, List.replicate_add, List.flatten_append, List.prefix_iff_eq_take,
      List.take_append_of_le_length] at h
    · exact h
    · rw [length_copies]
      rw [Nat.add_mul, Nat.mul_comm q, ← hq] at hlength
      omega
  rw [List.replicate_add, List.flatten_append, List.prefix_iff_eq_take, List.take_append,
    List.take_of_length_le, length_copies, Nat.mul_comm q, ← hq,
    show text'.length - (text'.length - text.length) = text.length by omega, ← htext] at h'
  · rw [h']
    exact List.suffix_append _ _
  · rw [length_copies, Nat.mul_comm q, ← hq]
    omega

/-- What was said before is the beginning of what is said later, as long as the scope is not cleared. -/
theorem said_prefix {scope : RunScope} {calls : List (Call τ)} (hclear : .clear scope ∉ calls)
    (before : List Char) : before <+: said scope before calls := by
  induction calls generalizing before with
  | nil => exact List.prefix_refl before
  | cons call calls ih =>
    rw [List.mem_cons, not_or] at hclear
    cases call with
    | clear scope' =>
      rw [said, if_neg fun h => hclear.1 (congrArg Call.clear h.symm)]
      exact ih hclear.2 before
    | observe scope' output now =>
      rw [said]
      split
      · exact (List.prefix_append before _).trans (ih hclear.2 _)
      · exact ih hclear.2 before

theorem said_append (scope : RunScope) (before : List Char) (calls calls' : List (Call τ)) :
    said scope before (calls ++ calls') = said scope (said scope before calls) calls' := by
  induction calls generalizing before with
  | nil => rfl
  | cons call calls ih =>
    cases call with
    | clear scope' => exact ih _
    | observe scope' output now => exact ih _

/-- In a loop the chunks that end at the same position of its block end with the same repeated block. -/
theorem same_positions [Sub τ] [LT τ] [DecidableLT τ] {scope : RunScope}
    {calls : List (Call τ)} (block : List Char) {n : Nat} (hfolds : unicode.Folds)
    (hclear : .clear scope ∉ calls)
    (hloop : said scope [] calls <+: (List.replicate n block).flatten)
    (hposition : ∀ before between call call', Near config scope calls before between call call' →
      (said scope [] (before ++ [call])).length % block.length =
        (said scope [] (before ++ call :: between ++ [call'])).length % block.length) :
    SameBlocks unicode config scope calls := by
  intro before between call call' hnear u u' _ _ hu hu'
  have hmod := hposition before between call call' hnear
  obtain ⟨⟨rest, rfl⟩, -⟩ := hnear
  have hsplit : before ++ call :: between ++ call' :: rest =
      before ++ [call] ++ (between ++ [call'] ++ rest) := by simp
  have hsplit' : before ++ call :: between ++ [call'] = before ++ [call] ++ (between ++ [call']) := by
    simp
  rw [hsplit] at hclear hloop
  rw [hsplit'] at hmod hu'
  have hfirst : said scope [] (before ++ [call]) <+:
      said scope [] (before ++ [call] ++ (between ++ [call'])) := by
    rw [said_append scope [] (before ++ [call])]
    exact said_prefix (fun h => hclear (List.mem_append_right _ (List.mem_append_left _ h))) _
  have hsecond : said scope [] (before ++ [call] ++ (between ++ [call'])) <+:
      said scope [] (before ++ [call] ++ (between ++ [call'] ++ rest)) := by
    rw [← List.append_assoc (before ++ [call]) (between ++ [call']) rest,
      said_append scope [] (before ++ [call] ++ (between ++ [call'])) rest]
    exact said_prefix (fun h => hclear (List.mem_append_right _ (List.mem_append_right _ h))) _
  have hin := hsecond.trans hloop
  exact same_block hfolds
    (suffix_of_periodic (hfirst.trans hin) hin hfirst.length_le hmod) hu hu'

end Position

/-! ## A loop in chunks -/

namespace Sample

/-- Lower case ASCII texts, which are folded already. -/
def ascii : Unicode := ⟨id, Char.isAlphanum⟩

theorem folds_ascii : ascii.Folds where
  append _ _ := rfl
  again text := by
    unfold normalize ascii
    dsimp only [id]
    rw [List.filter_filter]
    simp only [Bool.and_self]

/-- The defaults of `LoopDetectorConfig`. -/
def defaults : LoopDetectorConfig Int where
  tail_chars := 12000
  min_unit_chars := 24
  max_unit_chars := 800
  min_repeats := 4
  cooldown_seconds := 300
  exception_patterns := ["context compression", "compressing context", "model loading",
    "loading model", "initialization", "initializing runtime"]
  tail_pos := by decide
  unit_pos := by decide
  units := by decide
  repeats := by decide

def worker : RunScope where
  core_run_id := "core-1"
  openclaw_run_id := "run-1"
  session_key := "agent:main"
  agent_id := "main"
  fields := by decide

def block : String := "abcdefghijklmnopqrstuvwx"

/-- The block four times, and a chunk after it. -/
def chunks (next : String) : List (Call Int) :=
  [.observe worker (block ++ block ++ block ++ block) 0, .observe worker next 1]

end Sample

/-- The next character of a loop reports it again, as another rotation of its block. -/
theorem rotated_twice :
    said Sample.worker [] (Sample.chunks "a") <+: (List.replicate 5 Sample.block.toList).flatten ∧
      ((Sample.chunks "a").filterMap Call.time?).Pairwise (· ≤ ·) ∧
      ¬ ReportedOnce Sample.ascii id Sample.defaults Sample.worker (Sample.chunks "a") := by
  refine ⟨by decide +kernel, by decide +kernel, fun h => ?_⟩
  have hnear : Near Sample.defaults Sample.worker (Sample.chunks "a") [] []
      (.observe Sample.worker (Sample.block ++ Sample.block ++ Sample.block ++ Sample.block) 0)
      (.observe Sample.worker "a" 1) :=
    ⟨⟨[], rfl⟩, _, _, 0, 1, rfl, rfl, by decide⟩
  rcases h [] [] _ _ hnear with hfirst | hsecond
  · revert hfirst
    decide +kernel
  · revert hsecond
    decide +kernel

/-- One more block is not reported again. -/
theorem reported_once_sample :
    ReportedOnce Sample.ascii id Sample.defaults Sample.worker (Sample.chunks Sample.block) := by
  have hclear : Call.clear Sample.worker ∉ Sample.chunks Sample.block := by
    simp [Sample.chunks]
  have hloop : said Sample.worker [] (Sample.chunks Sample.block) <+:
      (List.replicate 5 Sample.block.toList).flatten := by decide +kernel
  refine reported_once (fun a b c h => Int.sub_le_sub_left h c) (by decide +kernel) hclear
    (same_positions Sample.block.toList Sample.folds_ascii hclear hloop ?_)
  rintro before between call call' ⟨⟨rest, hcalls⟩, -⟩
  have hlength := congrArg List.length hcalls
  simp only [Sample.chunks, List.length_append, List.length_cons, List.length_nil] at hlength
  obtain rfl : before = [] := List.length_eq_zero_iff.mp (by omega)
  obtain rfl : between = [] := List.length_eq_zero_iff.mp (by omega)
  obtain ⟨hcall, hrest⟩ := List.cons.inj hcalls
  obtain ⟨hcall', -⟩ := List.cons.inj hrest
  subst hcall hcall'
  decide +kernel

end LoopDetector

end Plachem
