import Mathlib.Data.List.Infix
import PlachemMonitor.Json.RoundTrip
import PlachemMonitor.Spec.Result
import PlachemMonitor.Text.Paths

/-!
# Writes of read-only runs

The scope check of `production_result_validator`. A `write` is judged by the target that its arguments
name; any other call by all the paths that a search finds in the text of its arguments. So an `edit` is
accepted whose target the search does not find, if it finds an approved path elsewhere (`edit_unnamed`);
where the targets of these calls are found, what is accepted writes approved paths only
(`designated_iff`).

`str` of a value that is no string, `str.lower`, `str.casefold`, home directories, symbolic links, and the
searches for commands are given.
-/

namespace Plachem

namespace ReadOnly

open Text (Path mentioned)

/-! ## The check -/

/-- The members of an object. -/
abbrev Members := List (String × Json)

/-- What the check uses of other modules. -/
structure Checker where
  /-- `str(v)`, for a value that is no string -/
  repr : Json → String
  /-- `str.lower` -/
  lower : String → String
  /-- `str.casefold` -/
  casefold : String → String
  /-- `os.path.expanduser`, unless it leaves the `~` -/
  home : List Char → Option (List Char)
  /-- `path.is_symlink()` -/
  is_symlink : Path → Bool
  /-- `\b(?:tee|touch|cp|mv)\s|(?<![0-9])>(?![>&])` is found -/
  writes : List Char → Bool
  /-- `\b(?:pytest|unittest|npm\s+(?:run\s+)?test|node\s+[^\n]*test)\b` is found -/
  tests : List Char → Bool

/-- What stops the check: an exception, or a reason. -/
inductive Stop where
  | raised
  | reason (code : String)

/-- `return reason`, if the condition holds -/
def reject (c : Prop) [Decidable c] (code : String) : Except Stop Unit :=
  if c then .error (.reason code) else .ok ()

def members : Json → Option Members
  | .obj ms => some ms
  | _ => none

/-- The first value that is true. -/
def first_of (values : List (Option Json)) : Option Json :=
  values.findSome? fun v => v.filter Json.truthy

section Calls

variable (k : Checker)

/-- `str(v or "")` -/
def Checker.str_or (v : Option Json) : String :=
  match v.filter Json.truthy with
  | some (.str s) => s
  | some v => k.repr v
  | none => ""

/-- The blocks of a message that are objects. -/
def blocks (message : Json) : List Members :=
  match message with
  | .obj ms =>
    match Json.getMember ms "content" with
    | some (.arr items) => items.filterMap members
    | some content => [content].filterMap members
    | none => []
  | _ => []

def is_tool_call (block : Members) : Bool :=
  let kind := (k.lower (k.str_or (Json.getMember block "type"))).toList.filter fun c => c != '_'
  kind == "toolcall".toList || kind == "tooluse".toList

/-- The tool calls of the messages, in their order. -/
def tool_calls (messages : List Json) : List Members :=
  (messages.flatMap blocks).filter (is_tool_call k)

def call_name (block : Members) : String :=
  k.casefold (k.str_or (first_of [Json.getMember block "name", Json.getMember block "toolName"]))

/-- `block.get("arguments") or block.get("input") or {}` -/
def arguments (block : Members) : Json :=
  (first_of [Json.getMember block "arguments", Json.getMember block "input"]).getD (.obj [])

/-- `f"{name} {args}"` -/
def command (block : Members) : List Char :=
  (call_name k block).toList ++ ' ' :: Json.layout [' '] false (arguments block)

def writers : List String := ["write", "edit", "apply_patch"]

/-- `write_operation` -/
def is_write (block : Members) : Bool :=
  decide (call_name k block ∈ writers) || k.writes (command k block)

/-- The targets that the arguments name. -/
def targets (block : Members) : List Json :=
  match arguments block with
  | .obj ms => ["path", "file_path"].filterMap (Json.getMember ms)
  | _ => []

/-- A target that `write` can have. -/
def target_text : Json → Option (List Char)
  | .str s => if s = "" ∨ '\x00' ∈ s.toList then none else some s.toList
  | _ => none

/-- `arguments` and `input` are both there, and differ. -/
def ambiguous (block : Members) : Prop :=
  ∃ a ∈ Json.getMember block "arguments", ∃ i ∈ Json.getMember block "input", ¬ Json.Eqv a i

instance (block : Members) : Decidable (ambiguous block) := by
  unfold ambiguous Json.Eqv
  infer_instance

/-- The target of `write`, if it is one. -/
def write_target (block : Members) : Option Path :=
  if ambiguous block then none
  else
    match (targets block).mapM target_text with
    | some (text :: texts) =>
      let path := Path.parse text
      if (∀ t ∈ texts, t = text) ∧ path.is_absolute = true ∧ path.traverses = false then some path
      else none
    | _ => none

/-- `mentioned`; nothing is mentioned by a `write` that is rejected, and none if a path raises. -/
def mentioned_by (block : Members) : Option (List Path) :=
  if call_name k block = "write" then some (write_target block).toList
  else (mentioned (command k block)).mapM fun raw => (Path.parse raw).expanduser k.home

end Calls

/-- The approved paths, normalized, and whether one has a symbolic link. -/
structure Designated where
  paths : List Path
  has_symlink : Bool

section Check

variable (k : Checker)

/-- `Path("/home/plachem-sever/.openclaw/agents")` -/
def output_root : Path := Path.parse "/home/plachem-sever/.openclaw/agents".toList

/-- Where reports may be. -/
def in_output_root (candidate : Path) : Bool :=
  candidate.is_absolute && !candidate.traverses &&
    decide (output_root.parts.length + 3 ≤ candidate.parts.length) &&
    (candidate.parts.take output_root.parts.length == output_root.parts) &&
    (candidate.parts[output_root.parts.length + 1]? == some "01_ACTIVE".toList ||
      candidate.parts[output_root.parts.length + 1]? == some "05_QA_EVIDENCE".toList)

/-- `designated_raw` -/
def approved (envelope : Dict) : List String :=
  match envelope.get? "approved_paths" with
  | some (.arr items) =>
    let texts := items.filterMap fun item =>
      match item with
      | .str s => if Text.strip s = "" then none else some s
      | _ => none
    if texts.length = items.length then texts else []
  | _ => []

/-- The turn of an approved path. -/
def designate (code : String) (designated : Designated) (raw_path : String) :
    Except Stop Designated :=
  let candidate := Path.parse raw_path.toList
  match candidate.normalize k.home with
  | none => .error .raised
  | some normalized =>
    if in_output_root normalized = false then .error (.reason code)
    else .ok ⟨designated.paths ++ [normalized], designated.has_symlink ||
      candidate.has_symlink_component k.is_symlink || normalized.has_symlink_component k.is_symlink⟩

/-- The turn of an artifact. -/
def check_artifact (designated : Designated) (item : Json) : Except Stop Unit :=
  match (members item).bind fun ms => Json.getMember ms "path" with
  | some (.str text) =>
    match (Path.parse text.toList).expanduser k.home with
    | none => .error .raised
    | some path =>
      if path.is_absolute = false ∨ path.traverses = true then
        .error (.reason "READ_ONLY_ARTIFACT_REUSE")
      else
        match path.normalize k.home with
        | none => .error .raised
        | some normalized => reject (designated.has_symlink = true ∨ normalized ∉ designated.paths ∨
            path.has_symlink_component k.is_symlink = true) "READ_ONLY_ARTIFACT_REUSE"
  | _ => .error (.reason "READ_ONLY_ARTIFACT_REUSE")

/-- The artifacts, if there are any. -/
def check_artifacts (designated : Designated) (artifacts : Json) : Except Stop (List Json) :=
  if artifacts.truthy = false then .ok []
  else if designated.paths = [] then .error (.reason "READ_ONLY_ARTIFACT_REUSE")
  else
    match artifacts with
    | .arr items => do
      items.forM (check_artifact k designated)
      pure items
    -- the keys of an object and the characters of a text are no objects
    | .obj _ | .str _ => .error (.reason "READ_ONLY_ARTIFACT_REUSE")
    | _ => .error .raised

/-- The turn of a write operation. -/
def check_write (designated : Designated) (artifacts : List Json) (block : Members) :
    Except Stop Unit := do
  reject (artifacts = [] ∨ designated.paths.dedup.length ≠ artifacts.length) "READ_ONLY_WRITE_ATTEMPT"
  match mentioned_by k block with
  | none => .error .raised
  | some paths =>
    match paths.mapM (Path.normalize k.home) with
    | none => .error .raised
    | some normalized => reject (designated.has_symlink = true ∨ paths = [] ∨
        (∃ path ∈ normalized, path ∉ designated.paths) ∨
        ∃ path ∈ normalized, path.has_symlink_component k.is_symlink = true) "READ_ONLY_WRITE_ATTEMPT"

/-- The turn of a tool call. -/
def check_call (designated : Designated) (artifacts : List Json) (block : Members) :
    Except Stop Unit := do
  if is_write k block then check_write k designated artifacts block
  reject (call_name k block ≠ "write" ∧ k.tests (command k block) = true) "READ_ONLY_SCOPE_EXPANSION"

/-- The check of a read-only run. -/
def check_read_only (result envelope : Dict) (messages : List Json) : Except Stop Unit := do
  let artifacts := (result.get? "artifacts").getD .null
  let code := if artifacts.truthy then "READ_ONLY_ARTIFACT_REUSE" else "READ_ONLY_WRITE_ATTEMPT"
  let designated ← (approved envelope).foldlM (designate k code) ⟨[], false⟩
  let items ← check_artifacts k designated artifacts
  (tool_calls k messages).forM (check_call k designated items)
  reject (items ≠ [] ∧ ∀ block ∈ tool_calls k messages, is_write k block = false)
    "READ_ONLY_ARTIFACT_REUSE"

/-- `history.get("messages")`, if it is a list -/
def messages_of (envelope : Dict) : Option (List Json) :=
  match ((envelope.get? "history").bind members).bind fun history =>
    Json.getMember history "messages" with
  | some (.arr messages) => some messages
  | _ => none

/-- The user asks for a read-only run. -/
def asks_read_only (messages : List Json) : Bool :=
  let texts := (messages.filterMap members).filter fun ms =>
    Json.getMember ms "role" == some (.str "user")
  let user_text := k.casefold (String.intercalate "\n" (texts.map fun ms =>
    k.str_or (Json.getMember ms "content")))
  ["read-only", "read only", "읽기 전용", "조회만", "변경하지"].any fun marker =>
    decide (marker.toList <:+: user_text.toList)

def read_only (envelope : Dict) (messages : List Json) : Except Stop Bool :=
  match envelope.get? "war_room_task_profile" with
  | some (.str profile) =>
    .ok (if profile ∈ ["ACKNOWLEDGEMENT", "READ_ONLY", "CODE_CHANGE"] then
      decide (profile ∈ ["ACKNOWLEDGEMENT", "READ_ONLY"]) else asks_read_only k messages)
  | some (.arr _) | some (.obj _) => .error .raised
  | _ => .ok (asks_read_only k messages)

/-- `scope` of `production_result_validator`, up to what it returns. -/
def check_scope (result envelope : Dict) : Except Stop Unit := do
  let value := (result.get? "scope").bind members
  reject ((value.bind fun ms => Json.getMember ms "compliant") ≠ some (.bool true)) "NON_COMPLIANT"
  reject (((value.bind fun ms => Json.getMember ms "violations").getD (.arr [])) ≠ .arr [])
    "SCOPE_VIOLATION"
  match messages_of envelope with
  | none => pure ()
  | some messages =>
    if ← read_only k envelope messages then check_read_only k result envelope messages

/-- `scope` -/
def scope (result envelope : Dict) : Except Unit (Option String) :=
  match check_scope k result envelope with
  | .ok () => .ok none
  | .error (.reason code) => .ok (some code)
  | .error .raised => .error ()

end Check

/-! ## What is accepted -/

section Accepted

variable (k : Checker) (envelope : Dict)

/-- The path is one of the approved ones, normalized. -/
def Approved (path : Path) : Prop :=
  ∃ raw ∈ approved envelope, (Path.parse raw.toList).normalize k.home = some path

/-- The target is a text that names the path, which is absolute and without traversal. -/
def Names (target : Json) (path : Path) : Prop :=
  ∃ t, target = .str t ∧ (Path.parse t.toList).is_absolute = true ∧
    (Path.parse t.toList).traverses = false ∧ (Path.parse t.toList).normalize k.home = some path

/-- If the arguments name a target, they name exactly one of the approved paths. -/
def WritesApproved (block : Members) : Prop :=
  targets block ≠ [] → ∃! path, Approved k envelope path ∧ ∀ target ∈ targets block, Names k target path

/-- If the arguments name a target, they name one path, and so that a search finds it whole; or it is one
of the approved paths that no search finds whole. -/
def NamesFound (block : Members) : Prop :=
  targets block ≠ [] → ∃ path, (∀ target ∈ targets block, Names k target path) ∧
    ((∃ t, .str t ∈ targets block ∧ Text.Plain t.toList) ∨
      ¬ path.PlainNames ∧ Approved k envelope path)

/-- The tool calls of the history. -/
def history_calls : List Members := tool_calls k ((messages_of envelope).getD [])

end Accepted

variable {k : Checker} {result envelope : Dict} {designated d : Designated} {block : Members}
  {path : Path}

theorem reject_ok {c : Prop} [Decidable c] {code : String} (h : reject c code = .ok ()) : ¬ c := by
  unfold reject at h
  split at h
  · cases h
  · assumption

theorem forM_ok {α : Type} {f : α → Except Stop Unit} {xs : List α} (h : xs.forM f = .ok ()) :
    ∀ x ∈ xs, f x = .ok () := by
  induction xs with
  | nil => exact List.forall_mem_nil _
  | cons x xs ih =>
    obtain ⟨u, hx, hxs⟩ := bind_eq_ok.mp (show (f x >>= fun _ => xs.forM f) = .ok () from h)
    exact List.forall_mem_cons.mpr ⟨hx, ih hxs⟩

/-- Each element has its image. -/
theorem mem_mapM {α β : Type} {f : α → Option β} {xs : List α} {ys : List β}
    (h : xs.mapM f = some ys) {x : α} (hx : x ∈ xs) : ∃ y ∈ ys, f x = some y := by
  induction xs generalizing ys with
  | nil => cases hx
  | cons x' xs ih =>
    rw [List.mapM_cons] at h
    obtain ⟨y, hy, h⟩ := Option.bind_eq_some_iff.mp h
    obtain ⟨rest, hrest, h⟩ := Option.bind_eq_some_iff.mp h
    obtain rfl := Option.some.inj h
    rcases List.mem_cons.mp hx with rfl | hx
    · exact ⟨y, List.mem_cons_self, hy⟩
    · obtain ⟨y', hmem, hy'⟩ := ih hrest hx
      exact ⟨y', List.mem_cons_of_mem _ hmem, hy'⟩

/-! ### The approved paths -/

theorem designate_ok {code raw : String} (h : designate k code designated raw = .ok d) :
    ∃ path, (Path.parse raw.toList).normalize k.home = some path ∧ in_output_root path = true ∧
      d.paths = designated.paths ++ [path] := by
  unfold designate at h
  dsimp only at h
  split at h
  · cases h
  rename_i path hpath
  split at h
  · cases h
  rename_i hroot
  obtain rfl := Except.ok.inj h
  exact ⟨path, hpath, by simpa using hroot, rfl⟩

/-- The designated paths are the approved ones, all in the output root. -/
theorem designated_paths {code : String} {raws : List String}
    (h : raws.foldlM (designate k code) designated = .ok d) (path : Path) :
    path ∈ d.paths ↔ path ∈ designated.paths ∨
      ∃ raw ∈ raws, (Path.parse raw.toList).normalize k.home = some path := by
  induction raws generalizing designated with
  | nil =>
    obtain rfl := pure_eq_ok.mp h
    simp
  | cons raw raws ih =>
    rw [List.foldlM_cons] at h
    obtain ⟨next, hnext, hrest⟩ := bind_eq_ok.mp h
    obtain ⟨p, hp, -, hpaths⟩ := designate_ok hnext
    rw [ih hrest, hpaths, List.mem_append, List.mem_singleton, List.exists_mem_cons_iff, hp,
      Option.some.injEq, or_assoc, eq_comm (a := p)]

theorem designated_root {code : String} {raws : List String}
    (h : raws.foldlM (designate k code) designated = .ok d) {raw : String} (hraw : raw ∈ raws)
    (hpath : (Path.parse raw.toList).normalize k.home = some path) : in_output_root path = true := by
  induction raws generalizing designated with
  | nil => cases hraw
  | cons raw' raws ih =>
    rw [List.foldlM_cons] at h
    obtain ⟨next, hnext, hrest⟩ := bind_eq_ok.mp h
    rcases List.mem_cons.mp hraw with rfl | hraw
    · obtain ⟨p, hp, hroot, -⟩ := designate_ok hnext
      rw [hpath] at hp
      rwa [Option.some.inj hp]
    · exact ih hrest hraw

/-- A path in the output root has names. -/
theorem names_of_root (h : in_output_root path = true) : path.names ≠ [] := by
  unfold in_output_root at h
  simp only [Bool.and_eq_true, decide_eq_true_eq] at h
  obtain ⟨⟨⟨-, hlength⟩, -⟩, -⟩ := h
  intro hempty
  have hroot : output_root.parts.length = 5 := by decide +kernel
  have hshort : path.parts.length ≤ 1 := by
    unfold Path.parts
    rw [hempty]
    split <;> simp
  omega

/-! ### The writes -/

/-- What an accepted call with one of the writing tools has passed. -/
theorem check_call_ok {artifacts : List Json} (h : check_call k designated artifacts block = .ok ())
    (hname : call_name k block ∈ writers) :
    ∃ paths normalized, mentioned_by k block = some paths ∧ paths ≠ [] ∧
      paths.mapM (Path.normalize k.home) = some normalized ∧
      ∀ path ∈ normalized, path ∈ designated.paths := by
  have hwrite : is_write k block = true := by
    unfold is_write
    rw [decide_eq_true hname, Bool.true_or]
  unfold check_call at h
  rw [if_pos hwrite] at h
  obtain ⟨u, h, -⟩ := bind_eq_ok.mp h
  obtain ⟨u, -, h⟩ := bind_eq_ok.mp h
  split at h
  · cases h
  rename_i paths hpaths
  split at h
  · cases h
  rename_i normalized hnormalized
  have hnot := reject_ok h
  push Not at hnot
  exact ⟨paths, normalized, hpaths, hnot.2.1, hnormalized, hnot.2.2.1⟩

/-- What an accepted history of a read-only run has passed. -/
theorem scope_ok (hprofile : envelope.get? "war_room_task_profile" = some (.str "READ_ONLY"))
    (h : scope k result envelope = .ok none) {block : Members} (hblock : block ∈ history_calls k envelope) :
    ∃ designated artifacts, (∀ path, path ∈ designated.paths ↔ Approved k envelope path) ∧
      (∀ path, Approved k envelope path → path.names ≠ []) ∧
      check_call k designated artifacts block = .ok () := by
  have hcheck : check_scope k result envelope = .ok () := by
    unfold scope at h
    split at h
    · assumption
    · cases h
    · cases h
  obtain ⟨_, -, hcheck⟩ := bind_eq_ok.mp hcheck
  obtain ⟨_, -, hcheck⟩ := bind_eq_ok.mp hcheck
  unfold history_calls at hblock
  split at hcheck
  · rename_i hnone
    rw [hnone] at hblock
    cases hblock
  rename_i messages hmessages
  rw [hmessages, Option.getD_some] at hblock
  have hread : read_only k envelope messages = .ok true := by
    unfold read_only
    rw [hprofile]
    rfl
  rw [bind_of_ok hread, if_pos rfl] at hcheck
  obtain ⟨designated, hdesignated, hcheck⟩ := bind_eq_ok.mp hcheck
  obtain ⟨items, -, hcheck⟩ := bind_eq_ok.mp hcheck
  obtain ⟨_, hcalls, -⟩ := bind_eq_ok.mp hcheck
  refine ⟨designated, items, fun path => ?_, ?_, forM_ok hcalls block hblock⟩
  · rw [designated_paths hdesignated path]
    simp [Approved]
  · rintro path ⟨raw, hraw, hpath⟩
    exact names_of_root (designated_root hdesignated hraw hpath)

/-- A `write` mentions the one target that its arguments name. -/
theorem write_target_some (h : write_target block = some path) :
    path.is_absolute = true ∧ path.traverses = false ∧
      ∀ target ∈ targets block, ∃ t, target = .str t ∧ Path.parse t.toList = path := by
  unfold write_target at h
  split at h
  · cases h
  split at h
  · rename_i text texts htexts
    dsimp only at h
    split at h
    · rename_i hclean
      obtain rfl := Option.some.inj h
      refine ⟨hclean.2.1, hclean.2.2, fun target htarget => ?_⟩
      obtain ⟨t, ht, htext⟩ := mem_mapM htexts htarget
      have hsame : t = text := (List.mem_cons.mp ht).elim id (hclean.1 t)
      unfold target_text at htext
      split at htext
      · rename_i s
        split at htext
        · cases htext
        · exact ⟨s, rfl, by rw [Option.some.inj htext, hsame]⟩
      · cases htext
    · cases h
  · cases h

theorem getMember_mem {ms : Members} {key : String} {v : Json} (h : Json.getMember ms key = some v) :
    (key, v) ∈ ms := by
  obtain ⟨m, hm, rfl⟩ := Option.map_eq_some_iff.mp h
  have hkey := List.find?_some hm
  rw [beq_iff_eq] at hkey
  rw [← hkey]
  exact List.mem_of_find?_eq_some hm

/-- The serialized arguments hold what the encoder writes of each of them. -/
theorem mem_layout {ms : Members} {key : String} {v : Json} (h : (key, v) ∈ ms) :
    ∃ before after, Json.layoutMembers [' '] false ms =
      before ++ Json.layout [' '] false v ++ after := by
  induction ms with
  | nil => cases h
  | cons m ms ih =>
    obtain ⟨key', v'⟩ := m
    rcases List.mem_cons.mp h with heq | hmem
    · obtain ⟨rfl, rfl⟩ := Prod.mk.inj heq
      cases ms with
      | nil => exact ⟨Json.encodeString false key ++ [':', ' '], [], by simp [Json.layoutMembers]⟩
      | cons m ms =>
        exact ⟨Json.encodeString false key ++ [':', ' '],
          ',' :: ' ' :: Json.layoutMembers [' '] false (m :: ms), by simp [Json.layoutMembers]⟩
    · obtain ⟨before, after, hsplit⟩ := ih hmem
      cases ms with
      | nil => cases hmem
      | cons m ms =>
        refine ⟨Json.encodeString false key' ++ ':' :: ' ' :: (Json.layout [' '] false v' ++
          ',' :: ' ' :: before), after, ?_⟩
        rw [Json.layoutMembers, hsplit]
        simp
        exact fun h => by cases h

/-- A text in plain characters is encoded as it is. -/
theorem encode_plain {t : String} (h : Text.Plain t.toList) :
    Json.encodeString false t = '"' :: t.toList ++ ['"'] := by
  have hchar : ∀ c ∈ t.toList, Json.escapeChar false c = [c] := by
    intro c hc
    have hplain := h.plain c hc
    have hcode := h.unescaped c hc
    unfold Text.plain at hplain
    simp only [Bool.not_eq_true', Bool.or_eq_false_iff, beq_eq_false_iff_ne] at hplain
    obtain ⟨⟨⟨-, hbackslash⟩, hquote⟩, -⟩ := hplain
    have hne : ∀ d : Char, d.toNat < 32 → c ≠ d := fun d hd heq => by
      rw [heq] at hcode
      omega
    unfold Json.escapeChar
    rw [if_neg hquote, if_neg hbackslash, if_neg (hne _ (by decide)), if_neg (hne _ (by decide)),
      if_neg (hne _ (by decide)), if_neg (by omega), if_neg (by omega), if_neg (by omega)]
    rfl
  unfold Json.encodeString
  rw [List.flatMap_congr hchar, List.flatMap_singleton']

/-- A target that a search finds whole is found. -/
theorem found_of_plain {t : String} (ht : .str t ∈ targets block) (hplain : Text.Plain t.toList) :
    t.toList ∈ mentioned (command k block) := by
  unfold targets at ht
  split at ht
  · rename_i ms hms
    obtain ⟨key, -, hkey⟩ := List.mem_filterMap.mp ht
    obtain ⟨before, after, hsplit⟩ := mem_layout (getMember_mem hkey)
    unfold command
    rw [hms, show Json.layout [' '] false (.obj ms) =
      '{' :: Json.layoutMembers [' '] false ms ++ ['}'] from rfl, hsplit,
      show Json.layout [' '] false (.str t) = Json.encodeString false t from rfl, encode_plain hplain]
    have hquote : Text.plain '"' = false := by decide
    have hfound := Text.mem_mentioned ((call_name k block).toList ++ ' ' :: '{' :: before)
      (after ++ ['}']) hplain hquote hquote
    simpa using hfound
  · cases ht

theorem names_unique {target : Json} {p q : Path} (hp : Names k target p) (hq : Names k target q) :
    p = q := by
  obtain ⟨t, rfl, -, -, hp⟩ := hp
  obtain ⟨t', ht, -, -, hq⟩ := hq
  obtain rfl := Json.str.inj ht
  exact Option.some.inj (hp.symm.trans hq)

/-- All targets name one path, and it is approved. -/
theorem writesApproved_of (happroved : targets block ≠ [] → Approved k envelope path)
    (hnames : ∀ target ∈ targets block, Names k target path) : WritesApproved k envelope block := by
  intro htargets
  obtain ⟨target, htarget⟩ := List.exists_mem_of_ne_nil _ htargets
  refine ⟨path, ⟨happroved htargets, hnames⟩, ?_⟩
  rintro p ⟨-, hp⟩
  exact names_unique (hp target htarget) (hnames target htarget)

/-- A `write` that is accepted. -/
theorem writesApproved_write {artifacts : List Json}
    (hdesignated : ∀ path, path ∈ designated.paths ↔ Approved k envelope path)
    (hname : call_name k block = "write")
    (h : check_call k designated artifacts block = .ok ()) : WritesApproved k envelope block := by
  obtain ⟨paths, normalized, hpaths, hne, hnormalized, hin⟩ :=
    check_call_ok h (by rw [hname]; decide)
  unfold mentioned_by at hpaths
  rw [if_pos hname, Option.some.injEq] at hpaths
  cases htarget : write_target block with
  | none =>
    rw [htarget] at hpaths
    exact absurd hpaths.symm hne
  | some path =>
    rw [htarget] at hpaths
    obtain ⟨habsolute, hclean, htargets⟩ := write_target_some htarget
    have hnorm : path.normalize k.home = some path := Path.normalized_eq habsolute
    obtain ⟨q, hq, hpath⟩ := mem_mapM hnormalized (x := path) (by rw [← hpaths]; simp)
    obtain rfl := Option.some.inj (hnorm.symm.trans hpath)
    refine writesApproved_of (fun _ => (hdesignated path).mp (hin path hq)) fun target hmem => ?_
    obtain ⟨t, rfl, hparse⟩ := htargets target hmem
    exact ⟨t, rfl, by rw [hparse, habsolute], by rw [hparse, hclean], by rw [hparse, hnorm]⟩

/-- An `edit` or `apply_patch` that is accepted, whose target is found. -/
theorem writesApproved_found {artifacts : List Json}
    (hdesignated : ∀ path, path ∈ designated.paths ↔ Approved k envelope path)
    (hname : call_name k block ∈ ["edit", "apply_patch"])
    (h : check_call k designated artifacts block = .ok ()) (hfound : NamesFound k envelope block) :
    WritesApproved k envelope block := by
  intro htargets
  obtain ⟨path, hnames, hfound⟩ := hfound htargets
  refine writesApproved_of (fun _ => ?_) hnames htargets
  rcases hfound with ⟨t, ht, hplain⟩ | ⟨-, happroved⟩
  · have hwriter : call_name k block ∈ writers := List.mem_cons_of_mem _ hname
    have hnot : call_name k block ≠ "write" := fun heq => by
      rw [heq] at hname
      exact absurd hname (by decide)
    obtain ⟨paths, normalized, hpaths, -, hnormalized, hin⟩ := check_call_ok h hwriter
    unfold mentioned_by at hpaths
    rw [if_neg hnot] at hpaths
    -- the path of the target is among those that the search finds
    obtain ⟨y, hy, hexpanded⟩ := mem_mapM hpaths (found_of_plain ht hplain)
    obtain ⟨z, hz, hnormal⟩ := mem_mapM hnormalized hy
    obtain ⟨t', heq, habsolute, -, hpath⟩ := hnames _ ht
    obtain rfl := Json.str.inj heq
    rw [Path.expanduser_absolute habsolute] at hexpanded
    obtain rfl := Option.some.inj hexpanded
    rw [hpath] at hnormal
    obtain rfl := Option.some.inj hnormal
    exact (hdesignated path).mp (hin path hz)
  · exact happroved

/-- An approved target in plain characters is found. -/
theorem namesFound_of (hroot : ∀ path, Approved k envelope path → path.names ≠ [])
    (h : WritesApproved k envelope block) : NamesFound k envelope block := by
  intro htargets
  obtain ⟨path, ⟨happroved, hnames⟩, -⟩ := h htargets
  refine ⟨path, hnames, ?_⟩
  by_cases hplain : path.PlainNames
  · obtain ⟨target, htarget⟩ := List.exists_mem_of_ne_nil _ htargets
    obtain ⟨t, rfl, habsolute, -, hpath⟩ := hnames target htarget
    obtain rfl := Option.some.inj ((Path.normalized_eq habsolute).symm.trans hpath)
    exact .inl ⟨t, htarget, Text.plain_of_names habsolute (hroot _ happroved) hplain⟩
  · exact .inr ⟨hplain, happroved⟩

/-- Of an accepted history: its writing calls name approved paths exactly if the targets of those that are
judged by a search are found. -/
theorem designated_iff
    (hprofile : envelope.get? "war_room_task_profile" = some (.str "READ_ONLY"))
    (h : scope k result envelope = .ok none) :
    (∀ block ∈ history_calls k envelope, call_name k block ∈ writers →
      WritesApproved k envelope block) ↔
    ∀ block ∈ history_calls k envelope, call_name k block ∈ ["edit", "apply_patch"] →
      NamesFound k envelope block := by
  constructor
  · intro hwrites block hblock hname
    obtain ⟨designated, artifacts, -, hroot, -⟩ := scope_ok hprofile h hblock
    exact namesFound_of hroot (hwrites block hblock (List.mem_cons_of_mem _ hname))
  · intro hfound block hblock hname
    obtain ⟨designated, artifacts, hdesignated, -, hcall⟩ := scope_ok hprofile h hblock
    rcases List.mem_cons.mp hname with hwrite | hname
    · exact writesApproved_write hdesignated hwrite hcall
    · exact writesApproved_found hdesignated hname hcall (hfound block hblock hname)

namespace Sample

/-- No home directories, no symbolic links, and no commands that write or test. -/
def checker : Checker where
  repr := fun _ => ""
  lower := id
  casefold := id
  home := fun _ => none
  is_symlink := fun _ => false
  writes := fun _ => false
  tests := fun _ => false

def report : String := "/home/plachem-sever/.openclaw/agents/qa/01_ACTIVE/report.md"

/-- The run has written the report. -/
def reported : Dict :=
  (Dict.empty.set "scope" (.ofDict (Dict.empty.set "compliant" (.bool true)))).set "artifacts"
    (.list [.ofDict (Dict.empty.set "path" (.str report))])

/-- An edit of a file. -/
def edit (path new_text : String) : Value :=
  .ofDict (((Dict.empty.set "type" (.str "tool_use")).set "name" (.str "edit")).set "arguments"
    (.ofDict ((Dict.empty.set "path" (.str path)).set "new_text" (.str new_text))))

/-- The run may write the report, and has made this call. -/
def called (call : Value) : Dict :=
  ((Dict.empty.set "war_room_task_profile" (.str "READ_ONLY")).set "approved_paths"
    (.list [.str report])).set "history" (.ofDict (Dict.empty.set "messages" (.list [.ofDict
      (Dict.empty.set "content" (.list [call]))])))

end Sample

open Sample in
/-- The edit of a file that is not approved is accepted, as the new text is the approved path. -/
theorem edit_unnamed : (called (edit "notes.md" report)).get? "war_room_task_profile" =
      some (.str "READ_ONLY") ∧
    scope checker reported (called (edit "notes.md" report)) = .ok none ∧
    ¬ ∀ block ∈ history_calls checker (called (edit "notes.md" report)),
      call_name checker block ∈ writers →
        WritesApproved checker (called (edit "notes.md" report)) block := by
  refine ⟨by decide +kernel, by decide +kernel, fun h => ?_⟩
  obtain ⟨block, hblock, hname, htargets⟩ : ∃ block ∈ history_calls checker
      (called (edit "notes.md" report)), call_name checker block ∈ writers ∧
      targets block = [.str "notes.md"] := by decide +kernel
  obtain ⟨path, ⟨-, hnames⟩, -⟩ := h block hblock hname (by rw [htargets]; exact List.cons_ne_nil _ _)
  obtain ⟨t, heq, habsolute, -, -⟩ := hnames (.str "notes.md") (by rw [htargets]; exact List.mem_cons_self)
  obtain rfl := Json.str.inj heq
  revert habsolute
  decide

open Sample in
/-- The edit of the report is accepted, and its target is found. -/
theorem designated_iff_sample : scope checker reported (called (edit report "done")) = .ok none ∧
    ∀ block ∈ history_calls checker (called (edit report "done")),
      call_name checker block ∈ writers →
        WritesApproved checker (called (edit report "done")) block := by
  have hscope : scope checker reported (called (edit report "done")) = .ok none := by decide +kernel
  refine ⟨hscope, (designated_iff (by decide +kernel) hscope).mpr ?_⟩
  intro block hblock _ _
  have htargets : ∀ block ∈ history_calls checker (called (edit report "done")),
      targets block = [.str report] := by decide +kernel
  have hchars : (report.toList.all fun c => Text.plain c && decide (32 ≤ c.toNat)) = true := by
    decide +kernel
  have hchar : ∀ c ∈ report.toList, Text.plain c = true ∧ 32 ≤ c.toNat := by
    intro c hc
    have hboth := List.all_eq_true.mp hchars c hc
    rw [Bool.and_eq_true, decide_eq_true_eq] at hboth
    exact hboth
  refine ⟨Path.parse report.toList, fun target htarget => ?_, .inl ⟨report, ?_, ?_⟩⟩
  · rw [htargets block hblock, List.mem_singleton] at htarget
    exact ⟨report, htarget, by decide +kernel, by decide +kernel, by decide +kernel⟩
  · rw [htargets block hblock]
    exact List.mem_cons_self
  · exact ⟨by decide, by decide, fun c hc => (hchar c hc).1, fun c hc => (hchar c hc).2⟩

end ReadOnly

end Plachem
