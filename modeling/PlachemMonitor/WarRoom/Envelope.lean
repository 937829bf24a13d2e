import PlachemMonitor.Json.Scan
import PlachemMonitor.Text.Lines
import PlachemMonitor.Text.Partition
import PlachemMonitor.WarRoom.Schema

/-!
# The grounding envelope

An instruction goes out with its packet: a header, the packet on one line, and the instruction behind a line
of its own (`_grounded_instruction`). Who gets it takes the packet from between the first two of these lines
(`contract_from_message`). The packet is one line whatever it contains, so what the instruction says comes
too late (`cut_grounded`), and a packet with a profile is found as it was written.

A `task_profile` that has no hash makes the test for a profile raise, and nobody catches that (`unhashable`).
So the contract is read back just if the profile of a packet of version 2 is no list and no object
(`envelope_iff`).
-/

namespace Plachem

namespace WarRoom

namespace TaskContract

open Text (cut)

/-! ## Profiles -/

def PROFILES : List String := ["ACKNOWLEDGEMENT", "READ_ONLY", "CODE_CHANGE"]

/-- `value == 2`; whether a float is, is given. -/
def isTwo (two : FloatText → Bool) : Option Json → Bool
  | some (.int n) => n == 2
  | some (.float t) => two t
  | _ => false

/-- `value in PROFILES`, `none` if it raises: a list and a `dict` have no hash. -/
def in_profiles : Option Json → Option Bool
  | some (.str s) => some (decide (s ∈ PROFILES))
  | some (.arr _) | some (.obj _) => none
  | _ => some false

/-- `profiled`, `none` if it raises. -/
def profiled (two : FloatText → Bool) (packet : Dict) : Option Bool :=
  if isTwo two (packet.get? "contract_version") then in_profiles (packet.get? "task_profile")
  else some false

/-! ## The envelope -/

def FAST_GATEWAY_RESULT : List Char := "[FAST_GATEWAY_RESULT]".toList

def PACKET_LINE : List Char := '\n' :: "[IMMUTABLE_GROUNDING_PACKET]\n".toList

def INSTRUCTION_LINE : List Char := '\n' :: "[ORIGINAL_INSTRUCTION_CONTEXT]\n".toList

/-- The second line of the envelope of the Fast Gateway. -/
def FAST_GATEWAY_CONTRACT : List Char :=
  ["FINAL RESPONSE CONTRACT (highest priority): return only one JSON object with exactly these ",
    "top-level keys: ",
    "\x7b\"status\":\"completed|blocked|failed\",\"summary\":\"...\",\"evidence\":[\x7b\"type\":\"...\",",
    "\"detail\":\"...\"\x7d],\"artifacts\":[\x7b\"path\":\"...\"\x7d],\"scope\":\x7b\"compliant\":true,",
    "\"violations\":[]\x7d\x7d. ",
    "The final response must be raw JSON only: its first character must be \x7b and its last character ",
    "must be \x7d. Do not use Markdown, code fences, backticks, or any prose before or after the JSON ",
    "object. Use evidence and artifacts only for actually verified work. Artifacts are outputs newly ",
    "produced by this run; for a read-only task, put inspected existing paths in evidence and return an ",
    "empty artifacts array. Do not add fields outside this contract."].flatMap String.toList

/-- What follows the instruction. -/
def FAST_GATEWAY_CLOSING : List Char :=
  ("\nFollow the original instruction as the task. Use the envelope only for approved constraints " ++
  "and final response formatting.").toList

def STRUCTURED_RESULT : List Char := "[STRUCTURED_RESULT]".toList

def STRUCTURED_CONTRACT : List Char :=
  ["FINAL RESPONSE CONTRACT (highest priority): return only one JSON object with exactly: ",
    "\x7b\"confirmed_worktree\":\"...\",\"confirmed_revision\":\"...\",\"verdict\":\"PASS|FAIL|REWORK\",",
    "\"evidence\":[\"/absolute/path\"],\"summary\":\"...\",\"representative_completion_claimed\":false,",
    "\"documents\":[\x7b\"title\":\"...\",\"category\":\"requirements|architecture|decision|reference|",
    "report|handoff|other\",\"path\":\"/absolute/path\",\"action\":\"create|update\",\"summary\":\"...\",",
    "\"document_id\":\"optional\",\"expected_version\":1,",
    "\"relation\":\"input|output|reference|decision|handoff\"\x7d]\x7d. ",
    "confirmed_worktree MUST exactly copy IMMUTABLE_GROUNDING_PACKET.worktree. ",
    "confirmed_revision MUST exactly copy IMMUTABLE_GROUNDING_PACKET.revision; it is a War Room grounding ",
    "revision, not a Git revision lookup. Never replace it with HEAD/commit hash unless the packet itself ",
    "contains that hash. Do not claim representative completion; only main can approve it."].flatMap String.toList

def STRUCTURED_CLOSING : List Char :=
  "\nReturn the JSON object above; treat the original instruction only as context.".toList

/-- `json.dumps(packet, ensure_ascii=False, sort_keys=True)` -/
def packet_text (packet : Dict) : List Char := Json.layout [' '] false packet.json.sortKeys

/-- The two lines of a header, the packet, and the instruction in its frame. -/
def enveloped (header contract closing instruction : List Char) (packet : Dict) : List Char :=
  header ++ '\n' :: (contract ++ (PACKET_LINE ++ (packet_text packet ++
    (INSTRUCTION_LINE ++ ((Text.strip (String.ofList instruction)).toList ++ closing)))))

/-- `_grounded_instruction` -/
def grounded_instruction (instruction : List Char) (packet : Dict) : Mode → List Char
  | .FAST_GATEWAY =>
    enveloped FAST_GATEWAY_RESULT FAST_GATEWAY_CONTRACT FAST_GATEWAY_CLOSING instruction packet
  | .LEGACY => enveloped STRUCTURED_RESULT STRUCTURED_CONTRACT STRUCTURED_CLOSING instruction packet

/-- `contract_from_message`, `none` if it raises. -/
def contract_from_message (two : FloatText → Bool) (message : List Char) : Option Dict :=
  if ¬FAST_GATEWAY_RESULT ++ ['\n'] <+: message then some .empty
  else
    -- without a packet line the rest is empty
    let raw := ((cut PACKET_LINE message).map Prod.snd).getD []
    match cut INSTRUCTION_LINE raw with
    | none => some .empty
    | some (raw, _) =>
      match (loadsValue raw).bind Value.dict? with
      | none => some .empty
      | some packet => (profiled two packet).map fun p => if p then packet else .empty

variable {two : FloatText → Bool} {packet : Dict}

/-! ## The lines of the envelope -/

/-- A packet is one line, whatever it contains. -/
theorem packet_text_line (packet : Dict) : '\n' ∉ packet_text packet := by
  intro hmem
  have hp : ∀ c : Char, 32 ≤ c.toNat → c.toNat < 127 → (c == '\n') = false := by
    intro c hlow _
    refine beq_eq_false_iff_ne.mpr ?_
    rintro rfl
    exact absurd hlow (by decide)
  have hstrings : packet.json.sortKeys.allStrings (Json.plain (· == '\n')) = true := by
    refine Json.allStrings_of_forall (fun s => ?_) _
    refine List.all_eq_true.mpr fun c _ => ?_
    rw [Bool.or_eq_true, decide_eq_true_eq, Bool.not_eq_true', beq_eq_false_iff_ne]
    refine (em (c = '\n')).imp (fun hc => ?_) id
    rw [hc]
    decide
  rcases Json.mem_layout [' '] false '\n' packet.json.sortKeys hmem with henc | hgap
  · have hplain := (Json.plain_encode hp packet.json.sortKeys).mpr hstrings '\n' henc
    cases hplain
  · exact absurd hgap (by decide)

/-- A literal, by its characters. -/
theorem line_of_literal {s : String} {cs : List Char} (h : s = String.ofList cs)
    (hcs : (cs.contains '\n') = false) : '\n' ∉ s.toList := by
  rw [h, String.toList_ofList]
  intro hmem
  rw [List.contains_iff_mem.mpr hmem] at hcs
  cases hcs

theorem contract_line : '\n' ∉ FAST_GATEWAY_CONTRACT := by
  unfold FAST_GATEWAY_CONTRACT
  simp only [List.mem_flatMap, List.mem_cons, List.not_mem_nil, or_false, not_exists, not_and,
    forall_eq_or_imp, forall_eq]
  refine ⟨?_, ?_, ?_, ?_, ?_, ?_, ?_, ?_, ?_, ?_⟩ <;> exact line_of_literal rfl (by decide)

/-- The first packet line is that of the envelope. -/
theorem cut_grounded (instruction : List Char) (packet : Dict) :
    ∃ before, cut PACKET_LINE (grounded_instruction instruction packet .FAST_GATEWAY) =
      some (before, packet_text packet ++ (INSTRUCTION_LINE ++
        ((Text.strip (String.ofList instruction)).toList ++ FAST_GATEWAY_CLOSING))) := by
  have hheader : '\n' ∉ FAST_GATEWAY_RESULT := by decide
  have hfirst : ∀ rest, ¬ "[IMMUTABLE_GROUNDING_PACKET]\n".toList <+: FAST_GATEWAY_CONTRACT ++ rest := by
    intro rest hpre
    have hhead : FAST_GATEWAY_CONTRACT.head? = some 'F' := by decide +kernel
    obtain ⟨cs, hcs⟩ := List.head?_eq_some_iff.mp hhead
    rw [hcs, List.cons_append] at hpre
    exact absurd (List.cons_prefix_cons.mp hpre).1 (by decide)
  unfold grounded_instruction enveloped PACKET_LINE
  dsimp only
  rw [Text.cut_skip hheader (hfirst _), Text.cut_line contract_line, Option.map_some]
  exact ⟨_, rfl⟩

/-! ## The contract -/

@[simp] theorem isTwo_sortKeys (v : Option Json) : isTwo two (v.map Json.sortKeys) = isTwo two v := by
  rcases v with - | v
  · rfl
  · cases v <;> rfl

@[simp] theorem in_profiles_sortKeys (v : Option Json) :
    in_profiles (v.map Json.sortKeys) = in_profiles v := by
  rcases v with - | v
  · rfl
  · cases v <;> rfl

/-- The order of the members does not matter. -/
theorem profiled_sorted (packet : Dict) : profiled two packet.sorted = profiled two packet := by
  unfold profiled
  rw [Dict.get?_sorted, Dict.get?_sorted, isTwo_sortKeys, in_profiles_sortKeys]

/-- What is read is the packet of the envelope, whatever the instruction says. -/
theorem contract_from_grounded (instruction : List Char) (packet : Dict) :
    contract_from_message two (grounded_instruction instruction packet .FAST_GATEWAY) =
      (profiled two packet).map fun p => if p then packet.sorted else .empty := by
  obtain ⟨before, hcut⟩ := cut_grounded instruction packet
  have hstart : FAST_GATEWAY_RESULT ++ ['\n'] <+:
      grounded_instruction instruction packet .FAST_GATEWAY := by
    unfold grounded_instruction enveloped
    dsimp only
    rw [← List.singleton_append, ← List.append_assoc]
    exact List.prefix_append _ _
  have hline : cut INSTRUCTION_LINE (packet_text packet ++ (INSTRUCTION_LINE ++
      ((Text.strip (String.ofList instruction)).toList ++ FAST_GATEWAY_CLOSING))) =
      some (packet_text packet, (Text.strip (String.ofList instruction)).toList ++ FAST_GATEWAY_CLOSING) :=
    Text.cut_line (packet_text_line packet) _
  have hloads : (loadsValue (packet_text packet)).bind Value.dict? = some packet.sorted := by
    have hwf : packet.json.sortKeys.wf = true := by
      rw [Json.wf_sortKeys]
      exact packet.wf
    have hgap : ∀ c ∈ [' '], Json.isSpace c = true := List.forall_mem_singleton.mpr rfl
    obtain ⟨hv, h⟩ := loadsValue_eq_some (Json.loads_layout hgap false hwf)
    rw [packet_text, h, Option.bind_some]
    simp only [← Dict.json_sorted] at hv ⊢
    rfl
  unfold contract_from_message
  rw [if_neg (not_not.mpr hstart), hcut]
  dsimp only [Option.map_some, Option.getD_some]
  rw [hline]
  dsimp only
  rw [hloads]
  dsimp only
  rw [profiled_sorted]

/-- The packet is of version 2 and has one of the profiles. -/
def Profiled (two : FloatText → Bool) (packet : Dict) : Prop :=
  isTwo two (packet.get? "contract_version") = true ∧
    ∃ s ∈ PROFILES, packet.get? "task_profile" = some (.str s)

/-- A value without a hash. -/
def unhashable : Option Json → Bool
  | some (.arr _) | some (.obj _) => true
  | _ => false

/-- The contract that is read is the packet if it is profiled, and empty if not; unless the packet is of
version 2 and its profile is a list or an object. -/
theorem envelope_iff (two : FloatText → Bool) (instruction : List Char) (packet : Dict) :
    (∃ d, contract_from_message two (grounded_instruction instruction packet .FAST_GATEWAY) = some d ∧
      (Profiled two packet → d.Eqv packet) ∧ (¬Profiled two packet → d = .empty)) ↔
    ¬(isTwo two (packet.get? "contract_version") = true ∧
      unhashable (packet.get? "task_profile") = true) := by
  rw [contract_from_grounded]
  unfold Profiled profiled
  by_cases htwo : isTwo two (packet.get? "contract_version") = true
  · rw [if_pos htwo]
    cases hprofile : packet.get? "task_profile" with
    | none => simp [in_profiles, unhashable]
    | some v =>
      cases v with
      | str s =>
        by_cases hs : s ∈ PROFILES
        · simp [in_profiles, unhashable, hs, htwo, Dict.eqv_sorted]
        · simp [in_profiles, unhashable, hs]
      | _ => simp [in_profiles, unhashable, htwo]
  · rw [if_neg htwo]
    simp [htwo]

/-- The profile of this packet is a list. -/
theorem unhashable_profile :
    ¬∃ d, contract_from_message (fun _ => false) (grounded_instruction "do".toList
      ⟨[("contract_version", .int 2), ("task_profile", .arr [])], rfl⟩ .FAST_GATEWAY) = some d := by
  have hraised : contract_from_message (fun _ => false) (grounded_instruction "do".toList
      ⟨[("contract_version", .int 2), ("task_profile", .arr [])], rfl⟩ .FAST_GATEWAY) = none := by
    rw [contract_from_grounded]
    rfl
  rintro ⟨d, h⟩
  rw [hraised] at h
  cases h

end TaskContract

end WarRoom

end Plachem
