import PlachemMonitor.Engine.Applied
import PlachemMonitor.Text.Words

/-!
# Goal contracts

`normalize_goal_contract`. The engine normalizes the contract of a run when it is dispatched, and the
contract on the record again at every checkpoint: that changes nothing (`normalized_again`). The texts
that `_SECRET_TEXT` finds a secret in are given.
-/

namespace Plachem

namespace CoreEngine

/-- `_CONTRACT_FIELDS` -/
def contract_fields : List String :=
  ["primary_objective", "allowed_scope", "forbidden_scope", "expected_result",
    "completion_conditions"]

/-- The contract of a request that has none. -/
def legacy_contract : Dict :=
  Dict.ofList [
    ("primary_objective", .str "LEGACY_VALIDATED_REQUEST"),
    ("allowed_scope", .strs ["REQUESTED_SCOPE"]),
    ("forbidden_scope", .strs ["UNREQUESTED_SCOPE"]),
    ("expected_result", .str "VALIDATED_RESULT"),
    ("completion_conditions", .strs ["RESULT_VALIDATED"])] (by simp)

section Normalize

variable (secret_text : List Char → Bool) (H : Hashlib)

/-- `_normalized_text` -/
def normalized_text (value : Json) (field : String) : Except String String :=
  match value with
  | .str s =>
    let normalized := Text.joined (Text.split s.toList)
    if normalized = [] ∨ 512 < normalized.length ∨ secret_text normalized = true then
      .error ("INVALID_GOAL_CONTRACT:" ++ field)
    else .ok (String.ofList normalized)
  | _ => .error ("INVALID_GOAL_CONTRACT:" ++ field)

/-- `value[field]`, which is there. -/
def field_of (value : Dict) (field : String) : Json := (value.get? field).getD .null

/-- The id of a goal is a digest of the rest of its contract. -/
def goal_id_of (g : GoalContract) : String :=
  "goal-" ++ String.ofList
    ((H.sha256 (String.ofList ((goal_input g).dumps true))).toList.take 24)

/-- `set(value) == _CONTRACT_FIELDS` -/
def has_contract_fields (value : Dict) : Bool :=
  decide ((∀ m ∈ value.members, m.1 ∈ contract_fields) ∧
    ∀ field ∈ contract_fields, field ∈ value.members.map Prod.fst)

/-- The contract without the id of its goal. -/
def canonical_contract (value : Dict) : Except String GoalContract := do
  let primary_objective ←
    normalized_text secret_text (field_of value "primary_objective") "primary_objective"
  let allowed_scope ← normalized_code_list (field_of value "allowed_scope") "allowed_scope"
  let forbidden_scope ← normalized_code_list (field_of value "forbidden_scope") "forbidden_scope"
  let expected_result ←
    normalized_text secret_text (field_of value "expected_result") "expected_result"
  let completion_conditions ←
    normalized_code_list (field_of value "completion_conditions") "completion_conditions"
  pure ⟨"", primary_objective, allowed_scope, forbidden_scope, expected_result,
    completion_conditions⟩

def normalize_goal_contract (value : Option Dict) : Except String GoalContract :=
  let value := value.getD legacy_contract
  if has_contract_fields value = false then .error "INVALID_GOAL_CONTRACT:FIELDS"
  else do
    let canonical ← canonical_contract secret_text value
    pure { canonical with goal_id := goal_id_of H canonical }

end Normalize

/-! ## What is normalized stays as it is -/

theorem codeStart_range {c : Char} (h : codeStart c = true) : c.toNat < 128 := by
  unfold codeStart Char.isUpper Char.isDigit at h
  simp only [Bool.or_eq_true, Bool.and_eq_true, decide_eq_true_eq, ge_iff_le,
    UInt32.le_iff_toNat_le] at h
  have hZ : ('Z' : Char).val.toNat = 90 := rfl
  have h9 : ('9' : Char).val.toNat = 57 := rfl
  show c.val.toNat < 128
  omega

theorem codeChar_range {c : Char} (h : codeChar c = true) : c.toNat < 128 := by
  unfold codeChar at h
  rw [Bool.or_eq_true, decide_eq_true_eq] at h
  rcases h with h | h
  · exact codeStart_range h
  · have hall : (['_', '.', ':', '/', '-'].all fun d => decide (d.toNat < 128)) = true := by decide
    exact of_decide_eq_true (List.all_eq_true.mp hall c h)

/-- A character of a code is no whitespace, and its own upper case. -/
theorem codeChar_plain {c : Char} (h : codeChar c = true) :
    Text.isWhitespace c = false ∧ c ≠ ' ' ∧ upperChar c = [c] := by
  have hall : ∀ n < 128, codeChar (Char.ofNat n) = true →
      Text.isWhitespace (Char.ofNat n) = false ∧ Char.ofNat n ≠ ' ' ∧
        upperChar (Char.ofNat n) = [Char.ofNat n] := by decide +kernel
  have hc := hall c.toNat (codeChar_range h)
  rw [Char.ofNat_toNat] at hc
  exact hc h

theorem safe_code_chars {t : List Char} (h : safe_code t = true) : ∀ c ∈ t, codeChar c = true := by
  cases t with
  | nil => cases h
  | cons c cs =>
    simp only [safe_code, Bool.and_eq_true] at h
    refine List.forall_mem_cons.mpr ⟨?_, List.all_eq_true.mp h.2⟩
    rw [codeChar, h.1.1, Bool.true_or]

/-- A text without whitespace has none around it. -/
theorem strip_plain {t : List Char} (h : ∀ c ∈ t, Text.isWhitespace c = false) :
    Text.strip (String.ofList t) = String.ofList t := by
  unfold Text.strip
  rw [String.toList_ofList, List.dropWhile_eq_self_iff.mpr, List.rdropWhile_eq_self_iff.mpr]
  · exact fun hne => Bool.eq_false_iff.mp (h _ (List.getLast_mem hne))
  · exact fun hne => Bool.eq_false_iff.mp (h _ (List.getElem_mem hne))

theorem code_again {value : Json} {field s : String} (h : normalized_code value field = .ok s)
    (field' : String) : normalized_code (.str s) field' = .ok s := by
  obtain ⟨t, rfl, hcode⟩ : ∃ t, s = String.ofList t ∧ safe_code t = true := by
    unfold normalized_code at h
    split at h
    · dsimp only at h
      split at h
      · rename_i hcode
        exact ⟨_, (Except.ok.inj h).symm, hcode⟩
      · cases h
    · cases h
  have hchars := safe_code_chars hcode
  have hupper : t.flatMap upperChar = t := by
    have hsingle : ∀ c ∈ t, upperChar c = [c] := fun c hc => (codeChar_plain (hchars c hc)).2.2
    rw [List.flatMap_congr hsingle]
    exact List.flatMap_singleton' t
  have hmap : t.map (fun c => if c = ' ' then '_' else c) = t := by
    refine (List.map_congr_left fun c hc => ?_).trans (List.map_id t)
    exact if_neg (codeChar_plain (hchars c hc)).2.1
  unfold normalized_code
  dsimp only
  rw [strip_plain fun c hc => (codeChar_plain (hchars c hc)).1, String.toList_ofList, hupper, hmap,
    if_pos hcode]

theorem codes_mapM {field : String} {codes : List String}
    (h : ∀ c ∈ codes, normalized_code (.str c) field = .ok c) :
    (codes.map Json.str).mapM (fun item => normalized_code item field) = .ok codes := by
  induction codes with
  | nil => rfl
  | cons c codes ih =>
    rw [List.forall_mem_cons] at h
    rw [List.map_cons, List.mapM_cons, h.1, ih h.2]
    rfl

theorem eraseDups_self {α : Type} [BEq α] [LawfulBEq α] {xs : List α} (h : xs.Nodup) :
    xs.eraseDups = xs := by
  induction xs with
  | nil => rfl
  | cons x xs ih =>
    rw [List.nodup_cons] at h
    have hfilter : xs.filter (fun y => !y == x) = xs := by
      refine List.filter_eq_self.mpr fun y hy => ?_
      rw [Bool.not_eq_true', beq_eq_false_iff_ne]
      rintro rfl
      exact h.1 hy
    rw [List.eraseDups_cons, hfilter, ih h.2]

theorem nodup_eraseDups {α : Type} [BEq α] [LawfulBEq α] (xs : List α) : xs.eraseDups.Nodup := by
  induction hn : xs.length using Nat.strong_induction_on generalizing xs with
  | _ n ih =>
    cases xs with
    | nil => exact List.nodup_nil
    | cons x xs =>
      have hlength : (xs.filter fun y => !y == x).length < n := by
        rw [← hn, List.length_cons]
        exact Nat.lt_succ_of_le (List.length_filter_le _ _)
      rw [List.eraseDups_cons, List.nodup_cons]
      refine ⟨fun hx => ?_, ih _ hlength _ rfl⟩
      have hne := (List.mem_filter.mp (List.mem_eraseDups.mp hx)).2
      rw [beq_self_eq_true] at hne
      cases hne

theorem code_list_again {value : Json} {field : String} {codes : List String}
    (h : normalized_code_list value field = .ok codes) :
    normalized_code_list (Value.strs codes).json field = .ok codes := by
  unfold normalized_code_list at h
  split at h
  · rename_i x xs
    obtain ⟨all, hall, rfl⟩ := map_eq_ok.mp h
    have hcodes : ∀ c ∈ all.eraseDups, normalized_code (.str c) field = .ok c := by
      intro c hc
      obtain ⟨y, -, hy⟩ := mapM_ok hall c (List.mem_eraseDups.mp hc)
      exact code_again hy field
    have hne : all ≠ [] := by
      rintro rfl
      rw [List.mapM_cons] at hall
      obtain ⟨y, -, hall⟩ := bind_eq_ok.mp hall
      obtain ⟨ys, -, hall⟩ := bind_eq_ok.mp hall
      cases hall
    obtain ⟨c, cs, hcs⟩ : ∃ c cs, all.eraseDups = c :: cs := by
      cases hempty : all.eraseDups with
      | cons c cs => exact ⟨c, cs, rfl⟩
      | nil =>
        obtain ⟨c, hc⟩ := List.exists_mem_of_ne_nil all hne
        rw [← List.mem_eraseDups, hempty] at hc
        cases hc
    show normalized_code_list (.arr (all.eraseDups.map Json.str)) field = .ok all.eraseDups
    have hmap := codes_mapM hcodes
    rw [hcs, List.map_cons] at hmap ⊢
    show ((Json.str c :: cs.map Json.str).mapM fun item => normalized_code item field).map
      List.eraseDups = .ok (c :: cs)
    rw [hmap, ← hcs]
    exact congrArg Except.ok (eraseDups_self (nodup_eraseDups all))
  · cases h

theorem text_again {secret_text : List Char → Bool} {value : Json} {field s : String}
    (h : normalized_text secret_text value field = .ok s) :
    normalized_text secret_text (.str s) field = .ok s := by
  unfold normalized_text at h
  split at h
  · rename_i t
    dsimp only at h
    split at h
    · cases h
    · rename_i hplain
      rw [← Except.ok.inj h]
      unfold normalized_text
      dsimp only
      rw [String.toList_ofList, Text.split_joined (Text.split_words t.toList), if_neg hplain]
  · cases h

theorem canonical_again {secret_text : List Char → Bool} {value : Dict} {g : GoalContract}
    (h : canonical_contract secret_text value = .ok g) :
    canonical_contract secret_text (goal_input g) = .ok g := by
  obtain ⟨primary_objective, hprimary, h⟩ := bind_eq_ok.mp h
  obtain ⟨allowed_scope, hallowed, h⟩ := bind_eq_ok.mp h
  obtain ⟨forbidden_scope, hforbidden, h⟩ := bind_eq_ok.mp h
  obtain ⟨expected_result, hexpected, h⟩ := bind_eq_ok.mp h
  obtain ⟨completion_conditions, hcompletion, h⟩ := bind_eq_ok.mp h
  obtain rfl := pure_eq_ok.mp h
  exact bind_eq_ok.mpr ⟨_, text_again hprimary, bind_eq_ok.mpr ⟨_, code_list_again hallowed,
    bind_eq_ok.mpr ⟨_, code_list_again hforbidden, bind_eq_ok.mpr ⟨_, text_again hexpected,
      bind_eq_ok.mpr ⟨_, code_list_again hcompletion, rfl⟩⟩⟩⟩⟩

/-- What is normalized is normalized to itself. -/
theorem normalized_again {secret_text : List Char → Bool} {H : Hashlib} {value : Option Dict}
    {g : GoalContract} (h : normalize_goal_contract secret_text H value = .ok g) :
    normalize_goal_contract secret_text H (some (goal_input g)) = .ok g := by
  unfold normalize_goal_contract at h
  dsimp only at h
  split at h
  · cases h
  · obtain ⟨canonical, hcanonical, h⟩ := bind_eq_ok.mp h
    obtain rfl := pure_eq_ok.mp h
    have hfields : has_contract_fields (goal_input canonical) = true := by
      simp [has_contract_fields, goal_input, contract_fields, Dict.ofList]
    unfold normalize_goal_contract
    show (if has_contract_fields (goal_input canonical) = false then _ else _) = _
    rw [hfields, if_neg (by decide)]
    exact bind_of_ok (canonical_again hcanonical)

/-- The id of a goal is a text without line breaks. -/
theorem safe_goal_id {H : Hashlib} (hhex : HexDigest H) (g : GoalContract) :
    RegistryFile.safeText (goal_id_of H g) = true := by
  have hdigest := hhex (String.ofList ((goal_input g).dumps true))
  have hprefix : RegistryFile.safeText "goal-" = true := by decide +kernel
  unfold goal_id_of
  unfold RegistryFile.safeText at hdigest hprefix ⊢
  rw [String.toList_append, List.all_append, hprefix, String.toList_ofList, Bool.true_and]
  exact List.all_eq_true.mpr fun c hc => List.all_eq_true.mp hdigest c (List.mem_of_mem_take hc)

theorem safe_with_goal_id {g : GoalContract} (h : RunRegistry.SafeDict g.as_dict) {goal_id : String}
    (hgoal : RegistryFile.safeText goal_id = true) :
    RunRegistry.SafeDict ({ g with goal_id := goal_id } : GoalContract).as_dict := by
  have hkey : RegistryFile.safeText "goal_id" = true := by decide +kernel
  simp only [GoalContract.as_dict, RunRegistry.safeDict_ofList, List.forall_mem_cons,
    RunRegistry.safe_str] at h ⊢
  exact ⟨⟨hkey, hgoal⟩, h.2⟩

end CoreEngine

end Plachem
