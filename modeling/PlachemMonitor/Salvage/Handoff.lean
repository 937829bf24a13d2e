import PlachemMonitor.JevLive.Handoff
import PlachemMonitor.Text.Sections

/-!
# The handoff file of a salvage

`HandoffWriter.write` puts a handoff into a file of sections, and `HandoffWriter.validate` looks each section up
by its heading.

* `content_read`: the file, as it is read, is a document of the sections.
* `Plain`: no value is cut short by an empty line, and none has the heading of a later section in it.
* `sections_hold`, `validate_content`: the file of a plain handoff is valid, and each section holds its value.
-/

namespace Plachem

namespace Salvage

open JevLive (bullets REQUIRED)

structure Handoff where
  handoff_id : String
  task : String
  previous_agent : String
  session_id : String
  recovery_generation : Int
  completed_work : List String
  changed_files : List String
  test_results : List String
  current_problem : String
  failed_methods : List String
  remaining_work : List String
  next_agent_first_action : String
  attempt : Nat
  target_agent_id : String
  evidence_digest : String
  created_at : FloatText

/-- What `HandoffWriter.write` writes. -/
def content (handoff : Handoff) : String :=
  "# RECOVERY_HANDOFF\n\n" ++
    "## Task\n" ++ handoff.task ++ "\n\n" ++
    "## Previous Agent\n" ++ handoff.previous_agent ++ "\n\n" ++
    "## Session ID\n" ++ handoff.session_id ++ "\n\n" ++
    "## Recovery Generation\n" ++ toString handoff.recovery_generation ++ "\n\n" ++
    "## Completed Work\n" ++ bullets handoff.completed_work ++ "\n\n" ++
    "## Changed Files\n" ++ bullets handoff.changed_files ++ "\n\n" ++
    "## Test Results\n" ++ bullets handoff.test_results ++ "\n\n" ++
    "## Current Problem\n" ++ handoff.current_problem ++ "\n\n" ++
    "## Failed Methods\n" ++ bullets handoff.failed_methods ++ "\n\n" ++
    "## Remaining Work\n" ++ bullets handoff.remaining_work ++ "\n\n" ++
    "## Next Agent First Action\n" ++ handoff.next_agent_first_action ++ "\n\n" ++
    "## Recovery Metadata\n" ++
    "- handoff_id: " ++ handoff.handoff_id ++ "\n" ++
    "- attempt: " ++ toString handoff.attempt ++ "\n" ++
    "- target_agent: " ++ handoff.target_agent_id ++ "\n" ++
    "- evidence_digest: " ++ handoff.evidence_digest ++ "\n" ++
    "- created_at: " ++ String.ofList handoff.created_at.text ++ "\n\n" ++
    "## Safety\n- Old-session cleanup is forbidden until target acknowledgement.\n"

/-! ## Sections -/

/-- The required sections and their values, in the order of the file. -/
def Handoff.sections (handoff : Handoff) : List (String × String) :=
  [("Task", handoff.task), ("Previous Agent", handoff.previous_agent), ("Session ID", handoff.session_id),
    ("Recovery Generation", toString handoff.recovery_generation),
    ("Completed Work", bullets handoff.completed_work), ("Changed Files", bullets handoff.changed_files),
    ("Test Results", bullets handoff.test_results), ("Current Problem", handoff.current_problem),
    ("Failed Methods", bullets handoff.failed_methods), ("Remaining Work", bullets handoff.remaining_work),
    ("Next Agent First Action", handoff.next_agent_first_action)]

theorem sections_names (handoff : Handoff) : handoff.sections.map Prod.fst = REQUIRED := rfl

def heading (name : String) : List Char := '#' :: '#' :: ' ' :: name.toList

/-- The value of a section, as `HandoffWriter.validate` takes it from the text. -/
def section_value (text : List Char) (name : String) : Option String :=
  (JevLive.after ("## " ++ name ++ "\n").toList text).map fun rest =>
    Text.strip (String.ofList (JevLive.before "\n\n".toList rest))

/-- A value that the first empty line does not cut short, and that is not blank. -/
def Whole (value : String) : Prop :=
  Text.strip value ≠ "" ∧
    Text.strip (String.ofList (Text.paragraph (Text.value_read value.toList ++ ['\n', '\n']))) = Text.strip value

/-- Each value is whole, and no line of it ends with the heading of a later section. -/
structure Plain (handoff : Handoff) : Prop where
  whole : ∀ s ∈ handoff.sections, Whole s.2
  clear : handoff.sections.Pairwise fun s t =>
    ¬ heading t.1 ++ ['\n'] <:+: Text.value_read s.2.toList ++ ['\n']

/-! ## The file as it is read -/

/-- What follows on the required sections. -/
def metadata (handoff : Handoff) : String :=
  "## Recovery Metadata\n" ++
    "- handoff_id: " ++ handoff.handoff_id ++ "\n" ++
    "- attempt: " ++ toString handoff.attempt ++ "\n" ++
    "- target_agent: " ++ handoff.target_agent_id ++ "\n" ++
    "- evidence_digest: " ++ handoff.evidence_digest ++ "\n" ++
    "- created_at: " ++ String.ofList handoff.created_at.text ++ "\n\n" ++
    "## Safety\n- Old-session cleanup is forbidden until target acknowledgement.\n"

def title : List Char := "# RECOVERY_HANDOFF".toList

theorem heading_line (name : String) : ("## " ++ name ++ "\n").toList = heading name ++ ['\n'] := by
  simp [heading]

theorem content_eq (handoff : Handoff) : (content handoff).toList = title ++ '\n' :: ([] ++ '\n' ::
    (Text.document (handoff.sections.map fun s => (heading s.1, s.2.toList)) ++ (metadata handoff).toList)) := by
  have hline : ∀ (line name : String), line = "## " ++ name ++ "\n" → line.toList = heading name ++ ['\n'] := by
    rintro _ name rfl
    exact heading_line name
  have hempty : "\n\n".toList = ['\n', '\n'] := rfl
  have htitle : "# RECOVERY_HANDOFF\n\n".toList = title ++ ['\n', '\n'] := by decide +kernel
  unfold content metadata Handoff.sections
  simp only [String.toList_append, htitle, hempty, List.map_cons, List.map_nil,
    hline "## Task\n" "Task" (by decide +kernel),
    hline "## Previous Agent\n" "Previous Agent" (by decide +kernel),
    hline "## Session ID\n" "Session ID" (by decide +kernel),
    hline "## Recovery Generation\n" "Recovery Generation" (by decide +kernel),
    hline "## Completed Work\n" "Completed Work" (by decide +kernel),
    hline "## Changed Files\n" "Changed Files" (by decide +kernel),
    hline "## Test Results\n" "Test Results" (by decide +kernel),
    hline "## Current Problem\n" "Current Problem" (by decide +kernel),
    hline "## Failed Methods\n" "Failed Methods" (by decide +kernel),
    hline "## Remaining Work\n" "Remaining Work" (by decide +kernel),
    hline "## Next Agent First Action\n" "Next Agent First Action" (by decide +kernel),
    Text.document, List.flatMap_cons, List.flatMap_nil, List.nil_append, List.append_assoc, List.cons_append]

/-- A heading is a line of one heading only. -/
theorem headings_apart : (REQUIRED.all fun a => REQUIRED.all fun b => a == b ||
    !decide (heading a ++ ['\n'] <:+: heading b ++ ['\n'])) = true := by
  decide +kernel

theorem headings_plain : (REQUIRED.all fun a => (heading a).all fun c => c != '\n' && c != '\r') = true := by
  decide +kernel

theorem headings_untitled : (REQUIRED.all fun a => !decide (heading a ++ ['\n'] <:+: title ++ ['\n'])) = true := by
  decide +kernel

theorem heading_plain {name : String} (h : name ∈ REQUIRED) : ∀ c ∈ heading name, c ≠ '\n' ∧ c ≠ '\r' := by
  intro c hc
  have hplain := List.all_eq_true.mp (List.all_eq_true.mp headings_plain name h) c hc
  simpa using hplain

theorem heading_apart {a b : String} (ha : a ∈ REQUIRED) (hb : b ∈ REQUIRED) (hne : a ≠ b) :
    ¬ heading a ++ ['\n'] <:+: heading b ++ ['\n'] := by
  have hapart := List.all_eq_true.mp (List.all_eq_true.mp headings_apart a ha) b hb
  rcases (Bool.or_eq_true _ _).mp hapart with heq | hinfix
  · exact absurd (beq_iff_eq.mp heq) hne
  · simpa using hinfix

theorem heading_untitled {name : String} (h : name ∈ REQUIRED) : ¬ heading name ++ ['\n'] <:+: title ++ ['\n'] := by
  have huntitled := List.all_eq_true.mp headings_untitled name h
  simpa using huntitled

theorem mem_required {handoff : Handoff} {s : String × String} (h : s ∈ handoff.sections) : s.1 ∈ REQUIRED :=
  sections_names handoff ▸ List.mem_map_of_mem h

/-- The file as it is read. -/
theorem content_read (handoff : Handoff) : Text.universalNewlines (content handoff).toList =
    title ++ '\n' :: ([] ++ '\n' :: (Text.document (handoff.sections.map fun s =>
      (heading s.1, Text.value_read s.2.toList)) ++ Text.universalNewlines (metadata handoff).toList)) := by
  have htitle : ∀ c ∈ title ++ ['\n'], c ≠ '\r' := by
    have hall : ((title ++ ['\n']).all fun c => c != '\r') = true := by decide +kernel
    intro c hc
    simpa using List.all_eq_true.mp hall c hc
  have hheads : ∀ t ∈ handoff.sections.map fun s => (heading s.1, s.2.toList), ∀ c ∈ t.1, c ≠ '\r' := by
    intro t ht c hc
    obtain ⟨s, hs, rfl⟩ := List.mem_map.mp ht
    exact (heading_plain (mem_required hs) c hc).2
  rw [content_eq, Text.universalNewlines_newline, Text.universalNewlines_eq_self htitle,
    Text.universalNewlines_newline, Text.universalNewlines_document hheads, List.map_map]
  simp [Text.universalNewlines_eq_self, Function.comp_def]

/-! ## Reading a section -/

theorem after_eq {marker : List Char} (h : marker ≠ []) (text : List Char) :
    JevLive.after marker text = (Text.cut marker text).map Prod.snd := by
  induction text with
  | nil => simp [JevLive.after, Text.cut, h]
  | cons c cs ih =>
    by_cases hpre : marker <+: c :: cs
    · rw [JevLive.after, if_pos (List.isPrefixOf_iff_prefix.mpr hpre), Text.cut_at_start hpre]
      rfl
    · rw [JevLive.after, if_neg (mt List.isPrefixOf_iff_prefix.mp hpre), Text.cut_cons hpre, ih, Option.map_map]
      rfl

theorem before_eq {marker : List Char} (h : marker ≠ []) (text : List Char) :
    JevLive.before marker text = ((Text.cut marker text).map Prod.fst).getD text := by
  induction text with
  | nil => simp [JevLive.before, Text.cut, h]
  | cons c cs ih =>
    by_cases hpre : marker <+: c :: cs
    · rw [JevLive.before, if_pos (List.isPrefixOf_iff_prefix.mpr hpre), Text.cut_at_start hpre]
      rfl
    · rw [JevLive.before, if_neg (mt List.isPrefixOf_iff_prefix.mp hpre), Text.cut_cons hpre, ih]
      cases Text.cut marker cs <;> rfl

theorem section_value_eq (text : List Char) (name : String) : section_value text name =
    (Text.below (heading name) text).map fun rest => Text.strip (String.ofList (Text.paragraph rest)) := by
  have hempty : "\n\n".toList = ['\n', '\n'] := rfl
  have hbefore : ∀ rest, JevLive.before ['\n', '\n'] rest = Text.paragraph rest := fun rest =>
    before_eq (by simp) rest
  simp only [section_value, heading_line, hempty, hbefore]
  rw [after_eq (by simp), Text.below]

theorem strip_eq_empty {text : List Char} : Text.strip (String.ofList text) = "" ↔ Text.isBlank text = true := by
  rw [Text.strip, Text.isBlank, String.toList_ofList, String.ofList_eq_empty_iff, List.rdropWhile_eq_nil_iff,
    List.all_eq_true]
  constructor
  · intro h c hc
    rw [← List.takeWhile_append_dropWhile (p := Text.isWhitespace) (l := text)] at hc
    rcases List.mem_append.mp hc with hc | hc
    · exact List.mem_takeWhile_imp hc
    · exact h c hc
  · exact fun h c hc => h c (List.dropWhile_sublist _ |>.subset hc)

/-- A value of one line. -/
theorem whole_of_line {value : String} (hblank : Text.isBlank value.toList = false)
    (hline : (value.toList.all fun c => c != '\n' && c != '\r') = true) : Whole value := by
  have hchar : ∀ c ∈ value.toList, c ≠ '\n' ∧ c ≠ '\r' := by
    intro c hc
    simpa using List.all_eq_true.mp hline c hc
  have hread : Text.value_read value.toList = value.toList := by
    rw [Text.value_read, Text.universalNewlines_eq_self, List.dropLast_concat]
    intro c hc
    rcases List.mem_append.mp hc with hc | hc
    · exact (hchar c hc).2
    · rw [List.mem_singleton.mp hc]
      decide
  have hparagraph : Text.paragraph (value.toList ++ ['\n', '\n']) = value.toList := by
    have hcut : Text.cut ['\n', '\n'] (value.toList ++ (['\n', '\n'] ++ [])) = some (value.toList, []) :=
      Text.cut_line (fun hmem => (hchar '\n' hmem).1 rfl) []
    rw [Text.paragraph]
    simpa using congrArg (fun r => (r.map Prod.fst).getD (value.toList ++ ['\n', '\n'])) hcut
  constructor
  · intro hempty
    rw [← String.ofList_toList (s := value), strip_eq_empty, hblank] at hempty
    cases hempty
  · rw [hread, hparagraph, String.ofList_toList]

theorem has_section_iff (text : List Char) (name : String) :
    JevLive.has_section text name = true ↔ ∃ value, section_value text name = some value ∧ value ≠ "" := by
  unfold JevLive.has_section section_value
  cases JevLive.after ("## " ++ name ++ "\n").toList text with
  | none => simp
  | some rest => simp [strip_eq_empty]

/-- Each section of a plain handoff is found, and holds its value. -/
theorem sections_hold {handoff : Handoff} (h : Plain handoff) {s : String × String} (hs : s ∈ handoff.sections) :
    section_value (Text.universalNewlines (content handoff).toList) s.1 = some (Text.strip s.2) := by
  obtain ⟨above, rest, hsplit⟩ := List.append_of_mem hs
  have hname := mem_required hs
  have hline : '\n' ∉ heading s.1 := fun hmem => (heading_plain hname _ hmem).1 rfl
  have hempty : ¬ heading s.1 ++ ['\n'] <:+: [] ++ ['\n'] := by
    intro hinfix
    have hlength := hinfix.length_le
    simp [heading] at hlength
  have hpassed : Text.Passed (heading s.1) (above.map fun t => (heading t.1, Text.value_read t.2.toList)) := by
    intro t ht
    obtain ⟨u, hu, rfl⟩ := List.mem_map.mp ht
    have hclear := h.clear
    have hnodup : (handoff.sections.map Prod.fst).Nodup := by
      rw [sections_names]
      decide +kernel
    rw [hsplit, List.pairwise_append] at hclear
    rw [hsplit, List.map_append, List.nodup_append] at hnodup
    have hne : u.1 ≠ s.1 := hnodup.2.2 u.1 (List.mem_map_of_mem hu) s.1 (by simp)
    have hu' : u ∈ handoff.sections := hsplit ▸ List.mem_append_left _ hu
    exact ⟨heading_apart hname (mem_required hu') hne.symm, hclear.2.2 u hu s List.mem_cons_self⟩
  rw [section_value_eq, content_read, Text.below_skip hline (heading_untitled hname), Text.below_skip hline hempty,
    hsplit, List.map_append, List.map_cons, Text.below_document hline (by simp [heading]) hpassed, Option.map_some,
    Text.paragraph_append, (h.whole s hs).2]

/-- The file of a plain handoff passes `HandoffWriter.validate`. -/
theorem validate_content {handoff : Handoff} (h : Plain handoff) :
    JevLive.validate (content handoff).toList = true := by
  have hvalue : ∀ name ∈ REQUIRED, ∃ value, section_value
      (Text.universalNewlines (content handoff).toList) name = some value ∧ value ≠ "" := by
    intro name hname
    rw [← sections_names handoff] at hname
    obtain ⟨s, hs, rfl⟩ := List.mem_map.mp hname
    exact ⟨_, sections_hold h hs, (h.whole s hs).1⟩
  have hfound : ∀ name ∈ REQUIRED, ("## " ++ name).toList <:+: Text.universalNewlines (content handoff).toList := by
    intro name hname
    obtain ⟨value, hsome, -⟩ := hvalue name hname
    rw [section_value_eq, Option.map_eq_some_iff] at hsome
    obtain ⟨rest, hbelow, -⟩ := hsome
    obtain ⟨p, hcut, -⟩ := Option.map_eq_some_iff.mp hbelow
    have hinfix := Text.cut_isSome_iff.mp (Option.isSome_of_eq_some hcut)
    have hheading : ("## " ++ name).toList = heading name := by simp [heading]
    rw [hheading]
    exact (List.prefix_append _ _).isInfix.trans hinfix
  have hblank : Text.isBlank (Text.universalNewlines (content handoff).toList) = false := by
    have hmem : '#' ∈ Text.universalNewlines (content handoff).toList := by
      rw [content_read]
      exact List.mem_append_left _ (by decide +kernel)
    rw [Bool.eq_false_iff]
    intro hall
    exact absurd (List.all_eq_true.mp hall '#' hmem) (by decide)
  simp only [JevLive.validate, hblank, Bool.not_false, Bool.true_and, Bool.and_eq_true, List.all_eq_true,
    decide_eq_true_iff, has_section_iff]
  exact ⟨hfound, hvalue⟩

end Salvage

end Plachem
