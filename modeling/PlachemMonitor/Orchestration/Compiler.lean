import PlachemMonitor.Json.Value
import PlachemMonitor.Orchestration.System
import PlachemMonitor.Spec.Cycles
import PlachemMonitor.Spec.Result

/-!
# The compiler of execution units

`compile_task_intent` makes the execution units of a task from its agents and their workflow. It succeeds just if
its arguments are well formed and no agent waits for itself (`compile_ok_iff`). Then the units are those of the
agents, with the workflow as their dependencies (`compiled_exact`).
-/

namespace Plachem

namespace Orchestration

/-! ## Arguments -/

/-- What `compile_task_intent` raises. -/
inductive CompileError where
  | TypeError (detail : String)
  | ValueError (detail : String)
  /-- `.get` of a value that is no mapping. -/
  | AttributeError
  | RecursionError
  deriving DecidableEq

/-- The arguments; a `None` is a `null`, and lists and tuples are arrays. -/
structure Intent where
  war_project_id : Json
  war_task_id : Json
  agents : Json
  correlation_id : Json
  workflow : Json
  /-- `str(execution_id_factory())`, by the number of the call. -/
  execution_id_factory : Nat → String
  /-- `f"corr-{uuid.uuid4().hex}"` -/
  new_correlation_id : String

/-- A nonempty text. -/
def validate (detail : String) : Json → Except CompileError String
  | .str s => if s = "" then .error (.ValueError detail) else .ok s
  | _ => .error (.ValueError detail)

/-- `_validate_agent_id` -/
def validate_agent_id : Json → Except CompileError String := validate "INVALID_AGENT_ID"

/-- `_validate_task_id` -/
def validate_task_id : Json → Except CompileError String := validate "INVALID_TASK_ID"

/-- `_validate_project_id` -/
def validate_project_id : Json → Except CompileError String := validate "INVALID_PROJECT_ID"

/-- `_validate_correlation_id` -/
def validate_correlation_id : Json → Except CompileError String := validate "INVALID_CORRELATION_ID"

/-- `agents`, if it is a list that is not empty. -/
def agent_list : Json → Except CompileError (List Json)
  | .arr [] => .error (.ValueError "agents must be non-empty")
  | .arr vs => .ok vs
  | _ => .error (.TypeError "agents must be a list or tuple")

/-- What the values are, each of them once, in the order in which they occur first. -/
def distinct (check : Json → Except CompileError String) (vs : List Json) : Except CompileError (List String) :=
  vs.foldlM (fun found v => do
    let s ← check v
    pure (if s ∈ found then found else found ++ [s])) []

/-- `ordered_agents` -/
def order_agents (agents : List Json) : Except CompileError (List String) := distinct validate_agent_id agents

/-! ## The workflow -/

structure WorkflowEntry where
  role : String
  depends_on : List String
  message : Json
  timeout_seconds : Json
  goal_contract : Json
  deriving DecidableEq

/-- The entry of an agent without a workflow. -/
def default_entry : WorkflowEntry := ⟨"implementation", [], .null, .null, .null⟩

def entry_role (agent_id : String) (ms : List (String × Json)) : Except CompileError String :=
  validate ("WORKFLOW_INVALID_ROLE:" ++ agent_id) ((Json.getMember ms "role").getD (.str "implementation"))

/-- A dependency of an agent. -/
def check_dep (ordered_agents : List String) (agent_id : String) (v : Json) : Except CompileError String := do
  let dep_id ← validate_agent_id v
  if dep_id = agent_id then .error (.ValueError ("WORKFLOW_SELF_DEPENDENCY:" ++ agent_id))
  else if dep_id ∉ ordered_agents then
    .error (.ValueError ("WORKFLOW_UNKNOWN_DEPENDENCY:" ++ agent_id ++ "->" ++ dep_id))
  else .ok dep_id

/-- `normalized_deps` -/
def normalize_deps (ordered_agents : List String) (agent_id : String) (depends_on : List Json) :
    Except CompileError (List String) :=
  distinct (check_dep ordered_agents agent_id) depends_on

def entry_depends_on (ordered_agents : List String) (agent_id : String) (ms : List (String × Json)) :
    Except CompileError (List String) :=
  match (Json.getMember ms "depends_on").getD (.arr []) with
  | .arr vs => normalize_deps ordered_agents agent_id vs
  | _ => .error (.ValueError ("WORKFLOW_INVALID_DEPENDS_ON:" ++ agent_id))

/-- `entry.get("dispatch_input") or {}`, of which members are read. -/
def entry_dispatch_input (ms : List (String × Json)) : Except CompileError (List (String × Json)) :=
  match Json.getMember ms "dispatch_input" with
  | none => .ok []
  | some v => if ¬v.truthy then .ok [] else
    match v with
    | .obj ms => .ok ms
    | _ => .error .AttributeError

/-- `entry.get(key, default)` -/
def get (ms : List (String × Json)) (key : String) (default : Json) : Json :=
  (Json.getMember ms key).getD default

/-- The entry of an agent in the workflow. -/
def workflow_entry (ordered_agents : List String) (agent_id : String) :
    Option Json → Except CompileError WorkflowEntry
  | none => .error (.ValueError ("WORKFLOW_MISSING_AGENT:" ++ agent_id))
  | some (.obj ms) => do
    let role ← entry_role agent_id ms
    let depends_on ← entry_depends_on ordered_agents agent_id ms
    let input ← entry_dispatch_input ms
    pure {
      role := role
      depends_on := depends_on
      message := get ms "message" (get ms "dispatch_message" (get input "message" .null))
      timeout_seconds := get ms "timeout_seconds" (get input "timeout_seconds" .null)
      goal_contract := get ms "goal_contract" (get input "goal_contract" .null) }
  | some _ => .error (.TypeError ("WORKFLOW_INVALID_ENTRY:" ++ agent_id))

/-- `workflow_map`, a list of its items. -/
def workflow_map (workflow : Json) (ordered_agents : List String) :
    Except CompileError (List (String × WorkflowEntry)) :=
  match workflow with
  | .null => .ok (ordered_agents.map fun agent_id => (agent_id, default_entry))
  | .obj ms => ordered_agents.mapM fun agent_id => do
    let entry ← workflow_entry ordered_agents agent_id (Json.getMember ms agent_id)
    pure (agent_id, entry)
  | _ => .error (.TypeError "workflow must be a Mapping")

/-- `workflow_map[agent_id]`; each agent has an entry. -/
def entry_of (map : List (String × WorkflowEntry)) (agent_id : String) : WorkflowEntry :=
  (map.lookup agent_id).getD default_entry

/-- `_visit` of each agent. -/
def detect_cycles (map : List (String × WorkflowEntry)) (ordered_agents : List String) :
    Except CompileError Unit :=
  match Cycles.search (fun agent_id => (entry_of map agent_id).depends_on) ordered_agents with
  | .ok _ => .ok ()
  | .error (.cycle node) => .error (.ValueError ("WORKFLOW_CYCLE:" ++ node))
  | .error .fuel => .error .RecursionError

/-! ## The units -/

/-- A unit before the workflow is attached. -/
structure BareUnit where
  execution_id : String
  agent_id : String
  compile_index : Nat
  deriving DecidableEq

/-- The unit of one more agent. -/
def add_unit (execution_id_factory : Nat → String) (units : List BareUnit) (agent_id : String) :
    Except CompileError (List BareUnit) :=
  let execution_id := execution_id_factory units.length
  if execution_id = "" then .error (.ValueError "execution_id_factory must return non-empty string")
  else if units.any fun u => u.execution_id == execution_id then
    .error (.ValueError ("DUPLICATE_EXECUTION_ID:" ++ execution_id))
  else .ok (units ++ [⟨execution_id, agent_id, units.length⟩])

/-- The units of the agents, with a new id each. -/
def build_units (execution_id_factory : Nat → String) (ordered_agents : List String) :
    Except CompileError (List BareUnit) :=
  ordered_agents.foldlM (add_unit execution_id_factory) []

/-- `agent_to_execution_id[agent_id]`; each agent has a unit. -/
def execution_id_of (units : List BareUnit) (agent_id : String) : String :=
  ((units.find? fun u => u.agent_id == agent_id).map BareUnit.execution_id).getD ""

structure CompiledUnit where
  execution_id : String
  agent_id : String
  correlation_id : String
  compile_index : Nat
  depends_on_execution_ids : List String
  workflow_role : String
  dispatch_message : Json
  dispatch_timeout_seconds : Json
  dispatch_goal_contract : Json
  deriving DecidableEq

structure GraphNode where
  agent_id : String
  execution_id : String
  role : String
  depends_on_execution_ids : List String
  deriving DecidableEq

structure Compiled where
  war_project_id : String
  war_task_id : String
  correlation_id : String
  execution_units : List CompiledUnit
  workflow_graph : List GraphNode
  deriving DecidableEq

def graph_node (units : List BareUnit) (map : List (String × WorkflowEntry)) (agent_id : String) : GraphNode where
  agent_id := agent_id
  execution_id := execution_id_of units agent_id
  role := (entry_of map agent_id).role
  depends_on_execution_ids := (entry_of map agent_id).depends_on.map (execution_id_of units)

def attach (correlation_id : String) (units : List BareUnit) (map : List (String × WorkflowEntry)) (u : BareUnit) :
    CompiledUnit where
  execution_id := u.execution_id
  agent_id := u.agent_id
  correlation_id := correlation_id
  compile_index := u.compile_index
  depends_on_execution_ids := (entry_of map u.agent_id).depends_on.map (execution_id_of units)
  workflow_role := (entry_of map u.agent_id).role
  dispatch_message := (entry_of map u.agent_id).message
  dispatch_timeout_seconds := (entry_of map u.agent_id).timeout_seconds
  dispatch_goal_contract := (entry_of map u.agent_id).goal_contract

def correlation (i : Intent) : Except CompileError String :=
  if i.correlation_id = .null then .ok i.new_correlation_id else validate_correlation_id i.correlation_id

def assemble (project_id task_id correlation_id : String) (ordered_agents : List String) (units : List BareUnit)
    (map : List (String × WorkflowEntry)) : Compiled where
  war_project_id := project_id
  war_task_id := task_id
  correlation_id := correlation_id
  execution_units := units.map (attach correlation_id units map)
  workflow_graph := ordered_agents.map (graph_node units map)

/-- `compile_task_intent` -/
def compile_task_intent (i : Intent) : Except CompileError Compiled := do
  let project_id ← validate_project_id i.war_project_id
  let task_id ← validate_task_id i.war_task_id
  let agents ← agent_list i.agents
  let ordered_agents ← order_agents agents
  let correlation_id ← correlation i
  let units ← build_units i.execution_id_factory ordered_agents
  let map ← workflow_map i.workflow ordered_agents
  detect_cycles map ordered_agents
  pure (assemble project_id task_id correlation_id ordered_agents units map)

/-! ## What is well formed -/

/-- A nonempty text. -/
def IsId (v : Json) : Prop := ∃ s, v = .str s ∧ s ≠ ""

def text? : Json → Option String
  | .str s => some s
  | _ => none

/-- The texts of an array. -/
def texts : Json → List String
  | .arr vs => vs.filterMap text?
  | _ => []

/-- The distinct agents, in the order in which they occur first. -/
def listed (i : Intent) : List String := (texts i.agents).eraseDups

/-- The entry that the workflow has for an agent. -/
def entry? (workflow : Json) (agent_id : String) : Option Json :=
  match workflow with
  | .obj ms => Json.getMember ms agent_id
  | _ => none

/-- The agents that an entry names. -/
def named : Option Json → List String
  | some (.obj ms) => texts ((Json.getMember ms "depends_on").getD (.arr []))
  | _ => []

/-- The agents that an agent waits for. -/
def declared (i : Intent) (agent_id : String) : List String := named <| entry? i.workflow agent_id

/-- An entry of the workflow: a role, dependencies among the other agents, and an input that is a mapping if it is
anything. -/
def WellFormedEntry (agents : List String) (agent_id : String) (entry : Option Json) : Prop :=
  ∃ ms, entry = some (.obj ms) ∧ IsId ((Json.getMember ms "role").getD (.str "implementation")) ∧
    (∃ vs, (Json.getMember ms "depends_on").getD (.arr []) = .arr vs ∧
      ∀ v ∈ vs, ∃ d, v = .str d ∧ d ≠ "" ∧ d ≠ agent_id ∧ d ∈ agents) ∧
    ∀ v, Json.getMember ms "dispatch_input" = some v → v.truthy = true → ∃ ms', v = .obj ms'

structure WellFormed (i : Intent) : Prop where
  project : IsId i.war_project_id
  task : IsId i.war_task_id
  agents : ∃ vs, i.agents = .arr vs ∧ vs ≠ [] ∧ ∀ v ∈ vs, IsId v
  correlation : i.correlation_id = .null ∨ IsId i.correlation_id
  execution_ids : ∀ n < (listed i).length, i.execution_id_factory n ≠ "" ∧
    ∀ m < n, i.execution_id_factory m ≠ i.execution_id_factory n
  workflow : i.workflow = .null ∨ ∃ ms, i.workflow = .obj ms ∧
    ∀ a ∈ listed i, WellFormedEntry (listed i) a (Json.getMember ms a)

/-! ## The checks -/

variable {i : Intent} {v w : Json} {vs : List Json} {s a : String} {names : List String} {detail : String}
  {check : Json → Except CompileError String}

theorem validate_ok : validate detail v = .ok s ↔ v = .str s ∧ s ≠ "" := by
  cases v with
  | str t =>
    rw [validate, Json.str.injEq]
    constructor
    · intro h
      split at h
      · cases h
      · cases h
        exact ⟨rfl, ‹_›⟩
    · rintro ⟨rfl, hs⟩
      exact if_neg hs
  | null | bool _ | int _ | float _ | arr _ | obj _ =>
    refine iff_of_false (fun h => ?_) fun h => ?_
    · cases h
    · cases h.1

theorem validate_isId : (∃ s, validate detail v = .ok s) ↔ IsId v := exists_congr fun _ => validate_ok

theorem eraseDups_snoc (l : List String) (s : String) :
    (if s ∈ l.eraseDups then l.eraseDups else l.eraseDups ++ [s]) = (l ++ [s]).eraseDups := by
  rw [List.eraseDups_append]
  by_cases hs : s ∈ l
  · rw [if_pos (List.mem_eraseDups.mpr hs), List.removeAll, List.filter_cons_of_neg (by simpa using hs),
      List.filter_nil, List.eraseDups_nil, List.append_nil]
  · rw [if_neg (List.mem_eraseDups.not.mpr hs), List.removeAll, List.filter_cons_of_pos (by simpa using hs),
      List.filter_nil]
    rfl

theorem nodup_eraseDups (l : List String) : l.eraseDups.Nodup := by
  induction l using List.reverseRecOn with
  | nil => exact .nil
  | append_singleton l s ih =>
    rw [← eraseDups_snoc]
    split
    · exact ih
    · rename_i hs
      exact ih.append (List.nodup_singleton s) (List.disjoint_singleton.mpr hs)

/-- What has been found is what was named, each once. -/
theorem distinct_ok {l : List String} :
    distinct check vs = .ok l ↔ ∃ ns, List.Forall₂ (fun v s => check v = .ok s) vs ns ∧ l = ns.eraseDups := by
  suffices hrun : ∀ done : List String, vs.foldlM (fun found v => do
      let s ← check v
      pure (if s ∈ found then found else found ++ [s])) done.eraseDups = .ok l ↔
      ∃ ns, List.Forall₂ (fun v s => check v = .ok s) vs ns ∧ l = (done ++ ns).eraseDups from hrun []
  induction vs with
  | nil =>
    intro done
    constructor
    · intro h
      cases h
      exact ⟨[], .nil, by rw [List.append_nil]⟩
    · rintro ⟨ns, hns, rfl⟩
      cases hns
      rw [List.append_nil]
      rfl
  | cons v vs ih =>
    intro done
    have hnext := eraseDups_snoc done
    rw [List.foldlM_cons, bind_eq_ok]
    constructor
    · rintro ⟨found, hfirst, hrest⟩
      obtain ⟨s, hs, hfound⟩ := bind_eq_ok.mp hfirst
      cases hfound
      rw [hnext, ih] at hrest
      obtain ⟨ns, hns, rfl⟩ := hrest
      exact ⟨s :: ns, .cons hs hns, by rw [List.append_assoc]; rfl⟩
    · rintro ⟨ns, hns, rfl⟩
      cases hns with
      | cons hs hns =>
        rename_i s ns
        refine ⟨(done ++ [s]).eraseDups, bind_eq_ok.mpr ⟨s, hs, congrArg _ (hnext s)⟩, (ih _).mpr ⟨ns, hns, ?_⟩⟩
        rw [List.append_assoc]
        rfl

theorem texts_arr {ns : List String} (h : List.Forall₂ (fun v s => v = Json.str s) vs ns) :
    texts (.arr vs) = ns := by
  induction h with
  | nil => rfl
  | cons hv _ ih =>
    rw [hv]
    exact congrArg _ ih

/-- The distinct values of a list in which each one is accepted as it is. -/
theorem distinct_eq {ok : String → Prop} (hcheck : ∀ v s, check v = .ok s ↔ v = .str s ∧ ok s) {l : List String} :
    distinct check vs = .ok l ↔ (∀ v ∈ vs, ∃ s, v = .str s ∧ ok s) ∧ l = (texts (.arr vs)).eraseDups := by
  rw [distinct_ok]
  constructor
  · rintro ⟨ns, hns, rfl⟩
    have htexts := texts_arr (hns.imp fun v s h => ((hcheck v s).mp h).1)
    refine ⟨fun v hv => ?_, by rw [htexts]⟩
    obtain ⟨s, -, hs⟩ := forall₂_left hns hv
    exact ⟨s, (hcheck v s).mp hs⟩
  · rintro ⟨hall, rfl⟩
    obtain ⟨ns, hns⟩ : ∃ ns, List.Forall₂ (fun v s => check v = .ok s) vs ns :=
      exists_forall₂.mpr fun v hv => (hall v hv).imp fun s => (hcheck v s).mpr
    exact ⟨ns, hns, by rw [texts_arr (hns.imp fun v s h => ((hcheck v s).mp h).1)]⟩

theorem order_agents_ok :
    order_agents vs = .ok names ↔ (∀ v ∈ vs, IsId v) ∧ names = (texts (.arr vs)).eraseDups :=
  distinct_eq fun _ _ => validate_ok

theorem agent_list_ok : agent_list v = .ok vs ↔ v = .arr vs ∧ vs ≠ [] := by
  unfold agent_list
  split
  · refine iff_of_false (fun h => ?_) fun h => ?_
    · cases h
    · cases h.1
      exact h.2 rfl
  · rename_i ws hne
    rw [Except.ok.injEq, Json.arr.injEq]
    refine ⟨fun h => ⟨h, fun hnil => hne (by rw [h, hnil])⟩, fun h => h.1⟩
  · rename_i hne
    refine iff_of_false (fun h => ?_) fun h => hne vs h.1
    cases h

theorem check_dep_ok : check_dep names a v = .ok s ↔ v = .str s ∧ s ≠ "" ∧ s ≠ a ∧ s ∈ names := by
  unfold check_dep
  rw [bind_eq_ok]
  constructor
  · rintro ⟨d, hd, h⟩
    obtain ⟨rfl, hne⟩ := validate_ok.mp hd
    split at h
    · cases h
    rename_i hself
    split at h
    · cases h
    rename_i hmem
    cases h
    exact ⟨rfl, hne, hself, not_not.mp hmem⟩
  · rintro ⟨rfl, hne, hself, hmem⟩
    exact ⟨s, validate_ok.mpr ⟨rfl, hne⟩, by rw [if_neg hself, if_neg (not_not.mpr hmem)]⟩

theorem normalize_deps_ok {deps : List String} : normalize_deps names a vs = .ok deps ↔
    (∀ v ∈ vs, ∃ d, v = .str d ∧ d ≠ "" ∧ d ≠ a ∧ d ∈ names) ∧ deps = (texts (.arr vs)).eraseDups :=
  distinct_eq fun _ _ => check_dep_ok

theorem correlation_ok : (∃ s, correlation i = .ok s) ↔ i.correlation_id = .null ∨ IsId i.correlation_id := by
  unfold correlation
  split
  · rename_i hnull
    exact iff_of_true ⟨_, rfl⟩ (.inl hnull)
  · rename_i hnull
    rw [or_iff_right hnull]
    exact validate_isId

/-! ## The entries -/

theorem entry_depends_on_ok {ms : List (String × Json)} {deps : List String} :
    entry_depends_on names a ms = .ok deps ↔
      ∃ vs, (Json.getMember ms "depends_on").getD (.arr []) = .arr vs ∧
        (∀ v ∈ vs, ∃ d, v = .str d ∧ d ≠ "" ∧ d ≠ a ∧ d ∈ names) ∧ deps = (texts (.arr vs)).eraseDups := by
  unfold entry_depends_on
  split
  · rename_i vs hvs
    rw [hvs, normalize_deps_ok]
    constructor
    · exact fun h => ⟨vs, rfl, h⟩
    · rintro ⟨ws, hws, h⟩
      rwa [Json.arr.inj hws]
  · rename_i hne
    refine iff_of_false (fun h => ?_) fun h => ?_
    · cases h
    · obtain ⟨vs, hvs, -⟩ := h
      exact hne vs hvs

theorem entry_dispatch_input_ok {ms : List (String × Json)} : (∃ input, entry_dispatch_input ms = .ok input) ↔
    ∀ v, Json.getMember ms "dispatch_input" = some v → v.truthy = true → ∃ ms', v = .obj ms' := by
  unfold entry_dispatch_input
  split
  · rename_i hnone
    refine iff_of_true ⟨_, rfl⟩ fun v hv => ?_
    rw [hnone] at hv
    cases hv
  · rename_i w hw
    split
    · rename_i hfalsy
      refine iff_of_true ⟨_, rfl⟩ fun v hv htruthy => ?_
      rw [Option.some.inj (hw.symm.trans hv)] at hfalsy
      exact absurd htruthy hfalsy
    · rename_i htruthy
      split
      · rename_i ms'
        exact iff_of_true ⟨_, rfl⟩ fun v hv _ => ⟨ms', (Option.some.inj (hw.symm.trans hv)).symm⟩
      · rename_i hne
        refine iff_of_false (fun h => ?_) fun h => ?_
        · obtain ⟨_, h⟩ := h
          cases h
        · obtain ⟨ms', hms'⟩ := h w hw (not_not.mp htruthy)
          exact hne ms' hms'

/-- An entry is compiled from its parts. -/
theorem workflow_entry_obj {ms : List (String × Json)} {e : WorkflowEntry}
    (h : workflow_entry names a (some (.obj ms)) = .ok e) :
    (∃ role, entry_role a ms = .ok role) ∧ entry_depends_on names a ms = .ok e.depends_on ∧
      ∃ input, entry_dispatch_input ms = .ok input := by
  obtain ⟨role, hrole, h⟩ := bind_eq_ok.mp h
  obtain ⟨deps, hdeps, h⟩ := bind_eq_ok.mp h
  obtain ⟨input, hinput, h⟩ := bind_eq_ok.mp h
  cases h
  exact ⟨⟨role, hrole⟩, hdeps, input, hinput⟩

theorem obj_of_workflow_entry {entry : Option Json} {e : WorkflowEntry} (h : workflow_entry names a entry = .ok e) :
    ∃ ms, entry = some (.obj ms) := by
  unfold workflow_entry at h
  split at h
  · cases h
  · exact ⟨_, rfl⟩
  · cases h

/-- An entry is compiled just if it is well formed. -/
theorem workflow_entry_ok {entry : Option Json} :
    (∃ e, workflow_entry names a entry = .ok e) ↔ WellFormedEntry names a entry := by
  constructor
  · rintro ⟨e, he⟩
    obtain ⟨ms, rfl⟩ := obj_of_workflow_entry he
    obtain ⟨hrole, hdeps, hinput⟩ := workflow_entry_obj he
    obtain ⟨vs, hvs, hall, -⟩ := entry_depends_on_ok.mp hdeps
    exact ⟨ms, rfl, validate_isId.mp hrole, ⟨vs, hvs, hall⟩, entry_dispatch_input_ok.mp hinput⟩
  · rintro ⟨ms, rfl, hrole, ⟨vs, hvs, hall⟩, hinput⟩
    obtain ⟨role, hrole⟩ := validate_isId.mpr hrole
    obtain ⟨input, hinput⟩ := entry_dispatch_input_ok.mpr hinput
    have hdeps := entry_depends_on_ok.mpr ⟨vs, hvs, hall, rfl⟩
    exact ⟨_, bind_eq_ok.mpr ⟨role, hrole, bind_eq_ok.mpr ⟨_, hdeps, bind_eq_ok.mpr ⟨input, hinput, rfl⟩⟩⟩⟩

/-- It keeps its dependencies, each once. -/
theorem workflow_entry_depends_on {entry : Option Json} {e : WorkflowEntry}
    (h : workflow_entry names a entry = .ok e) : e.depends_on = (named entry).eraseDups ∧
      ∀ d ∈ e.depends_on, d ∈ names := by
  obtain ⟨ms, rfl⟩ := obj_of_workflow_entry h
  obtain ⟨vs, hvs, hall, hdeps⟩ := entry_depends_on_ok.mp (workflow_entry_obj h).2.1
  refine ⟨by rw [hdeps, named, hvs], fun d hd => ?_⟩
  rw [hdeps, List.mem_eraseDups, texts, List.mem_filterMap] at hd
  obtain ⟨v, hv, hd⟩ := hd
  obtain ⟨d', rfl, -, -, hmem⟩ := hall v hv
  cases hd
  exact hmem

/-! ## The workflow map -/

variable {map : List (String × WorkflowEntry)}

theorem lookup_of_forall₂ {R : String → WorkflowEntry → Prop}
    (h : List.Forall₂ (fun a m => m.1 = a ∧ R a m.2) names map) (ha : a ∈ names) : R a (entry_of map a) := by
  unfold entry_of
  induction h with
  | nil => cases ha
  | cons hm _ ih =>
    rename_i x m names map _
    obtain ⟨rfl, hm⟩ := hm
    by_cases heq : a = m.1
    · rw [heq, List.lookup_cons_self]
      exact hm
    · rw [List.lookup_cons, beq_eq_false_iff_ne.mpr heq]
      exact ih ((List.mem_cons.mp ha).resolve_left heq)

/-- The map is made just if the workflow is well formed. -/
theorem workflow_map_ok : (∃ map, workflow_map w names = .ok map) ↔
    w = .null ∨ ∃ ms, w = .obj ms ∧ ∀ a ∈ names, WellFormedEntry names a (Json.getMember ms a) := by
  unfold workflow_map
  split
  · exact iff_of_true ⟨_, rfl⟩ (.inl rfl)
  · rename_i ms
    constructor
    · rintro ⟨map, h⟩
      refine .inr ⟨ms, rfl, fun a ha => workflow_entry_ok.mp ?_⟩
      obtain ⟨m, -, hm⟩ := forall₂_left (mapM_eq_ok.mp h) ha
      obtain ⟨e, he, -⟩ := bind_eq_ok.mp hm
      exact ⟨e, he⟩
    · rintro (h | ⟨ms', h, hall⟩)
      · cases h
      · cases h
        obtain ⟨map, hmap⟩ := exists_forall₂.mpr fun a ha => workflow_entry_ok.mpr (hall a ha)
        refine (exists_forall₂.mpr fun a ha => ?_).imp fun _ => mapM_eq_ok.mpr
        obtain ⟨e, he⟩ := workflow_entry_ok.mpr (hall a ha)
        exact ⟨(a, e), bind_eq_ok.mpr ⟨e, he, rfl⟩⟩
  · rename_i hnull hobj
    refine iff_of_false (fun h => ?_) fun h => ?_
    · obtain ⟨_, h⟩ := h
      cases h
    · rcases h with h | ⟨ms, h, -⟩
      · exact hnull h
      · exact hobj ms h

/-- The map has the declared dependencies of each agent, and no others. -/
theorem workflow_map_depends_on (h : workflow_map w names = .ok map) (ha : a ∈ names) :
    (entry_of map a).depends_on = (named <| entry? w a).eraseDups ∧ ∀ d ∈ (entry_of map a).depends_on, d ∈ names := by
  unfold workflow_map at h
  split at h
  · cases h
    refine lookup_of_forall₂ (R := fun a e => e.depends_on = (named <| entry? .null a).eraseDups ∧
      ∀ d ∈ e.depends_on, d ∈ names) (List.forall₂_map_right_iff.mpr (List.forall₂_same.mpr fun a _ => ?_)) ha
    exact ⟨rfl, rfl, fun d hd => absurd hd List.not_mem_nil⟩
  · rename_i ms
    refine lookup_of_forall₂ (R := fun a e => e.depends_on = (named <| entry? (.obj ms) a).eraseDups ∧
      ∀ d ∈ e.depends_on, d ∈ names) ((mapM_eq_ok.mp h).imp fun a m hm => ?_) ha
    obtain ⟨e, he, hm⟩ := bind_eq_ok.mp hm
    cases hm
    exact ⟨rfl, workflow_entry_depends_on he⟩
  · cases h

/-! ## The units of the agents -/

/-- The units that the ids of the factory make, from the `n`-th one on. -/
def bare (factory : Nat → String) : Nat → List String → List BareUnit
  | _, [] => []
  | n, agent_id :: l => ⟨factory n, agent_id, n⟩ :: bare factory (n + 1) l

variable {factory : Nat → String} {units : List BareUnit} {n : Nat}

theorem bare_agents (factory : Nat → String) (n : Nat) : (bare factory n names).map BareUnit.agent_id = names := by
  induction names generalizing n with
  | nil => rfl
  | cons a l ih => exact congrArg _ (ih (n + 1))

theorem length_bare (factory : Nat → String) (n : Nat) : (bare factory n names).length = names.length := by
  rw [← List.length_map (f := BareUnit.agent_id), bare_agents]

theorem bare_ids (factory : Nat → String) (n : Nat) :
    (bare factory n names).map BareUnit.execution_id = (List.range' n names.length).map factory := by
  induction names generalizing n with
  | nil => rfl
  | cons a l ih =>
    rw [bare, List.map_cons, ih, List.length_cons, List.range'_succ, List.map_cons]

theorem add_unit_ok {l : List BareUnit} : add_unit factory units a = .ok l ↔
    (factory units.length ≠ "" ∧ ∀ u ∈ units, u.execution_id ≠ factory units.length) ∧
      l = units ++ [⟨factory units.length, a, units.length⟩] := by
  unfold add_unit
  dsimp only
  split
  · rename_i hblank
    refine iff_of_false (fun h => ?_) fun h => h.1.1 hblank
    cases h
  rename_i hblank
  split
  · rename_i hany
    obtain ⟨u, hu, heq⟩ := List.any_eq_true.mp hany
    refine iff_of_false (fun h => ?_) fun h => h.1.2 u hu (beq_iff_eq.mp heq)
    cases h
  · rename_i hany
    have hnew : ∀ u ∈ units, u.execution_id ≠ factory units.length := fun u hu heq =>
      hany (List.any_eq_true.mpr ⟨u, hu, beq_iff_eq.mpr heq⟩)
    rw [Except.ok.injEq, eq_comm]
    exact ⟨fun h => ⟨⟨hblank, hnew⟩, h⟩, fun h => h.2⟩

/-- The ids of the factory from the one that comes next on are new. -/
theorem fold_units_ok (factory : Nat → String) (names : List String) {l : List BareUnit}
    (hunits : units.map BareUnit.execution_id = (List.range units.length).map factory) :
    names.foldlM (add_unit factory) units = .ok l ↔
      (∀ n, units.length ≤ n → n < units.length + names.length → factory n ≠ "" ∧ ∀ m < n, factory m ≠ factory n) ∧
        l = units ++ bare factory units.length names := by
  induction names generalizing units with
  | nil =>
    constructor
    · intro h
      cases h
      exact ⟨fun n hn hn' => absurd hn' (Nat.not_lt.mpr hn), (List.append_nil _).symm⟩
    · rintro ⟨-, rfl⟩
      rw [bare, List.append_nil]
      rfl
  | cons a names ih =>
    have hnew : (∀ u ∈ units, u.execution_id ≠ factory units.length) ↔
        ∀ m < units.length, factory m ≠ factory units.length := by
      have hmem : ∀ id, id ∈ units.map BareUnit.execution_id ↔ ∃ m < units.length, factory m = id := by
        intro id
        rw [hunits]
        simp only [List.mem_map, List.mem_range]
      constructor
      · intro h m hm heq
        obtain ⟨u, hu, hid⟩ := List.mem_map.mp ((hmem _).mpr ⟨m, hm, rfl⟩)
        exact h u hu (hid.trans heq)
      · intro h u hu heq
        obtain ⟨m, hm, hid⟩ := (hmem _).mp (List.mem_map_of_mem hu)
        exact h m hm (hid.trans heq)
    have hnext : (units ++ [(⟨factory units.length, a, units.length⟩ : BareUnit)]).map BareUnit.execution_id =
        (List.range (units ++ [(⟨factory units.length, a, units.length⟩ : BareUnit)]).length).map factory := by
      rw [List.map_append, hunits, List.length_append, List.length_singleton, List.range_succ, List.map_append]
      rfl
    have hlength : (units ++ [(⟨factory units.length, a, units.length⟩ : BareUnit)]).length = units.length + 1 := by
      rw [List.length_append, List.length_singleton]
    rw [List.foldlM_cons, bind_eq_ok]
    constructor
    · rintro ⟨mid, hmid, hrest⟩
      obtain ⟨⟨hblank, hfresh⟩, rfl⟩ := add_unit_ok.mp hmid
      obtain ⟨hall, rfl⟩ := (ih hnext).mp hrest
      rw [hlength] at hall ⊢
      refine ⟨fun n hn hn' => ?_, by rw [List.append_assoc]; rfl⟩
      rcases Nat.eq_or_lt_of_le hn with rfl | hlt
      · exact ⟨hblank, hnew.mp hfresh⟩
      · rw [List.length_cons] at hn'
        exact hall n hlt (by omega)
    · rintro ⟨hall, rfl⟩
      obtain ⟨hblank, hfresh⟩ := hall units.length (Nat.le_refl _) (by rw [List.length_cons]; omega)
      refine ⟨_, add_unit_ok.mpr ⟨⟨hblank, hnew.mpr hfresh⟩, rfl⟩, (ih hnext).mpr ⟨fun n hn hn' => ?_, ?_⟩⟩
      · rw [hlength] at hn hn'
        exact hall n (by omega) (by rw [List.length_cons]; omega)
      · rw [hlength, List.append_assoc]
        rfl

theorem build_units_ok {l : List BareUnit} : build_units factory names = .ok l ↔
    (∀ n < names.length, factory n ≠ "" ∧ ∀ m < n, factory m ≠ factory n) ∧ l = bare factory 0 names := by
  have h : names.foldlM (add_unit factory) [] = .ok l ↔ _ := fold_units_ok factory names rfl
  unfold build_units
  simpa only [List.length_nil, Nat.zero_le, forall_const, Nat.zero_add, List.nil_append] using h

/-! ## The compiler -/

/-- What the compiler has gone through. -/
structure Compiles (i : Intent) (r : Compiled) (map : List (String × WorkflowEntry)) : Prop where
  project : validate_project_id i.war_project_id = .ok r.war_project_id
  task : validate_task_id i.war_task_id = .ok r.war_task_id
  agents : ∃ vs, i.agents = .arr vs ∧ vs ≠ [] ∧ ∀ v ∈ vs, IsId v
  correlation : correlation i = .ok r.correlation_id
  execution_ids : ∀ n < (listed i).length, i.execution_id_factory n ≠ "" ∧
    ∀ m < n, i.execution_id_factory m ≠ i.execution_id_factory n
  workflow : workflow_map i.workflow (listed i) = .ok map
  acyclic : detect_cycles map (listed i) = .ok ()
  result : r = assemble r.war_project_id r.war_task_id r.correlation_id (listed i)
    (bare i.execution_id_factory 0 (listed i)) map

variable {r : Compiled}

theorem compiles_of_ok (h : compile_task_intent i = .ok r) : ∃ map, Compiles i r map := by
  obtain ⟨project, hproject, h⟩ := bind_eq_ok.mp h
  obtain ⟨task, htask, h⟩ := bind_eq_ok.mp h
  obtain ⟨vs, hvs, h⟩ := bind_eq_ok.mp h
  obtain ⟨names, hnames, h⟩ := bind_eq_ok.mp h
  obtain ⟨corr, hcorr, h⟩ := bind_eq_ok.mp h
  obtain ⟨units, hunits, h⟩ := bind_eq_ok.mp h
  obtain ⟨map, hmap, h⟩ := bind_eq_ok.mp h
  obtain ⟨_, hacyclic, h⟩ := bind_eq_ok.mp h
  cases h
  obtain ⟨hagents, hne⟩ := agent_list_ok.mp hvs
  obtain ⟨hids, hnames⟩ := order_agents_ok.mp hnames
  have hlisted : names = listed i := by rw [listed, hagents, hnames]
  obtain ⟨hnew, hunits⟩ := build_units_ok.mp hunits
  subst hlisted hunits
  exact ⟨map, hproject, htask, ⟨vs, hagents, hne, hids⟩, hcorr, hnew, hmap, hacyclic, rfl⟩

theorem Compiles.ok {map : List (String × WorkflowEntry)} (h : Compiles i r map) : compile_task_intent i = .ok r := by
  obtain ⟨vs, hagents, hne, hids⟩ := h.agents
  have hnames : order_agents vs = .ok (listed i) := order_agents_ok.mpr ⟨hids, by rw [listed, hagents]⟩
  unfold compile_task_intent
  rw [bind_of_ok h.project, bind_of_ok h.task, bind_of_ok (agent_list_ok.mpr ⟨hagents, hne⟩), bind_of_ok hnames,
    bind_of_ok h.correlation, bind_of_ok (build_units_ok.mpr ⟨h.execution_ids, rfl⟩), bind_of_ok h.workflow,
    bind_of_ok h.acyclic]
  exact congrArg _ h.result.symm

/-- No agent waits for itself. -/
def NoCycle (i : Intent) : Prop := Cycles.Acyclic (declared i) (listed i)

theorem detect_cycles_ok {map : List (String × WorkflowEntry)} (hmap : workflow_map i.workflow (listed i) = .ok map) :
    detect_cycles map (listed i) = .ok () ↔ NoCycle i := by
  have hclosed : ∀ a ∈ listed i, ∀ b ∈ (entry_of map a).depends_on, b ∈ listed i := fun a ha =>
    (workflow_map_depends_on hmap ha).2
  have hedges : ∀ a ∈ listed i, ∀ b, b ∈ (entry_of map a).depends_on ↔ b ∈ declared i a := by
    intro a ha b
    rw [(workflow_map_depends_on hmap ha).1, List.mem_eraseDups, declared]
  rw [NoCycle, ← Cycles.acyclic_congr hclosed hedges, ← Cycles.search_ok_iff hclosed]
  unfold detect_cycles
  split
  · rename_i m hm
    exact iff_of_true rfl ⟨m, hm⟩
  · rename_i c hc
    refine iff_of_false (fun h => ?_) fun h => ?_
    · cases h
    · obtain ⟨m, hm⟩ := h
      rw [hm] at hc
      cases hc
  · rename_i hfuel
    exact absurd hfuel (Cycles.search_ne_fuel hclosed)

/-- The compiler succeeds just if its arguments are well formed and no agent waits for itself. -/
theorem compile_ok_iff (i : Intent) : (∃ r, compile_task_intent i = .ok r) ↔ WellFormed i ∧ NoCycle i := by
  constructor
  · rintro ⟨r, h⟩
    obtain ⟨map, h⟩ := compiles_of_ok h
    refine ⟨⟨validate_isId.mp ⟨_, h.project⟩, validate_isId.mp ⟨_, h.task⟩, h.agents,
      correlation_ok.mp ⟨_, h.correlation⟩, h.execution_ids, workflow_map_ok.mp ⟨map, h.workflow⟩⟩, ?_⟩
    exact (detect_cycles_ok h.workflow).mp h.acyclic
  · rintro ⟨hwf, hacyclic⟩
    obtain ⟨project, hproject⟩ := validate_isId.mpr hwf.project
    obtain ⟨task, htask⟩ := validate_isId.mpr hwf.task
    obtain ⟨corr, hcorr⟩ := correlation_ok.mpr hwf.correlation
    obtain ⟨map, hmap⟩ := workflow_map_ok.mpr hwf.workflow
    have h : Compiles i (assemble project task corr (listed i) (bare i.execution_id_factory 0 (listed i)) map) map :=
      ⟨hproject, htask, hwf.agents, hcorr, hwf.execution_ids, hmap, (detect_cycles_ok hmap).mpr hacyclic, rfl⟩
    exact ⟨_, h.ok⟩

/-! ## What is compiled -/

/-- The units are those of the agents, each with an id of its own, and their dependencies are the workflow. -/
structure Exact (i : Intent) (r : Compiled) : Prop where
  agents : r.execution_units.map CompiledUnit.agent_id = listed i
  distinct : (listed i).Nodup
  ids : (r.execution_units.map CompiledUnit.execution_id).Nodup
  graph : ∀ u ∈ r.execution_units, ∀ v ∈ r.execution_units,
    v.execution_id ∈ u.depends_on_execution_ids ↔ v.agent_id ∈ declared i u.agent_id
  closed : ∀ u ∈ r.execution_units, ∀ e ∈ u.depends_on_execution_ids, ∃ v ∈ r.execution_units, v.execution_id = e
  workflow_graph : r.workflow_graph = r.execution_units.map fun u =>
    ⟨u.agent_id, u.execution_id, u.workflow_role, u.depends_on_execution_ids⟩

/-- The id of an agent is that of its unit. -/
theorem execution_id_of_mem (hnodup : (units.map BareUnit.agent_id).Nodup) {u : BareUnit} (hu : u ∈ units) :
    execution_id_of units u.agent_id = u.execution_id := by
  unfold execution_id_of
  cases hfind : units.find? (fun q => q.agent_id == u.agent_id) with
  | none =>
    have hnot := List.find?_eq_none.mp hfind u hu
    rw [beq_self_eq_true] at hnot
    exact absurd rfl hnot
  | some q =>
    have hagent := List.find?_some hfind
    rw [beq_iff_eq] at hagent
    rw [List.inj_on_of_nodup_map hnodup (List.mem_of_find?_eq_some hfind) hu hagent]
    rfl

theorem compiled_exact (h : compile_task_intent i = .ok r) : Exact i r := by
  obtain ⟨map, h⟩ := compiles_of_ok h
  have hagents : (bare i.execution_id_factory 0 (listed i)).map BareUnit.agent_id = listed i :=
    bare_agents _ 0
  have hnodup : ((bare i.execution_id_factory 0 (listed i)).map BareUnit.agent_id).Nodup := by
    rw [hagents]
    exact nodup_eraseDups _
  have hids : ((bare i.execution_id_factory 0 (listed i)).map BareUnit.execution_id).Nodup := by
    rw [bare_ids]
    refine List.Nodup.map_on (fun m hm n hn heq => ?_) List.nodup_range'
    have hm := (List.mem_range'_1.mp hm).2
    have hn := (List.mem_range'_1.mp hn).2
    rw [Nat.zero_add] at hm hn
    rcases Nat.lt_trichotomy m n with hlt | heq' | hlt
    · exact absurd heq ((h.execution_ids n hn).2 m hlt)
    · exact heq'
    · exact absurd heq.symm ((h.execution_ids m hm).2 n hlt)
  have hdeps : ∀ u ∈ bare i.execution_id_factory 0 (listed i), ∀ d ∈ (entry_of map u.agent_id).depends_on,
      ∃ v ∈ bare i.execution_id_factory 0 (listed i), v.agent_id = d := by
    intro u hu d hd
    have hmem : u.agent_id ∈ listed i := hagents ▸ List.mem_map_of_mem hu
    have hd := (workflow_map_depends_on h.workflow hmem).2 d hd
    rw [← hagents] at hd
    exact List.mem_map.mp hd
  rw [h.result]
  refine ⟨?_, nodup_eraseDups _, ?_, ?_, ?_, ?_⟩
  · exact (List.map_map ..).trans hagents
  · rw [assemble, List.map_map]
    exact hids
  · intro u hu v hv
    obtain ⟨a, ha, rfl⟩ := List.mem_map.mp hu
    obtain ⟨b, hb, rfl⟩ := List.mem_map.mp hv
    have hmem : a.agent_id ∈ listed i := hagents ▸ List.mem_map_of_mem ha
    have hdeclared : b.agent_id ∈ declared i a.agent_id ↔ b.agent_id ∈ (entry_of map a.agent_id).depends_on := by
      rw [(workflow_map_depends_on h.workflow hmem).1, List.mem_eraseDups, declared]
    refine Iff.trans ?_ hdeclared.symm
    constructor
    · intro hid
      obtain ⟨d, hd, hid⟩ := List.mem_map.mp hid
      obtain ⟨w, hw, rfl⟩ := hdeps a ha d hd
      rw [execution_id_of_mem hnodup hw] at hid
      rwa [List.inj_on_of_nodup_map hids hw hb hid] at hd
    · intro hd
      exact List.mem_map.mpr ⟨_, hd, execution_id_of_mem hnodup hb⟩
  · intro u hu e he
    obtain ⟨a, ha, rfl⟩ := List.mem_map.mp hu
    obtain ⟨d, hd, rfl⟩ := List.mem_map.mp he
    obtain ⟨w, hw, rfl⟩ := hdeps a ha d hd
    exact ⟨_, List.mem_map_of_mem hw, (execution_id_of_mem hnodup hw).symm⟩
  · have hnodes : (bare i.execution_id_factory 0 (listed i)).map (fun u => graph_node
        (bare i.execution_id_factory 0 (listed i)) map u.agent_id) =
        (listed i).map (graph_node (bare i.execution_id_factory 0 (listed i)) map) :=
      List.map_map.symm.trans
        (congrArg (List.map (graph_node (bare i.execution_id_factory 0 (listed i)) map)) hagents)
    unfold assemble
    dsimp only
    rw [← hnodes, List.map_map]
    refine List.map_congr_left fun u hu => ?_
    rw [graph_node, execution_id_of_mem hnodup hu]
    rfl

/-- The agents of a compiled workflow are in an order in which each one stands in front of those it waits for. -/
theorem order_of_ok (h : compile_task_intent i = .ok r) : ∃ (next : String → List String) (order : List String),
    Cycles.Settled next order ∧ ∀ a ∈ listed i, a ∈ order ∧ ∀ b, b ∈ next a ↔ b ∈ declared i a := by
  obtain ⟨map, h⟩ := compiles_of_ok h
  have hsearch := h.acyclic
  unfold detect_cycles at hsearch
  split at hsearch
  · rename_i m hm
    obtain ⟨hsettled, hall⟩ := Cycles.search_settled hm
    refine ⟨_, m.visited, hsettled, fun a ha => ⟨hall a ha, fun b => ?_⟩⟩
    rw [(workflow_map_depends_on h.workflow ha).1, List.mem_eraseDups, declared]
  · cases hsearch
  · cases hsearch

end Orchestration

end Plachem
