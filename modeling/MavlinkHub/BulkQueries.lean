/-
This file is about the queries that go over all endpoints or all agents. They read one
object after the other, while endpoints and agents go on on threads of their own, so an
answer is no snapshot of the hub. It names exactly what is registered, and each state in
it was that of its object at some moment between the call and the return.

The same holds of the overview, which is refreshed by two such queries. What goes on
meanwhile is given as the steps between the reads. These are not steps of the application
itself: the maps that a query goes over stay as they are.
-/

import MavlinkHub.Library.Scan
import MavlinkHub.Locality
import MavlinkHub.Overview

namespace MavlinkHub

open JsonUtils Transition

variable {sdk : Sdk} {world before after : World sdk}

/-! ### Steps aside -/

/-- A step that is not a call of the application into the manager. -/
def Operation.Aside : Operation sdk → Prop
  | .invoke _ _ => False
  | .executePlan _ => False
  | _ => True

theorem SameInstances.refl (world : World sdk) : SameInstances world world :=
  .of_eq rfl rfl

theorem SameInstances.trans {middle : World sdk} (front : SameInstances before middle)
    (back : SameInstances middle after) : SameInstances before after :=
  ⟨fun target => (back.instances target).trans (front.instances target),
    fun target => (back.agents target).trans (front.agents target)⟩

theorem sameInstances_assign (place : Place) (user : Option MavlinkEndpointUser)
    (world : World sdk) : SameInstances world (world.assign place user) := by
  rw [World.assign_eq]
  refine ⟨fun target => ?_, fun target => rfl⟩
  cases world.handles.lookup place with
  | none => rfl
  | some old => exact instanceAt_adjustUsers _

theorem sameInstances_moveUser (source : Place) (slot : Nat) (world : World sdk) :
    SameInstances world (world.moveUser source slot) := by
  rw [World.moveUser]
  cases world.handles.lookup source with
  | none => exact .refl world
  | some user =>
    have lifted : SameInstances world { world with handles := world.handles.erase source } :=
      .of_eq rfl rfl
    dsimp only
    split_ifs
    · exact .refl world
    · exact lifted.trans (sameInstances_assign _ _ _)

/-- A step aside leaves the registered names with their instances. -/
theorem sameInstances_perform (owned : world.Owned) {operation : Operation sdk}
    (aside : operation.Aside) : SameInstances world (world.perform operation) := by
  cases operation with
  | invoke call slot => exact aside.elim
  | executePlan plan => exact aside.elim
  | resetUser place => exact sameInstances_assign place none world
  | moveUser source slot => exact sameInstances_moveUser source slot world
  | callUser place request =>
    rw [World.perform]
    cases world.handles.lookup place with
    | none => exact .refl world
    | some user =>
      obtain ⟨endpoints, env, events, called, _⟩ := user.call_eq request world
      dsimp only
      rw [called]
      exact .of_eq rfl rfl
  | runAgent name code =>
    rw [World.perform]
    cases stored : world.agents.lookup name with
    | none => exact .refl world
    | some agent => exact (local_runAgent owned stored code).2
  | _ => exact .of_eq rfl rfl

/-! ### Queries that are answered while others go on -/

/-- A manager, and what will be done to it before each of the reads to come. -/
structure BusyManager (sdk : Sdk) where
  world : World sdk
  interference : List (List (Operation sdk))

namespace BusyManager

/-- All that will be done is aside. -/
def Aside (busy : BusyManager sdk) : Prop :=
  ∀ operations ∈ busy.interference, ∀ operation ∈ operations, operation.Aside

/-- Others go on until the next read. -/
def proceed (busy : BusyManager sdk) : BusyManager sdk :=
  match busy.interference with
  | [] => busy
  | operations :: rest => ⟨operations.foldl World.perform busy.world, rest⟩

/-- Go over the objects with the given names, and read each. -/
def queryEach {Answer : Type} (order : VisitingOrder) (names : List String)
    (query : String → World sdk → Option Answer) (busy : BusyManager sdk) :
    Traversal Answer × BusyManager sdk :=
  let (answers, after) :=
    Scan.scan proceed (fun name busy => query name busy.world) names ∅ busy
  (order.visit answers, after)

variable (order : VisitingOrder)

/-- `Manager::getMavlinkEndpointStateAll`, endpoint by endpoint. -/
def getMavlinkEndpointStateAll (busy : BusyManager sdk) :
    Traversal MavlinkEndpointState × BusyManager sdk :=
  busy.queryEach order (order.visit busy.world.endpointDb).keys Manager.getMavlinkEndpointState

/-- `Manager::getAgentStateAll`, agent by agent. -/
def getAgentStateAll (busy : BusyManager sdk) : Traversal AgentState × BusyManager sdk :=
  busy.queryEach order (order.visit busy.world.agents).keys Manager.getAgentState

/-- `Manager::getAgentReportAll`, agent by agent. -/
def getAgentReportAll (busy : BusyManager sdk) : Traversal String × BusyManager sdk :=
  busy.queryEach order (order.visit busy.world.agents).keys Manager.getAgentReport

/-- A function of the manager that is not interfered with. -/
def alone {Answer : Type} (call : World sdk → Answer × World sdk) (busy : BusyManager sdk) :
    Answer × BusyManager sdk :=
  let (answer, world) := call busy.world
  (answer, { busy with world })

/-- The manager behind its interface, while others go on. -/
def interface : IManager (BusyManager sdk) where
  validatePlan plan := alone ((Manager.interface order).validatePlan plan)
  executePlan plan := alone ((Manager.interface order).executePlan plan)
  getMavlinkEndpointList := alone (Manager.interface order).getMavlinkEndpointList
  getMavlinkEndpointState name := alone ((Manager.interface order).getMavlinkEndpointState name)
  getMavlinkEndpointStateAll := getMavlinkEndpointStateAll order
  getAgentList := alone (Manager.interface order).getAgentList
  getAgentState name := alone ((Manager.interface order).getAgentState name)
  getAgentStateAll := getAgentStateAll order
  getAgentReport name := alone ((Manager.interface order).getAgentReport name)
  getAgentReportAll := getAgentReportAll order

/-- One state leads to the other by what is done meanwhile. -/
def ProceedsTo (before after : BusyManager sdk) : Prop :=
  ∃ done, before.interference = done ++ after.interference ∧
    Run World.Step before.world done.flatten after.world

variable {order} {busy before after : BusyManager sdk}

theorem ProceedsTo.refl (busy : BusyManager sdk) : busy.ProceedsTo busy :=
  ⟨[], rfl, .done _⟩

theorem ProceedsTo.trans {middle : BusyManager sdk} (front : before.ProceedsTo middle)
    (back : middle.ProceedsTo after) : before.ProceedsTo after := by
  obtain ⟨first, split, run⟩ := front
  obtain ⟨second, further, continued⟩ := back
  refine ⟨first ++ second, ?_, ?_⟩
  · rw [split, further, List.append_assoc]
  · rw [List.flatten_append]
    exact run.append continued

theorem proceedsTo_proceed (busy : BusyManager sdk) : busy.ProceedsTo busy.proceed := by
  obtain ⟨world, _ | ⟨operations, rest⟩⟩ := busy
  · exact .refl _
  · refine ⟨[operations], rfl, ?_⟩
    rw [List.flatten_singleton]
    exact World.run_foldl operations world

/-- The names and instances stay if all that is done is aside. -/
theorem ProceedsTo.kept (proceeds : before.ProceedsTo after) (aside : before.Aside)
    (reachable : before.world.Reachable) :
    SameInstances before.world after.world ∧ after.Aside ∧ after.world.Reachable := by
  obtain ⟨done, split, run⟩ := proceeds
  have allowed : ∀ operation ∈ done.flatten, operation.Aside := by
    intro operation member
    obtain ⟨operations, listed, member⟩ := List.mem_flatten.mp member
    exact aside operations (split ▸ List.mem_append_left _ listed) operation member
  have held := run.invariantOn Operation.Aside
    (fun world => world.Reachable ∧ SameInstances before.world world)
    (fun world operation next isAside held step => ?_) allowed ⟨reachable, .refl _⟩
  · exact ⟨held.2, fun operations listed => aside operations
      (split ▸ List.mem_append_right _ listed), held.1⟩
  · subst step
    exact ⟨held.1.perform operation, held.2.trans (sameInstances_perform held.1.owned isAside)⟩

/-! ### What an answer says -/

/-- An answer names what is registered, and all that it says of an object was so at some moment
between the call and the return. -/
structure ReadMeanwhile {Answer : Type} (before : BusyManager sdk)
    (query : String → World sdk → Option Answer) (registered : String → Prop)
    (answered : Traversal Answer × BusyManager sdk) : Prop where
  proceeds : before.ProceedsTo answered.2
  names : ∀ name, name ∈ answered.1 ↔ registered name
  held : ∀ name answer, answered.1.lookup name = some answer →
    ∃ middle : BusyManager sdk, before.ProceedsTo middle ∧ middle.ProceedsTo answered.2 ∧
      query name middle.world = some answer

theorem readMeanwhile_queryEach {Answer : Type} {query : String → World sdk → Option Answer}
    {names : List String} {registered : String → Prop}
    (visited : ∀ name, name ∈ names ↔ registered name)
    (answering : ∀ name ∈ names, ∀ middle, busy.ProceedsTo middle →
      (query name middle.world).isSome = true) :
    busy.ReadMeanwhile query registered (busy.queryEach order names query) := by
  refine ⟨Scan.scan_relates ProceedsTo .refl .trans proceedsTo_proceed _ _ _, fun name => ?_,
    fun name answer found => ?_⟩
  · have keys :
        (Scan.scan proceed (fun name busy => query name busy.world) names ∅ busy).1.keys =
          ∅ ∪ names.toFinset := Scan.keys_scan ProceedsTo .trans proceedsTo_proceed answering
    rw [queryEach, mem_visit, ← Finmap.mem_keys, keys, Finset.empty_union, List.mem_toFinset,
      visited]
  · rw [queryEach, lookup_visit] at found
    rcases Scan.lookup_scan ProceedsTo .refl .trans proceedsTo_proceed found with
      old | ⟨_, middle, reached, left, answered⟩
    · rw [Finmap.lookup_empty] at old
      cases old
    · exact ⟨middle, reached, left, answered⟩

/-- Where nothing goes on, the objects are read off one state. -/
theorem queryEach_quiet {Answer : Type} {query : String → World sdk → Option Answer}
    {names : List String} {map : StringMap Answer} (quiet : busy.interference = [])
    (read : ∀ name, map.lookup name = query name busy.world)
    (visited : ∀ name, (query name busy.world).isSome = true → name ∈ names) :
    busy.queryEach order names query = (order.visit map, busy) := by
  have still : busy.proceed = busy := by rw [proceed, quiet]
  have answers : (Scan.scan proceed (fun name busy => query name busy.world) names ∅ busy).1 =
      map := by
    refine Finmap.ext_lookup fun name => ?_
    rw [Scan.lookup_scan_of_still still, Finmap.lookup_empty, Option.or_none, read]
    split_ifs with listed
    · rfl
    · exact (Option.not_isSome_iff_eq_none.mp (listed ∘ visited name)).symm
  rw [queryEach]
  simp only [answers, Scan.scan_of_still still]

end BusyManager

/-! ### The three queries -/

section Queries

variable {busy : BusyManager sdk} {order : VisitingOrder}

/-- Two maps whose entries look alike have the same keys. -/
theorem mem_iff_of_map_lookup {Entry View : Type} {view : Entry → View}
    {first second : StringMap Entry} {name : String}
    (same : (second.lookup name).map view = (first.lookup name).map view) :
    name ∈ second ↔ name ∈ first := by
  have present := congrArg Option.isSome same
  rw [Option.isSome_map, Option.isSome_map] at present
  rw [← Finmap.lookup_isSome, ← Finmap.lookup_isSome, present]

theorem SameInstances.mem_agents (same : SameInstances before after) (name : String) :
    name ∈ after.agents ↔ name ∈ before.agents :=
  mem_iff_of_map_lookup (same.agents name)

theorem SameInstances.mem_endpointDb (same : SameInstances before after) (name : String) :
    name ∈ after.endpointDb ↔ name ∈ before.endpointDb :=
  mem_iff_of_map_lookup (same.instances name)

theorem getAgentReport_isSome_iff (name : String) :
    (Manager.getAgentReport name world).isSome = true ↔ name ∈ world.agents := by
  rw [Manager.getAgentReport, Option.isSome_map, ← Finmap.lookup_isSome]

/-- A query over a map of the manager, in which every object answers and which a step aside
leaves with its names. -/
theorem readMeanwhile_visit {Entry Answer : Type} {query : String → World sdk → Option Answer}
    {map : World sdk → StringMap Entry}
    (answers : ∀ world name, World.Reachable world →
      ((query name world).isSome = true ↔ name ∈ map world))
    (kept : ∀ before after name, SameInstances before after →
      (name ∈ map after ↔ name ∈ map before))
    (reachable : busy.world.Reachable) (aside : busy.Aside) :
    busy.ReadMeanwhile query (· ∈ map busy.world)
      (busy.queryEach order (order.visit (map busy.world)).keys query) := by
  have visited := mem_visit order (map busy.world)
  refine BusyManager.readMeanwhile_queryEach visited fun name listed middle proceeds => ?_
  obtain ⟨same, _, reached⟩ := proceeds.kept aside reachable
  rw [answers middle.world name reached, kept _ _ name same]
  exact (visited name).mp listed

theorem readMeanwhile_getMavlinkEndpointStateAll (reachable : busy.world.Reachable)
    (aside : busy.Aside) :
    busy.ReadMeanwhile Manager.getMavlinkEndpointState (· ∈ busy.world.endpointDb)
      (busy.getMavlinkEndpointStateAll order) :=
  readMeanwhile_visit (fun _ name reached => getMavlinkEndpointState_isSome_iff reached name)
    (fun _ _ name same => same.mem_endpointDb name) reachable aside

/-- The two queries about agents. -/
theorem readMeanwhile_agents {Answer : Type} {query : String → World sdk → Option Answer}
    (answers : ∀ world name, (query name world).isSome = true ↔ name ∈ world.agents)
    (reachable : busy.world.Reachable) (aside : busy.Aside) :
    busy.ReadMeanwhile query (· ∈ busy.world.agents)
      (busy.queryEach order (order.visit busy.world.agents).keys query) :=
  readMeanwhile_visit (fun world name _ => answers world name)
    (fun _ _ name same => same.mem_agents name) reachable aside

theorem getAgentStateAll_quiet (quiet : busy.interference = []) :
    busy.getAgentStateAll order = (order.visit (Manager.getAgentStateAll order busy.world), busy) :=
  BusyManager.queryEach_quiet quiet (lookup_getAgentStateAll order) fun name answered =>
    (mem_visit order _ name).mpr ((getAgentState_isSome_iff name).mp answered)

theorem getMavlinkEndpointStateAll_quiet (reachable : busy.world.Reachable)
    (quiet : busy.interference = []) :
    busy.getMavlinkEndpointStateAll order =
      (order.visit (Manager.getMavlinkEndpointStateAll order busy.world), busy) :=
  BusyManager.queryEach_quiet quiet (lookup_getMavlinkEndpointStateAll order) fun name answered =>
    (mem_visit order _ name).mpr ((getMavlinkEndpointState_isSome_iff reachable name).mp answered)

end Queries

/-! ### The overview -/

/-- A table has one row for each registered name, and what it says of an object was so at some
moment in between. -/
structure RowsMeanwhile {Value : Type} (query : String → World sdk → Option Value)
    (nameOf : Value → String) (registered : String → Prop) (before after : BusyManager sdk)
    (rows : List OverviewRow) : Prop where
  distinct : (rows.map OverviewRow.name).Nodup
  names : ∀ name, name ∈ rows.map OverviewRow.name ↔ registered name
  held : ∀ row ∈ rows, ∃ (middle : BusyManager sdk) (value : Value),
    before.ProceedsTo middle ∧ middle.ProceedsTo after ∧
      query row.name middle.world = some value ∧ row.status = nameOf value

section Tables

variable {busy middle after : BusyManager sdk} {order : VisitingOrder} {jsoncons : Jsoncons}
  {truncate : String → Int} {inputs : AppServiceCommand → CallInputs}

/-- The rows of an answer, seen from before the call and from after the return. -/
theorem BusyManager.ReadMeanwhile.rows {Value : Type} {query : String → World sdk → Option Value}
    {nameOf : Value → String} {registered : String → Prop}
    {answered : Traversal Value × BusyManager sdk} {before : BusyManager sdk}
    (read : middle.ReadMeanwhile query registered answered) (earlier : before.ProceedsTo middle)
    (later : answered.2.ProceedsTo after) :
    RowsMeanwhile query nameOf registered before after (CliUiController.overviewRows
      (answered.1.entries.map fun entry => (entry.1, nameOf entry.2))) := by
  have exact := (listsExactly_entries answered.1 nameOf).overviewRows
  refine ⟨exact.distinct, fun name => ?_, fun row member => ?_⟩
  · rw [exact.mem_names_iff, Finmap.lookup_toFinmap, AList.lookup_isSome, read.names]
  · obtain ⟨value, found, same⟩ := (exact.row row).mp member
    rw [Finmap.lookup_toFinmap] at found
    obtain ⟨moment, reached, left, held⟩ := read.held row.name value found
    exact ⟨moment, value, earlier.trans reached, left.trans later, held,
      congrArg OverviewRow.status same⟩

/-- Both commands succeed and both answers decode. -/
theorem updateOverviewData_busy
    (agents : jsoncons.Inverts (agentStatusListJson (busy.getAgentStateAll order).1))
    (endpoints : jsoncons.Inverts (endpointStatusListJson
      ((busy.getAgentStateAll order).2.getMavlinkEndpointStateAll order).1))
    (tables : OverviewTables) (service : AppServiceImpl) :
    CliUiController.updateOverviewData jsoncons truncate
        (AppService.interface jsoncons (BusyManager.interface order) inputs) tables
        (service, busy) =
      (⟨CliUiController.overviewRows ((busy.getAgentStateAll order).1.entries.map fun entry =>
          (entry.1, agentStateToString entry.2)),
        CliUiController.overviewRows
          (((busy.getAgentStateAll order).2.getMavlinkEndpointStateAll order).1.entries.map
            fun entry => (entry.1, endpointStateToString entry.2))⟩,
        (service, ((busy.getAgentStateAll order).2.getMavlinkEndpointStateAll order).2)) := by
  have agentsDecoded := agentStatusListFromJsonString_toJsonString truncate _ agents
  have endpointsDecoded :=
    endpointStatusListFromJsonString_toJsonString truncate _ endpoints
  simp only [CliUiController.updateOverviewData, AppService.interface, AppService.executeCommand,
    BusyManager.interface, CliUiController.refreshRows, if_true, agentsDecoded, endpointsDecoded]

/-- Where nothing goes on, a refresh is the one over the manager at rest. -/
theorem updateOverviewData_quiet (reachable : busy.world.Reachable)
    (quiet : busy.interference = [])
    (agents : jsoncons.Inverts (agentStatusListJson (busy.getAgentStateAll order).1))
    (endpoints : jsoncons.Inverts (endpointStatusListJson
      ((busy.getAgentStateAll order).2.getMavlinkEndpointStateAll order).1))
    (tables : OverviewTables) (service : AppServiceImpl) :
    CliUiController.updateOverviewData jsoncons truncate
        (AppService.interface jsoncons (BusyManager.interface order) inputs) tables
        (service, busy) =
      ((CliUiController.updateOverviewData jsoncons truncate
        (AppService.interface jsoncons (Manager.interface order) inputs) tables
        (service, busy.world)).1, (service, busy)) := by
  rw [updateOverviewData_busy agents endpoints]
  rw [getAgentStateAll_quiet quiet] at agents endpoints ⊢
  rw [getMavlinkEndpointStateAll_quiet reachable quiet] at endpoints ⊢
  rw [updateOverviewData_interface agents endpoints]

end Tables

/-- Every answer of a query over all objects, and every row of a refreshed overview, was so at
some moment between the call and the return, and they name exactly what is registered. Where
nothing goes on in between, a refresh is the one over the manager at rest. -/
theorem overview_readMeanwhile {busy : BusyManager sdk} (order : VisitingOrder)
    (reachable : busy.world.Reachable) (aside : busy.Aside) :
    (busy.ReadMeanwhile Manager.getAgentState (· ∈ busy.world.agents)
        (busy.getAgentStateAll order) ∧
      busy.ReadMeanwhile Manager.getAgentReport (· ∈ busy.world.agents)
        (busy.getAgentReportAll order) ∧
      busy.ReadMeanwhile Manager.getMavlinkEndpointState (· ∈ busy.world.endpointDb)
        (busy.getMavlinkEndpointStateAll order)) ∧
    ∀ (jsoncons : Jsoncons) (truncate : String → Int) (inputs : AppServiceCommand → CallInputs)
        (tables : OverviewTables) (service : AppServiceImpl),
      jsoncons.Inverts (agentStatusListJson (busy.getAgentStateAll order).1) →
      jsoncons.Inverts (endpointStatusListJson
        ((busy.getAgentStateAll order).2.getMavlinkEndpointStateAll order).1) →
      let refreshed := CliUiController.updateOverviewData jsoncons truncate
        (AppService.interface jsoncons (BusyManager.interface order) inputs) tables
        (service, busy)
      (refreshed.2.1 = service ∧ busy.ProceedsTo refreshed.2.2) ∧
        RowsMeanwhile Manager.getAgentState agentStateToString (· ∈ busy.world.agents) busy
          refreshed.2.2 refreshed.1.agentRows ∧
        RowsMeanwhile Manager.getMavlinkEndpointState endpointStateToString
          (· ∈ busy.world.endpointDb) busy refreshed.2.2 refreshed.1.endpointRows ∧
        (busy.interference = [] → refreshed.2.2 = busy ∧
          refreshed.1 = (CliUiController.updateOverviewData jsoncons truncate
            (AppService.interface jsoncons (Manager.interface order) inputs) tables
            (service, busy.world)).1) := by
  have agentStates : busy.ReadMeanwhile Manager.getAgentState (· ∈ busy.world.agents)
      (busy.getAgentStateAll order) :=
    readMeanwhile_agents (fun _ name => getAgentState_isSome_iff name) reachable aside
  refine ⟨⟨agentStates,
    readMeanwhile_agents (fun _ name => getAgentReport_isSome_iff name) reachable aside,
    readMeanwhile_getMavlinkEndpointStateAll reachable aside⟩, ?_⟩
  intro jsoncons truncate inputs tables service agents endpoints refreshed
  -- The endpoints are read where the agents have been left.
  obtain ⟨same, stillAside, stillReachable⟩ := agentStates.proceeds.kept aside reachable
  have endpointStates : (busy.getAgentStateAll order).2.ReadMeanwhile
      Manager.getMavlinkEndpointState (· ∈ busy.world.endpointDb)
      ((busy.getAgentStateAll order).2.getMavlinkEndpointStateAll order) := by
    obtain ⟨proceeds, names, held⟩ :=
      readMeanwhile_getMavlinkEndpointStateAll stillReachable stillAside
    exact ⟨proceeds, fun name => (names name).trans (same.mem_endpointDb name), held⟩
  have answered : refreshed = _ := updateOverviewData_busy agents endpoints tables service
  refine ⟨?_, ?_, ?_, fun still => ?_⟩
  · rw [answered]
    exact ⟨rfl, agentStates.proceeds.trans endpointStates.proceeds⟩
  · rw [answered]
    exact agentStates.rows (.refl busy) endpointStates.proceeds
  · rw [answered]
    exact endpointStates.rows agentStates.proceeds (.refl _)
  · have rested : refreshed = _ :=
      updateOverviewData_quiet reachable still agents endpoints tables service
    rw [rested]
    exact ⟨rfl, rfl⟩

/-- The sample where the link breaks under the first message. -/
abbrev lossySdk : Sdk :=
  { sampleSdk with writeMessage := fun _ env _ => (0, false, env) }

/-- An empty manager over it. -/
def lossyWorld : World lossySdk :=
  .initial sampleWorld.agentRegistry sampleWorld.transportRegistry ()

/-- The plan has been executed, and while a refresh reads the endpoints the agent writes a message
through its handle. -/
def messageBetween : BusyManager lossySdk where
  world := lossyWorld.perform (.executePlan samplePlan)
  interference := [[], [.callUser ⟨some 0, 0⟩ (.writeMessage ())]]

/-- A refresh over it writes these documents, in which the link is already down. -/
def brokenLinkDocuments : List Json :=
  [agentStatusListJson (AList.singleton "courier" .idle),
    endpointStatusListJson (AList.singleton "link" .disconnected)]

theorem keys_visit_of_single {Value : Type} {map : StringMap Value} {name : String}
    (order : VisitingOrder) (keys : map.keys = {name}) : (order.visit map).keys = [name] := by
  refine List.perm_singleton.mp ((List.perm_ext_iff_of_nodup (order.visit map).keys_nodup
    (List.nodup_singleton name)).mpr fun other => ?_)
  rw [List.mem_singleton, ← Finset.mem_singleton, ← keys, Finmap.mem_keys]
  exact mem_visit order map other

theorem queryEach_single {Answer : Type} {query : String → World sdk → Option Answer}
    {busy : BusyManager sdk} {name : String} {answer : Answer} (order : VisitingOrder)
    (answered : query name busy.proceed.world = some answer) :
    busy.queryEach order [name] query = (AList.singleton name answer, busy.proceed) := by
  rw [BusyManager.queryEach, Scan.scan_cons_of_some answered]
  exact Prod.ext (visit_singleton order name answer) rfl

theorem getAgentStateAll_messageBetween (order : VisitingOrder) :
    messageBetween.getAgentStateAll order =
      (AList.singleton "courier" .idle, messageBetween.proceed) := by
  have keys : messageBetween.world.agents.keys = {"courier"} := by decide
  rw [BusyManager.getAgentStateAll, keys_visit_of_single order keys]
  exact queryEach_single order (by decide)

theorem getMavlinkEndpointStateAll_messageBetween (order : VisitingOrder) :
    messageBetween.proceed.getMavlinkEndpointStateAll order =
      (AList.singleton "link" .disconnected, messageBetween.proceed.proceed) := by
  have keys : messageBetween.proceed.world.endpointDb.keys = {"link"} := by decide
  rw [BusyManager.getMavlinkEndpointStateAll, keys_visit_of_single order keys]
  exact queryEach_single order (by decide)

theorem overview_readMeanwhile_sample :
    let order := Classical.arbitrary VisitingOrder
    let refreshed := CliUiController.updateOverviewData (.reading brokenLinkDocuments)
      (fun _ => 0) (AppService.interface (.reading brokenLinkDocuments)
        (BusyManager.interface order) fun _ => ⟨none, false, .discard, order⟩) {}
      ({}, messageBetween)
    Manager.getMavlinkEndpointState "link" messageBetween.world = some .connected ∧
      (∀ name, name ∈ (messageBetween.getAgentReportAll order).1 ↔
        name ∈ messageBetween.world.agents) ∧
      "courier" ∈ refreshed.1.agentRows.map OverviewRow.name ∧
      ∃ row ∈ refreshed.1.endpointRows, row.name = "link" ∧
        ∃ (middle : BusyManager lossySdk) (state : MavlinkEndpointState),
          messageBetween.ProceedsTo middle ∧ middle.ProceedsTo refreshed.2.2 ∧
          Manager.getMavlinkEndpointState "link" middle.world = some state ∧
          row.status = endpointStateToString state := by
  intro order refreshed
  have initial : lossyWorld.Reachable := World.reachable_initial _ _ _
  have reachable : messageBetween.world.Reachable := initial.perform (.executePlan samplePlan)
  have aside : messageBetween.Aside := by
    intro operations listed operation member
    rcases List.mem_pair.mp listed with rfl | rfl
    · cases member
    · rw [List.mem_singleton.mp member]
      exact trivial
  have agents : (Jsoncons.reading brokenLinkDocuments).Inverts
      (agentStatusListJson (messageBetween.getAgentStateAll order).1) := by
    rw [getAgentStateAll_messageBetween]
    exact Jsoncons.reading_inverts_head _ _
  have endpoints : (Jsoncons.reading brokenLinkDocuments).Inverts (endpointStatusListJson
      ((messageBetween.getAgentStateAll order).2.getMavlinkEndpointStateAll order).1) := by
    rw [getAgentStateAll_messageBetween, getMavlinkEndpointStateAll_messageBetween]
    exact Jsoncons.reading_inverts_tail (by decide) (Jsoncons.reading_inverts_head _ _)
  obtain ⟨⟨_, reports, _⟩, refresh⟩ := overview_readMeanwhile order reachable aside
  obtain ⟨_, agentRows, endpointRows, _⟩ := refresh (.reading brokenLinkDocuments) (fun _ => 0)
    (fun _ => ⟨none, false, .discard, order⟩) {} {} agents endpoints
  refine ⟨by decide, reports.names, (agentRows.names "courier").mpr (by decide), ?_⟩
  obtain ⟨row, member, named⟩ := List.mem_map.mp ((endpointRows.names "link").mpr (by decide))
  obtain ⟨middle, state, earlier, later, held, shown⟩ := endpointRows.held row member
  exact ⟨row, member, named, middle, state, earlier, later, named ▸ held, shown⟩

end MavlinkHub
