/-
This file transcribes the destruction of the manager and follows every object to its end.
The members of `ManagerImpl` go in the reverse of the order in which they are declared:
the agents first, whose destructors still find the endpoints and their counters, and then
the endpoints. Each member goes the way it would if it were removed, so the destruction
is a run of removals, and what holds after every run holds after it.

Nothing is left then. Whatever the manager ever had registered was created once, used
only while it lived, and destroyed once.
-/

import MavlinkHub.Locality
import MavlinkHub.ObjectLifetimes

namespace MavlinkHub

open Manager Transition

variable {sdk : Sdk} {name : String} {world : World sdk}

/-! ### The destructor -/

namespace Manager

/-- The `unique_ptr` to an agent goes: the destructor of the agent runs, and its members go. -/
def destroyAgentMember (name : String) (agent : AgentInstance sdk) (world : World sdk) :
    World sdk :=
  ((sdk.destroyAgent agent.object).run agent.id ⟨name⟩
    (destroying name agent world)).2.destroyHandles agent.id

/-- The member `agents` goes. -/
def destroyAgents (order : VisitingOrder) (world : World sdk) : World sdk :=
  (order.visit world.agents).entries.foldl
    (fun world entry => destroyAgentMember entry.1 entry.2 world) world

/-- The member `endpoint_db` goes, with the only owning references to the endpoints. -/
def destroyEndpoints (order : VisitingOrder) (world : World sdk) : World sdk :=
  (order.visit world.endpointDb).entries.foldl
    (fun world entry => unregistered entry.1 entry.2 world) world

/-- `~Manager`: the members of `ManagerImpl` go, the last one first. -/
def destroy (order : VisitingOrder) (world : World sdk) : World sdk :=
  destroyEndpoints order (destroyAgents order world)

end Manager

/-! ### Emptying a map -/

/-- Destroying the members of a map one by one is a run, and empties the map, if destroying a
member is what an operation does and takes the member out of the map. -/
theorem run_destroyMembers {Value : Type} (map : World sdk → StringMap Value)
    (operation : String → Operation sdk) (member : String → Value → World sdk → World sdk)
    (performs : ∀ {name value world}, (map world).lookup name = some value →
      world.perform (operation name) = member name value world)
    (erases : ∀ {name value world}, world.Reachable → (map world).lookup name = some value →
      map (member name value world) = (map world).erase name)
    {entries : List (Σ _ : String, Value)} (nodup : entries.NodupKeys) (reachable : world.Reachable)
    (stored : ∀ entry ∈ entries, (map world).lookup entry.1 = some entry.2) :
    Run World.Step world (entries.map fun entry => operation entry.1)
        (entries.foldl (fun world entry => member entry.1 entry.2 world) world) ∧
      ∀ name, (map (entries.foldl (fun world entry => member entry.1 entry.2 world)
          world)).lookup name =
        if name ∈ entries.keys then none else (map world).lookup name := by
  induction entries generalizing world with
  | nil => exact ⟨.done world, fun name => rfl⟩
  | cons entry rest inductionHypothesis =>
    obtain ⟨absent, nodupRest⟩ := List.nodupKeys_cons.mp nodup
    have storedEntry := stored entry List.mem_cons_self
    have step := performs storedEntry
    have erased := erases reachable storedEntry
    have kept : ∀ other ∈ rest,
        (map (member entry.1 entry.2 world)).lookup other.1 = some other.2 := by
      intro other later
      have different : other.1 ≠ entry.1 := by
        intro same
        exact absent (same ▸ List.mem_map_of_mem later)
      rw [erased, Finmap.lookup_erase_ne different]
      exact stored other (List.mem_cons_of_mem _ later)
    have reached : (member entry.1 entry.2 world).Reachable :=
      step ▸ reachable.perform (operation entry.1)
    obtain ⟨run, emptied⟩ := inductionHypothesis nodupRest reached kept
    refine ⟨.next step run, fun name => ?_⟩
    rw [List.foldl_cons, emptied, erased, List.keys_cons]
    by_cases same : name = entry.1
    · rw [same, Finmap.lookup_erase, ite_self, if_pos List.mem_cons_self]
    · rw [Finmap.lookup_erase_ne same]
      simp only [List.mem_cons, same, false_or]

/-- A traversal has each entry of its map, and no other. -/
theorem visit_entries {Value : Type} (order : VisitingOrder) (map : StringMap Value) :
    (∀ entry ∈ (order.visit map).entries, map.lookup entry.1 = some entry.2) ∧
      ∀ name, name ∈ (order.visit map).entries.keys ↔ name ∈ map := by
  refine ⟨fun entry member => ?_, mem_visit order map⟩
  rw [← lookup_visit order]
  exact AList.mem_lookup_iff.mpr member

/-- A map in which every lookup fails is empty. -/
theorem eq_empty_of_lookup {Value : Type} {map : StringMap Value}
    (absent : ∀ name, map.lookup name = none) : map = ∅ :=
  Finmap.ext_lookup fun name => absent name

/-! ### The destruction is a run -/

theorem perform_removeAgent {agent : AgentInstance sdk}
    (stored : world.agents.lookup name = some agent) :
    world.perform (.invoke (.removeAgent name) 0) = destroyAgentMember name agent world := by
  show (removeAgent name world).2 = _
  rcases removeAgent_cases name world with ⟨absent, _, _⟩ | ⟨other, sameAgent, _, removed⟩
  · rw [stored] at absent
    cases absent
  · rw [stored, Option.some_inj] at sameAgent
    rw [removed, sameAgent, destroyAgentMember]

theorem agents_destroyAgentMember {agent : AgentInstance sdk} (owned : world.Owned)
    (stored : world.agents.lookup name = some agent) :
    (destroyAgentMember name agent world).agents = world.agents.erase name := by
  rw [← perform_removeAgent stored]
  exact (frame_removeAgent owned stored).1.agents

theorem perform_removeMavlinkEndpoint {entry : EndpointEntry}
    (registered : world.endpointDb.lookup name = some entry) :
    world.perform (.invoke (.removeMavlinkEndpoint name) 0) = unregistered name entry world := by
  show (removeMavlinkEndpoint name world).2 = _
  rcases removeMavlinkEndpoint_cases name world with ⟨absent, _, _⟩ | ⟨other, same, _, removed⟩
  · rw [registered] at absent
    cases absent
  · rw [registered, Option.some_inj] at same
    rw [removed, same]

/-- The agents go in a run, after which there are none. -/
theorem destroyAgents_run (order : VisitingOrder) (reachable : world.Reachable) :
    (∃ operations, Run World.Step world operations (destroyAgents order world) ∧
        ∀ operation ∈ operations, ¬operation.Registers) ∧
      (destroyAgents order world).agents = ∅ := by
  obtain ⟨stored, keys⟩ := visit_entries order world.agents
  obtain ⟨run, emptied⟩ := run_destroyMembers (fun world => world.agents)
    (fun name => .invoke (.removeAgent name) 0) destroyAgentMember perform_removeAgent
    (fun reachable => agents_destroyAgentMember reachable.owned)
    (order.visit world.agents).nodupKeys reachable stored
  refine ⟨⟨_, run, fun operation member => ?_⟩, eq_empty_of_lookup fun name => ?_⟩
  · obtain ⟨entry, _, rfl⟩ := List.mem_map.mp member
    exact id
  · rw [destroyAgents, emptied]
    split_ifs with visited
    · rfl
    · exact Finmap.lookup_eq_none.mpr fun present => visited ((keys name).mpr present)

theorem agents_foldl_unregistered (entries : List (Σ _ : String, EndpointEntry)) :
    (entries.foldl (fun world entry => unregistered entry.1 entry.2 world) world).agents =
      world.agents := by
  induction entries generalizing world with
  | nil => rfl
  | cons entry rest inductionHypothesis =>
    rw [List.foldl_cons, inductionHypothesis]
    rfl

/-- The endpoints go in a run, after which there are none, and no agent has come. -/
theorem destroyEndpoints_run (order : VisitingOrder) (reachable : world.Reachable) :
    (∃ operations, Run World.Step world operations (destroyEndpoints order world) ∧
        ∀ operation ∈ operations, ¬operation.Registers) ∧
      (destroyEndpoints order world).endpointDb = ∅ ∧
      (destroyEndpoints order world).agents = world.agents := by
  obtain ⟨stored, keys⟩ := visit_entries order world.endpointDb
  obtain ⟨run, emptied⟩ := run_destroyMembers (fun world => world.endpointDb)
    (fun name => .invoke (.removeMavlinkEndpoint name) 0) unregistered
    perform_removeMavlinkEndpoint (fun _ _ => rfl)
    (order.visit world.endpointDb).nodupKeys reachable stored
  refine ⟨⟨_, run, fun operation member => ?_⟩, eq_empty_of_lookup fun name => ?_,
    agents_foldl_unregistered _⟩
  · obtain ⟨entry, _, rfl⟩ := List.mem_map.mp member
    exact id
  · rw [destroyEndpoints, emptied]
    split_ifs with visited
    · rfl
    · exact Finmap.lookup_eq_none.mpr fun present => visited ((keys name).mpr present)

/-- The destructor of the manager is a run, and leaves neither agents nor endpoints. -/
theorem destroy_run (order : VisitingOrder) (reachable : world.Reachable) :
    (∃ operations, Run World.Step world operations (destroy order world) ∧
        ∀ operation ∈ operations, ¬operation.Registers) ∧
      (destroy order world).agents = ∅ ∧ (destroy order world).endpointDb = ∅ := by
  obtain ⟨⟨agentOperations, agentRun, agentsSilent⟩, noAgents⟩ :=
    destroyAgents_run order reachable
  obtain ⟨⟨endpointOperations, endpointRun, endpointsSilent⟩, noEndpoints, agents⟩ :=
    destroyEndpoints_run order (reachable.run agentRun)
  refine ⟨⟨_, agentRun.append endpointRun, fun operation member => ?_⟩, agents.trans noAgents,
    noEndpoints⟩
  exact (List.mem_append.mp member).elim (agentsSilent operation) (endpointsSilent operation)

/-! ### Whole lives -/

theorem World.Reachable.agentCensus (reachable : world.Reachable) :
    world.agentCensus.Sound Event.agentMoment := by
  obtain ⟨agentRegistry, transportRegistry, env, operations, run⟩ := reachable
  have owned := (World.reachable_initial agentRegistry transportRegistry env).owned
  have sound := (World.reachable_initial agentRegistry transportRegistry env).sound
  refine ((LivesContinue.run run).agents owned sound).sound (Census.sound_of_nil rfl ?_)
  rintro agent ⟨name, registered⟩
  cases registered

theorem World.Reachable.endpointCensus (reachable : world.Reachable) :
    world.endpointCensus.Sound Event.endpointMoment := by
  obtain ⟨agentRegistry, transportRegistry, env, operations, run⟩ := reachable
  have sound := (World.reachable_initial agentRegistry transportRegistry env).sound
  exact ((LivesContinue.run run).endpoints sound).sound
    (Census.sound_of_nil rfl fun endpoint => Finmap.notMem_empty)

/-- Every agent lives once: over any run and the destruction of the manager, what is logged about
an agent object is its creation, then its uses, then its destruction, and an agent that was
ever registered is destroyed. -/
theorem agents_liveOnce {last : World sdk}
    {operations : List (Operation sdk)} (reachable : world.Reachable)
    (run : Run World.Step world operations last) (order : VisitingOrder) :
    (∀ agent, Event.agentMoment.life agent (destroy order last).log = [] ∨
        (∃ uses, Event.agentMoment.life agent (destroy order last).log =
          .birth :: List.replicate uses .use) ∨
        ∃ uses, Event.agentMoment.life agent (destroy order last).log =
          .birth :: (List.replicate uses .use ++ [.death])) ∧
      ∀ name agent, world.agents.lookup name = some agent →
        ∃ uses, Event.agentMoment.life agent.id (destroy order last).log =
          .birth :: (List.replicate uses .use ++ [.death]) := by
  have reached := reachable.run run
  obtain ⟨⟨removals, destroyed, _⟩, noAgents, _⟩ := destroy_run order reached
  refine ⟨(reached.run destroyed).agentCensus.lives, fun name agent registered => ?_⟩
  have continued := (LivesContinue.run (run.append destroyed)).agents reachable.owned
    reachable.sound
  have present : world.agentCensus.present agent.id := ⟨name, agentAt_of_lookup registered⟩
  refine Moments.stageAfter_dead_iff.mp
    ((continued.left reachable.agentCensus agent.id present).resolve_left ?_)
  rintro ⟨other, still⟩
  rw [agentAt, noAgents] at still
  cases still

/-- A run in which an agent with a handle is stopped, and the manager goes. -/
theorem agents_liveOnce_sample :
    ∃ uses, Event.agentMoment.life 0 (destroy (Classical.arbitrary VisitingOrder)
        (servedWorld.perform (.invoke (.stopAgent "courier") 0))).log =
      .birth :: (List.replicate uses .use ++ [.death]) :=
  (agents_liveOnce (linkedWorld_reachable.perform _) (.single rfl) _).2 "courier"
    ⟨0, .courier, ()⟩ rfl

/-- Every endpoint lives once: over any run and the destruction of the manager, what is logged
about an endpoint object is its creation, then the connections, disconnections and calls that
reached it, then its destruction, and an endpoint that was ever registered is destroyed. -/
theorem endpoints_liveOnce {last : World sdk} {operations : List (Operation sdk)}
    (reachable : world.Reachable) (run : Run World.Step world operations last)
    (order : VisitingOrder) :
    (∀ endpoint, Event.endpointMoment.life endpoint (destroy order last).log = [] ∨
        (∃ uses, Event.endpointMoment.life endpoint (destroy order last).log =
          .birth :: List.replicate uses .use) ∨
        ∃ uses, Event.endpointMoment.life endpoint (destroy order last).log =
          .birth :: (List.replicate uses .use ++ [.death])) ∧
      ∀ name entry, world.endpointDb.lookup name = some entry →
        ∃ uses, Event.endpointMoment.life entry.endpoint (destroy order last).log =
          .birth :: (List.replicate uses .use ++ [.death]) := by
  have reached := reachable.run run
  obtain ⟨⟨removals, destroyed, _⟩, _, noEndpoints⟩ := destroy_run order reached
  have final := reached.run destroyed
  refine ⟨final.endpointCensus.lives, fun name entry registered => ?_⟩
  have continued := (LivesContinue.run (run.append destroyed)).endpoints reachable.sound
  refine Moments.stageAfter_dead_iff.mp ((continued.left reachable.endpointCensus entry.endpoint
    (present_of_entry reachable.sound registered)).resolve_left ?_)
  intro still
  have alive : entry.endpoint ∈ (destroy order last).ledger.alive := Finmap.mem_keys.mpr still
  obtain ⟨other, isRegistered⟩ := (final.sound.alive entry.endpoint).mp alive
  have empty : (destroy order last).ledger.endpointDb = ∅ := noEndpoints
  rw [instanceAt, empty] at isRegistered
  cases isRegistered

theorem endpoints_liveOnce_sample :
    ∃ uses, Event.endpointMoment.life 0 (destroy (Classical.arbitrary VisitingOrder)
        (servedWorld.perform (.invoke (.removeMavlinkEndpoint "link") 0))).log =
      .birth :: (List.replicate uses .use ++ [.death]) :=
  (endpoints_liveOnce (linkedWorld_reachable.perform _) (.single rfl) _).2 "link"
    ⟨0, Tally.bump "courier" ∅⟩ rfl

/-! ### Handles -/

/-- The handle that an event issues. -/
def Event.issued : Event sdk → Option MavlinkEndpointUser
  | .createUser user => some user
  | _ => none

/-- The handle that an event destroys. -/
def Event.dropped : Event sdk → Option MavlinkEndpointUser
  | .destroyUser user _ => some user
  | _ => none

namespace Ledger

/-- The handle that a move issues. -/
def Move.issued : Move → Option MavlinkEndpointUser
  | .issue user => some user
  | _ => none

/-- The handle that a move destroys. -/
def Move.dropped : Move → Option MavlinkEndpointUser
  | .drop user => some user
  | _ => none

/-- The handles at the start and those issued are the handles at the end and those destroyed. -/
theorem users_run {first last : Ledger} {moves : List Move} (run : Run Step first moves last) :
    first.users + ↑(moves.filterMap Move.issued) =
      last.users + ↑(moves.filterMap Move.dropped) := by
  induction run with
  | done ledger => rfl
  | next head tail inductionHypothesis =>
    cases head with
    | register name absent => exact inductionHypothesis
    | unregister name entry registered => exact inductionHypothesis
    | issue user registered =>
      rw [List.filterMap_cons_some (show Move.issued (.issue user) = some user from rfl),
        List.filterMap_cons_none (show Move.dropped (.issue user) = none from rfl),
        ← Multiset.cons_coe, Multiset.add_cons, ← inductionHypothesis, Multiset.cons_add]
    | drop user rest held =>
      rw [List.filterMap_cons_none (show Move.issued (.drop user) = none from rfl),
        List.filterMap_cons_some (show Move.dropped (.drop user) = some user from rfl),
        ← Multiset.cons_coe, Multiset.add_cons, ← inductionHypothesis, held, Multiset.cons_add]
    | release name requester => exact inductionHypothesis

end Ledger

/-- What the events of a log report of the moves behind them. -/
theorem filterMap_of_moves {Report : Type} {log : List (Event sdk)} {moves : List Ledger.Move}
    (reported : log.filterMap Event.move = moves.filter fun move => !move.isRelease)
    {ofEvent : Event sdk → Option Report} {ofMove : Ledger.Move → Option Report}
    (reports : ∀ event, ofEvent event = event.move.bind ofMove)
    (silent : ∀ move, (if !move.isRelease then ofMove move else none) = ofMove move) :
    log.filterMap ofEvent = moves.filterMap ofMove := by
  have byMove : log.filterMap ofEvent = (log.filterMap Event.move).filterMap ofMove := by
    rw [List.filterMap_filterMap]
    exact List.filterMap_congr fun event _ => reports event
  rw [byMove, reported, List.filterMap_filter]
  exact List.filterMap_congr fun move _ => silent move

/-- The handles issued so far are those destroyed and those that are live. -/
theorem World.Reachable.handles (reachable : world.Reachable) :
    (↑(world.log.filterMap Event.issued) : Multiset MavlinkEndpointUser) =
      Holdings.values world.handles + ↑(world.log.filterMap Event.dropped) := by
  obtain ⟨moves, run, reported⟩ := reachable.trace
  have issued : world.log.filterMap Event.issued = moves.filterMap Ledger.Move.issued :=
    filterMap_of_moves reported (fun event => by cases event <;> rfl)
      fun move => by cases move <;> rfl
  have dropped : world.log.filterMap Event.dropped = moves.filterMap Ledger.Move.dropped :=
    filterMap_of_moves reported (fun event => by cases event <;> rfl)
      fun move => by cases move <;> rfl
  have conserved := Ledger.users_run run
  have start : Ledger.empty.users = 0 := rfl
  rw [start, zero_add] at conserved
  rw [issued, dropped, conserved]
  rfl

/-- The destruction of the manager leaves no agent, no endpoint and no handle of an agent. Every
handle ever issued has been destroyed as often as it was issued, but for those that agents
had handed out. -/
theorem destroy_leavesNothing (reachable : world.Reachable) (order : VisitingOrder) :
    (destroy order world).agents = ∅ ∧ (destroy order world).endpointDb = ∅ ∧
      (∀ endpoint, endpoint ∉ (destroy order world).endpoints) ∧
      (∀ place user, (destroy order world).handles.lookup place = some user →
        place.owner = none) ∧
      (↑((destroy order world).log.filterMap Event.issued) : Multiset MavlinkEndpointUser) =
        Holdings.values (destroy order world).handles +
          ↑((destroy order world).log.filterMap Event.dropped) := by
  obtain ⟨⟨removals, destroyed, _⟩, noAgents, noEndpoints⟩ := destroy_run order reachable
  have final := reachable.run destroyed
  refine ⟨noAgents, noEndpoints, fun endpoint present => ?_, fun place user held => ?_,
    final.handles⟩
  · have alive : endpoint ∈ (destroy order world).ledger.alive := Finmap.mem_keys.mpr present
    obtain ⟨name, registered⟩ := (final.sound.alive endpoint).mp alive
    have empty : (destroy order world).ledger.endpointDb = ∅ := noEndpoints
    rw [instanceAt, empty] at registered
    cases registered
  · cases owner : place.owner with
    | none => rfl
    | some agent =>
      have registered := final.owned.held place user agent held owner
      rw [agentAt, noAgents] at registered
      cases registered

/-- An agent that keeps the second of its two handles. The first has been moved outside. -/
def handedOutWorld : World sampleSdk :=
  (servedWorld.perform (.invoke (.stopAgent "courier") 0)).perform (.moveUser ⟨some 0, 0⟩ 7)

theorem destroy_leavesNothing_sample :
    let destroyed := destroy (Classical.arbitrary VisitingOrder) handedOutWorld
    (handedOutWorld.handles.lookup ⟨some 0, 1⟩).isSome = true ∧
      (destroyed.agents = ∅ ∧ destroyed.endpointDb = ∅ ∧ 0 ∉ destroyed.endpoints) ∧
      destroyed.handles.lookup ⟨some 0, 1⟩ = none ∧
      (↑(destroyed.log.filterMap Event.issued) : Multiset MavlinkEndpointUser) =
        Holdings.values destroyed.handles + ↑(destroyed.log.filterMap Event.dropped) := by
  intro destroyed
  have reachable : handedOutWorld.Reachable :=
    ((linkedWorld_reachable.perform _).perform _).perform _
  obtain ⟨agents, endpointDb, endpoints, handles, balanced⟩ :=
    destroy_leavesNothing reachable (Classical.arbitrary VisitingOrder)
  refine ⟨by decide, ⟨agents, endpointDb, endpoints 0⟩, ?_, balanced⟩
  cases held : destroyed.handles.lookup ⟨some 0, 1⟩ with
  | none => rfl
  | some user =>
    have outside := handles ⟨some 0, 1⟩ user held
    cases outside

end MavlinkHub
