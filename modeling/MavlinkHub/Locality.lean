/-
This file proves what the manager's operations leave alone. An operation on an
endpoint or an agent changes the entry of its own name and no other, apart from the
counters of the agent whose code it runs, and an operation that fails changes no name
and no instance.

The subtle case is an agent whose creation fails after it has requested endpoints.
Its counters come back exactly: while agent code runs, the counter of its name minus
the number of handles its object holds does not move, and the object ends up holding
none.
-/

import MavlinkHub.Ownership

namespace MavlinkHub

open Manager Transition

variable {sdk : Sdk} {self : AgentId} {name : String} {before between after world : World sdk}

/-! ### The balance of an agent -/

/-- Whether a place of an object holds a handle that carries an endpoint name. -/
def isHeldBy (self : AgentId) (target : String) (place : Place) (user : MavlinkEndpointUser) :
    Bool :=
  place.owner = some self ∧ user.endpointName = target

/-- How often a name is counted at an endpoint beyond the handles an object holds. -/
def World.balance (self : AgentId) (name target : String) (world : World sdk) : Int :=
  countAt world.endpointDb target name - Holdings.countWhere (isHeldBy self target) world.handles

theorem balance_of_nothing (nothing : ∀ place, place.owner = some self →
    world.handles.lookup place = none) (target : String) :
    world.balance self name target = countAt world.endpointDb target name := by
  have none : Holdings.countWhere (isHeldBy self target) world.handles = 0 := by
    refine (Holdings.countWhere_eq_zero _).mpr fun place user stored => ?_
    refine decide_eq_false fun both => ?_
    rw [nothing place both.1] at stored
    exact absurd stored.symm (Option.some_ne_none _)
  rw [World.balance, none]
  exact Int.sub_zero _

/-- Taking a handle out of a place and releasing it leaves the balance alone, unless the
counter had been too low for it. -/
theorem balance_assign_cases (holds : HoldsAs self name world)
    (positive : PositiveCounts world.endpointDb) (slot : Nat) (user : Option MavlinkEndpointUser)
    (target : String) :
    let stored : Int :=
      ((if ∃ stored, user = some stored ∧ stored.endpointName = target then 1 else 0 : Nat) : Int)
    (world.assign ⟨some self, slot⟩ user).balance self name target =
        world.balance self name target - stored ∨
      world.balance self name target < 0 ∧
        (world.assign ⟨some self, slot⟩ user).balance self name target ≤ -stored := by
  have stored : Holdings.countWhere (isHeldBy self target)
      (user.elim (world.handles.erase ⟨some self, slot⟩)
        (world.handles.insert ⟨some self, slot⟩)) =
      Holdings.countWhere (isHeldBy self target) (world.handles.erase ⟨some self, slot⟩) +
        if ∃ stored, user = some stored ∧ stored.endpointName = target then 1 else 0 := by
    cases user with
    | none => simp
    | some user =>
      rw [Option.elim_some, Holdings.countWhere_insert]
      simp [isHeldBy]
  have counted : 0 ≤ countAt world.endpointDb target name := countAt_nonneg positive
  -- From here on it is some number: `push_cast` is not to look into it.
  generalize (if ∃ stored, user = some stored ∧ stored.endpointName = target then 1 else 0 : Nat) =
    added at stored ⊢
  unfold World.balance
  rw [World.assign_eq]
  dsimp only
  rw [stored]
  cases held : world.handles.lookup ⟨some self, slot⟩ with
  | none =>
    rw [World.released, Holdings.erase_eq_self held]
    push_cast
    omega
  | some old =>
    have named : old.userName = name := holds _ old held rfl
    rw [World.released, named]
    rw [Holdings.countWhere_eq_erase _ held]
    by_cases same : target = old.endpointName
    · have selected : isHeldBy self target ⟨some self, slot⟩ old = true := by
        simp [isHeldBy, same]
      rw [if_pos selected]
      rw [same, countAt_drop positive, ← same]
      push_cast
      omega
    · have notSelected : isHeldBy self target ⟨some self, slot⟩ old ≠ true := by
        simp [isHeldBy, Ne.symm same]
      rw [if_neg notSelected, countAt_adjustUsers_of_ne same]
      push_cast
      omega

theorem positive_assign (positive : PositiveCounts world.endpointDb) (place : Place)
    (user : Option MavlinkEndpointUser) : PositiveCounts (world.assign place user).endpointDb := by
  rw [World.assign_eq]
  cases world.handles.lookup place with
  | none => exact positive
  | some old => exact positive.adjustUsers fun _ kept => kept.drop old.userName

theorem positive_action (positive : PositiveCounts world.endpointDb)
    (action : AgentAction sdk.toSdkTypes) :
    PositiveCounts (action.perform self ⟨name⟩ world).endpointDb := by
  cases action with
  | internal step => exact positive
  | requestMavlinkEndpoint slot epName =>
    rw [AgentAction.perform, ManagerResourceRequester.requestMavlinkEndpoint]
    cases registered : world.endpointDb.lookup epName with
    | none =>
      rw [createMavlinkEndpointUser_of_absent registered]
      exact positive_assign positive _ _
    | some entry =>
      rw [createMavlinkEndpointUser_of_registered registered]
      exact positive_assign (positive.adjustUsers fun _ kept => kept.bump name) _ _
  | reset slot => exact positive_assign positive _ _
  | call slot request =>
    rw [AgentAction.perform]
    cases world.handles.lookup ⟨some self, slot⟩ with
    | none => exact positive
    | some user =>
      obtain ⟨endpoints, env, events, called, _⟩ := user.call_eq request world
      dsimp only
      rw [called]
      exact positive

/-- Counting a reference raises the balance at its endpoint by one. -/
theorem balance_bump {epName : String} {entry : EndpointEntry}
    (registered : world.endpointDb.lookup epName = some entry) (events : List (Event sdk))
    (target : String) :
    World.balance self name target { world with
        endpointDb := adjustUsers epName (Tally.bump name) world.endpointDb
        log := events } =
      world.balance self name target + ((if epName = target then 1 else 0 : Nat) : Int) := by
  rw [World.balance, World.balance]
  dsimp only
  by_cases same : target = epName
  · have isRegistered : instanceAt world.endpointDb epName ≠ none := by
      rw [instanceAt_of_lookup registered]
      exact Option.some_ne_none _
    rw [same, if_pos rfl, countAt_bump isRegistered]
    omega
  · rw [if_neg (Ne.symm same), countAt_adjustUsers_of_ne same]
    omega

/-- Every access of the agent leaves the balance alone, unless that owes references, and makes it
owe none at most. -/
theorem balance_action (holds : HoldsAs self name world)
    (positive : PositiveCounts world.endpointDb) (action : AgentAction sdk.toSdkTypes)
    (target : String) :
    (action.perform self ⟨name⟩ world).balance self name target =
        world.balance self name target ∨
      world.balance self name target < 0 ∧
        (action.perform self ⟨name⟩ world).balance self name target ≤ 0 := by
  cases action with
  | internal step => exact .inl rfl
  | requestMavlinkEndpoint slot epName =>
    rw [AgentAction.perform, ManagerResourceRequester.requestMavlinkEndpoint]
    cases registered : world.endpointDb.lookup epName with
    | none =>
      rw [createMavlinkEndpointUser_of_absent registered]
      simpa using balance_assign_cases holds positive slot none target
    | some entry =>
      rw [createMavlinkEndpointUser_of_registered registered]
      -- The request raises the balance by one, and storing the handle lowers it again.
      let user : MavlinkEndpointUser := ⟨entry.endpoint, epName, name⟩
      let events := world.log ++ [.createUser user]
      let counted : World sdk := { world with
        endpointDb := adjustUsers epName (Tally.bump name) world.endpointDb
        log := events }
      have raised : counted.balance self name target = world.balance self name target +
          ((if epName = target then 1 else 0 : Nat) : Int) := balance_bump registered events target
      have countedHolds : HoldsAs self name counted := holds
      have countedPositive : PositiveCounts counted.endpointDb :=
        positive.adjustUsers fun _ kept => kept.bump name
      have assigned := balance_assign_cases countedHolds countedPositive slot (some user) target
      have same : (∃ stored, some user = some stored ∧ stored.endpointName = target) ↔
          epName = target := by simp [user]
      simp only [same, raised] at assigned
      show (counted.assign ⟨some self, slot⟩ (some user)).balance self name target = _ ∨ _ ∧
        (counted.assign ⟨some self, slot⟩ (some user)).balance self name target ≤ 0
      omega
  | reset slot =>
    rw [AgentAction.perform]
    simpa using balance_assign_cases holds positive slot none target
  | call slot request =>
    rw [AgentAction.perform]
    cases world.handles.lookup ⟨some self, slot⟩ with
    | none => exact .inl rfl
    | some user =>
      obtain ⟨endpoints, env, events, called, _⟩ := user.call_eq request world
      dsimp only
      rw [called]
      exact .inl rfl

/-- What agent code keeps while it runs. -/
structure Balanced (owner : AgentId) (name : String) (balance : String → Int)
    (world : World sdk) : Prop where
  holds : HoldsAs owner name world
  positive : PositiveCounts world.endpointDb
  balance_eq : ∀ target, world.balance owner name target = balance target

/-- What agent code keeps while it runs, even if counters are too low for its handles. -/
structure BalancedWithin (owner : AgentId) (name : String) (bound : String → Int)
    (world : World sdk) : Prop where
  holds : HoldsAs owner name world
  positive : PositiveCounts world.endpointDb
  balance_le : ∀ target, world.balance owner name target ≤ bound target

/-- A balance that owes no reference is kept by every access of the agent. -/
theorem Balanced.actions {balance : String → Int} {actions : List (AgentAction sdk.toSdkTypes)}
    (run : Run (Acts self ⟨name⟩) before actions after)
    (balanced : Balanced self name balance before) (covered : ∀ target, 0 ≤ balance target) :
    Balanced self name balance after := by
  refine run.invariant (Balanced self name balance)
    (fun world action next held taken => ?_) balanced
  rw [← taken]
  refine ⟨(frame_action action held.holds).2, positive_action held.positive action,
    fun target => ?_⟩
  rcases balance_action held.holds held.positive action target with same | ⟨low, _⟩
  · exact same.trans (held.balance_eq target)
  · rw [held.balance_eq] at low
    exact absurd low (Int.not_lt.mpr (covered target))

/-- A bound that allows to owe no reference is kept in any case. -/
theorem BalancedWithin.actions {bound : String → Int} {actions : List (AgentAction sdk.toSdkTypes)}
    (run : Run (Acts self ⟨name⟩) before actions after)
    (within : BalancedWithin self name bound before) (covered : ∀ target, 0 ≤ bound target) :
    BalancedWithin self name bound after := by
  refine run.invariant (BalancedWithin self name bound)
    (fun world action next held taken => ?_) within
  rw [← taken]
  refine ⟨(frame_action action held.holds).2, positive_action held.positive action,
    fun target => ?_⟩
  rcases balance_action held.holds held.positive action target with same | ⟨_, owes⟩
  · exact same.le.trans (held.balance_le target)
  · exact owes.trans (covered target)

/-- The creation of an agent counts the handles that the object ends up with. -/
theorem balanced_createAgent (owned : world.Owned) (positive : PositiveCounts world.endpointDb)
    (name : String) (definition : sdk.AgentDefinition) (parsed : sdk.AgentConfig) :
    Balanced world.nextAgent name (fun target => countAt world.endpointDb target name)
      (createAgent name definition parsed world).2 := by
  -- The new object starts with nothing, so its balance is the counter.
  have start : Balanced world.nextAgent name (fun target => countAt world.endpointDb target name)
      (creating definition parsed world) := by
    refine ⟨owned.holdsAs_next name, positive, fun target => ?_⟩
    refine balance_of_nothing (fun place isOwner => ?_) target
    cases held : world.handles.lookup place with
    | none => exact held
    | some user =>
      exact absurd (owned.created _ _ (owned.held place user _ held isOwner)) (Nat.lt_irrefl _)
  have covered : ∀ target, 0 ≤ countAt world.endpointDb target name :=
    fun _ => countAt_nonneg positive
  obtain ⟨actions, run⟩ := (sdk.create definition parsed).run_actions world.nextAgent ⟨name⟩
    (creating definition parsed world)
  have ran := start.actions run covered
  rcases createAgent_cases name definition parsed world with ⟨object, _, created⟩ | ⟨_, effect⟩
  · rw [created]
    exact ran
  · obtain ⟨resets, resetRun⟩ := World.destroyHandles_actions world.nextAgent ⟨name⟩
      ((sdk.create definition parsed).run world.nextAgent ⟨name⟩
        (creating definition parsed world)).2
    rw [effect]
    exact ran.actions resetRun covered

/-- A failed creation leaves every name, instance and counter as it was. -/
theorem endpointDb_createAgent_of_none (owned : world.Owned)
    (positive : PositiveCounts world.endpointDb) {definition : sdk.AgentDefinition}
    {parsed : sdk.AgentConfig} (failed : (createAgent name definition parsed world).1 = none) :
    (createAgent name definition parsed world).2.endpointDb = world.endpointDb := by
  obtain ⟨frame, _, nothing⟩ := frame_createAgent owned name definition parsed
  have finish := balanced_createAgent owned positive name definition parsed
  refine endpointDb_ext_counterAt frame.instances fun target requester => ?_
  by_cases own : requester = name
  · rw [own, counterAt_eq finish.positive, counterAt_eq positive, ← finish.balance_eq target,
      balance_of_nothing (nothing failed)]
  · exact frame.counters target requester own

theorem balance_le_countAt (target : String) :
    world.balance self name target ≤ countAt world.endpointDb target name :=
  Int.sub_le_self _ (Int.natCast_nonneg _)

/-- An agent that is added takes references, and gives none back that it has not taken. -/
theorem countAt_addAgent_ge (owned : world.Owned) (positive : PositiveCounts world.endpointDb)
    (name type : String) (config : Config) (target : String) :
    countAt world.endpointDb target name ≤
      countAt (Manager.addAgent name type config world).2.endpointDb target name := by
  rcases addAgent_cases name type config world with
    ⟨_, _, effect⟩ | ⟨definition, parsed, _, created⟩
  · rw [effect]
  · have finish := balanced_createAgent owned positive name definition parsed
    rw [← finish.balance_eq target]
    rcases created with ⟨_, _, effect⟩ | ⟨agent, _, _, effect⟩ <;> rw [effect] <;>
      exact balance_le_countAt target

/-- An agent that is removed gives references back, and takes none that it does not give back. -/
theorem countAt_removeAgent_le (owned : world.Owned) (positive : PositiveCounts world.endpointDb)
    (name target : String) :
    countAt (Manager.removeAgent name world).2.endpointDb target name ≤
      countAt world.endpointDb target name := by
  rcases removeAgent_cases name world with ⟨_, _, effect⟩ | ⟨agent, stored, _, effect⟩
  · rw [effect]
  · have nothing := (frame_removeAgent owned stored).2
    have start : BalancedWithin agent.id name
        (fun target => max 0 (world.balance agent.id name target))
        (destroying name agent world) :=
      ⟨owned.holdsAs (agentAt_of_lookup stored), positive, fun _ => le_max_right ..⟩
    have covered : ∀ target, 0 ≤ max 0 (world.balance agent.id name target) :=
      fun _ => le_max_left ..
    obtain ⟨actions, run⟩ := (sdk.destroyAgent agent.object).run_actions agent.id ⟨name⟩
      (destroying name agent world)
    obtain ⟨resets, resetRun⟩ := World.destroyHandles_actions agent.id ⟨name⟩
      ((sdk.destroyAgent agent.object).run agent.id ⟨name⟩ (destroying name agent world)).2
    have finish := (start.actions run covered).actions resetRun covered
    rw [← effect] at finish
    rw [← balance_of_nothing nothing target]
    refine (finish.balance_le target).trans (max_le (countAt_nonneg positive) ?_)
    exact balance_le_countAt target

/-! ### What a call leaves alone -/

/-- The endpoint name a call is about. -/
def ManagerCall.endpointName : ManagerCall → Option String
  | .addMavlinkEndpoint name => some name
  | .connectMavlinkEndpoint endpointName _ _ => some endpointName
  | .disconnectMavlinkEndpoint endpointName => some endpointName
  | .removeMavlinkEndpoint endpointName => some endpointName
  | .createMavlinkEndpointUser endpointName _ => some endpointName
  | .removeMavlinkEndpointUser endpointName _ => some endpointName
  | _ => none

/-- The agent name a call is about. -/
def ManagerCall.agentName : ManagerCall → Option String
  | .addAgent name _ _ => some name
  | .editAgent name _ _ => some name
  | .startAgent name => some name
  | .stopAgent name => some name
  | .removeAgent name => some name
  | _ => none

/-- A call runs the code of a registered agent before it reports success or failure. -/
def ManagerCall.RunsAgent (world : World sdk) (name : String) : ManagerCall → Prop
  | .editAgent target type config => target = name ∧
      ∃ agent definition parsed, Configures target type config world agent definition parsed
  | .startAgent target | .stopAgent target => target = name ∧
      ∃ agent, world.agents.lookup target = some agent
  | _ => False

/-- The entries of all endpoint names but one, and of all agent names but one, are unchanged.
The counters of one requester are not part of this. -/
structure Local (endpointName agentName counted : Option String) (before after : World sdk) :
    Prop where
  instances : ∀ target, endpointName ≠ some target →
    instanceAt after.endpointDb target = instanceAt before.endpointDb target
  counters : ∀ target requester, endpointName ≠ some target → counted ≠ some requester →
    counterAt after.endpointDb target requester = counterAt before.endpointDb target requester
  agents : ∀ target, agentName ≠ some target →
    after.agents.lookup target = before.agents.lookup target

/-- The same names are registered with the same instances. -/
structure SameInstances (before after : World sdk) : Prop where
  instances : ∀ target,
    instanceAt after.endpointDb target = instanceAt before.endpointDb target
  agents : ∀ target, agentAt after.agents target = agentAt before.agents target

variable {endpointName agentName counted : Option String}

theorem Local.of_eq (endpointDb : after.endpointDb = before.endpointDb)
    (agents : after.agents = before.agents) :
    Local endpointName agentName counted before after :=
  ⟨fun _ _ => by rw [endpointDb], fun _ _ _ _ => by rw [endpointDb], fun _ _ => by rw [agents]⟩

theorem SameInstances.of_eq (endpointDb : after.endpointDb = before.endpointDb)
    (agents : after.agents = before.agents) : SameInstances before after :=
  ⟨fun _ => by rw [endpointDb], fun _ => by rw [agents]⟩

/-- Changing the entry of one endpoint name is local to it. -/
theorem Local.of_lookup {target : String} (agents : after.agents = before.agents)
    (others : ∀ other, other ≠ target →
      after.endpointDb.lookup other = before.endpointDb.lookup other) :
    Local (some target) agentName counted before after where
  instances other different := by
    rw [instanceAt, others other (fun same => different (by rw [same])), instanceAt]
  counters other _ different _ := by
    rw [counterAt, others other (fun same => different (by rw [same])), counterAt]
  agents _ _ := by rw [agents]

/-- Agent code that ends in a change of the agent's own entry is local to the agent. -/
theorem Local.of_frame (frame : AgentFrame self name before between)
    (endpointDb : after.endpointDb = between.endpointDb)
    (others : ∀ other, other ≠ name →
      after.agents.lookup other = between.agents.lookup other) :
    Local none (some name) (some name) before after where
  instances target _ := by rw [endpointDb, frame.instances]
  counters target requester _ different := by
    rw [endpointDb, frame.counters target requester fun same => different (by rw [same])]
  agents other different := by
    rw [others other (fun same => different (by rw [same])), frame.agents]

theorem useEndpoint_same {Answer : Type} (endpoint : EndpointId)
    (use : sdk.Env → sdk.Endpoint → Answer × sdk.Endpoint × sdk.Env) (world : World sdk) :
    (world.useEndpoint endpoint use).2.endpointDb = world.endpointDb ∧
      (world.useEndpoint endpoint use).2.agents = world.agents := by
  obtain ⟨endpoints, env, used, _⟩ := world.useEndpoint_eq endpoint use
  rw [used]
  exact ⟨rfl, rfl⟩

theorem local_runAgent {Answer : Type} {agent : AgentInstance sdk} (owned : world.Owned)
    (stored : world.agents.lookup name = some agent)
    (code : sdk.Agent → AgentCode sdk.toSdkTypes (sdk.Agent × Answer)) :
    Local none (some name) (some name) world (runAgent name agent code world).2 ∧
      SameInstances world (runAgent name agent code world).2 := by
  obtain ⟨frame, _⟩ := frame_code (code agent.object) (owned.holdsAs (agentAt_of_lookup stored))
  refine ⟨Local.of_frame frame rfl fun other different =>
    Finmap.lookup_insert_of_ne _ different, frame.instances, fun target => ?_⟩
  exact (agentAt_insert_same (frame.agents ▸ stored) _ target).trans (by rw [frame.agents])

/-- The outcome of a call is local and, if it is a failure, changes nothing but what the agent
code it ran could change. -/
def ManagerCall.StaysLocal (call : ManagerCall) (world : World sdk) (outcome : Reply × World sdk) :
    Prop :=
  Local call.endpointName call.agentName call.agentName world outcome.2 ∧
    (outcome.1.success = false → SameInstances world outcome.2 ∧
      ∀ target requester, ¬call.RunsAgent world requester →
        counterAt outcome.2.endpointDb target requester =
          counterAt world.endpointDb target requester)

namespace ManagerCall.StaysLocal

variable {call : ManagerCall} {outcome : Reply × World sdk} {type : String} {config : Config}

/-- A call that changes neither map stays local. -/
theorem unchanged (endpointDb : outcome.2.endpointDb = world.endpointDb)
    (agents : outcome.2.agents = world.agents) : call.StaysLocal world outcome :=
  ⟨.of_eq endpointDb agents, fun _ => ⟨.of_eq endpointDb agents, fun _ _ _ => by rw [endpointDb]⟩⟩

/-- A call that succeeds has to be local only. -/
theorem succeeded (success : outcome.1.success = true)
    (isLocal : Local call.endpointName call.agentName call.agentName world outcome.2) :
    call.StaysLocal world outcome :=
  ⟨isLocal, fun failed => absurd (success.symm.trans failed) Bool.false_ne_true.symm⟩

/-- A call that runs a registered agent stays local, whatever it reports. -/
theorem ran {Answer : Type} {agent : AgentInstance sdk} {event : Event sdk}
    (owned : world.Owned) (stored : world.agents.lookup name = some agent)
    (code : sdk.Agent → AgentCode sdk.toSdkTypes (sdk.Agent × Answer))
    (isEndpointFree : call.endpointName = none) (isAgent : call.agentName = some name)
    (isRun : call.RunsAgent world name)
    (effect : outcome.2 = (runAgent name agent code (world.record event)).2) :
    call.StaysLocal world outcome := by
  obtain ⟨isLocal, same⟩ := local_runAgent (owned_record owned event) stored code
  rw [StaysLocal, isEndpointFree, isAgent, effect]
  refine ⟨⟨isLocal.instances, isLocal.counters, isLocal.agents⟩, fun _ =>
    ⟨⟨same.instances, same.agents⟩, fun target requester idle => ?_⟩⟩
  have different : name ≠ requester := by
    rintro rfl
    exact idle isRun
  exact isLocal.counters target requester (Option.some_ne_none _).symm
    fun same => different (Option.some.inj same)

theorem addMavlinkEndpoint : (addMavlinkEndpoint name).StaysLocal world
    ((ManagerCall.addMavlinkEndpoint name).perform world) := by
  rcases addMavlinkEndpoint_cases name world with ⟨_, _, effect⟩ | ⟨_, success, effect⟩
  · exact unchanged (congrArg (·.endpointDb) effect) (congrArg (·.agents) effect)
  · refine succeeded success ?_
    rw [perform, Reply.ofResult, effect]
    exact .of_lookup rfl fun _ different => Finmap.lookup_insert_of_ne _ different

theorem connectMavlinkEndpoint : (connectMavlinkEndpoint name type config).StaysLocal world
    ((ManagerCall.connectMavlinkEndpoint name type config).perform world) := by
  rcases connectMavlinkEndpoint_cases name type config world with
    ⟨_, _, effect⟩ | ⟨entry, _, _, effect⟩
  · exact unchanged (congrArg (·.endpointDb) effect) (congrArg (·.agents) effect)
  · obtain ⟨endpointDb, agents⟩ := useEndpoint_same entry.endpoint (sdk.connect type config)
      (world.record (.connect entry.endpoint type config))
    exact unchanged ((congrArg (·.endpointDb) effect).trans endpointDb)
      ((congrArg (·.agents) effect).trans agents)

theorem disconnectMavlinkEndpoint : (disconnectMavlinkEndpoint name).StaysLocal world
    ((ManagerCall.disconnectMavlinkEndpoint name).perform world) := by
  rcases disconnectMavlinkEndpoint_cases name world with ⟨_, _, effect⟩ | ⟨entry, _, effect⟩
  · exact unchanged (congrArg (·.endpointDb) effect) (congrArg (·.agents) effect)
  · obtain ⟨endpointDb, agents⟩ := useEndpoint_same entry.endpoint sdk.disconnect
      (world.record (.disconnect entry.endpoint))
    exact unchanged ((congrArg (·.endpointDb) effect).trans endpointDb)
      ((congrArg (·.agents) effect).trans agents)

theorem removeMavlinkEndpoint : (removeMavlinkEndpoint name).StaysLocal world
    ((ManagerCall.removeMavlinkEndpoint name).perform world) := by
  rcases removeMavlinkEndpoint_cases name world with ⟨_, _, effect⟩ | ⟨entry, _, success, effect⟩
  · exact unchanged (congrArg (·.endpointDb) effect) (congrArg (·.agents) effect)
  · refine succeeded success ?_
    rw [perform, Reply.ofResult, effect]
    exact .of_lookup rfl fun _ different => Finmap.lookup_erase_ne different

theorem createMavlinkEndpointUser {requester : String} :
    (createMavlinkEndpointUser name requester).StaysLocal world
      ((ManagerCall.createMavlinkEndpointUser name requester).perform world) := by
  rw [perform]
  cases registered : world.endpointDb.lookup name with
  | none =>
    rw [createMavlinkEndpointUser_of_absent registered]
    exact unchanged rfl rfl
  | some entry =>
    rw [createMavlinkEndpointUser_of_registered registered]
    exact succeeded rfl (.of_lookup rfl fun _ different => lookup_adjustUsers_of_ne different _)

theorem removeMavlinkEndpointUser {requester : String} :
    (removeMavlinkEndpointUser name requester).StaysLocal world
      ((ManagerCall.removeMavlinkEndpointUser name requester).perform world) := by
  rw [perform, removeMavlinkEndpointUser_eq]
  exact succeeded rfl (.of_lookup rfl fun _ different => lookup_adjustUsers_of_ne different _)

/-- An agent whose creation fails has given back what it had requested. -/
theorem addAgent (owned : world.Owned) (positive : PositiveCounts world.endpointDb) :
    (addAgent name type config).StaysLocal world
      ((ManagerCall.addAgent name type config).perform world) := by
  rcases addAgent_cases name type config world with
    ⟨_, _, effect⟩ | ⟨definition, parsed, _, ⟨none, _, effect⟩ | ⟨agent, _, success, effect⟩⟩
  · exact unchanged (congrArg (·.endpointDb) effect) (congrArg (·.agents) effect)
  · exact unchanged
      ((congrArg (·.endpointDb) effect).trans (endpointDb_createAgent_of_none owned positive none))
      ((congrArg (·.agents) effect).trans
        (frame_createAgent owned name definition parsed).1.agents)
  · have frame := (frame_createAgent owned name definition parsed).1
    have isLocal : Local none (some name) (some name) (creating definition parsed world)
        { (createAgent name definition parsed world).2 with
          agents := (createAgent name definition parsed world).2.agents.insert name agent } :=
      .of_frame frame rfl fun _ different => Finmap.lookup_insert_of_ne _ different
    refine succeeded success ?_
    rw [perform, Reply.ofResult, effect]
    exact ⟨isLocal.instances, isLocal.counters, isLocal.agents⟩

theorem editAgent (owned : world.Owned) : (editAgent name type config).StaysLocal world
    ((ManagerCall.editAgent name type config).perform world) := by
  rcases editAgent_cases name type config world with
    ⟨_, _, effect⟩ | ⟨agent, definition, parsed, configures, effect⟩
  · exact unchanged (congrArg (·.endpointDb) effect) (congrArg (·.agents) effect)
  · exact ran owned configures.1 _ rfl rfl ⟨rfl, agent, definition, parsed, configures⟩ effect

theorem startAgent (owned : world.Owned) : (startAgent name).StaysLocal world
    ((ManagerCall.startAgent name).perform world) := by
  rcases startAgent_cases name world with ⟨_, _, effect⟩ | ⟨agent, stored, _, effect⟩
  · exact unchanged (congrArg (·.endpointDb) effect) (congrArg (·.agents) effect)
  · exact ran owned stored _ rfl rfl ⟨rfl, agent, stored⟩ effect

theorem stopAgent (owned : world.Owned) : (stopAgent name).StaysLocal world
    ((ManagerCall.stopAgent name).perform world) := by
  rcases stopAgent_cases name world with ⟨_, _, effect⟩ | ⟨agent, stored, effect⟩
  · exact unchanged (congrArg (·.endpointDb) effect) (congrArg (·.agents) effect)
  · exact ran owned stored _ rfl rfl ⟨rfl, agent, stored⟩ effect

theorem removeAgent (owned : world.Owned) : (removeAgent name).StaysLocal world
    ((ManagerCall.removeAgent name).perform world) := by
  rcases removeAgent_cases name world with ⟨_, _, effect⟩ | ⟨agent, stored, success, _⟩
  · exact unchanged (congrArg (·.endpointDb) effect) (congrArg (·.agents) effect)
  · have frame := (frame_removeAgent owned stored).1
    have isLocal : Local none (some name) (some name) (destroying name agent world) _ :=
      Local.of_frame frame rfl fun _ _ => rfl
    refine succeeded success ⟨isLocal.instances, isLocal.counters, fun other different => ?_⟩
    refine (isLocal.agents other different).trans ?_
    exact Finmap.lookup_erase_ne fun same => different (by rw [same]; rfl)

end ManagerCall.StaysLocal

theorem ManagerCall.staysLocal (reachable : world.Reachable) (call : ManagerCall) :
    call.StaysLocal world (call.perform world) := by
  have owned := reachable.owned
  cases call with
  | addMavlinkEndpoint name => exact .addMavlinkEndpoint
  | connectMavlinkEndpoint name type config => exact .connectMavlinkEndpoint
  | disconnectMavlinkEndpoint name => exact .disconnectMavlinkEndpoint
  | removeMavlinkEndpoint name => exact .removeMavlinkEndpoint
  | createMavlinkEndpointUser name requester => exact .createMavlinkEndpointUser
  | removeMavlinkEndpointUser name requester => exact .removeMavlinkEndpointUser
  | addAgent name type config => exact .addAgent owned reachable.sound.positive
  | editAgent name type config => exact .editAgent owned
  | startAgent name => exact .startAgent owned
  | stopAgent name => exact .stopAgent owned
  | removeAgent name => exact .removeAgent owned

/-- A call changes no entry but that of its own name, apart from the counters of the agent it is
about; and if it fails, it changes no instance, and no counter apart from those of a registered
agent whose code it ran. Of the counters of its agent, `removeAgent` raises none and `addAgent`
lowers none. -/
theorem managerCall_local (reachable : world.Reachable) (call : ManagerCall) :
    Local call.endpointName call.agentName call.agentName world (call.perform world).2 ∧
      ((call.perform world).1.success = false →
        SameInstances world (call.perform world).2 ∧
          ∀ target requester, ¬call.RunsAgent world requester →
            counterAt (call.perform world).2.endpointDb target requester =
              counterAt world.endpointDb target requester) ∧
      (∀ name, call = .removeAgent name → ∀ target,
        countAt (call.perform world).2.endpointDb target name ≤
          countAt world.endpointDb target name) ∧
      ∀ name type config, call = .addAgent name type config → ∀ target,
        countAt world.endpointDb target name ≤
          countAt (call.perform world).2.endpointDb target name := by
  have owned := reachable.owned
  have positive := reachable.sound.positive
  obtain ⟨isLocal, atomic⟩ := call.staysLocal reachable
  refine ⟨isLocal, atomic, ?_, ?_⟩
  · rintro name rfl target
    exact countAt_removeAgent_le owned positive name target
  · rintro name type config rfl target
    exact countAt_addAgent_ge owned positive name type config target

/-- The sample with the endpoint its agents ask for. -/
def linkedWorld : World sampleSdk := sampleWorld.perform (.invoke (.addMavlinkEndpoint "link") 0)

theorem linkedWorld_reachable : linkedWorld.Reachable :=
  (World.reachable_initial _ _ _).perform _

/-- The sample with an agent that holds a handle. -/
def servedWorld : World sampleSdk :=
  linkedWorld.perform (.invoke (.addAgent "courier" "courier" ∅) 0)

theorem managerCall_local_sample :
    ((ManagerCall.addAgent "doomed" "doomed" ∅).perform linkedWorld).1.success = false ∧
      SameInstances linkedWorld ((ManagerCall.addAgent "doomed" "doomed" ∅).perform linkedWorld).2 ∧
      counterAt ((ManagerCall.addAgent "doomed" "doomed" ∅).perform linkedWorld).2.endpointDb
        "link" "doomed" = counterAt linkedWorld.endpointDb "link" "doomed" ∧
      countAt ((ManagerCall.removeAgent "courier").perform servedWorld).2.endpointDb "link"
        "courier" ≤ countAt servedWorld.endpointDb "link" "courier" := by
  have failed :
      ((ManagerCall.addAgent "doomed" "doomed" ∅).perform linkedWorld).1.success = false := by
    decide
  have atomic :=
    (managerCall_local linkedWorld_reachable (.addAgent "doomed" "doomed" ∅)).2.1 failed
  have served : servedWorld.Reachable := linkedWorld_reachable.perform _
  exact ⟨failed, atomic.1, atomic.2 "link" "doomed" id,
    (managerCall_local served (.removeAgent "courier")).2.2.1 "courier" rfl "link"⟩

/-- An agent that requests an endpoint changes the entry of the endpoint, when it is added and
even when it then fails to stop. -/
theorem addAgent_counts_elsewhere :
    linkedWorld.Reachable ∧ servedWorld.Reachable ∧
      ((ManagerCall.addAgent "courier" "courier" ∅).perform linkedWorld).1.success = true ∧
      ((ManagerCall.addAgent "courier" "courier" ∅).perform linkedWorld).2.endpointDb.lookup
        "link" ≠ linkedWorld.endpointDb.lookup "link" ∧
      ((ManagerCall.stopAgent "courier").perform servedWorld).1.success = false ∧
      counterAt ((ManagerCall.stopAgent "courier").perform servedWorld).2.endpointDb "link"
        "courier" ≠ counterAt servedWorld.endpointDb "link" "courier" :=
  ⟨linkedWorld_reachable, linkedWorld_reachable.perform _, by decide, by decide, by decide,
    by decide⟩

/-! ### No counter without handles -/

/-- A requester whose handles are all gone is in no user list. -/
theorem userList_lookup_of_unheld (reachable : world.Reachable) {requester : String}
    (unheld : ∀ place user, world.handles.lookup place = some user → user.userName ≠ requester)
    {target : String} {userList : Tally String}
    (listed : getMavlinkEndpointUserList target world = some userList) :
    userList.lookup requester = none := by
  obtain ⟨entry, stored, rfl⟩ := userList_of_listed listed
  have none : world.usersCarrying target requester = 0 := by
    refine (Holdings.countWhere_eq_zero _).mpr fun place user held => decide_eq_false fun both => ?_
    exact unheld place user held both.2
  have bounded :
      countAt world.endpointDb target requester ≤ world.usersCarrying target requester := by
    rw [usersCarrying_eq]
    exact reachable.sound.bounded target requester
  have nonneg : 0 ≤ countAt world.endpointDb target requester :=
    countAt_nonneg reachable.sound.positive
  rw [none] at bounded
  have zero : countAt world.endpointDb target requester = 0 := Int.le_antisymm bounded nonneg
  rw [(reachable.sound.positive target entry stored).lookup_eq requester,
    ← countAt_of_lookup stored, if_pos zero]

/-- Every stored counter is at least one and at most the number of live handles that carry its
two names. So once an agent that held all handles of its name is removed, or the creation of an
agent fails while nobody holds a handle of its name, no user list mentions the name. -/
theorem userCounts_bounded (reachable : world.Reachable) :
    (∀ target requester userList count, getMavlinkEndpointUserList target world = some userList →
        userList.lookup requester = some count →
        1 ≤ count ∧ count ≤ world.usersCarrying target requester) ∧
      (∀ name agent, world.agents.lookup name = some agent →
        (∀ place user, world.handles.lookup place = some user → user.userName = name →
          place.owner = some agent.id) →
        ∀ target userList,
          getMavlinkEndpointUserList target (removeAgent name world).2 = some userList →
          userList.lookup name = none) ∧
      ∀ name type config, (addAgent name type config world).1.success = false →
        (∀ place user, world.handles.lookup place = some user → user.userName ≠ name) →
        ∀ target userList,
          getMavlinkEndpointUserList target (addAgent name type config world).2 = some userList →
          userList.lookup name = none := by
  refine ⟨fun target requester userList count listed counted => ?_,
    fun name agent stored own target userList listed => ?_,
    fun name type config failed unheld target userList listed => ?_⟩
  · obtain ⟨entry, stored, rfl⟩ := userList_of_listed listed
    have bounded := reachable.sound.bounded target requester
    have count_eq : countAt world.ledger.endpointDb target requester = count := by
      rw [countAt_eq_counterAt, counterAt, World.ledger, stored, Option.bind_some, counted,
        Option.getD_some]
    rw [count_eq, ← usersCarrying_eq] at bounded
    exact ⟨reachable.sound.positive target entry stored requester count counted, bounded⟩
  · have next : (removeAgent name world).2.Reachable :=
      reachable.perform (.invoke (.removeAgent name) 0)
    obtain ⟨frame, nothing⟩ := frame_removeAgent reachable.owned stored
    refine userList_lookup_of_unheld next (fun place user held named => ?_) listed
    by_cases isOwner : place.owner = some agent.id
    · rw [nothing place isOwner] at held
      exact absurd held.symm (Option.some_ne_none _)
    · exact isOwner (own place user (frame.handles place isOwner ▸ held) named)
  · -- A failed addition restores every counter, and none was stored for the name.
    have stays := (ManagerCall.addAgent name type config).staysLocal reachable
    have same := (stays.2 failed).2 target name id
    obtain ⟨entry, stored, rfl⟩ := userList_of_listed listed
    have after : counterAt (addAgent name type config world).2.endpointDb target name =
        entry.userCount.lookup name := by
      rw [counterAt, stored, Option.bind_some]
    rw [← after]
    refine same.trans ?_
    cases before : world.endpointDb.lookup target with
    | none => rw [counterAt, before, Option.bind_none]
    | some entryBefore =>
      rw [counterAt, before, Option.bind_some]
      exact userList_lookup_of_unheld reachable unheld
        (by rw [getMavlinkEndpointUserList, before, Option.map_some])

theorem userCounts_bounded_sample :
    ((1 : Int) ≤ 1 ∧ (1 : Int) ≤
      (linkedWorld.perform (.invoke (.addAgent "courier" "courier" ∅) 0)).usersCarrying "link"
        "courier") ∧
      (∅ : Tally String).lookup "courier" = none ∧ (∅ : Tally String).lookup "doomed" = none := by
  have served := linkedWorld_reachable.perform (.invoke (.addAgent "courier" "courier" ∅) 0)
  refine ⟨(userCounts_bounded served).1 "link" "courier" (Tally.bump "courier" ∅) 1 (by decide)
      (by decide), ?_, ?_⟩
  · refine (userCounts_bounded served).2.1 "courier" ⟨0, .courier, ()⟩ rfl ?_ "link" ∅ (by decide)
    intro place user held _
    by_cases same : place = ⟨some 0, 0⟩
    · rw [same]
    · have elsewhere : (linkedWorld.perform (.invoke (.addAgent "courier" "courier" ∅)
          0)).handles.lookup place = none := by
        rw [AList.lookup_eq_none]
        intro held
        exact same (List.mem_singleton.mp held)
      exact absurd (elsewhere.symm.trans held) (Option.some_ne_none _).symm
  · exact (userCounts_bounded linkedWorld_reachable).2.2 "doomed" "doomed" ∅ (by decide)
      (fun place user held => absurd held (Option.some_ne_none _).symm) "link" ∅ (by decide)

end MavlinkHub
