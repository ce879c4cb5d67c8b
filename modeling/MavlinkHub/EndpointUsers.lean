/-
This file reads the ledger back into the manager: what the user list of an endpoint
says about the handles that are alive, and what a handle reaches.

A handle reaches the instance it was issued for, as long as that instance is
registered, and nothing afterwards. The user lists are less well behaved. A handle
releases its reference by name, so a handle that has outlived its endpoint takes a
reference away from an endpoint added later under the same name. The lists are exact
in the runs in which this does not happen.
-/

import MavlinkHub.Accounting
import MavlinkHub.SampleSdk

namespace MavlinkHub

open Transition

variable {sdk : Sdk} {world : World sdk}

/-- The number of live handles a requester obtained from an endpoint instance. -/
def World.usersOf (endpoint : EndpointId) (requester : String) (world : World sdk) : Nat :=
  Holdings.countWhere
    (fun _ user => user.endpoint = endpoint ∧ user.userName = requester) world.handles

/-- The number of live handles that carry an endpoint name and a requester name. -/
def World.usersCarrying (name requester : String) (world : World sdk) : Nat :=
  Holdings.countWhere
    (fun _ user => user.endpointName = name ∧ user.userName = requester) world.handles

theorem usersOf_eq (endpoint : EndpointId) (requester : String) :
    world.usersOf endpoint requester = world.ledger.obtained endpoint requester :=
  Holdings.countWhere_values _

theorem usersCarrying_eq (name requester : String) :
    world.usersCarrying name requester = world.ledger.carried name requester :=
  Holdings.countWhere_values _

/-- The user list of every registered endpoint says for every requester how many live handles
it obtained from the registered instance, and does not mention it if there are none. -/
def World.ExactUserLists (world : World sdk) : Prop :=
  ∀ name endpoint userList, instanceAt world.endpointDb name = some endpoint →
    Manager.getMavlinkEndpointUserList name world = some userList → ∀ requester,
      userList.lookup requester =
        if world.usersOf endpoint requester = 0 then none
        else some (world.usersOf endpoint requester : Int)

theorem userList_of_listed {name : String} {userList : Tally String}
    (listed : Manager.getMavlinkEndpointUserList name world = some userList) :
    ∃ entry, world.endpointDb.lookup name = some entry ∧ entry.userCount = userList :=
  Option.map_eq_some_iff.mp listed

/-! ### Exact user lists -/

/-- The user lists are exact in every run that releases references only by destroying handles,
and destroys none while its name belongs to another instance that counts the same requester. -/
theorem userLists_exact {agentRegistry : AgentRegistry sdk.AgentDefinition}
    {transportRegistry : StringMap sdk.TransportDefinition} {env : sdk.Env}
    {operations : List (Operation sdk)}
    (run : Run World.Step (.initial agentRegistry transportRegistry env) operations world)
    (noRelease : ∀ operation ∈ operations, ¬ operation.Releases)
    (timely : ∀ event ∈ world.log, event.isUntimely = false) : world.ExactUserLists := by
  obtain ⟨events, log, moves, ledgerRun, reported, released⟩ := accounted_run run noRelease
  rw [ledger_initial] at ledgerRun
  have notReleased : ∀ name requester, Ledger.Move.release name requester ∉ moves :=
    fun name requester member => released _ member rfl
  have timelyLedger : world.ledger.untimely = false :=
    List.any_eq_false.mpr fun event member untimely => by
      rw [timely event member] at untimely
      exact absurd untimely Bool.false_ne_true
  have sound := Ledger.sound_empty.run ledgerRun
  have exact := Ledger.exact_empty.run Ledger.sound_empty ledgerRun notReleased timelyLedger
  intro name endpoint userList registered listed requester
  obtain ⟨entry, stored, rfl⟩ := userList_of_listed listed
  have counted : countAt world.endpointDb name requester =
      world.ledger.obtained endpoint requester := exact name endpoint requester registered
  rw [countAt_of_lookup stored, ← usersOf_eq] at counted
  rw [(sound.positive name entry stored).lookup_eq, counted]
  exact if_congr Int.natCast_eq_zero rfl rfl

/-- A handle is destroyed before its endpoint is removed, and then the name is used again. -/
def reusedName : List (Operation sampleSdk) :=
  [.invoke (.addMavlinkEndpoint "link") 0, .invoke (.createMavlinkEndpointUser "link" "app") 0,
    .invoke (.addAgent "courier" "courier" ∅) 0, .resetUser ⟨none, 0⟩,
    .invoke (.removeMavlinkEndpoint "link") 0, .invoke (.addMavlinkEndpoint "link") 0,
    .invoke (.createMavlinkEndpointUser "link" "app") 1]

theorem userLists_exact_sample :
    (reusedName.foldl World.perform sampleWorld).ExactUserLists :=
  userLists_exact (World.run_foldl reusedName _)
    (by
      rintro operation member ⟨endpointName, requesterName, slot, rfl⟩
      simp [reusedName] at member)
    (by decide)

/-- The handle of the first endpoint `link` is destroyed after a second one was added under
that name and given to the same requester. -/
def staleRelease : List (Operation sampleSdk) :=
  [.invoke (.addMavlinkEndpoint "link") 0, .invoke (.createMavlinkEndpointUser "link" "app") 0,
    .invoke (.removeMavlinkEndpoint "link") 0, .invoke (.addMavlinkEndpoint "link") 0,
    .invoke (.createMavlinkEndpointUser "link" "app") 1, .resetUser ⟨none, 0⟩]

theorem staleRelease_inexact :
    Run World.Step sampleWorld staleRelease (staleRelease.foldl World.perform sampleWorld) ∧
      (∀ operation ∈ staleRelease, ¬ operation.Releases) ∧
      ¬ (staleRelease.foldl World.perform sampleWorld).ExactUserLists := by
  refine ⟨World.run_foldl _ _, ?_, fun exact => ?_⟩
  · rintro operation member ⟨endpointName, requesterName, slot, rfl⟩
    simp [staleRelease] at member
  · have missing := exact "link" 1 ∅ (by decide) (by decide) "app"
    have live : (staleRelease.foldl World.perform sampleWorld).usersOf 1 "app" = 1 := by decide
    rw [live] at missing
    exact absurd missing (by decide)

/-! ### What a handle reaches -/

/-- The world after a member function of an endpoint object, which leaves the object and the
hidden state behind. -/
def World.used (endpoint : EndpointId) (request : EndpointCall sdk.toSdkTypes)
    (object : sdk.Endpoint) (env : sdk.Env) (world : World sdk) : World sdk :=
  { world with
    endpoints := world.endpoints.insert endpoint object
    env
    log := world.log ++ [.endpointCall endpoint request] }

/-- Each operation of a handle calls the member function of the same name of an endpoint object,
with its argument, and answers what that answers. -/
structure MavlinkEndpointUser.ActsOn (object : sdk.Endpoint) (world : World sdk)
    (user : MavlinkEndpointUser) : Prop where
  getState : user.getState world =
    (some (sdk.getState world.env object), world.used user.endpoint .getState object world.env)
  getNumOfListener : user.getNumOfListener world =
    (some (sdk.getNumOfListener world.env object),
      world.used user.endpoint .getNumOfListener object world.env)
  writeMessage : ∀ message, user.writeMessage message world =
    (some (sdk.writeMessage message world.env object).1,
      world.used user.endpoint (.writeMessage message)
        (sdk.writeMessage message world.env object).2.1
        (sdk.writeMessage message world.env object).2.2)
  createListener : ∀ listener, user.createListener listener world =
    (some (sdk.createListener listener world.env object).1,
      world.used user.endpoint (.createListener listener)
        (sdk.createListener listener world.env object).2.1
        (sdk.createListener listener world.env object).2.2)

/-- The operations of a handle answer nothing and do nothing. -/
structure MavlinkEndpointUser.ActsOnNothing (world : World sdk) (user : MavlinkEndpointUser) :
    Prop where
  getState : user.getState world = (none, world)
  getNumOfListener : user.getNumOfListener world = (none, world)
  writeMessage : ∀ message, user.writeMessage message world = (none, world)
  createListener : ∀ listener, user.createListener listener world = (none, world)

/-- A call through a handle whose instance is alive acts on that instance. -/
theorem call_of_alive {user : MavlinkEndpointUser} {object : sdk.Endpoint}
    (alive : world.endpoints.lookup user.endpoint = some object)
    (request : EndpointCall sdk.toSdkTypes) :
    user.call request world =
      (some (sdk.answer request world.env object).1,
        world.used user.endpoint request (sdk.answer request world.env object).2.1
          (sdk.answer request world.env object).2.2) := by
  rw [MavlinkEndpointUser.call, World.useEndpoint, alive]
  rfl

/-- A call through a handle whose instance is gone answers nothing and does nothing. -/
theorem call_of_gone {user : MavlinkEndpointUser} (gone : user.endpoint ∉ world.endpoints)
    (request : EndpointCall sdk.toSdkTypes) : user.call request world = (none, world) := by
  rw [MavlinkEndpointUser.call, World.useEndpoint, Finmap.lookup_eq_none.mpr gone]
  rfl

theorem actsOn_of_alive {user : MavlinkEndpointUser} {object : sdk.Endpoint}
    (alive : world.endpoints.lookup user.endpoint = some object) : user.ActsOn object world where
  getState := call_of_alive alive .getState
  getNumOfListener := call_of_alive alive .getNumOfListener
  writeMessage message := call_of_alive alive (.writeMessage message)
  createListener listener := call_of_alive alive (.createListener listener)

theorem actsOnNothing_of_gone {user : MavlinkEndpointUser}
    (gone : user.endpoint ∉ world.endpoints) : user.ActsOnNothing world where
  getState := call_of_gone gone .getState
  getNumOfListener := call_of_gone gone .getNumOfListener
  writeMessage message := call_of_gone gone (.writeMessage message)
  createListener listener := call_of_gone gone (.createListener listener)

/-- A point of the log of a reachable world at which a handle was issued is a point of a ledger
run, and what follows in the log is what follows in the run. -/
theorem World.Reachable.issued {front back : List (Event sdk)} {user : MavlinkEndpointUser}
    (reachable : world.Reachable) (issued : world.log = front ++ .createUser user :: back) :
    ∃ ledger moves, Ledger.Sound ledger ∧
      instanceAt ledger.endpointDb user.endpointName = some user.endpoint ∧
      Run Ledger.Step ledger moves world.ledger ∧
      back.filterMap Event.move = moves.filter (fun move => !move.isRelease) := by
  obtain ⟨moves, run, reported⟩ := reachable.trace
  have issue : (.createUser user : Event sdk).move = some (.issue user) := rfl
  rw [issued, List.filterMap_append, List.filterMap_cons_some issue, eq_comm,
    List.filter_eq_append_iff] at reported
  obtain ⟨frontMoves, restMoves, rfl, _, rest⟩ := reported
  obtain ⟨silent, backMoves, rfl, _, _, backReported⟩ := List.filter_eq_cons_iff.mp rest
  obtain ⟨middle, frontRun, restRun⟩ := Run.append_iff.mp run
  obtain ⟨before, silentRun, issueRun⟩ := Run.append_iff.mp restRun
  obtain ⟨after, taken, backRun⟩ := Run.cons_iff.mp issueRun
  have sound := (Ledger.sound_empty.run frontRun).run silentRun
  refine ⟨after, backMoves, sound.step taken, ?_, backRun, backReported.symm⟩
  cases taken with
  | issue _ registered => exact (instanceAt_adjustUsers _).trans registered

theorem mem_moves_unregister_iff {events : List (Event sdk)} {name : String} :
    Ledger.Move.unregister name ∈ events.filterMap Event.move ↔
      ∃ endpoint, Event.destroyEndpoint name endpoint ∈ events := by
  rw [List.mem_filterMap]
  constructor
  · rintro ⟨event, member, move⟩
    cases event with
    | destroyEndpoint other endpoint =>
      rw [Event.move, Option.some_inj, Ledger.Move.unregister.injEq] at move
      exact ⟨endpoint, move ▸ member⟩
    | _ => simp [Event.move] at move
  · rintro ⟨endpoint, member⟩
    exact ⟨_, member, rfl⟩

/-- A handle that is issued carries the names of the request and the registered instance. -/
theorem createMavlinkEndpointUser_issues {name requester : String} {user : MavlinkEndpointUser}
    {created : World sdk}
    (issue : Manager.createMavlinkEndpointUser name requester world = (some user, created)) :
    user.endpointName = name ∧ user.userName = requester ∧
      instanceAt world.endpointDb name = some user.endpoint ∧
      created.log = world.log ++ [.createUser user] := by
  cases registered : world.endpointDb.lookup name with
  | none =>
    rw [createMavlinkEndpointUser_of_absent registered, Prod.mk.injEq] at issue
    exact absurd issue.1.symm (Option.some_ne_none _)
  | some entry =>
    rw [createMavlinkEndpointUser_of_registered registered, Prod.mk.injEq,
      Option.some_inj] at issue
    obtain ⟨rfl, rfl⟩ := issue
    exact ⟨rfl, rfl, instanceAt_of_lookup registered, rfl⟩

theorem removeMavlinkEndpoint_logs {name : String}
    (removed : (Manager.removeMavlinkEndpoint name world).1.success = true) :
    ∃ endpoint, (Manager.removeMavlinkEndpoint name world).2.log =
      world.log ++ [.destroyEndpoint name endpoint] := by
  rcases Manager.removeMavlinkEndpoint_cases name world with
    ⟨_, failed, _⟩ | ⟨entry, _, _, effect⟩
  · exact absurd (failed.symm.trans removed) Bool.false_ne_true
  · exact ⟨entry.endpoint, by rw [effect, Manager.unregistered]⟩

/-- A handle is bound to the instance it was issued for. It is issued for the instance that is
registered under its name, and each of its operations acts on that instance, and on no other,
as long as the name has not been removed since. From then on, in every reachable world, they
answer nothing and do nothing, whatever is registered under the name. -/
theorem mavlinkEndpointUser_bound (reachable : world.Reachable) :
    (∀ name requester user created,
        Manager.createMavlinkEndpointUser name requester world = (some user, created) →
          user.endpointName = name ∧ user.userName = requester ∧
            instanceAt world.endpointDb name = some user.endpoint ∧
            created.log = world.log ++ [.createUser user]) ∧
      (∀ name, (Manager.removeMavlinkEndpoint name world).1.success = true →
        ∃ endpoint, (Manager.removeMavlinkEndpoint name world).2.log =
          world.log ++ [.destroyEndpoint name endpoint]) ∧
      ∀ front back user, world.log = front ++ .createUser user :: back →
        ((∀ endpoint, .destroyEndpoint user.endpointName endpoint ∉ back) →
          ∃ object, world.endpoints.lookup user.endpoint = some object ∧
            user.ActsOn object world) ∧
        ∀ endpoint, .destroyEndpoint user.endpointName endpoint ∈ back →
          user.ActsOnNothing world := by
  refine ⟨fun _ _ _ _ issue => createMavlinkEndpointUser_issues issue,
    fun _ removed => removeMavlinkEndpoint_logs removed, fun front back user issued => ?_⟩
  obtain ⟨ledger, moves, sound, registered, run, reported⟩ := reachable.issued issued
  have unregisters : Ledger.Move.unregister user.endpointName ∈ moves ↔
      ∃ endpoint, Event.destroyEndpoint user.endpointName endpoint ∈ back := by
    rw [← mem_moves_unregister_iff, reported, List.mem_filter]
    exact (and_iff_left rfl).symm
  refine ⟨fun notRemoved => ?_, fun endpoint removed => actsOnNothing_of_gone ?_⟩
  · have still := Ledger.instance_kept run
      (fun member => (unregisters.mp member).elim notRemoved) registered
    have alive : user.endpoint ∈ world.endpoints.keys :=
      ((sound.run run).alive user.endpoint).mpr ⟨_, still⟩
    obtain ⟨object, stored⟩ := Finmap.mem_iff.mp (Finmap.mem_keys.mp alive)
    exact ⟨object, stored, actsOn_of_alive stored⟩
  · exact fun alive => Ledger.gone_of_unregister sound run (unregisters.mpr ⟨endpoint, removed⟩)
      registered (Finmap.mem_keys.mpr alive)

/-- The handle of the first endpoint `link` writes nothing, and that of the second one reaches the
endpoint, which is not connected. -/
theorem mavlinkEndpointUser_bound_sample :
    let world := staleRelease.foldl World.perform sampleWorld
    MavlinkEndpointUser.writeMessage () ⟨0, "link", "app"⟩ world = (none, world) ∧
      (MavlinkEndpointUser.writeMessage () ⟨1, "link", "app"⟩ world).1 = some 0 := by
  intro world
  have reachable : world.Reachable :=
    (World.reachable_initial _ _ _).run (World.run_foldl staleRelease sampleWorld)
  obtain ⟨_, _, bound⟩ := mavlinkEndpointUser_bound reachable
  obtain ⟨_, afterwards⟩ := bound [.createEndpoint "link" 0]
    [.destroyEndpoint "link" 0, .createEndpoint "link" 1, .createUser ⟨1, "link", "app"⟩,
      .destroyUser ⟨0, "link", "app"⟩ (some ⟨1, Tally.bump "app" ∅⟩)] ⟨0, "link", "app"⟩ rfl
  obtain ⟨before, _⟩ := bound [.createEndpoint "link" 0, .createUser ⟨0, "link", "app"⟩,
      .destroyEndpoint "link" 0, .createEndpoint "link" 1]
    [.destroyUser ⟨0, "link", "app"⟩ (some ⟨1, Tally.bump "app" ∅⟩)] ⟨1, "link", "app"⟩ rfl
  obtain ⟨object, stored, acts⟩ := before fun endpoint member => by simp at member
  have unconnected : object = false := Option.some.inj (stored.symm.trans rfl)
  refine ⟨(afterwards 0 List.mem_cons_self).writeMessage (), ?_⟩
  rw [acts.writeMessage, unconnected]
  rfl

end MavlinkHub
