/-
This file is a code outside the repository that is small enough to compute with. It
has two agent definitions: the agents of `courier` request the endpoint `link` when
they are created, and `doomed` requests it and then fails. An agent that is told to
stop refuses and requests `link` once more. A configuration is rejected if it has the
key `bad`, and an accepted one remembers which definition parsed it. Connecting
always succeeds.

It shows that the assumptions of later theorems can be met, and carries the runs in
which the source does not do what one would expect of it.
-/

import MavlinkHub.Run

namespace MavlinkHub

/-- The agent definitions of the sample. -/
inductive SampleDefinition
  | courier
  | doomed
  deriving DecidableEq

/-- The types of the sample: an endpoint is whether it is connected, a configuration is the
definition that parsed it. -/
abbrev sampleTypes : SdkTypes where
  Env := Unit
  Endpoint := Bool
  Message := Unit
  Listener := Unit
  Token := Unit
  Agent := Unit
  AgentConfig := SampleDefinition
  AgentDefinition := SampleDefinition
  TransportDefinition := Unit

/-- `create` of the two definitions. -/
def SampleDefinition.create (definition : SampleDefinition) :
    AgentCode sampleTypes (Option Unit) :=
  .requestMavlinkEndpoint 0 "link" fun _ =>
    match definition with
    | .courier => .done (some ())
    | .doomed => .done none

/-- The sample. -/
abbrev sampleSdk : Sdk where
  toSdkTypes := sampleTypes
  parseTransportConfig _ config := ⟨(config.lookup "bad").isNone, []⟩
  createEndpoint env := (false, env)
  connect _ _ env _ := (true, true, env)
  disconnect env connected := (connected, false, env)
  getState _ connected := if connected then .connected else .disconnected
  getNumOfListener _ _ := 0
  writeMessage _ env connected := (if connected then 1 else 0, connected, env)
  createListener _ env connected := ((), connected, env)
  parseConfig definition config :=
    ⟨if (config.lookup "bad").isNone then some definition else none, []⟩
  create definition _ := definition.create
  configure agent _ := .done (agent, true)
  start agent := .done (agent, true)
  stop agent := .requestMavlinkEndpoint 1 "link" fun _ => .done (agent, false)
  getAgentState _ _ := .idle
  report _ _ := ""
  destroyAgent _ := .done ()

/-- An empty manager over the sample, with every definition registered. -/
def sampleWorld : World sampleSdk :=
  .initial
    ((∅ : AgentRegistry SampleDefinition).insert "courier" .courier |>.insert "doomed" .doomed)
    ((∅ : StringMap Unit).insert "udp" ()) ()

/-- A plan for one connected endpoint and one started agent. -/
def samplePlan : UserPlan where
  endpointList := AList.insert "link" ⟨"udp", ∅, true⟩ ∅
  agentList := AList.insert "courier" ⟨"courier", ∅, true⟩ ∅
  policy := .discard

/-- A plan that also asks for an agent whose creation fails. -/
def doomedPlan : UserPlan where
  endpointList := samplePlan.endpointList
  agentList := samplePlan.agentList.insert "doomed" ⟨"doomed", ∅, true⟩
  policy := .bestEffort

/-- The same plan with its agents in the other order. -/
def reversedPlan : UserPlan where
  endpointList := samplePlan.endpointList
  agentList := AList.insert "courier" ⟨"courier", ∅, true⟩
    (AList.insert "doomed" ⟨"doomed", ∅, true⟩ ∅)
  policy := .bestEffort

end MavlinkHub
