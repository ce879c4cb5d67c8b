/-
This file transcribes the agent registry: a map from registration keys to the
definitions that plugin libraries own. The read-only view shares the map of the
registry it was created from, so one type serves both sides.
-/

import MavlinkHub.Types

namespace MavlinkHub

/-- The map behind `AgentRegistry` and every `AgentRegistryUser`. -/
abbrev AgentRegistry (Definition : Type) := StringMap Definition

namespace AgentRegistry

variable {Definition : Type}

/-- `addAgentDefinition`: false, keeping the existing entry, if the key is taken. -/
def addAgentDefinition (key : String) (definition : Definition)
    (registry : AgentRegistry Definition) : Bool × AgentRegistry Definition :=
  match registry.lookup key with
  | some _ => (false, registry)
  | none => (true, registry.insert key definition)

/-- `removeAgentDefinition`: false if the key is not registered. -/
def removeAgentDefinition (key : String) (registry : AgentRegistry Definition) :
    Bool × AgentRegistry Definition :=
  match registry.lookup key with
  | none => (false, registry)
  | some _ => (true, registry.erase key)

/-- `operator[]`: the registered definition, or a null pointer. -/
def definitionAt (registry : AgentRegistry Definition) (key : String) : Option Definition :=
  registry.lookup key

/-- `isRegistered`. -/
def isRegistered (registry : AgentRegistry Definition) (key : String) : Bool :=
  (registry.lookup key).isSome

end AgentRegistry

end MavlinkHub
