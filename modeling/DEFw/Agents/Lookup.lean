import DEFw.Agents.Table

namespace DEFw.Agents
open Transport (Uuid)

namespace World

variable {w : World} {id : Nat} {test : Nat → Block → Bool}

theorem findAgent_mem (found : w.findAgent test = some id) : id ∈ w.table ∧ ∃ agent, w.blocks id = some agent ∧ test id agent = true := by
  refine ⟨List.mem_of_find?_eq_some found, ?_⟩
  have accepted := List.find?_some found
  simpa only [Option.any_eq_true] using accepted

theorem findAgent_eq_none_iff :
    w.findAgent test = none ↔ ∀ id ∈ w.table, ∀ agent, w.blocks id = some agent → test id agent = false := by
  simp only [findAgent, List.find?_eq_none, Option.any_eq_true, not_exists, not_and, Bool.not_eq_true]

/-- The only block of the table that a test accepts. -/
theorem findAgent_of_unique {agent : Block} (member : id ∈ w.table) (present : w.blocks id = some agent)
    (accepted : test id agent = true)
    (unique : ∀ other ∈ w.table, ∀ block, w.blocks other = some block → test other block = true → other = id) :
    w.findAgent test = some id := by
  cases found : w.findAgent test with
  | none =>
    have refused := findAgent_eq_none_iff.mp found id member agent present
    rw [accepted] at refused
    cases refused
  | some other =>
    obtain ⟨listed, block, there, accepts⟩ := findAgent_mem found
    rw [unique other listed block there accepts]

/-- An inbound block that records a uuid. -/
def Inbound (w : World) (uuid : Uuid) (id : Nat) : Prop :=
  ∃ agent ∈ w.blocks id, agent.direction = .inbound ∧ agent.remoteUuid = uuid

instance (w : World) (uuid : Uuid) (id : Nat) : Decidable (w.Inbound uuid id) :=
  inferInstanceAs (Decidable (∃ agent ∈ w.blocks id, _))

theorem findAgentByUuidPassive_eq (w : World) (uuid : Uuid) : w.findAgentByUuidPassive uuid =
    w.findAgent (fun _ agent => decide (agent.direction = .inbound) && decide (agent.remoteUuid = uuid)) := by
  unfold findAgentByUuidPassive findAgentBlkByUuid
  rw [Option.or_self]
  simp

theorem findAgentByUuidPassive_mem {uuid : Uuid} (found : w.findAgentByUuidPassive uuid = some id) :
    id ∈ w.table ∧ w.Inbound uuid id := by
  rw [findAgentByUuidPassive_eq] at found
  obtain ⟨member, agent, present, accepted⟩ := findAgent_mem found
  exact ⟨member, agent, present, by simpa using accepted⟩

theorem findAgentByUuidPassive_eq_none_iff {uuid : Uuid} :
    w.findAgentByUuidPassive uuid = none ↔ ∀ id ∈ w.table, ¬w.Inbound uuid id := by
  rw [findAgentByUuidPassive_eq, findAgent_eq_none_iff]
  simp [Inbound]

theorem findAgentByUuidGlobal_mem {remote : Uuid} {blk : Option Nat} (found : w.findAgentByUuidGlobal remote blk = some id) :
    id ∈ w.table := by
  simp only [findAgentByUuidGlobal, Option.or_eq_some_iff] at found
  rcases found with first | ⟨_, second | ⟨_, third | ⟨_, fourth⟩⟩⟩
  · exact (findAgent_mem first).1
  · exact (findAgent_mem second).1
  · exact (findAgent_mem third).1
  · exact (findAgent_mem fourth).1

/-- The first block of the table that is inbound and records a uuid. -/
def FirstInbound (w : World) (uuid : Uuid) (id : Nat) : Prop :=
  w.Inbound uuid id ∧ ∃ before after, w.table = before ++ id :: after ∧ ∀ other ∈ before, ¬w.Inbound uuid other

theorem findAgentByUuidPassive_eq_some_iff {uuid : Uuid} :
    w.findAgentByUuidPassive uuid = some id ↔ w.FirstInbound uuid id := by
  have accepts (other : Nat) : (w.blocks other).any (fun agent => decide (agent.direction = .inbound) &&
      decide (agent.remoteUuid = uuid)) = true ↔ w.Inbound uuid other := by
    simp [Inbound, Option.any_eq_true]
  rw [findAgentByUuidPassive_eq, findAgent, List.find?_eq_some_iff_append, accepts, FirstInbound]
  simp only [Bool.not_eq_true', ← Bool.not_eq_true, accepts]

instance (w : World) (uuid : Uuid) (id : Nat) : Decidable (w.FirstInbound uuid id) :=
  decidable_of_iff _ findAgentByUuidPassive_eq_some_iff

end World

end DEFw.Agents
