import DEFw.DirSvc.AllOrNothing

namespace DEFw.DirSvc
open Py Peers Directory

variable {τ : Type}

/-- The records of a directory are of different services. -/
theorem serviceIds_nodup (d : Directory τ) : (d.records.values.map ServiceRecord.serviceId).Nodup := by
  have keys : d.records.values.map ServiceRecord.serviceId = d.records.entries.map Prod.fst := by
    rw [Dict.values, List.map_map]
    refine List.map_congr_left (fun entry member => ?_)
    exact d.keyed entry.1 entry.2 (Dict.get?_eq_some_iff.mpr member)
  rw [keys]
  exact d.records.nodup

theorem stored_of_mem {d : Directory τ} {record : ServiceRecord τ} (member : record ∈ d.records.values) :
    d.records.get? record.serviceId = some record := by
  obtain ⟨key, found⟩ := Dict.mem_values_iff.mp member
  rw [d.keyed key record found]
  exact found

variable [Add τ]

/-- What the loop of `deregister` leaves of the records it is given: those of the agent are
deregistered and nothing else changes. -/
structure Deregisters (agentId : String) (d : Directory τ) (records : List (ServiceRecord τ))
    (result : Directory τ × Outcome τ Unit) : Prop where
  returned : result.2.result = .ok ()
  own : ∀ record ∈ records, record.runtimeId = agentId → ∃ now deadline,
    result.1.records.get? record.serviceId = some (record.deregister now deadline)
  rest : ∀ serviceId, (∀ record ∈ records, record.serviceId = serviceId → record.runtimeId ≠ agentId) →
    result.1.records.get? serviceId = d.records.get? serviceId

/-- A record as it is stored can be deregistered. -/
theorem deregisterService_stored {d : Directory τ} {record : ServiceRecord τ}
    (stored : d.records.get? record.serviceId = some record) (now : τ) :
    ∃ effects, d.deregisterService record.serviceId record.runtimeId record.generation now =
      .ok (d.store (record.deregister now (now + d.retentionSeconds)), record.deregister now (now + d.retentionSeconds),
        effects) := by
  unfold Directory.deregisterService
  rw [stored]
  simp only [ne_eq, not_true, or_self, if_false]
  exact ⟨_, rfl⟩

omit [Add τ] in
theorem records_deregister (d : Directory τ) (record : ServiceRecord τ) (now deadline : τ) (serviceId : String) :
    (d.store (record.deregister now deadline)).records.get? serviceId =
      if serviceId = record.serviceId then some (record.deregister now deadline) else d.records.get? serviceId :=
  records_store d _ serviceId

theorem deregisterAll_result (agentId : String) {d : Directory τ} {records : List (ServiceRecord τ)}
    (distinct : (records.map ServiceRecord.serviceId).Nodup)
    (stored : ∀ record ∈ records, d.records.get? record.serviceId = some record) (clock : Nat → τ) :
    Deregisters agentId d records (deregisterAll agentId clock d records) := by
  induction records generalizing d clock with
  | nil => exact ⟨rfl, fun _ absent => (nomatch absent), fun _ _ => rfl⟩
  | cons record others ih =>
    rw [List.map_cons, List.nodup_cons] at distinct
    have apart : ∀ other ∈ others, other.serviceId ≠ record.serviceId :=
      fun other member same => distinct.1 (same ▸ List.mem_map_of_mem member)
    have here := stored record List.mem_cons_self
    by_cases ours : record.runtimeId = agentId
    · obtain ⟨effects, done⟩ := deregisterService_stored here (clock 0)
      have kept : ∀ other ∈ others, (d.store (record.deregister (clock 0) (clock 0 + d.retentionSeconds))).records.get?
          other.serviceId = some other := by
        intro other member
        rw [records_deregister, if_neg (apart other member)]
        exact stored other (List.mem_cons_of_mem _ member)
      have later := ih distinct.2 kept (fun i => clock (i + 1))
      simp only [deregisterAll, if_pos ours, done]
      refine ⟨later.returned, ?_, ?_⟩
      · intro other member runtime
        rcases List.mem_cons.mp member with rfl | inRest
        · refine ⟨clock 0, clock 0 + d.retentionSeconds, ?_⟩
          rw [later.rest other.serviceId (fun foreign member same => absurd same (apart foreign member)),
            records_deregister, if_pos rfl]
        · exact later.own other inRest runtime
      · intro serviceId foreign
        have different : serviceId ≠ record.serviceId :=
          fun same => foreign record List.mem_cons_self same.symm ours
        rw [later.rest serviceId (fun other member => foreign other (List.mem_cons_of_mem _ member)),
          records_deregister, if_neg different]
    · have later := ih distinct.2 (fun other member => stored other (List.mem_cons_of_mem _ member)) clock
      simp only [deregisterAll, if_neg ours]
      refine ⟨later.returned, ?_, ?_⟩
      · intro other member runtime
        rcases List.mem_cons.mp member with rfl | inRest
        · exact absurd runtime ours
        · exact later.own other inRest runtime
      · intro serviceId foreign
        exact later.rest serviceId (fun other member => foreign other (List.mem_cons_of_mem _ member))

/-- The loop over the records of a directory. -/
theorem deregisterAll_directory (agentId : String) (d : Directory τ) (clock : Nat → τ) :
    Deregisters agentId d d.records.values (deregisterAll agentId clock d d.records.values) :=
  deregisterAll_result agentId (serviceIds_nodup d) (fun _ => stored_of_mem) clock

variable [LinearOrder τ] [Zero τ]

/-- Deregistering an agent withdraws everything it registered and nothing else. -/
structure Withdraws (agentId : String) (before after : DirSvc τ) (outcome : Outcome τ Unit) : Prop where
  returned : outcome.result = .ok ()
  own : ∀ serviceId record, after.directory.records.get? serviceId = some record → record.runtimeId = agentId →
    record.state ≠ .up
  others : ∀ serviceId record, record.runtimeId ≠ agentId →
    (after.directory.records.get? serviceId = some record ↔ before.directory.records.get? serviceId = some record)
  gone : after.servicesDb.get? agentId = none

/-- The agent's proxy has a method `unregister`, which returns, and no record of another runtime has
expired by the time of the query. -/
def Withdrawable (service : DirSvc τ) (ep : Endpoint) (entry : Entry) (unregister : Except Raised Unit) (queried : τ) :
    Prop :=
  "unregister" ∈ entry.api.methods ∧ unregister = .ok () ∧
    ∀ serviceId record, service.directory.records.get? serviceId = some record → record.runtimeId ≠ ep.remoteUuid →
      record.expired queried = false

/-- The directory after the purge and the loop of a call that got past `unregister`. -/
def withdrawn (service : DirSvc τ) (ep : Endpoint) (queried : τ) (clock : Nat → τ) : Directory τ :=
  let purged := (service.directory.purgeExpired none queried).1
  (deregisterAll ep.remoteUuid clock purged purged.records.values).1

/-- Such a call withdraws the agent from what the purge leaves. -/
theorem withdrawn_records (service : DirSvc τ) (ep : Endpoint) (queried : τ) (clock : Nat → τ) :
    (∀ serviceId record, (service.withdrawn ep queried clock).records.get? serviceId = some record →
      record.runtimeId = ep.remoteUuid → record.state ≠ .up) ∧
    ∀ serviceId record, record.runtimeId ≠ ep.remoteUuid →
      ((service.withdrawn ep queried clock).records.get? serviceId = some record ↔
        service.directory.records.get? serviceId = some record ∧ record.expired queried = false) := by
  unfold withdrawn
  dsimp only
  generalize eq : (service.directory.purgeExpired none queried).1 = purged
  have loop := deregisterAll_directory ep.remoteUuid purged clock
  -- A record of the agent that the loop leaves at a service id is one that it has deregistered.
  have ended : ∀ record ∈ purged.records.values, record.runtimeId = ep.remoteUuid → ∀ left,
      (deregisterAll ep.remoteUuid clock purged purged.records.values).1.records.get? record.serviceId = some left →
      left.state = .deregistered ∧ left.runtimeId = ep.remoteUuid := by
    intro record member runtime left found
    obtain ⟨now, deadline, same⟩ := loop.own record member runtime
    cases Option.some.inj (found.symm.trans same)
    exact ⟨rfl, runtime⟩
  have untouched : ∀ serviceId,
      (∀ record, purged.records.get? serviceId = some record → record.runtimeId ≠ ep.remoteUuid) →
      (deregisterAll ep.remoteUuid clock purged purged.records.values).1.records.get? serviceId =
        purged.records.get? serviceId := by
    intro serviceId foreign
    refine loop.rest serviceId (fun record member same => foreign record ?_)
    rw [← same]
    exact stored_of_mem member
  have left : ∀ serviceId record, purged.records.get? serviceId = some record ↔
      service.directory.records.get? serviceId = some record ∧ record.expired queried = false := by
    intro serviceId record
    rw [← eq, records_purgeExpired, Option.filter_eq_some_iff]
    simp [purgeTime]
  have agents : ∀ {serviceId current}, purged.records.get? serviceId = some current →
      current.runtimeId = ep.remoteUuid → ∀ found,
      (deregisterAll ep.remoteUuid clock purged purged.records.values).1.records.get? serviceId = some found →
      found.state = .deregistered ∧ found.runtimeId = ep.remoteUuid := by
    intro serviceId current there runtime found here
    rw [← purged.keyed serviceId current there] at here
    exact ended current (Dict.mem_values_iff.mpr ⟨serviceId, there⟩) runtime found here
  refine ⟨?_, ?_⟩
  · intro serviceId record found runtime
    by_cases foreign : ∀ current, purged.records.get? serviceId = some current → current.runtimeId ≠ ep.remoteUuid
    · rw [untouched serviceId foreign] at found
      exact absurd runtime (foreign record found)
    · push Not at foreign
      obtain ⟨current, there, own⟩ := foreign
      rw [(agents there own record found).1]
      decide
  · intro serviceId record other
    by_cases foreign : ∀ current, purged.records.get? serviceId = some current → current.runtimeId ≠ ep.remoteUuid
    · rw [untouched serviceId foreign, left]
    · push Not at foreign
      obtain ⟨current, there, own⟩ := foreign
      constructor
      · intro found
        exact absurd (agents there own record found).2 other
      · intro before
        cases Option.some.inj (there.symm.trans ((left serviceId record).mpr before))
        exact absurd own other

theorem deregister_of_call {service : DirSvc τ} {ep : Endpoint} {entry : Entry} {unregister : Except Raised Unit}
    (known : service.servicesDb.get? ep.remoteUuid = some entry)
    (called : entry.api.call "unregister" unregister = .ok ()) (queried : τ) (clock : Nat → τ) :
    (service.deregister ep unregister queried clock).2.result = .ok () ∧
      (service.deregister ep unregister queried clock).1.servicesDb = service.servicesDb.erase ep.remoteUuid ∧
      (service.deregister ep unregister queried clock).1.directory = service.withdrawn ep queried clock := by
  have all : ∀ records : List (ServiceRecord τ),
      records.filter (fun record => true || decide (record.state = .up)) = records := by simp
  have loop := deregisterAll_directory ep.remoteUuid (service.directory.purgeExpired none queried).1 clock
  unfold deregister withdrawn
  simp only [known, called, query, all, loop.returned, and_self]

/-- `deregister` withdraws an agent of the services table exactly if its proxy has a method
`unregister` that returns and no record of another runtime has expired. -/
theorem deregister_iff (service : DirSvc τ) (ep : Endpoint) (entry : Entry) (unregister : Except Raised Unit)
    (queried : τ) (clock : Nat → τ) (known : service.servicesDb.get? ep.remoteUuid = some entry) :
    Withdraws ep.remoteUuid service (service.deregister ep unregister queried clock).1
        (service.deregister ep unregister queried clock).2 ↔
      service.Withdrawable ep entry unregister queried := by
  obtain ⟨own, others⟩ := withdrawn_records service ep queried clock
  cases called : entry.api.call "unregister" unregister with
  | error raised =>
    constructor
    · intro withdraws
      have failed : (service.deregister ep unregister queried clock).2.result = .error raised := by
        simp only [deregister, known, called]
      rw [withdraws.returned] at failed
      cases failed
    · rintro ⟨method, rfl, _⟩
      rw [Proxy.call, if_pos method] at called
      cases called
  | ok _ =>
    obtain ⟨returned, table, directory⟩ := deregister_of_call known called queried clock
    have method : "unregister" ∈ entry.api.methods ∧ unregister = .ok () := by
      unfold Proxy.call at called
      split at called
      next method => exact ⟨method, called⟩
      · cases called
    constructor
    · intro withdraws
      refine ⟨method.1, method.2, fun serviceId record found other => ?_⟩
      have kept := (withdraws.others serviceId record other).mpr found
      rw [directory] at kept
      exact ((others serviceId record other).mp kept).2
    · rintro ⟨_, _, fresh⟩
      refine ⟨returned, ?_, ?_, ?_⟩
      · rw [directory]
        exact own
      · intro serviceId record other
        rw [directory, others serviceId record other]
        exact ⟨And.left, fun found => ⟨found, fresh serviceId record found other⟩⟩
      · rw [table, Dict.get?_erase, if_pos rfl]

/-- The calls and events that a directory service sees. -/
inductive Call (τ : Type) where
  | registerService (ep : Endpoint) (context : Option Metadata) (remote : Remote) (clock : Nat → τ)
  | peerEvent (call : PeerCall τ) (clock : τ)
  | deregisterService (serviceId runtimeId : String) (generation : Int) (now : τ)
  | deregister (ep : Endpoint) (unregister : Except Raised Unit) (queried : τ) (clock : Nat → τ)

def apply (parent : ParentInfo) (service : DirSvc τ) : Call τ → DirSvc τ
  | .registerService ep context remote clock => (service.registerService ep context remote clock).1
  | .peerEvent call clock =>
    { service with
      peers := (service.peers.applyEvent parent call.event call.clock).1
      directory := (service.directory.applyPeerEvent call.event clock).1 }
  | .deregisterService serviceId runtimeId generation now =>
    { service with directory := (service.directory.step (.deregisterService serviceId runtimeId generation now)).1 }
  | .deregister ep unregister queried clock => (service.deregister ep unregister queried clock).1

/-- The directory service after a sequence of calls. -/
def reached (parent : ParentInfo) (retentionSeconds : τ) (runtimeId : String) (calls : List (Call τ)) : DirSvc τ :=
  calls.foldl (apply parent) ⟨.new, .new retentionSeconds runtimeId, .empty⟩

/-- Every agent of the table is called back by the class that registrations use. -/
def CalledBack (service : DirSvc τ) : Prop :=
  ∀ agentId entry, service.servicesDb.get? agentId = some entry → entry.api = baseAgentApi

namespace CalledBack

variable {service : DirSvc τ}

omit [Add τ] [LinearOrder τ] [Zero τ]

theorem pruneDb (calledBack : service.CalledBack) : service.pruneDb.CalledBack := by
  intro agentId entry found
  simp only [DirSvc.pruneDb, Dict.get?_filter] at found
  exact calledBack agentId entry (Option.filter_eq_some_iff.mp found).1

theorem set (calledBack : service.CalledBack) (agentId : String) {entry : Entry} (api : entry.api = baseAgentApi) :
    CalledBack { service with servicesDb := service.servicesDb.set agentId entry } := by
  intro other stored found
  rw [Dict.get?_set] at found
  split at found
  · cases found
    exact api
  · exact calledBack other stored found

theorem register (calledBack : service.CalledBack) (ep : Endpoint) (remote : Remote) :
    (service.register ep remote).1.CalledBack ∧
      ∀ entry, (service.register ep remote).2 = .ok entry → entry.api = baseAgentApi := by
  have pruned := calledBack.pruneDb
  unfold DirSvc.register
  dsimp only
  split
  · exact ⟨pruned, fun _ ok => (nomatch ok)⟩
  · exact ⟨pruned, fun _ ok => (nomatch ok)⟩
  split
  · exact ⟨pruned, fun _ ok => (nomatch ok)⟩
  split
  · exact ⟨pruned, fun _ ok => (nomatch ok)⟩
  · refine ⟨pruned.set ep.remoteUuid rfl, ?_⟩
    rintro entry ⟨⟩
    rfl

theorem registerService (calledBack : service.CalledBack) (ep : Endpoint) (context : Option Metadata) (remote : Remote)
    (clock : Nat → τ) : (service.registerService ep context remote clock).1.CalledBack := by
  obtain ⟨kept, made⟩ := calledBack.register ep remote
  unfold DirSvc.registerService
  rcases outcome : service.register ep remote with ⟨next, result⟩
  rw [outcome] at kept made
  dsimp only at kept made
  cases result with
  | error raised => exact kept
  | ok entry =>
    simp only [registerDirectoryEntries]
    split
    · exact kept
    next info _ =>
      have renewed : ({ entry with info := info } : Entry).api = baseAgentApi := made entry rfl
      have stored := kept.set ep.remoteUuid renewed
      exact stored

variable [Add τ] [LinearOrder τ] [Zero τ]

theorem deregister (calledBack : service.CalledBack) (ep : Endpoint) (unregister : Except Raised Unit) (queried : τ)
    (clock : Nat → τ) : (service.deregister ep unregister queried clock).1.CalledBack := by
  unfold DirSvc.deregister
  split
  · exact calledBack
  split
  · exact calledBack
  · intro agentId entry found
    dsimp only at found
    split at found
    · exact calledBack agentId entry (Dict.get?_of_erase found).2
    · exact calledBack agentId entry found

theorem apply (calledBack : service.CalledBack) (parent : ParentInfo) (call : Call τ) :
    (service.apply parent call).CalledBack := by
  cases call with
  | registerService ep context remote clock => exact calledBack.registerService ep context remote clock
  | peerEvent call clock => exact calledBack
  | deregisterService serviceId runtimeId generation now => exact calledBack
  | deregister ep unregister queried clock => exact calledBack.deregister ep unregister queried clock

theorem reached (parent : ParentInfo) (retentionSeconds : τ) (runtimeId : String) (calls : List (Call τ)) :
    (reached parent retentionSeconds runtimeId calls).CalledBack := by
  induction calls using List.reverseRecOn with
  | nil => exact fun _ _ absent => (nomatch absent)
  | append_singleton calls call ih =>
    rw [DirSvc.reached, List.foldl_append]
    exact ih.apply parent call

end CalledBack

/-- No agent that registered can be deregistered: its proxy has no method `unregister`, so the call
raises and leaves everything as it was. -/
theorem deregister_raises (parent : ParentInfo) (retentionSeconds : τ) (runtimeId : String) (calls : List (Call τ))
    {ep : Endpoint} (known : ((reached parent retentionSeconds runtimeId calls).servicesDb.get? ep.remoteUuid).isSome)
    (unregister : Except Raised Unit) (queried : τ) (clock : Nat → τ) :
    (reached parent retentionSeconds runtimeId calls).deregister ep unregister queried clock =
      (reached parent retentionSeconds runtimeId calls,
        ⟨[], .error (.attributeError "'BaseAgentAPI' object has no attribute 'unregister'")⟩) := by
  have calledBack := CalledBack.reached parent retentionSeconds runtimeId calls
  obtain ⟨entry, found⟩ := Option.isSome_iff_exists.mp known
  simp only [deregister, found, calledBack _ _ found]
  rfl

/-- A service that registered one advertisement, reached over one peer event. -/
def oneService : DirSvc Nat :=
  reached ⟨none, none, .int 0⟩ 300 "directory"
    [ .peerEvent ⟨{ eventType := .ready, peerHandle := some "peer-1", remoteRuntimeId := some "runtime-1" }, 1⟩ 1,
      .registerService agentEndpoint none
        ⟨.ok (), .ok [.metadata { serviceName := some "solver", apiBindings := some [[]] }], .ok []⟩ (fun i => i + 2) ]

/-- Deregistering it raises although the remote call would return, and its record stays active. -/
theorem deregister_one_service :
    (oneService.servicesDb.get? agentEndpoint.remoteUuid).isSome ∧
      ¬Withdraws agentEndpoint.remoteUuid oneService (oneService.deregister agentEndpoint (.ok ()) 4 (fun i => i + 5)).1
        (oneService.deregister agentEndpoint (.ok ()) 4 (fun i => i + 5)).2 := by
  refine ⟨by decide +kernel, fun withdraws => ?_⟩
  have failed : (oneService.deregister agentEndpoint (.ok ()) 4 (fun i => i + 5)).2.result.toBool = false := by
    decide +kernel
  rw [withdraws.returned] at failed
  cases failed

/-- The agent's proxy as the contract test stubs it. -/
def stubbed : DirSvc Nat :=
  { oneService with
    servicesDb := oneService.servicesDb.mapValues (fun entry =>
      { entry with api := ⟨"StubServiceAPI", ["query", "unregister"]⟩ }) }

theorem deregister_iff_stubbed :
    Withdraws agentEndpoint.remoteUuid stubbed (stubbed.deregister agentEndpoint (.ok ()) 4 (fun i => i + 5)).1
      (stubbed.deregister agentEndpoint (.ok ()) 4 (fun i => i + 5)).2 := by
  obtain ⟨entry, known⟩ := Option.isSome_iff_exists.mp
    (show (stubbed.servicesDb.get? agentEndpoint.remoteUuid).isSome by decide +kernel)
  have methods : (stubbed.servicesDb.get? agentEndpoint.remoteUuid).map (fun entry => entry.api.methods) =
      some ["query", "unregister"] := by
    decide +kernel
  have own : ∀ stored ∈ stubbed.directory.records.entries, stored.2.runtimeId = agentEndpoint.remoteUuid := by
    decide +kernel
  rw [known, Option.map_some, Option.some_inj] at methods
  refine (deregister_iff stubbed agentEndpoint entry (.ok ()) 4 (fun i => i + 5) known).mpr ⟨?_, rfl, ?_⟩
  · rw [methods]
    decide
  · intro serviceId record found other
    exact absurd (own _ (Dict.get?_eq_some_iff.mp found)) other

end DEFw.DirSvc
