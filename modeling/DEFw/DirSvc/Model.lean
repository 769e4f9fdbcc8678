import DEFw.Directory.Operations
import DEFw.Peers.Lookup

namespace DEFw.DirSvc
open Py Peers Directory

/-- What the calls of the directory service raise. -/
inductive Raised where
  | directory (exception : DEFwException)
  | agentNotFound
  | endpoint (error : EndpointError)
  | attributeError (message : String)
  /-- the constructor of a proxy or a remote call raised -/
  | remote (message : String)

/-- The metadata of a service, from its `query` or from the context of a registration. An
absent key is `none`. -/
structure Metadata where
  serviceName : Option String := none
  serviceId : Option String := none
  serviceType : Option String := none
  properties : Option Entries := none
  capability : Option Entries := none
  selector : Option Entries := none
  apiBindings : Option (List Entries) := none
  qpmType : Option Value := none
  qpmCapabilities : Option Value := none

/-- What a service class advertises; anything but a dictionary is refused. -/
inductive Advertisement where
  | metadata (fields : Metadata)
  | other

/-- The attributes of an `Endpoint` object. -/
def entries (ep : Endpoint) : Entries :=
  [(.str "addr", ep.addr), (.str "port", ep.port), (.str "listen_port", ep.listenPort), (.str "pid", ep.pid),
    (.str "name", ep.name), (.str "hostname", ep.hostname), (.str "node_type", ep.nodeType),
    (.str "remote_uuid", .str ep.remoteUuid), (.str "blk_uuid", .str ep.blkUuid)]

/-- `__endpoint_record`. -/
def endpointRecord (ep : Endpoint) : Entries :=
  [(.str "address", ep.addr), (.str "listen_port", ep.listenPort), (.str "node_name", ep.name),
    (.str "hostname", ep.hostname), (.str "pid", ep.pid)]

/-- The entries of an optional dictionary that is not empty. -/
def nonEmpty (entries : Option Entries) : Option Entries := entries.filter (fun entries => !entries.isEmpty)

/-- The bindings of an optional list that is not empty. -/
def bindings (list : Option (List Entries)) : Option (List Entries) := list.filter (fun list => !list.isEmpty)

/-- The dictionary under a key. -/
def dictAt (properties : Entries) (name : String) : Option Entries :=
  match properties.get? name with
  | some (.dict entries) => some entries
  | _ => none

/-- `entries.update(other)`. -/
def update (entries other : Entries) : Entries :=
  other.foldl (fun merged entry => Dict.assign entry.1 entry.2 merged) entries

/-- A field of the context, else of the advertisement, else of the merged properties, else -1. -/
def qpmValue (given advertised : Option Value) (properties : Entries) (name : String) : Value :=
  ((given.or advertised).or (properties.get? name)).getD (.int (-1))

/-- `__directory_record`. -/
def directoryRecord (ep : Endpoint) (advertisement : Advertisement) (context : Option Metadata) :
    Except Raised RecordArg :=
  match advertisement with
  | .other => .error (.directory (.error "Service query must return metadata dictionaries"))
  | .metadata advertised =>
    let context := context.getD {}
    match orStr context.serviceName advertised.serviceName with
    | none => .error (.directory (.error "Service metadata missing service_name"))
    | some serviceName =>
      let properties := update (context.properties.getD []) (advertised.properties.getD [])
      let qpmType := qpmValue context.qpmType advertised.qpmType properties "qpm_type"
      let qpmCapabilities :=
        qpmValue context.qpmCapabilities advertised.qpmCapabilities properties "qpm_capabilities"
      let properties := setDefault (setDefault properties "qpm_type" qpmType) "qpm_capabilities" qpmCapabilities
      let serviceId :=
        (orStr (orStr context.serviceId advertised.serviceId) (some (text (properties.get? "service_id")))).getD
          (serviceName ++ ":" ++ text (some ep.hostname) ++ ":" ++ text (some ep.name))
      let selector :=
        (((nonEmpty context.selector).or (nonEmpty advertised.selector)).or
          (nonEmpty (dictAt properties "selector"))).getD
          [(.str "resources", .list [.str serviceName])]
      let serviceType :=
        (context.serviceType.or advertised.serviceType).getD
          (text (some ((properties.get? "service_type").getD (.str "defw.service"))))
      match (bindings context.apiBindings).or (bindings advertised.apiBindings) with
      | none => .error (.directory (.error "Service metadata missing api_bindings"))
      | some apiBindings =>
        .ok
          { serviceId := some serviceId
            serviceName := some serviceName
            serviceType := some serviceType
            runtimeId := some ep.remoteUuid
            peerHandle := some ep.blkUuid
            endpoint := some (endpointRecord ep)
            apiBindings := some apiBindings
            selector := some selector
            properties := some properties
            capability := some (orEntries context.capability advertised.capability)
            qpmType := some qpmType
            qpmCapabilities := some qpmCapabilities }

/-- A proxy, by its class and the methods this class has. -/
structure Proxy where
  className : String
  methods : List String

/-- The class that the directory service calls an agent back with. -/
def baseAgentApi : Proxy := ⟨"BaseAgentAPI", ["query"]⟩

/-- A method of a proxy: a name that its class does not have raises before anything is sent,
otherwise the outcome is that of the remote call. -/
def Proxy.call {α : Type} (api : Proxy) (name : String) (outcome : Except Raised α) : Except Raised α :=
  if name ∈ api.methods then outcome
  else .error (.attributeError ("'" ++ api.className ++ "' object has no attribute '" ++ name ++ "'"))

/-- An entry of the services table. -/
structure Entry where
  agent : Agent
  api : Proxy
  info : List Advertisement

/-- What the remote calls of one registration do: the constructor of the proxy, the query, and
the query that follows an empty answer. -/
structure Remote where
  construct : Except Raised Unit
  query : Except Raised (List Advertisement)
  requery : Except Raised (List Advertisement)

/-- The advertisements that a registration works with. -/
def Remote.advertisements (remote : Remote) : Except Raised (List Advertisement) :=
  match remote.query with
  | .error raised => .error raised
  | .ok [] => remote.requery
  | .ok advertisements => .ok advertisements

/-- What a call leaves: the effects of its directory operations and what it returns or raises. -/
structure Outcome (τ α : Type) where
  effects : List (Effect τ)
  result : Except Raised α

end DEFw.DirSvc

/-- The directory service of a process, with the peer table and the directory it uses. -/
structure DEFw.DirSvc (τ : Type) where
  peers : DEFw.PeerTable τ
  directory : DEFw.Directory τ
  servicesDb : Dict String DEFw.DirSvc.Entry

namespace DEFw.DirSvc
open Py Peers Directory

variable {τ : Type}

def liveAgentIds (service : DirSvc τ) : List String :=
  (service.peers.peers.values.filter (fun record => record.callable && record.runtimeId ≠ "")).map
    PeerRecord.runtimeId

def pruneDb (service : DirSvc τ) : DirSvc τ :=
  { service with servicesDb := service.servicesDb.filter (fun agentId _ => agentId ∈ service.liveAgentIds) }

/-- The loop of `__register_directory_entries`. `clock` is the time that each registration reads. -/
def registerAll (ep : Endpoint) (context : Option Metadata) :
    (Nat → τ) → Directory τ → List Advertisement → Directory τ × Outcome τ (List (ServiceRecord τ))
  | _, d, [] => (d, ⟨[], .ok []⟩)
  | clock, d, advertisement :: rest =>
    match directoryRecord ep advertisement context with
    | .error raised => (d, ⟨[], .error raised⟩)
    | .ok record =>
      match d.registerService record none (clock 0) with
      | .error exception => (d, ⟨[], .error (.directory exception)⟩)
      | .ok (stored, registered, effects) =>
        let later := registerAll ep context (fun i => clock (i + 1)) stored rest
        (later.1, ⟨effects ++ later.2.effects, later.2.result.map (registered :: ·)⟩)

/-- `__register`, up to the assignment to the services table. -/
def register (service : DirSvc τ) (ep : Endpoint) (remote : Remote) : DirSvc τ × Except Raised Entry :=
  let pruned := service.pruneDb
  match pruned.peers.getAgent (entries ep) none false with
  | .error error => (pruned, .error (.endpoint error))
  | .ok none => (pruned, .error .agentNotFound)
  | .ok (some agent) =>
    match remote.construct with
    | .error raised => (pruned, .error raised)
    | .ok () =>
      match baseAgentApi.call "query" remote.query with
      | .error raised => (pruned, .error raised)
      | .ok advertisements =>
        let entry : Entry := ⟨agent, baseAgentApi, advertisements⟩
        ({ pruned with servicesDb := pruned.servicesDb.set ep.remoteUuid entry }, .ok entry)

/-- `__register_directory_entries` for the entry just made. -/
def registerDirectoryEntries (service : DirSvc τ) (agentId : String) (entry : Entry) (context : Option Metadata)
    (remote : Remote) (clock : Nat → τ) : DirSvc τ × Outcome τ (List (ServiceRecord τ)) :=
  match if entry.info.isEmpty then entry.api.call "query" remote.requery else .ok entry.info with
  | .error raised => (service, ⟨[], .error raised⟩)
  | .ok info =>
    let registered := registerAll entry.agent.endpoint context clock service.directory info
    ({ service with
        directory := registered.1
        servicesDb := service.servicesDb.set agentId { entry with info := info } }, registered.2)

def registerService (service : DirSvc τ) (ep : Endpoint) (context : Option Metadata) (remote : Remote)
    (clock : Nat → τ) : DirSvc τ × Outcome τ (List (ServiceRecord τ)) :=
  match service.register ep remote with
  | (pruned, .error raised) => (pruned, ⟨[], .error raised⟩)
  | (known, .ok entry) => known.registerDirectoryEntries ep.remoteUuid entry context remote clock

section Clock

variable [Add τ] [LinearOrder τ] [Zero τ]

/-- The loop of `deregister` over the records that `query` returned. -/
def deregisterAll (agentId : String) :
    (Nat → τ) → Directory τ → List (ServiceRecord τ) → Directory τ × Outcome τ Unit
  | _, d, [] => (d, ⟨[], .ok ()⟩)
  | clock, d, record :: rest =>
    if record.runtimeId = agentId then
      match d.deregisterService record.serviceId record.runtimeId record.generation (clock 0) with
      | .error exception => (d, ⟨[], .error (.directory exception)⟩)
      | .ok (stored, _, effects) =>
        let later := deregisterAll agentId (fun i => clock (i + 1)) stored rest
        (later.1, ⟨effects ++ later.2.effects, later.2.result⟩)
    else deregisterAll agentId clock d rest

/-- `DEFwDirSvc.deregister`. `unregister` is what the remote call of that name does, `queried` the
time that the query reads. -/
def deregister (service : DirSvc τ) (ep : Endpoint) (unregister : Except Raised Unit) (queried : τ) (clock : Nat → τ) :
    DirSvc τ × Outcome τ Unit :=
  match service.servicesDb.get? ep.remoteUuid with
  | none => (service, ⟨[], .error .agentNotFound⟩)
  | some entry =>
    match entry.api.call "unregister" unregister with
    | .error raised => (service, ⟨[], .error raised⟩)
    | .ok () =>
      let (purged, records, purges) := service.directory.query true queried
      let (withdrawn, outcome) := deregisterAll ep.remoteUuid clock purged records
      ({ service with
          directory := withdrawn
          servicesDb :=
            match outcome.result with
            | .ok () => service.servicesDb.erase ep.remoteUuid
            | .error _ => service.servicesDb }, ⟨purges ++ outcome.effects, outcome.result⟩)

end Clock

end DEFw.DirSvc
