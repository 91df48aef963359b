import RdpExt.DeployedSession
import RdpExt.HonestTraffic

set_option autoImplicit false

/-!
# The two programs understand each other

Whatever happens to the connections and the writes, no buffer of one program is one the
other takes for what it was not, or answers with an error.
-/
namespace RdpExt.DeployedSession
open ProtocolMessage ProtocolSerializer LogicEvents DeferredOutput Controller
open SessionSystem HonestTraffic

/-- The buffer decodes, and to a message the side accepts. -/
def Understood (zpp : ZppBits) (accepts : Message → Prop) (bytes : Buffer) : Prop :=
  ∃ m, accepts m ∧ Serializer.deserialize zpp bytes = .ok m

/-- The first bytes of such a message, which do not decode. -/
def CutShort (zpp : ZppBits) (accepts : Message → Prop) (bytes : Buffer) : Prop :=
  (∃ m, accepts m ∧ bytes <+: messageWire.write m) ∧ ∃ e, Serializer.deserialize zpp bytes = .error e

/-- What is written of an accepted message: all of its bytes, or where `cut` holds perhaps
    only the first of them. -/
def Piece (cut : Prop) (accepts : Message → Prop) (bytes : Buffer) : Prop :=
  ∃ m, accepts m ∧ m.TextFits ∧ bytes <+: messageWire.write m ∧ 0 < bytes.length ∧
    (bytes = messageWire.write m ∨ cut)

section
variable {zpp : ZppBits} {cut : Prop} {accepts : Message → Prop} {bytes : Buffer}

theorem write_pos (m : Message) : 0 < (messageWire.write m).length := by
  cases m <;> exact Nat.succ_pos _

theorem piece_write {m : Message} (accepted : accepts m) (fits : m.TextFits) :
    Piece cut accepts (messageWire.write m) :=
  ⟨m, accepted, fits, List.prefix_rfl, write_pos m, .inl rfl⟩

theorem Piece.weaken (h : Piece False accepts bytes) : Piece cut accepts bytes := by
  obtain ⟨m, accepted, fits, begins, filled, whole⟩ := h
  exact ⟨m, accepted, fits, begins, filled, .inl (whole.resolve_right id)⟩

theorem Piece.take (h : Piece False accepts bytes) {bytesWritten : ℕ}
    (some : 0 < bytesWritten) : Piece True accepts (bytes.take bytesWritten) := by
  obtain ⟨m, accepted, fits, begins, filled, _⟩ := h
  refine ⟨m, accepted, fits, (List.take_prefix _ _).trans begins, ?_, .inr trivial⟩
  rw [List.length_take]
  omega

/-- A piece that lacks its message's end does not decode. -/
theorem Piece.understood (documented : zpp.Documented) (h : Piece cut accepts bytes) :
    Understood zpp accepts bytes ∨ cut ∧ CutShort zpp accepts bytes := by
  obtain ⟨m, accepted, fits, ⟨rest, split⟩, _, whole⟩ := h
  cases rest with
  | nil =>
    rw [List.append_nil] at split
    refine .inl ⟨m, accepted, ?_⟩
    rw [split]
    exact deserialize_documented documented (messageWire.read_own m (messageWire_fits m fits))
  | cons byte rest =>
    have cut : cut := whole.resolve_left fun same => by
      rw [← same] at split
      exact List.cons_ne_nil _ _ (List.append_right_eq_self.mp split)
    obtain ⟨fault, unread⟩ := messageWire.read_truncated (messageWire_fits m fits) split.symm
      (List.cons_ne_nil _ _)
    exact .inr ⟨cut, ⟨m, accepted, _, split⟩, deserialize_fails documented unread⟩

theorem Piece.received (documented : zpp.Documented) (h : Piece cut accepts bytes) {m : Message}
    (received : received? zpp bytes = some m) : accepts m := by
  unfold received? at received
  rcases h.understood documented with ⟨m', accepted, decoded⟩ | ⟨_, _, e, failed⟩
  · rw [decoded] at received
    cases received
    exact accepted
  · rw [failed] at received
    cases received

end

/-! ## What one controller sends -/

section
variable {κ σ ε ω : Type}

/-- All that the controller has still to send is for the other side, and all that waits for
    it has `arrived` from there. -/
structure Speaks (w : Wiring κ σ ε ω TransportCall) (ofBytes : Buffer → κ)
    (accepts : Message → Prop) (arrived : Buffer → Prop) (l : Loop κ σ ω TransportCall) : Prop where
  safe : w.AbortsLast l.effects
  owes : ∀ bytes ∈ sentBuffers (w.future l).2, Piece False accepts bytes
  waits : ∀ bytes, .input (ofBytes bytes) ∈ l.queue → arrived bytes

variable {w : Wiring κ σ ε ω TransportCall} {ofBytes : Buffer → κ} {accepts : Message → Prop}
  {arrived : Buffer → Prop} {l l' : Loop κ σ ω TransportCall}

theorem mem_queue_exec {out : Option TransportCall} (exec : Exec w l out l') {k : κ}
    (waits : Task.input k ∈ l'.queue) : Task.input k ∈ l.queue := by
  cases exec with
  | input _ rest _ idle head | rejected _ rest idle head | output _ rest idle head =>
    rw [head]
    exact List.mem_cons_of_mem _ waits
  | posted x xs b head =>
    rcases List.mem_append.mp waits with here | new
    · exact here
    · cases List.mem_singleton.mp new
  | performed | thrown => exact waits

theorem Speaks.runs (h : Speaks w ofBytes accepts arrived l) (careful : w.Careful)
    {out : Option TransportCall} (exec : Exec w l out l') : Speaks w ofBytes accepts arrived l' := by
  obtain ⟨_, outputs, _⟩ := w.exec_future exec
  have later := (List.sublist_append_right out.toList _).trans outputs
  exact ⟨w.exec_abortsLast careful exec h.safe,
    fun bytes sent => h.owes bytes ((later.filterMap TransportCall.sent?).subset sent),
    fun bytes waits => h.waits bytes (mem_queue_exec exec waits)⟩

theorem Speaks.sends (h : Speaks w ofBytes accepts arrived l) {bytes : Buffer}
    (exec : Exec w l (some (.send bytes)) l') : Piece False accepts bytes := by
  obtain ⟨_, outputs, _⟩ := w.exec_future exec
  exact h.owes bytes ((outputs.filterMap TransportCall.sent?).subset List.mem_cons_self)

theorem Speaks.arrives (h : Speaks w ofBytes accepts arrived l) (k : κ)
    (here : ∀ bytes, k = ofBytes bytes → arrived bytes)
    (answers : ∀ event, w.decode k = some event → ∃ messages : List Message,
      w.posts (w.react (w.future l).1 event).2 = messages.map sendOf ∧
        ∀ m ∈ messages, accepts m ∧ m.TextFits) :
    Speaks w ofBytes accepts arrived (l.arrive k) := by
  refine ⟨h.safe, ?_, ?_⟩
  · rw [w.future_arrive]
    cases decoded : w.decode k with
    | none => exact h.owes
    | some event =>
      obtain ⟨messages, posted, accepted⟩ := answers event decoded
      intro bytes sent
      change bytes ∈ ((w.future l).2 ++ w.posts _).filterMap TransportCall.sent? at sent
      rw [posted, List.filterMap_append] at sent
      rcases List.mem_append.mp sent with old | new
      · exact h.owes bytes old
      · obtain ⟨call, member, same⟩ := List.mem_filterMap.mp new
        obtain ⟨m, hm, rfl⟩ := List.mem_map.mp member
        cases same
        exact piece_write (accepted m hm).1 (accepted m hm).2
  · intro bytes waits
    rcases List.mem_append.mp waits with old | new
    · exact h.waits bytes old
    · exact here bytes (Task.input.inj (List.mem_singleton.mp new)).symm

end

abbrev ClientSpeaks (zpp : ZppBits) (cut : Prop) : ClientLoop → Prop :=
  Speaks (clientController zpp) .bytes ForServer (Piece cut ForClient)

abbrev ServerSpeaks (zpp : ZppBits) : ServerLoop → Prop :=
  Speaks (serverController zpp) .bytes ForClient (Piece False ForServer)

section
variable {zpp : ZppBits} {cut : Prop}

theorem ClientSpeaks.arrives (documented : zpp.Documented) {l : ClientLoop}
    (h : ClientSpeaks zpp cut l) (callback : ClientCallback)
    (here : ∀ bytes, callback = .bytes bytes → Piece cut ForClient bytes) :
    ClientSpeaks zpp cut (l.arrive callback) := by
  refine Speaks.arrives h callback here fun event decoded =>
    ⟨_, client_posts documented _ event, fun m hm => ⟨?_, client_messages_fit _ event m hm⟩⟩
  refine client_says_accepted _ event ?_ m hm
  rintro received rfl
  cases callback with
  | connected | disconnected => cases decoded
  | bytes data =>
    obtain ⟨_, read, ⟨⟩⟩ := Option.map_eq_some_iff.mp decoded
    exact (here data rfl).received documented read

theorem ServerSpeaks.arrives (documented : zpp.Documented) {l : ServerLoop}
    (h : ServerSpeaks zpp l) (callback : ServerCallback)
    (here : ∀ bytes, callback = .bytes bytes → Piece False ForServer bytes) :
    ServerSpeaks zpp (l.arrive callback) := by
  refine Speaks.arrives h callback here fun event decoded =>
    ⟨_, server_posts documented _ event, fun m hm => ⟨?_, server_messages_fit _ event m hm⟩⟩
  refine server_says_accepted _ event ?_ m hm
  rintro received rfl
  cases callback with
  | connected | disconnected | sample => cases decoded
  | bytes data =>
    obtain ⟨_, read, ⟨⟩⟩ := Option.map_eq_some_iff.mp decoded
    exact (here data rfl).received documented read

/-! ## What is between them -/

/-- `cut`: writes of the server's may be short. -/
structure Spoken (zpp : ZppBits) (cut : Prop) (d : Deployment) : Prop where
  client : ClientSpeaks zpp cut d.client
  server : ServerSpeaks zpp d.server
  toServer : ∀ bytes ∈ d.toServer, Piece False ForServer bytes
  toClient : ∀ bytes ∈ d.toClient, Piece cut ForClient bytes

variable {d d' : Deployment}

theorem Spoken.cuts (h : Spoken zpp cut d) {toServer toClient : List Buffer}
    (server : toServer.Sublist d.toServer) (client : toClient.Sublist d.toClient) :
    Spoken zpp cut { d with toServer := toServer, toClient := toClient } :=
  { h with
    toServer := fun bytes hbytes => h.toServer bytes (server.subset hbytes)
    toClient := fun bytes hbytes => h.toClient bytes (client.subset hbytes) }

theorem Spoken.closes (documented : zpp.Documented) (h : Spoken zpp cut d)
    {toServer toClient : List Buffer} (server : toServer.Sublist d.toServer)
    (client : toClient.Sublist d.toClient) : Spoken zpp cut (d.closeChannel toServer toClient) := by
  unfold Deployment.closeChannel
  split_ifs
  · have cut := h.cuts server client
    exact { cut with server := ServerSpeaks.arrives documented h.server .disconnected nofun }
  · exact h

end

end RdpExt.DeployedSession
