/-
**The server does not speak first.**

A server that answers strangers can be used to flood others. This one sends a datagram only to an
address from which a connect token was presented in the same run: one that opens under the private key
of the server, for its protocol, and that had not expired. Challenges and denials answer such a
request; what is sent to a client goes to the address of its mapping, and mappings are made for
requests.

* `Solicited` — what has to have happened before a datagram is sent;
* `Atom.solicited` — one step;
* `datagrams_solicited` — **every datagram that the server ever sends**.
-/

import Netcode.Server.Amplification
import Netcode.Server.Entries
import Netcode.Model.Sample

namespace Netcode

open Trace

/-- **A datagram is solicited**: in the same run, a token of the server was presented from its
destination. -/
def Solicited (config : ServerConfig) : Effect → List Effect → Prop
  | .sent destination _, earlier => ∃ source request reading call token,
      .requested source request reading call ∈ thisRun earlier ∧
      (source = destination ∨ source.Equal destination = true) ∧ call.key = config.privateKey ∧
      call.additional =
        connectTokenAdditionalData config.protocolID request.connectTokenExpireTimestamp ∧
      call.token = some token ∧ reading < request.connectTokenExpireTimestamp
  | _, _ => True

namespace Server

variable {env : Platform} {config : ServerConfig} {s s' : Server}

/-- A presented token solicits what is sent to the address. -/
theorem Presented.solicits {source destination : Address} {request : ConnectionRequest}
    {token : ConnectTokenPrivate} (presented : Presented s source request token)
    (provenance : Provenance config s)
    (same : source = destination ∨ source.Equal destination = true) {new : List Effect}
    (inside : ∀ effect ∈ new, effect.boundary = false) (data : Bytes) :
    Solicited config (.sent destination data) (new ++ s.trace) := by
  obtain ⟨reading, call, member⟩ := presented.requested
  have accepted := provenance.accepted source request reading call member
  refine ⟨source, request, reading, call, token, ?_, same, accepted.key, accepted.additional,
    accepted.token_eq presented.reads, accepted.unexpired⟩
  rw [thisRun_append inside]
  exact List.mem_append_right _ member

/-- So does a mapping of the address. -/
theorem Provenance.solicits (provenance : Provenance config s) {e : Nat} {destination : Address}
    (equal : (s.encryptionManager.mapping e).address.Equal destination = true) {new : List Effect}
    (inside : ∀ effect ∈ new, effect.boundary = false) (data : Bytes) :
    Solicited config (.sent destination data) (new ++ s.trace) := by
  obtain ⟨source, request, token, origin⟩ := provenance.origin e (usable_of_equal equal)
  exact origin.presented.solicits provenance (.inr (Address.Equal.trans origin.address equal)) inside
    data

/-- **What one step sends is solicited.** -/
theorem Atom.solicited (binding : Binding env s) (provenance : Provenance config s)
    (atom : Atom env config s s') (before : Always (Solicited config) s.trace) :
    Always (Solicited config) s'.trace := by
  cases atom with
  | arrive => exact ⟨trivial, before⟩
  | micro micro =>
    cases micro with
    | tick | refresh | connectLoopback | disconnectLoopback => exact before
    | clock | ask | grant | release | reset => exact ⟨trivial, before⟩
    | openRequest | respond | start => exact ⟨trivial, trivial, before⟩
    | openPacket source reading data clientIndex e outcome call running head located reads isOpened
        notRequest =>
      obtain ⟨clients, same, -⟩ := applyReading_eq s source reading clientIndex outcome isOpened
        notRequest
      rw [same]
      exact ⟨trivial, before⟩
    | deny destination key running owner =>
      refine ⟨?_, trivial, before⟩
      rcases owner with ⟨request, token, presented, -⟩ | ⟨e, found, -⟩
      · exact presented.solicits provenance (.inl rfl) (List.forall_mem_singleton.mpr rfl) _
      · exact provenance.solicits (EncryptionManager.lookup_eq_some.mp found).2.1
          (List.forall_mem_singleton.mpr rfl) _
    | issue source request token running presented =>
      refine ⟨?_, trivial, trivial, trivial, before⟩
      exact @Presented.solicits config s source source request token presented provenance (.inl rfl)
        [_, _, _] (by simp [Effect.boundary]) _
    | install =>
      rw [installClient_trace]
      exact ⟨trivial, before⟩
    | send p i e note connected network mapped kind =>
      obtain ⟨e', bound⟩ := binding.bound i connected network
      have inside : ∀ effect ∈ note, effect.boundary = false := by cases kind <;> simp [Effect.boundary]
      refine ⟨?_, trivial, ?_⟩
      · exact @Provenance.solicits config s provenance e' _ bound.address (_ :: note)
          (List.forall_mem_cons.mpr ⟨rfl, inside⟩) _
      · cases kind with
        | keepAlive | disconnect => exact before
        | payload => exact ⟨trivial, before⟩
    | change i slot effects change =>
      refine before.append ?_
      cases change with
      | push payload sequence =>
        split_ifs
        · exact List.forall_mem_singleton.mpr fun _ => trivial
        · exact List.forall_mem_nil _
      | deliver =>
        split
        · exact List.forall_mem_singleton.mpr fun _ => trivial
        · exact List.forall_mem_nil _
      | sendLoopback => exact List.forall_mem_singleton.mpr fun _ => trivial
      | reason | hear | hearLoopback => exact List.forall_mem_nil _

/-- **The server does not speak first.** Whatever calls are made and whatever datagrams arrive from
wherever, each datagram that the server sends goes to an address from which, earlier in the same run, a
connect token was presented that opens under the private key for this protocol and had not expired. -/
theorem datagrams_solicited (quiet : config.NonReentrant) {calls : List Call}
    (run : Run env config calls s) {destination : Address} {data : Bytes} {earlier : List Effect}
    (isSent : .sent destination data :: earlier <:+ s.trace) :
    Solicited config (.sent destination data) earlier := by
  have always := (Run.along (fun _ => True)
    (fun s => Provenance config s ∧ Always (Solicited config) s.trace) quiet (fun _ _ _ met => met)
    (fun address address2 time => ⟨.new config address address2 time, trivial⟩)
    (fun _ _ binding atom _ held => ⟨held.1.step (atom.tokenStep binding),
      atom.solicited binding held.1 held.2⟩) run trivial).2
  exact (always.of_suffix isSent).1

/-- The server has answered its first client. -/
theorem datagrams_solicited_first : ∃ s destination data earlier,
    execute samplePlatform Sample.config Sample.server Sample.connectFirst = some s ∧
      .sent destination data :: earlier <:+ s.trace ∧
      Solicited Sample.config (.sent destination data) earlier := by
  have runs : (execute samplePlatform Sample.config Sample.server Sample.connectFirst).map
      (fun s => (sentDatagrams s.trace).isEmpty) = some false := by
    decide +kernel
  obtain ⟨s, done, sends⟩ := Option.map_eq_some_iff.mp runs
  obtain ⟨sent, member⟩ := List.exists_mem_of_ne_nil _ (by simpa using sends)
  obtain ⟨effect, isEffect, isSent⟩ := List.mem_filterMap.mp member
  obtain ⟨later, earlier, trace⟩ := List.append_of_mem isEffect
  cases effect with
  | sent destination data =>
    have before : .sent destination data :: earlier <:+ s.trace := ⟨later, trace.symm⟩
    exact ⟨s, destination, data, earlier, done, before,
      datagrams_solicited Sample.config_nonReentrant (Sample.server_run.execute done) before⟩
  | _ => cases isSent

end Server

end Netcode
