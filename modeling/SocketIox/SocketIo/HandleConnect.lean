import SocketIox.Proc.Runs
import SocketIox.SocketIo.ReceivePath
import SocketIox.SocketIo.Server

/-! # Waiting for the connect packet

The task that `handle_connect` spawns polls the raw socket for the connect packet, under
a timeout, and registers the client once the handshake is written. The timeout drops the
session. Whatever else ends the task leaves the session as it was, neither registered nor
closed.
-/
namespace SocketIox.SocketIo
open Wire Proc

/-- What `RawSocket::poll_packet` comes to when its generator takes an answer. -/
inductive Polled where
  | pending
  | packet (packet : Packet)
  | error (e : Error)
  | ended
  | panicked

def Receiver.polled (before after : Receiver) : Polled :=
  match after.yielded.drop before.yielded.length,after.phase with
  | .ok packet :: _,_ => .packet packet
  | .error e :: _,_ => .error e
  | [],.ended => .ended
  | [],.panicked => .panicked
  | [],_ => .pending

/-- The task polls, waits for the handshake to be written, or is over. -/
inductive HandleStage where
  | polling
  | handshake (nsp : NameSpace)
  | finished
  deriving DecidableEq

structure HandleConnect where
  server : Server
  receiver : Receiver
  stage : HandleStage

/-- The engine answers `next`, `CONNECT_TIMEOUT` elapses, the handshake was written or has failed;
or the event loop handles the closing of the session. -/
inductive HandleInput where
  | answer (next : Option EngineItem)
  | elapsed
  | written
  | onClose

namespace HandleConnect
variable (base64 : EngineIo.Base64Crate) (json : SerdeJson) (socket : ℕ) (esid : EngineSid) (sid : Sid)

def start (server : Server) : HandleConnect := ⟨server,.initial,.polling⟩

def drop (s : HandleConnect) : HandleConnect := { s with server := s.server.dropClient base64 esid }

/-- One pass of the loop of `do_handle_connect`, up to the handshake of `insert_clients`. -/
def doHandleConnect (s : HandleConnect) : Polled → HandleConnect
  | .pending => s
  | .packet packet =>
    if packet.ptype = .connect then
      if packet.nsp ∈ s.server.on then { s with stage := .handshake packet.nsp }
      else { s with stage := .finished }
    else s
  | .error _ | .ended | .panicked => { s with stage := .finished }

def step (s : HandleConnect) (input : HandleInput) : Option HandleConnect :=
  match s.stage,input with
  | .polling,.answer next =>
    let receiver := s.receiver.step json next
    some (doHandleConnect { s with receiver := receiver } (s.receiver.polled receiver))
  | .polling,.elapsed => some { s.drop base64 esid with stage := .finished }
  | .handshake nsp,.written =>
    some { s with server := s.server.insertClients socket nsp esid sid, stage := .finished }
  | .handshake _,.elapsed => some { s.drop base64 esid with stage := .finished }
  | _,.onClose => some (s.drop base64 esid)
  | _,_ => none

def Fresh (s : HandleConnect) : Prop := esid ∈ s.server.sockets ∧ esid ∉ s.server.clients

instance (s : HandleConnect) : Decidable (s.Fresh esid) := inferInstanceAs (Decidable (_ ∧ _))

/-- The session has a client, or its socket was closed. -/
def Settled (s : HandleConnect) : Prop := esid ∈ s.server.clients ∨ esid ∉ s.server.sockets

/-- Polling goes on, or comes to the connect packet of a namespace that has callbacks. -/
def Proceeds (s : HandleConnect) : Polled → Prop
  | .pending => True
  | .packet packet => packet.ptype = .connect → packet.nsp ∈ s.server.on
  | .error _ | .ended | .panicked => False

/-- No answer of the engine makes polling fail or end, or brings a connect packet for an unknown
namespace. -/
def Orderly (s : HandleConnect) : HandleInput → Prop
  | .answer next => s.Proceeds (s.receiver.polled (s.receiver.step json next))
  | _ => True

section Steps
variable {base64 json socket esid sid} {s t u : HandleConnect} {input : HandleInput} {inputs : List HandleInput}

theorem doHandleConnect_cases (s : HandleConnect) (polled : Polled) :
    (s.doHandleConnect polled).server = s.server ∧
      (s.Proceeds polled ∧ (s.doHandleConnect polled = s ∨
          ∃ nsp ∈ s.server.on, s.doHandleConnect polled = { s with stage := .handshake nsp }) ∨
        ¬ s.Proceeds polled ∧ (s.doHandleConnect polled).stage = .finished) := by
  cases polled with
  | pending => exact ⟨rfl,Or.inl ⟨trivial,Or.inl rfl⟩⟩
  | packet packet =>
    by_cases hc : packet.ptype = .connect
    · by_cases hn : packet.nsp ∈ s.server.on
      · refine ⟨by simp [doHandleConnect,hc,hn],Or.inl ⟨fun _ => hn,Or.inr ⟨packet.nsp,hn,?_⟩⟩⟩
        simp [doHandleConnect,hc,hn]
      · refine ⟨by simp [doHandleConnect,hc,hn],Or.inr ⟨fun h => hn (h hc),?_⟩⟩
        simp [doHandleConnect,hc,hn]
    · refine ⟨by simp [doHandleConnect,hc],Or.inl ⟨fun h => absurd h hc,Or.inl ?_⟩⟩
      simp [doHandleConnect,hc]
  | error e => exact ⟨rfl,Or.inr ⟨fun h => h,rfl⟩⟩
  | ended => exact ⟨rfl,Or.inr ⟨fun h => h,rfl⟩⟩
  | panicked => exact ⟨rfl,Or.inr ⟨fun h => h,rfl⟩⟩

theorem step_cases (h : step base64 json socket esid sid s input = some t) :
    (s.stage = .polling ∧ input ≠ .onClose ∧ t.server = s.server ∧
      (s.Orderly json input ∧ (t.stage = .polling ∨ ∃ nsp ∈ s.server.on, t.stage = .handshake nsp) ∨
        ¬ s.Orderly json input ∧ t.stage = .finished)) ∨
    (∃ nsp, s.stage = .handshake nsp ∧ input = .written ∧
      t.server = s.server.insertClients socket nsp esid sid ∧ t.stage = .finished) ∨
    (s.Orderly json input ∧ t.server = s.server.dropClient base64 esid ∧
      (input = .onClose ∧ t.stage = s.stage ∨ s.stage ≠ .finished ∧ t.stage = .finished)) := by
  obtain ⟨server,receiver,stage⟩ := s
  cases stage with
  | polling =>
    cases input with
    | answer next =>
      cases h
      obtain ⟨hserver,hcases⟩ := doHandleConnect_cases ⟨server,receiver.step json next,.polling⟩
        (receiver.polled (receiver.step json next))
      refine Or.inl ⟨rfl,by simp,hserver,?_⟩
      rcases hcases with ⟨hp,hsame | ⟨nsp,hn,hnext⟩⟩ | ⟨hp,hstage⟩
      · exact Or.inl ⟨hp,Or.inl (by rw [hsame])⟩
      · exact Or.inl ⟨hp,Or.inr ⟨nsp,hn,by rw [hnext]⟩⟩
      · exact Or.inr ⟨hp,hstage⟩
    | elapsed =>
      cases h
      exact Or.inr (Or.inr ⟨trivial,rfl,Or.inr ⟨by simp,rfl⟩⟩)
    | written => cases h
    | onClose =>
      cases h
      exact Or.inr (Or.inr ⟨trivial,rfl,Or.inl ⟨rfl,rfl⟩⟩)
  | handshake nsp =>
    cases input with
    | answer next => cases h
    | elapsed =>
      cases h
      exact Or.inr (Or.inr ⟨trivial,rfl,Or.inr ⟨by simp,rfl⟩⟩)
    | written =>
      cases h
      exact Or.inr (Or.inl ⟨nsp,rfl,rfl,rfl,rfl⟩)
    | onClose =>
      cases h
      exact Or.inr (Or.inr ⟨trivial,rfl,Or.inl ⟨rfl,rfl⟩⟩)
  | finished =>
    cases input with
    | answer next => cases h
    | elapsed => cases h
    | written => cases h
    | onClose =>
      cases h
      exact Or.inr (Or.inr ⟨trivial,rfl,Or.inl ⟨rfl,rfl⟩⟩)

/-- The handshake is that of a known namespace, and a task that is over has settled the session. -/
structure Sound (esid : EngineSid) (s : HandleConnect) : Prop where
  known : ∀ nsp, s.stage = .handshake nsp → nsp ∈ s.server.on
  settled : s.stage = .finished → s.Settled esid

theorem step_sound (ho : s.Orderly json input) (hs : s.Sound esid)
    (h : step base64 json socket esid sid s input = some t) : t.Sound esid := by
  rcases step_cases h with ⟨-,-,hserver,⟨-,hstage⟩ | ⟨hnot,-⟩⟩ | ⟨nsp,hstage,-,hserver,hfinished⟩ |
    ⟨-,hserver,hstage⟩
  · rcases hstage with hstage | ⟨nsp,hn,hstage⟩
    · exact ⟨fun nsp h => by simp [hstage] at h,fun h => by simp [hstage] at h⟩
    · refine ⟨?_,fun h => by simp [hstage] at h⟩
      intro nsp' h
      rw [hstage] at h
      cases h
      rw [hserver]
      exact hn
  · exact absurd ho hnot
  · refine ⟨fun nsp' h => by simp [hfinished] at h,fun _ => Or.inl ?_⟩
    rw [hserver]
    exact Server.mem_clients_insertClients _ _ _ (hs.known nsp hstage)
  · refine ⟨?_,fun _ => Or.inr ?_⟩
    · intro nsp hnsp
      rw [hserver]
      rcases hstage with ⟨-,hstage⟩ | ⟨-,hstage⟩
      · exact hs.known nsp (hstage ▸ hnsp)
      · simp [hstage] at hnsp
    · rw [hserver]
      exact s.server.not_mem_sockets_dropClient esid base64

theorem step_not_mem_sockets (hs : esid ∉ s.server.sockets)
    (h : step base64 json socket esid sid s input = some t) : esid ∉ t.server.sockets := by
  rcases step_cases h with ⟨-,-,hserver,-⟩ | ⟨nsp,-,-,hserver,-⟩ | ⟨-,hserver,-⟩
  · rwa [hserver]
  · rwa [hserver,Server.sockets_insertClients]
  · rw [hserver]
    exact s.server.not_mem_sockets_dropClient esid base64

theorem run_onClose (hrun : run (step base64 json socket esid sid) s inputs = some u)
    (h : .onClose ∈ inputs) : esid ∉ u.server.sockets := by
  induction inputs generalizing s with
  | nil => cases h
  | cons input rest ih =>
    obtain ⟨t,hstep,hrest⟩ := run_cons hrun
    rcases List.mem_cons.mp h with rfl | h
    · have ht : esid ∉ t.server.sockets := by
        rcases step_cases hstep with ⟨-,hne,-⟩ | ⟨nsp,-,hne,-⟩ | ⟨-,hserver,-⟩
        · exact absurd rfl hne
        · cases hne
        · rw [hserver]
          exact s.server.not_mem_sockets_dropClient esid base64
      exact run_preserves (fun s input t => step_not_mem_sockets) ht hrest
    · exact ih hrest h

theorem run_finished (hs : s.stage = .finished) (hc : .onClose ∉ inputs)
    (hrun : run (step base64 json socket esid sid) s inputs = some u) : u = s ∧ inputs = [] := by
  cases inputs with
  | nil =>
    cases hrun
    exact ⟨rfl,rfl⟩
  | cons input rest =>
    obtain ⟨t,hstep,-⟩ := run_cons hrun
    rcases step_cases hstep with ⟨hstage,-⟩ | ⟨nsp,hstage,-⟩ | ⟨-,-,⟨rfl,-⟩ | ⟨hne,-⟩⟩
    · simp [hs] at hstage
    · simp [hs] at hstage
    · exact absurd List.mem_cons_self hc
    · exact absurd hs hne

theorem run_orderly (hs : s.Fresh esid) (hstage : s.stage ≠ .finished) (hc : .onClose ∉ inputs)
    (hrun : run (step base64 json socket esid sid) s inputs = some u) (hu : u.Settled esid) :
    Along (step base64 json socket esid sid) (Orderly json) s inputs := by
  induction inputs generalizing s with
  | nil => trivial
  | cons input rest ih =>
    obtain ⟨t,hstep,hrest⟩ := run_cons hrun
    have hcrest : .onClose ∉ rest := fun h => hc (List.mem_cons_of_mem _ h)
    have hover : s.Orderly json input → t.stage = .finished →
        Along (step base64 json socket esid sid) (Orderly json) s (input :: rest) := by
      intro ho ht
      refine ⟨ho,?_⟩
      intro t' _
      rw [(run_finished ht hcrest hrest).2]
      trivial
    rcases step_cases hstep with ⟨-,-,hserver,⟨ho,hgoes⟩ | ⟨-,ht⟩⟩ | ⟨nsp,-,rfl,-,ht⟩ | ⟨ho,-,⟨rfl,-⟩ | ⟨-,ht⟩⟩
    · refine ⟨ho,?_⟩
      intro t' ht'
      rw [hstep] at ht'
      cases ht'
      have hfresh : t.Fresh esid := by
        unfold Fresh
        rwa [hserver]
      have hne : t.stage ≠ .finished := by
        rcases hgoes with hgoes | ⟨nsp,-,hgoes⟩ <;> simp [hgoes]
      exact ih hfresh hne hcrest hrest
    · rw [(run_finished ht hcrest hrest).1,Settled,hserver] at hu
      rcases hu with hu | hu
      · exact absurd hu hs.2
      · exact absurd hs.1 hu
    · exact hover trivial ht
    · exact absurd List.mem_cons_self hc
    · exact hover ho ht

end Steps

end HandleConnect

open HandleConnect

/-- Once the task is over, the session is registered or closed if and only if every answer let the
task proceed, or the session was closed by the event loop. -/
theorem handle_connect_settles_iff (base64 : EngineIo.Base64Crate) (json : SerdeJson) (server : Server)
    (socket : ℕ) (esid : EngineSid) (sid : Sid) (inputs : List HandleInput) (s : HandleConnect)
    (hfresh : (start server).Fresh esid)
    (hrun : run (step base64 json socket esid sid) (start server) inputs = some s)
    (hfinished : s.stage = .finished) :
    s.Settled esid ↔
      Along (step base64 json socket esid sid) (Orderly json) (start server) inputs ∨ .onClose ∈ inputs := by
  constructor
  · intro h
    by_cases hc : .onClose ∈ inputs
    · exact Or.inr hc
    · exact Or.inl (run_orderly hfresh (by simp [start]) hc hrun h)
  · rintro (ho | hc)
    · have hs : Sound esid (start server) := ⟨fun nsp h => by simp [start] at h,fun h => by simp [start] at h⟩
      exact (run_preserves_along (fun s input t => step_sound) ho hs hrun).settled hfinished
    · exact Or.inr (run_onClose hrun hc)

def openedServer : Server := { Server.empty ["/"] with sockets := AList.singleton "MA==" 0 }

theorem openedServer_fresh : (start openedServer).Fresh "MA==" := by decide

section Connects
variable {json : SerdeJson} {s : HandleConnect} (item : EngineIo.Packet) {packet : Packet}

theorem polled_message (ho : s.receiver.phase = .outer) (hm : isMessage item.ptype = true)
    (ht : Packet.tryFrom json item.data = .ok packet) (hz : packet.attachmentCount = 0) :
    s.receiver.step json (some (.ok item)) = s.receiver.give packet ∧
      s.receiver.polled (s.receiver.give packet) = .packet packet := by
  constructor
  · simp [Receiver.step,ho,hm,ht,hz]
  · simp [Receiver.polled,Receiver.give]

theorem step_message (base64 : EngineIo.Base64Crate) (socket : ℕ) (esid : EngineSid) (sid : Sid)
    (hp : s.stage = .polling) (ho : s.receiver.phase = .outer) (hm : isMessage item.ptype = true)
    (ht : Packet.tryFrom json item.data = .ok packet) (hz : packet.attachmentCount = 0) :
    step base64 json socket esid sid s (.answer (some (.ok item))) =
      some (doHandleConnect { s with receiver := s.receiver.give packet } (.packet packet)) := by
  obtain ⟨hr,hpolled⟩ := polled_message item ho hm ht hz
  simp only [step,hp,hr,hpolled]

theorem orderly_message (ho : s.receiver.phase = .outer) (hm : isMessage item.ptype = true)
    (ht : Packet.tryFrom json item.data = .ok packet) (hz : packet.attachmentCount = 0)
    (hn : packet.nsp ∈ s.server.on) : s.Orderly json (.answer (some (.ok item))) := by
  obtain ⟨hr,hpolled⟩ := polled_message item ho hm ht hz
  simp only [Orderly,hr,hpolled]
  intro _
  exact hn

theorem tryFrom_connect : Packet.tryFrom sampleDocument (encodeUtf8 ['0']) =
    .ok ⟨.connect,"/",none,none,0,none⟩ := (tryFrom_encodeUtf8 _ _ _).trans rfl

theorem tryFrom_connect_admin : Packet.tryFrom sampleDocument (encodeUtf8 "0/admin,".toList) =
    .ok ⟨.connect,"/admin",none,none,0,none⟩ := (tryFrom_encodeUtf8 _ _ _).trans rfl

end Connects

theorem handle_connect_settles_connected :
    ∃ s, run (step EngineIo.rfc4648 sampleDocument 0 "MA==" "TUE9PS0w") (start openedServer)
        [.answer (some (.ok ⟨.message,encodeUtf8 ['0']⟩)),.written] = some s ∧ s.Settled "MA==" := by
  have hstep := step_message (s := start openedServer) ⟨.message,encodeUtf8 ['0']⟩ EngineIo.rfc4648 0
    "MA==" "TUE9PS0w" rfl rfl rfl tryFrom_connect rfl
  have hrun : ∃ s, run (step EngineIo.rfc4648 sampleDocument 0 "MA==" "TUE9PS0w") (start openedServer)
      [.answer (some (.ok ⟨.message,encodeUtf8 ['0']⟩)),.written] = some s ∧ s.stage = .finished := by
    simp only [run,hstep,Option.bind_some]
    exact ⟨_,rfl,rfl⟩
  obtain ⟨s,hrun,hfinished⟩ := hrun
  refine ⟨s,hrun,?_⟩
  apply (handle_connect_settles_iff _ _ _ _ _ _ _ s openedServer_fresh hrun hfinished).mpr
  have horderly := orderly_message (s := start openedServer) ⟨.message,encodeUtf8 ['0']⟩ rfl rfl
    tryFrom_connect rfl (by decide)
  exact Or.inl ⟨horderly,fun _ _ => ⟨trivial,fun _ _ => trivial⟩⟩

/-- A connect packet for a namespace that the server does not have. -/
theorem handle_connect_unsettled :
    ∃ s, run (step EngineIo.rfc4648 sampleDocument 0 "MA==" "TUE9PS0w") (start openedServer)
        [.answer (some (.ok ⟨.message,encodeUtf8 "0/admin,".toList⟩))] = some s ∧
      (start openedServer).Fresh "MA==" ∧ s.stage = .finished ∧ ¬ s.Settled "MA==" := by
  have hstep := step_message (s := start openedServer) ⟨.message,encodeUtf8 "0/admin,".toList⟩
    EngineIo.rfc4648 0 "MA==" "TUE9PS0w" rfl rfl rfl tryFrom_connect_admin rfl
  simp only [run,hstep,Option.bind_some]
  refine ⟨_,rfl,openedServer_fresh,rfl,?_⟩
  rintro (h | h)
  · exact absurd h (by decide)
  · exact absurd (by decide) h

end SocketIox.SocketIo
