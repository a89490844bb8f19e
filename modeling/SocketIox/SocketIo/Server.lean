import Mathlib.Data.Finset.Option
import Mathlib.Data.Finset.Union
import SocketIox.SocketIo.Payload
import SocketIox.SocketIo.SidGenerator
import SocketIox.Store.Groups

/-! # The socket.io server

The registry of clients, keyed by engine session, session and namespace, and the rooms
of every namespace. A client is looked up by decoding its session id, not by searching
the registry.
-/
namespace SocketIox.SocketIo
open Wire

abbrev NameSpace := String
abbrev Room := String
abbrev Sid := String
abbrev EngineSid := String

/-- The server's end of a connected client; sockets of the engine are numbered. -/
structure Client where
  socket : ℕ
  nsp : NameSpace
  sid : Sid
  deriving DecidableEq, Repr

abbrev Rooms := Store.Nested NameSpace Room Sid
abbrev Clients := Store.Map EngineSid (Store.Map Sid (Store.Map NameSpace Client))

namespace Clients
variable (clients : Clients)

def get (esid : EngineSid) (sid : Sid) (nsp : NameSpace) : Option Client := do
  let sidMap ← clients.lookup esid
  let nspMap ← sidMap.lookup sid
  nspMap.lookup nsp

/-- `entry(esid).or_default()`, `entry(sid).or_default()`, `insert(nsp,client)`. -/
def put (esid : EngineSid) (sid : Sid) (nsp : NameSpace) (client : Client) : Clients :=
  let sidMap := (clients.lookup esid).getD ∅
  let nspMap := (sidMap.lookup sid).getD ∅
  clients.insert esid (sidMap.insert sid (nspMap.insert nsp client))

end Clients

/-- `on` are the namespaces with callbacks, `sockets` those of the engine server. -/
structure Server where
  on : List NameSpace
  sockets : Store.Map EngineSid ℕ
  rooms : Rooms
  clients : Clients

def Server.empty (on : List NameSpace) : Server := ⟨on,∅,∅,∅⟩

namespace Server
variable (base64 : EngineIo.Base64Crate) (s : Server)

/-- One room of `join`: entries of the namespace and of the room are made on demand. -/
def joinRoom (nsp : NameSpace) (sid : Sid) (room : Room) : Server := { s with rooms := s.rooms.add nsp room sid }

def join (nsp : NameSpace) (rooms : List Room) (sid : Sid) : Server :=
  rooms.foldl (fun s room => s.joinRoom nsp sid room) s

def leaveRoom (nsp : NameSpace) (sid : Sid) (room : Room) : Server :=
  { s with rooms := s.rooms.remove nsp room sid }

def leave (nsp : NameSpace) (rooms : List Room) (sid : Sid) : Server :=
  rooms.foldl (fun s room => s.leaveRoom nsp sid room) s

/-- One pass of the loop of `sids_to_emit`; a room that is not there may be a session id. -/
def sidsOfRoom (roomClients : Store.Groups Room Sid) (sids : Finset Sid) (room : Room) : Finset Sid :=
  match roomClients.lookup room with
  | some members => sids ∪ members
  | none => insert room sids

def sidsToEmit (nsp : NameSpace) (rooms : List Room) : Finset Sid :=
  match s.rooms.lookup nsp with
  | some roomClients => rooms.foldl (sidsOfRoom roomClients) ∅
  | none => ∅

def client (sid : Sid) (nsp : NameSpace) : Option Client := do
  let esid ← SidGenerator.decode base64 sid
  s.clients.get esid sid nsp

/-- The emits that `emit_to` spawns. -/
def emitTo (nsp : NameSpace) (rooms : List Room) (event : Event) (payload : Payload) :
    Finset (Client × Event × Payload) :=
  ((s.sidsToEmit nsp rooms).biUnion (fun sid => (s.client base64 sid nsp).toFinset)).map
    ⟨fun client => (client,event,payload),fun _ _ h => (Prod.mk.inj h).1⟩

/-- What `insert_clients` does to the registry, unless the namespace is unknown. -/
def insertClients (socket : ℕ) (nsp : NameSpace) (esid : EngineSid) (sid : Sid) : Server :=
  if nsp ∈ s.on then { s with clients := s.clients.put esid sid nsp ⟨socket,nsp,sid⟩ } else s

def dropClient (esid : EngineSid) : Server := { s with
  sockets := s.sockets.erase esid
  clients := s.clients.erase esid
  rooms := s.rooms.retain (fun sid => SidGenerator.decode base64 sid != some esid) }

end Server

theorem Server.client_eq_get {base64 : EngineIo.Base64Crate} {s : Server} {sid : Sid} {esid : EngineSid}
    (h : SidGenerator.decode base64 sid = some esid) (nsp : NameSpace) :
    s.client base64 sid nsp = s.clients.get esid sid nsp := by
  simp only [Server.client,h,Option.bind_eq_bind,Option.bind_some]

section Sessions
variable (server : Server) (socket : ℕ) (esid : EngineSid) (sid : Sid)

theorem Server.not_mem_sockets_dropClient (base64 : EngineIo.Base64Crate) :
    esid ∉ (server.dropClient base64 esid).sockets := by
  simp [Server.dropClient,AList.mem_erase]

theorem Server.sockets_insertClients (nsp : NameSpace) :
    (server.insertClients socket nsp esid sid).sockets = server.sockets := by
  unfold Server.insertClients
  split <;> rfl

variable {server} in
theorem Server.mem_clients_insertClients {nsp : NameSpace} (h : nsp ∈ server.on) :
    esid ∈ (server.insertClients socket nsp esid sid).clients := by
  simp [Server.insertClients,h,Clients.put]

end Sessions

section Clients
variable {clients : Clients} {esid esid' : EngineSid} {sid sid' : Sid} {nsp nsp' : NameSpace} {client : Client}

theorem Clients.get_put : (clients.put esid sid nsp client).get esid' sid' nsp' =
    if esid' = esid ∧ sid' = sid ∧ nsp' = nsp then some client else clients.get esid' sid' nsp' := by
  unfold Clients.put Clients.get
  simp only [Store.lookup_insert_eq,Option.bind_eq_bind]
  by_cases he : esid' = esid
  · subst he
    simp only [↓reduceIte,Option.bind_some,Store.lookup_insert_eq,true_and]
    by_cases hs : sid' = sid
    · subst hs
      simp only [↓reduceIte,Option.bind_some,Store.lookup_insert_eq,true_and,Store.lookup_getD_empty,
        Option.bind_assoc]
    · simp only [hs,↓reduceIte,false_and,Store.lookup_getD_empty,Option.bind_assoc]
  · simp only [he,↓reduceIte,false_and]

theorem Clients.get_erase : Clients.get (clients.erase esid) esid' sid nsp =
    if esid' = esid then none else clients.get esid' sid nsp := by
  unfold Clients.get
  rw [Store.lookup_erase_eq]
  by_cases he : esid' = esid
  · simp [he]
  · simp [he]

end Clients

section Keyed
variable {base64 : EngineIo.Base64Crate}

/-- Every client is stored under the engine session its session id decodes to. -/
def KeyedByDecode (base64 : EngineIo.Base64Crate) (clients : Clients) : Prop :=
  ∀ esid sid nsp client, clients.get esid sid nsp = some client → SidGenerator.decode base64 sid = some esid

theorem KeyedByDecode.put {clients : Clients} (h : KeyedByDecode base64 clients) {esid : EngineSid} {sid : Sid}
    (hd : SidGenerator.decode base64 sid = some esid) (nsp : NameSpace) (client : Client) :
    KeyedByDecode base64 (clients.put esid sid nsp client) := by
  intro esid' sid' nsp' client' hget
  rw [Clients.get_put] at hget
  split at hget
  · rename_i heq
    rw [heq.1,heq.2.1]
    exact hd
  · exact h _ _ _ _ hget

theorem KeyedByDecode.erase {clients : Clients} (h : KeyedByDecode base64 clients) (esid : EngineSid) :
    KeyedByDecode base64 (clients.erase esid) := by
  intro esid' sid nsp client hget
  rw [Clients.get_erase] at hget
  split at hget
  · cases hget
  · exact h _ _ _ _ hget

theorem keyedByDecode_empty : KeyedByDecode base64 ∅ := by
  intro esid sid nsp client hget
  simp [Clients.get] at hget

theorem KeyedByDecode.client_eq_some_iff {s : Server} (h : KeyedByDecode base64 s.clients) {sid : Sid}
    {nsp : NameSpace} {client : Client} :
    s.client base64 sid nsp = some client ↔ ∃ esid, s.clients.get esid sid nsp = some client := by
  unfold Server.client
  rw [Option.bind_eq_bind,Option.bind_eq_some_iff]
  constructor
  · rintro ⟨esid,-,hget⟩
    exact ⟨esid,hget⟩
  · rintro ⟨esid,hget⟩
    exact ⟨esid,h _ _ _ _ hget,hget⟩

end Keyed

end SocketIox.SocketIo
