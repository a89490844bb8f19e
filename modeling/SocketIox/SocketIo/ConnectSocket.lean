import SocketIox.EngineIo.BuiltSocket

/-! # Connecting the socket of a client

The transport type of a client's builder picks the way in which the engine's builder makes
its socket. A client that reconnects goes through all of it again.
-/
namespace SocketIox.SocketIo
open Wire Proc EngineIo EngineIo.SocketBuilder

inductive TransportType where
  | any
  | websocket
  | websocketUpgrade
  | polling
  deriving DecidableEq, Repr

def TransportType.sessions : TransportType → ℕ
  | .any => 2
  | .websocket | .websocketUpgrade | .polling => 1

section Connect
variable (crates : ClientCrates)

/-- The builder of `ClientBuilder::connect_socket`, from the address that has been parsed. -/
def engineBuilder (address : Url) (openingHeaders : Option HeaderMap) : SocketBuilder :=
  let url := if address.path = "/" then { address with path := "/socket.io/" } else address
  let builder := SocketBuilder.new url
  match openingHeaders with
  | none => builder
  | some headers => builder.withHeaders headers

/-- `ClientBuilder::connect_socket` up to the socket of the engine. -/
def connectSocket (transportType : TransportType) (address : Url) (openingHeaders : Option HeaderMap) :
    Building ClientSocket :=
  match transportType with
  | .any => (engineBuilder address openingHeaders).buildWithFallback crates
  | .polling => (engineBuilder address openingHeaders).buildPolling crates
  | .websocket => (engineBuilder address openingHeaders).buildWebsocket crates
  | .websocketUpgrade => (engineBuilder address openingHeaders).buildWebsocketWithUpgrade crates

end Connect

section Builder
variable {crates : ClientCrates} {transportType : TransportType} {address : Url} {openingHeaders : Option HeaderMap}
variable {asked : Transcript Question Answer}

theorem engineBuilder_handshake : (engineBuilder address openingHeaders).handshake = none := by
  cases openingHeaders <;> rfl

theorem engineBuilder_url : (engineBuilder address openingHeaders).url.scheme = address.scheme ∧
    (engineBuilder address openingHeaders).url.query = address.query ++ [("EIO","4")] := by
  cases openingHeaders <;> by_cases hroot : address.path = "/" <;>
    simp [engineBuilder,SocketBuilder.new,SocketBuilder.withHeaders,Url.appendPair,hroot]

theorem connectSocket_does {r : Except Halt ClientSocket}
    (h : (connectSocket crates transportType address openingHeaders).Yields asked r) :
    Connects crates transportType.sessions (engineBuilder address openingHeaders) asked r := by
  cases transportType with
  | any => exact buildWithFallback_does engineBuilder_handshake h
  | websocket => exact buildWebsocket_does engineBuilder_handshake h
  | websocketUpgrade => exact (buildWebsocketWithUpgrade_does engineBuilder_handshake h).connects
  | polling => exact (buildPolling_does engineBuilder_handshake h).connects

theorem engineBuilder_sameVersion (h : address.SameVersion) : (engineBuilder address openingHeaders).url.SameVersion := by
  intro pair hm
  rw [engineBuilder_url.2] at hm
  rcases List.mem_append.mp hm with hm | hm
  · exact h pair hm
  · rw [List.mem_singleton.mp hm]
    exact fun _ => rfl

theorem engineBuilder_no_sid (h : ∀ pair ∈ address.query, toLowercase pair.1 ≠ "sid") :
    ∀ pair ∈ (engineBuilder address openingHeaders).url.query, toLowercase pair.1 ≠ "sid" := by
  intro pair hm
  rw [engineBuilder_url.2] at hm
  rcases List.mem_append.mp hm with hm | hm
  · exact h pair hm
  · rw [List.mem_singleton.mp hm]
    decide +kernel

end Builder

/-- Whatever the network answers, connecting does not panic, opens at most one session, or two if it may fall back,
and the socket it makes is on the session that was announced last, under which the server takes its requests. -/
theorem connect_socket_session (crates : ClientCrates) (hs : crates.Schemes) (transportType : TransportType)
    (address : Url) (openingHeaders : Option HeaderMap) (hscheme : address.scheme ∈ ["http","https","ws","wss"])
    (hversion : address.SameVersion) (hsid : ∀ pair ∈ address.query, toLowercase pair.1 ≠ "sid")
    (asked : Transcript Question Answer) (r : Except Halt ClientSocket)
    (h : (connectSocket crates transportType address openingHeaders).Yields asked r) :
    r ≠ .error .panicked ∧ (announced crates asked).length ≤ transportType.sessions ∧
      ∀ socket, r = .ok socket →
        (announced crates asked).getLast? = some socket.handshake ∧ socket.Addresses asked := by
  have hconnects := connectSocket_does h
  refine ⟨hconnects.sound hs (by rw [engineBuilder_url.1]; exact hscheme),hconnects.sessions,?_⟩
  intro socket hsocket
  obtain ⟨handshake,hannounced,hbelongs⟩ := hconnects.session hs socket hsocket
  have hbuilder := @engineBuilder_sameVersion _ openingHeaders hversion
  rcases hbelongs with hon | hdirect
  · refine ⟨?_,addresses_of_onSession hbuilder hon⟩
    rw [hannounced,hon.1]
  · refine ⟨?_,addresses_of_direct hbuilder (engineBuilder_no_sid hsid) hdirect⟩
    rw [hannounced,hdirect.1]

section Example

def sampleClient : ClientCrates where
  base64 := rfc4648
  json := EngineIo.sampleJson
  setScheme url scheme := some { url with scheme := scheme }
  headerName name := some name
  headerValue _ := true

def sampleAddress : Url := ⟨"http","/",[("room","1")]⟩

def samplePollUrl : Url :=
  ⟨"http","/socket.io/",[("room","1"),("EIO","4"),("transport","polling")]⟩

def sampleItem : Option (Except Error Wire.Bytes) :=
  some (.ok (48 :: Wire.encodeUtf8 (sampleDocument "[\"websocket\"]").toList))

def sampleAsked : Transcript Question Answer :=
  [⟨.client none,(.ok () : Except String Unit)⟩,⟨.poll samplePollUrl none,sampleItem⟩,
    ⟨.client none,(.ok () : Except String Unit)⟩]

def sampleSocket : ClientSocket :=
  ⟨.polling ⟨"http","/socket.io/",[("room","1"),("EIO","4"),("sid","c2lk"),("transport","polling")]⟩ none,
    handshakePacket default ["websocket"] "c2lk",true⟩

theorem newPolling_sample :
    (newPolling none).Yields [⟨.client none,(.ok () : Except String Unit)⟩] (.ok ()) :=
  Attempt.yields_bind.mpr (Or.inr ⟨_,.ok (),[],rfl,yields_pose.mpr ⟨_,rfl,rfl⟩,yields_ofResult.mpr ⟨rfl,rfl⟩⟩)

theorem readHandshake_sample : readHandshake sampleClient.base64 sampleClient.json sampleItem =
    .ok (handshakePacket default ["websocket"] "c2lk") := readHandshake_open sampleJson_polling (by decide)

theorem connectSocket_sample :
    (connectSocket sampleClient .polling sampleAddress none).Yields sampleAsked (.ok sampleSocket) := by
  refine Attempt.yields_bind.mpr (Or.inr ⟨sampleAsked.take 2,
    (engineBuilder sampleAddress none).onSession (handshakePacket default ["websocket"] "c2lk"),_,rfl,?_,?_⟩)
  · refine Attempt.yields_bind.mpr (Or.inr ⟨[],none,_,rfl,yields_ofResult.mpr ⟨rfl,rfl⟩,?_⟩)
    refine Attempt.yields_bind.mpr (Or.inr ⟨_,(),_,rfl,newPolling_sample,?_⟩)
    refine Attempt.yields_bind.mpr (Or.inr ⟨_,sampleItem,[],rfl,yields_pose.mpr ⟨_,rfl,rfl⟩,?_⟩)
    refine Attempt.yields_bind.mpr (Or.inr ⟨[],_,[],rfl,yields_ofResult.mpr ⟨rfl,?_⟩,Attempt.yields_pure.mpr ⟨rfl,rfl⟩⟩)
    rw [readHandshake_sample]
    rfl
  · refine Attempt.yields_bind.mpr (Or.inr ⟨[],none,_,rfl,Attempt.yields_ofExcept.mpr ⟨rfl,rfl⟩,?_⟩)
    refine Attempt.yields_bind.mpr (Or.inr ⟨_,(),[],rfl,newPolling_sample,?_⟩)
    exact Attempt.yields_pure.mpr ⟨rfl,rfl⟩

theorem sampleClient_schemes : sampleClient.Schemes where
  kept _ _ _ h := (Option.some.inj h).symm
  allowed _ _ _ _ := rfl

theorem connect_socket_session_polling :
    sampleSocket.handshake.sid = "c2lk" ∧ sampleSocket.Addresses sampleAsked :=
  ⟨rfl,((connect_socket_session sampleClient sampleClient_schemes .polling sampleAddress none (by decide)
    (by decide +kernel) (by decide +kernel) sampleAsked _ connectSocket_sample).2.2 sampleSocket rfl).2⟩

end Example

end SocketIox.SocketIo
