import SocketIox.EngineIo.SocketBuilder

/-! # Sockets and their sessions

Every function of the builder has one lemma: which handshakes were announced while it ran,
what its socket or its builder looks like, and that it does not panic. The results about the
ways to build a socket are put together from these.
-/
namespace SocketIox.EngineIo
open Wire Proc

def announcement (crates : ClientCrates) : (Σ question, Answer question) → Option HandshakePacket
  | ⟨.poll _ _,item⟩ => (readHandshake crates.base64 crates.json item).toOption
  | ⟨.frame,item⟩ => (readHandshake crates.base64 crates.json item).toOption
  | ⟨.client _,_⟩ => none
  | ⟨.connect _ _,_⟩ => none
  | ⟨.upgrade,_⟩ => none

/-- The handshakes that were announced, the oldest first. -/
def announced (crates : ClientCrates) (asked : Transcript Question Answer) : List HandshakePacket :=
  asked.filterMap (announcement crates)

/-- The handshake of an upgrade has gone through. -/
def Upgraded (asked : Transcript Question Answer) : Prop :=
  ⟨.upgrade,(.ok () : Except BuildError Unit)⟩ ∈ asked

namespace SocketBuilder
variable {crates : ClientCrates} {builder next : SocketBuilder} {asked : Transcript Question Answer}

section Steps

theorem announced_append (first rest : Transcript Question Answer) :
    announced crates (first ++ rest) = announced crates first ++ announced crates rest :=
  List.filterMap_append

theorem yields_ofResult {R : Type} {result : Except BuildError R} {r : Except Halt R} :
    (Building.ofResult result).Yields asked r ↔ asked = [] ∧ r = result.mapError .error := Attempt.yields_ofExcept

theorem yields_pose {question : Question} {r : Except Halt (Answer question)} :
    question.pose.Yields asked r ↔ ∃ answer, asked = [⟨question,answer⟩] ∧ r = .ok answer := Attempt.yields_ask

theorem mapError_error_ne {R : Type} (result : Except BuildError R) :
    result.mapError Halt.error ≠ .error .panicked := by
  cases result <;> simp [Except.mapError]

theorem yields_ofResult_error {R : Type} {result : Except BuildError R} {e : Halt}
    (h : (Building.ofResult result).Yields asked (.error e)) : asked = [] ∧ e ≠ .panicked := by
  obtain ⟨rfl,hr⟩ := yields_ofResult.mp h
  refine ⟨rfl,?_⟩
  rintro rfl
  exact mapError_error_ne result hr.symm

theorem mapError_eq_ok {ε δ R : Type} {f : ε → δ} {result : Except ε R} {a : R} (h : result.mapError f = .ok a) :
    result = .ok a := by
  cases result with
  | error e => cases h
  | ok b => simpa [Except.mapError] using h

theorem newPolling_does {headers : Option HeaderMap} {r : Except Halt Unit}
    (h : (newPolling headers).Yields asked r) : announced crates asked = [] ∧ r ≠ .error .panicked := by
  rcases Attempt.yields_bind.mp h with ⟨e,rfl,hask⟩ | ⟨first,answer,rest,rfl,hask,hresult⟩
  · obtain ⟨answer,-,hr⟩ := yields_pose.mp hask
    cases hr
  · obtain ⟨answer',rfl,-⟩ := yields_pose.mp hask
    obtain ⟨rfl,rfl⟩ := yields_ofResult.mp hresult
    exact ⟨rfl,mapError_error_ne _⟩

theorem connect_does {url : Url} {headers : Option HeaderMap} {r : Except Halt Url}
    (h : (connect crates url headers).Yields asked r) : announced crates asked = [] ∧
      (crates.Schemes → url.scheme ∈ ["http","https","ws","wss"] → r ≠ .error .panicked) ∧
      (crates.Schemes → ∀ used, r = .ok used → used.query = url.query ++ [("transport","websocket")]) := by
  unfold connect at h
  cases hset : crates.setScheme url (websocketScheme url) with
  | none =>
    rw [hset] at h
    obtain ⟨rfl,rfl⟩ := Attempt.yields_fail.mp h
    refine ⟨rfl,?_,nofun⟩
    intro hs hscheme
    have hallowed := hs.allowed url (websocketScheme url) hscheme (by unfold websocketScheme; split <;> simp)
    rw [hset] at hallowed
    cases hallowed
  | some target =>
    rw [hset] at h
    rcases Attempt.yields_bind.mp h with ⟨e,rfl,hask⟩ | ⟨first,answer,rest,rfl,hask,hrest⟩
    · obtain ⟨answer,-,hr⟩ := yields_pose.mp hask
      cases hr
    obtain ⟨answer',rfl,-⟩ := yields_pose.mp hask
    rcases Attempt.yields_bind.mp hrest with ⟨e,rfl,hresult⟩ | ⟨second,u,rest',rfl,hresult,hpure⟩
    · obtain ⟨rfl,hne⟩ := yields_ofResult_error hresult
      exact ⟨rfl,fun _ _ hp => hne (Except.error.inj hp),nofun⟩
    · obtain ⟨rfl,-⟩ := yields_ofResult.mp hresult
      obtain ⟨rfl,rfl⟩ := Attempt.yields_pure.mp hpure
      refine ⟨rfl,nofun,?_⟩
      intro hs used hused
      cases hused
      rw [hs.kept url _ target hset]
      rfl

def AsksItem (crates : ClientCrates) (ask : Building (Option (Except Error Bytes))) : Prop :=
  ∀ asked r, ask.Yields asked r → ∃ item entry, r = .ok item ∧ asked = [entry] ∧
    announcement crates entry = (readHandshake crates.base64 crates.json item).toOption

theorem asksItem_poll (crates : ClientCrates) (url : Url) (headers : Option HeaderMap) :
    AsksItem crates (Question.pose (.poll url headers)) := by
  intro asked r h
  obtain ⟨item,rfl,rfl⟩ := yields_pose.mp h
  exact ⟨item,_,rfl,rfl,rfl⟩

theorem asksItem_frame (crates : ClientCrates) : AsksItem crates (Question.pose .frame) := by
  intro asked r h
  obtain ⟨item,rfl,rfl⟩ := yields_pose.mp h
  exact ⟨item,_,rfl,rfl,rfl⟩

def onSession (builder : SocketBuilder) (handshake : HandshakePacket) : SocketBuilder :=
  { builder with
    url := builder.url.appendPair "sid" handshake.sid
    handshake := some handshake }

/-- What a builder without a session does about one: it hears of at most one, and has it if it succeeds. -/
structure Opens (crates : ClientCrates) (builder : SocketBuilder) (asked : Transcript Question Answer)
    (r : Except Halt SocketBuilder) : Prop where
  once : (announced crates asked).length ≤ 1
  sound : r ≠ .error .panicked
  session : ∀ next, r = .ok next → ∃ handshake, announced crates asked = [handshake] ∧
    next = builder.onSession handshake

theorem handshakeWithTransport_does (hb : builder.handshake = none) {ask : Building (Option (Except Error Bytes))}
    {r : Except Halt SocketBuilder} (hask : AsksItem crates ask)
    (h : (builder.handshakeWithTransport crates ask).Yields asked r) : Opens crates builder asked r := by
  simp only [handshakeWithTransport,hb,Option.isSome_none,Bool.false_eq_true,↓reduceIte] at h
  rcases Attempt.yields_bind.mp h with ⟨e,rfl,hitem⟩ | ⟨first,item,rest,rfl,hitem,hrest⟩
  · obtain ⟨item,entry,hr,-⟩ := hask _ _ hitem
    cases hr
  obtain ⟨item',entry,hr,rfl,hentry⟩ := hask _ _ hitem
  cases hr
  rcases Attempt.yields_bind.mp hrest with ⟨e,rfl,hread⟩ | ⟨second,handshake,rest',rfl,hread,hpure⟩
  · obtain ⟨rfl,hne⟩ := yields_ofResult_error hread
    exact ⟨List.length_filterMap_le _ _,fun hp => hne (Except.error.inj hp),nofun⟩
  · obtain ⟨rfl,hok⟩ := yields_ofResult.mp hread
    obtain ⟨rfl,rfl⟩ := Attempt.yields_pure.mp hpure
    refine ⟨List.length_filterMap_le _ _,nofun,?_⟩
    intro next hnext
    cases hnext
    refine ⟨handshake,?_,rfl⟩
    have hsome : announcement crates entry = some handshake := by
      rw [hentry,mapError_eq_ok hok.symm]
      rfl
    simp [announced,hsome]

theorem performHandshake_does (hb : builder.handshake = none) {r : Except Halt SocketBuilder}
    (h : (builder.performHandshake crates).Yields asked r) : Opens crates builder asked r ∧
      ((∃ next, r = .ok next) → ∃ map, builder.httpHeaders crates = .ok map) := by
  simp only [performHandshake,hb,Option.isSome_none,Bool.false_eq_true,↓reduceIte] at h
  rcases Attempt.yields_bind.mp h with ⟨e,rfl,hheaders⟩ | ⟨first,headers,rest,rfl,hheaders,hrest⟩
  · obtain ⟨rfl,hne⟩ := yields_ofResult_error hheaders
    exact ⟨⟨Nat.zero_le 1,fun hp => hne (Except.error.inj hp),nofun⟩,nofun⟩
  obtain ⟨rfl,hok⟩ := yields_ofResult.mp hheaders
  rcases Attempt.yields_bind.mp hrest with ⟨e,rfl,hclient⟩ | ⟨second,u,rest',rfl,hclient,hshake⟩
  · obtain ⟨hnone,hne⟩ := newPolling_does hclient
    exact ⟨⟨by rw [List.nil_append,hnone]; exact Nat.zero_le 1,by rintro ⟨⟩; exact hne rfl,nofun⟩,nofun⟩
  · obtain ⟨hnone,-⟩ := newPolling_does hclient
    have hopens := handshakeWithTransport_does hb (asksItem_poll crates _ _) hshake
    have hsame : announced crates ([] ++ (second ++ rest')) = announced crates rest' := by
      rw [List.nil_append,announced_append,hnone,List.nil_append]
    refine ⟨⟨?_,hopens.sound,?_⟩,fun _ => ⟨headers,mapError_eq_ok hok.symm⟩⟩
    · rw [hsame]
      exact hopens.once
    · rw [hsame]
      exact hopens.session

def OnSession (builder : SocketBuilder) (handshake : HandshakePacket) (asked : Transcript Question Answer)
    (socket : ClientSocket) : Prop :=
  socket.handshake = handshake ∧ socket.shouldPong = builder.shouldPong ∧
    ((∃ headers, socket.transport = .polling (pollingUrl builder.url) headers) ∨
      ∃ url, socket.transport = .websocket url ∧ url.query = builder.url.query ++ [("transport","websocket")] ∧
        Upgraded asked)

/-- What a builder that is on a session does: it opens no other one. -/
structure Builds (crates : ClientCrates) (builder : SocketBuilder) (handshake : HandshakePacket)
    (asked : Transcript Question Answer) (r : Except Halt ClientSocket) : Prop where
  none : announced crates asked = []
  sound : crates.Schemes → builder.url.scheme ∈ ["http","https","ws","wss"] →
    (∃ map, builder.httpHeaders crates = .ok map) → r ≠ .error .panicked
  session : crates.Schemes → ∀ socket, r = .ok socket → builder.OnSession handshake asked socket

theorem performHandshake_on {handshake : HandshakePacket} (hb : builder.handshake = some handshake) :
    builder.performHandshake crates = pure builder := by
  simp only [performHandshake,hb,Option.isSome_some,↓reduceIte]

theorem buildWebsocket_on {handshake : HandshakePacket} (hb : builder.handshake = some handshake)
    {r : Except Halt ClientSocket} (h : (builder.buildWebsocket crates).Yields asked r) :
    Builds crates builder handshake asked r := by
  simp only [buildWebsocket,hb,Option.isSome_some,↓reduceIte] at h
  rcases Attempt.yields_bind.mp h with ⟨e,rfl,hheaders⟩ | ⟨first,headers,rest,rfl,hheaders,hrest⟩
  · obtain ⟨rfl,hne⟩ := yields_ofResult_error hheaders
    exact ⟨rfl,fun _ _ _ hp => hne (Except.error.inj hp),nofun⟩
  obtain ⟨rfl,hok⟩ := yields_ofResult.mp hheaders
  rcases Attempt.yields_bind.mp hrest with ⟨e,rfl,hconnect⟩ | ⟨second,url,rest',rfl,hconnect,hrest'⟩
  · obtain ⟨hnone,hsound,-⟩ := connect_does hconnect
    exact ⟨hnone,fun hs hscheme _ hp => hsound hs hscheme (by rw [Except.error.inj hp]),nofun⟩
  obtain ⟨hnone,-,hquery⟩ := connect_does hconnect
  rcases Attempt.yields_bind.mp hrest' with ⟨e,rfl,hupgrade⟩ | ⟨third,u,rest'',rfl,hupgrade,hsocket⟩
  · rcases Attempt.yields_bind.mp hupgrade with ⟨e',hr,hask⟩ | ⟨fourth,outcome,fifth,rfl,hask,hresult⟩
    · obtain ⟨answer,-,hr'⟩ := yields_pose.mp hask
      cases hr'
    · obtain ⟨answer,rfl,-⟩ := yields_pose.mp hask
      obtain ⟨rfl,hne⟩ := yields_ofResult_error hresult
      refine ⟨?_,fun _ _ _ hp => hne (Except.error.inj hp),nofun⟩
      rw [List.nil_append,announced_append,hnone]
      rfl
  · rcases Attempt.yields_bind.mp hupgrade with ⟨e',hr,hask⟩ | ⟨fourth,outcome,fifth,rfl,hask,hresult⟩
    · cases hr
    obtain ⟨answer,rfl,hanswer⟩ := yields_pose.mp hask
    cases hanswer
    obtain ⟨rfl,hok'⟩ := yields_ofResult.mp hresult
    simp only [socket,hb] at hsocket
    obtain ⟨rfl,rfl⟩ := Attempt.yields_pure.mp hsocket
    refine ⟨?_,nofun,?_⟩
    · rw [List.nil_append,announced_append,hnone]
      rfl
    · intro hs socket hsocket
      cases hsocket
      refine ⟨rfl,rfl,Or.inr ⟨url,rfl,hquery hs url rfl,?_⟩⟩
      have houtcome : outcome = .ok () := mapError_eq_ok hok'.symm
      rw [Upgraded,← houtcome]
      simp

theorem buildPolling_on {handshake : HandshakePacket} (hb : builder.handshake = some handshake)
    {r : Except Halt ClientSocket} (h : (builder.buildPolling crates).Yields asked r) :
    Builds crates builder handshake asked r := by
  rw [buildPolling,performHandshake_on hb,Attempt.pure_bind] at h
  rcases Attempt.yields_bind.mp h with ⟨e,rfl,hheaders⟩ | ⟨first,headers,rest,rfl,hheaders,hrest⟩
  · obtain ⟨rfl,hr⟩ := Attempt.yields_ofExcept.mp hheaders
    refine ⟨rfl,?_,nofun⟩
    rintro - - ⟨map,hmap⟩
    rw [hmap] at hr
    cases hr
  obtain ⟨rfl,-⟩ := Attempt.yields_ofExcept.mp hheaders
  rcases Attempt.yields_bind.mp hrest with ⟨e,rfl,hclient⟩ | ⟨second,u,rest',rfl,hclient,hsocket⟩
  · obtain ⟨hnone,hne⟩ := newPolling_does hclient
    exact ⟨hnone,fun _ _ _ hp => hne (by rw [Except.error.inj hp]),nofun⟩
  obtain ⟨hnone,-⟩ := newPolling_does hclient
  simp only [socket,hb] at hsocket
  obtain ⟨rfl,rfl⟩ := Attempt.yields_pure.mp hsocket
  refine ⟨by rw [List.nil_append,List.append_nil,hnone],nofun,?_⟩
  intro _ socket hsocket
  cases hsocket
  exact ⟨rfl,rfl,Or.inl ⟨headers,rfl⟩⟩

theorem buildWebsocketWithUpgrade_on {handshake : HandshakePacket} (hb : builder.handshake = some handshake)
    {r : Except Halt ClientSocket} (h : (builder.buildWebsocketWithUpgrade crates).Yields asked r) :
    Builds crates builder handshake asked r := by
  rw [buildWebsocketWithUpgrade,performHandshake_on hb,Attempt.pure_bind] at h
  by_cases hupgrade : builder.websocketUpgrade = true
  · rw [if_pos hupgrade] at h
    exact buildWebsocket_on hb h
  · rw [if_neg hupgrade] at h
    obtain ⟨rfl,rfl⟩ := Attempt.yields_fail.mp h
    exact ⟨rfl,fun _ _ _ => by simp,nofun⟩

/-- A websocket that announced the session itself. -/
def Direct (builder : SocketBuilder) (handshake : HandshakePacket) (asked : Transcript Question Answer)
    (socket : ClientSocket) : Prop :=
  socket.handshake = handshake ∧ socket.shouldPong = builder.shouldPong ∧ ¬ Upgraded asked ∧
    ∃ url, socket.transport = .websocket url ∧ url.query = builder.url.query ++ [("transport","websocket")]

/-- What a builder does that performs the handshake first: it hears of at most one session, and the socket is on
it. -/
structure Opened (crates : ClientCrates) (builder : SocketBuilder) (asked : Transcript Question Answer)
    (r : Except Halt ClientSocket) : Prop where
  once : (announced crates asked).length ≤ 1
  sound : crates.Schemes → builder.url.scheme ∈ ["http","https","ws","wss"] → r ≠ .error .panicked
  session : crates.Schemes → ∀ socket, r = .ok socket → ∃ handshake, announced crates asked = [handshake] ∧
    (builder.onSession handshake).OnSession handshake asked socket

theorem continue_does (hb : builder.handshake = none) {f : SocketBuilder → Building ClientSocket}
    {r : Except Halt ClientSocket}
    (hf : ∀ handshake rest r, (f (builder.onSession handshake)).Yields rest r →
      Builds crates (builder.onSession handshake) handshake rest r)
    (h : (builder.performHandshake crates >>= f).Yields asked r) : Opened crates builder asked r := by
  rcases Attempt.yields_bind.mp h with ⟨e,rfl,hshake⟩ | ⟨first,next,rest,rfl,hshake,hrest⟩
  · obtain ⟨hopens,-⟩ := performHandshake_does hb hshake
    exact ⟨hopens.once,fun _ _ hp => hopens.sound (by rw [Except.error.inj hp]),nofun⟩
  obtain ⟨hopens,hheaders⟩ := performHandshake_does hb hshake
  obtain ⟨handshake,hannounced,rfl⟩ := hopens.session next rfl
  have hbuilds := hf handshake rest r hrest
  have hall : announced crates (first ++ rest) = [handshake] := by
    rw [announced_append,hannounced,hbuilds.none]
    rfl
  refine ⟨by rw [hall]; exact le_rfl,fun hs hscheme => hbuilds.sound hs hscheme (hheaders ⟨_,rfl⟩),?_⟩
  intro hs socket hsocket
  refine ⟨handshake,hall,?_⟩
  obtain ⟨hhandshake,hpong,htransport⟩ := hbuilds.session hs socket hsocket
  refine ⟨hhandshake,hpong,htransport.imp_right ?_⟩
  rintro ⟨url,hurl,hquery,hupgraded⟩
  exact ⟨url,hurl,hquery,List.mem_append_right first hupgraded⟩

theorem buildPolling_does (hb : builder.handshake = none) {r : Except Halt ClientSocket}
    (h : (builder.buildPolling crates).Yields asked r) : Opened crates builder asked r := by
  refine continue_does hb ?_ h
  intro handshake rest r hrest
  refine buildPolling_on rfl ?_
  rw [buildPolling,performHandshake_on rfl,Attempt.pure_bind]
  exact hrest

theorem buildWebsocketWithUpgrade_does (hb : builder.handshake = none) {r : Except Halt ClientSocket}
    (h : (builder.buildWebsocketWithUpgrade crates).Yields asked r) : Opened crates builder asked r := by
  refine continue_does hb ?_ h
  intro handshake rest r hrest
  refine buildWebsocketWithUpgrade_on rfl ?_
  rw [buildWebsocketWithUpgrade,performHandshake_on rfl,Attempt.pure_bind]
  exact hrest

theorem build_does (hb : builder.handshake = none) {r : Except Halt ClientSocket}
    (h : (builder.build crates).Yields asked r) : Opened crates builder asked r := by
  refine continue_does hb ?_ h
  intro handshake rest r hrest
  by_cases hupgrade : (builder.onSession handshake).websocketUpgrade = true
  · rw [if_pos hupgrade] at hrest
    exact buildWebsocketWithUpgrade_on rfl hrest
  · rw [if_neg hupgrade] at hrest
    exact buildPolling_on rfl hrest

/-- What a way to build a socket does that opens at most `n` sessions: the socket belongs to the last one. -/
structure Connects (crates : ClientCrates) (n : ℕ) (builder : SocketBuilder) (asked : Transcript Question Answer)
    (r : Except Halt ClientSocket) : Prop where
  sessions : (announced crates asked).length ≤ n
  sound : crates.Schemes → builder.url.scheme ∈ ["http","https","ws","wss"] → r ≠ .error .panicked
  session : crates.Schemes → ∀ socket, r = .ok socket → ∃ handshake,
    (announced crates asked).getLast? = some handshake ∧
      ((builder.onSession handshake).OnSession handshake asked socket ∨ builder.Direct handshake asked socket)

theorem Opened.connects {r : Except Halt ClientSocket} (h : Opened crates builder asked r) :
    Connects crates 1 builder asked r := by
  refine ⟨h.once,h.sound,?_⟩
  intro hs socket hsocket
  obtain ⟨handshake,hannounced,hon⟩ := h.session hs socket hsocket
  exact ⟨handshake,by rw [hannounced]; rfl,Or.inl hon⟩

theorem asks_buildWebsocket (hb : builder.handshake = none) :
    (builder.buildWebsocket crates).Asks (fun question => question ≠ .upgrade) := by
  simp only [buildWebsocket,hb,Option.isSome_none,Bool.false_eq_true,↓reduceIte]
  refine (Attempt.asks_ofExcept _).bind (fun headers => Attempt.Asks.bind ?_ (fun url => Attempt.Asks.bind ?_ ?_))
  · unfold connect
    cases crates.setScheme builder.url (websocketScheme builder.url) with
    | none => exact Attempt.asks_fail _
    | some target =>
      exact (Attempt.asks_ask (by simp)).bind (fun stream =>
        (Attempt.asks_ofExcept _).bind (fun _ => Attempt.asks_pure _))
  · simp only [handshakeWithTransport,hb,Option.isSome_none,Bool.false_eq_true,↓reduceIte]
    exact (Attempt.asks_ask (by simp)).bind (fun item =>
      (Attempt.asks_ofExcept _).bind (fun _ => Attempt.asks_pure _))
  · intro next
    unfold socket
    cases next.handshake with
    | none => exact Attempt.asks_fail _
    | some handshake => exact Attempt.asks_pure _

theorem buildWebsocket_does (hb : builder.handshake = none) {r : Except Halt ClientSocket}
    (h : (builder.buildWebsocket crates).Yields asked r) : Connects crates 1 builder asked r := by
  have hdirect : ¬ Upgraded asked := fun hu => asks_buildWebsocket hb _ _ h _ hu rfl
  simp only [buildWebsocket,hb,Option.isSome_none,Bool.false_eq_true,↓reduceIte] at h
  rcases Attempt.yields_bind.mp h with ⟨e,rfl,hheaders⟩ | ⟨first,headers,rest,rfl,hheaders,hrest⟩
  · obtain ⟨rfl,hne⟩ := yields_ofResult_error hheaders
    exact ⟨Nat.zero_le 1,fun _ _ hp => hne (Except.error.inj hp),nofun⟩
  obtain ⟨rfl,-⟩ := yields_ofResult.mp hheaders
  rcases Attempt.yields_bind.mp hrest with ⟨e,rfl,hconnect⟩ | ⟨second,url,rest',rfl,hconnect,hrest'⟩
  · obtain ⟨hnone,hsound,-⟩ := connect_does hconnect
    exact ⟨by rw [List.nil_append,hnone]; exact Nat.zero_le 1,
      fun hs hscheme hp => hsound hs hscheme (by rw [Except.error.inj hp]),nofun⟩
  obtain ⟨hnone,-,hquery⟩ := connect_does hconnect
  rcases Attempt.yields_bind.mp hrest' with ⟨e,rfl,hshake⟩ | ⟨third,next,rest'',rfl,hshake,hsocket⟩
  · have hopens := handshakeWithTransport_does hb (asksItem_frame crates) hshake
    refine ⟨?_,fun _ _ hp => hopens.sound (by rw [Except.error.inj hp]),nofun⟩
    rw [List.nil_append,announced_append,hnone]
    exact hopens.once
  · have hopens := handshakeWithTransport_does hb (asksItem_frame crates) hshake
    obtain ⟨handshake,hannounced,rfl⟩ := hopens.session next rfl
    simp only [socket,onSession] at hsocket
    obtain ⟨rfl,rfl⟩ := Attempt.yields_pure.mp hsocket
    have hall : announced crates ([] ++ (second ++ (third ++ []))) = [handshake] := by
      rw [List.nil_append,List.append_nil,announced_append,hnone,hannounced]
      rfl
    refine ⟨by rw [hall]; exact le_rfl,nofun,?_⟩
    intro hs socket hsocket
    cases hsocket
    exact ⟨handshake,by rw [hall]; rfl,Or.inr ⟨rfl,rfl,hdirect,url,rfl,hquery hs url rfl⟩⟩

theorem buildWithFallback_does (hb : builder.handshake = none) {r : Except Halt ClientSocket}
    (h : (builder.buildWithFallback crates).Yields asked r) : Connects crates 2 builder asked r := by
  obtain ⟨first,result,rest,rfl,hbuild,hrest⟩ := Attempt.yields_observe.mp h
  have hfirst := build_does hb hbuild
  cases result with
  | ok socket =>
    obtain ⟨rfl,rfl⟩ := Attempt.yields_pure.mp hrest
    rw [List.append_nil]
    exact ⟨Nat.le_succ_of_le hfirst.once,nofun,hfirst.connects.session⟩
  | error e =>
    cases e with
    | panicked =>
      obtain ⟨rfl,rfl⟩ := Attempt.yields_fail.mp hrest
      rw [List.append_nil]
      exact ⟨Nat.le_succ_of_le hfirst.once,hfirst.sound,nofun⟩
    | error e =>
      have hsecond := buildPolling_does hb hrest
      refine ⟨?_,hsecond.sound,?_⟩
      · rw [announced_append,List.length_append]
        exact Nat.add_le_add hfirst.once hsecond.once
      · intro hs socket hsocket
        obtain ⟨handshake,hannounced,hhandshake,hpong,htransport⟩ := hsecond.session hs socket hsocket
        refine ⟨handshake,?_,Or.inl ⟨hhandshake,hpong,htransport.imp_right ?_⟩⟩
        · rw [announced_append,hannounced,List.getLast?_concat]
        · rintro ⟨url,hurl,hquery,hupgraded⟩
          exact ⟨url,hurl,hquery,List.mem_append_right first hupgraded⟩

end Steps

end SocketBuilder

section Requests
variable {pairs : List (String × String)} {query : Query}

theorem readQuery_of_version (h : ∀ pair ∈ pairs, toUppercase pair.1 = "EIO" → pair.2 = "4") (query : Query) :
    ∃ read, pairs.foldlM Query.step query = some read ∧
      ((∀ pair ∈ pairs, toLowercase pair.1 ≠ "sid") → read.sid = query.sid) := by
  induction pairs generalizing query with
  | nil => exact ⟨query,rfl,fun _ => rfl⟩
  | cons pair rest ih =>
    have hstep : ¬ (toUppercase pair.1 = "EIO" ∧ pair.2 ≠ "4") :=
      fun hbad => hbad.2 (h pair List.mem_cons_self hbad.1)
    obtain ⟨next,hnext,hsid⟩ : ∃ next, query.step pair = some next ∧
        (toLowercase pair.1 ≠ "sid" → next.sid = query.sid) :=
      ⟨_,if_neg hstep,fun hne => if_neg hne⟩
    obtain ⟨read,hread,hkept⟩ := ih (fun other hm => h other (List.mem_cons_of_mem _ hm)) next
    refine ⟨read,?_,?_⟩
    · rw [List.foldlM_cons,hnext]
      exact hread
    · intro hall
      rw [hkept (fun other hm => hall other (List.mem_cons_of_mem _ hm)),hsid (hall pair List.mem_cons_self)]

theorem step_sid (query : Query) (sid : String) : query.step ("sid",sid) = some { query with sid := some sid } := by
  have hversion : toUppercase "sid" ≠ "EIO" := by decide +kernel
  have hsid : toLowercase "sid" = "sid" := by decide +kernel
  simp [Query.step,hversion,hsid]

theorem step_hash (query : Query) (hash : String) : query.step ("t",hash) = some query := by
  have hversion : toUppercase "t" ≠ "EIO" := by decide +kernel
  have hsid : toLowercase "t" ≠ "sid" := by decide +kernel
  have htransport : toLowercase "t" ≠ "transport" := by decide +kernel
  simp [Query.step,hversion,hsid,htransport]

theorem step_transport (query : Query) {value : String} {transport : QueryTransport}
    (h : value = "polling" ∧ transport = .polling ∨ value = "websocket" ∧ transport = .websocket) :
    query.step ("transport",value) = some { query with transport := some transport } := by
  have hversion : toUppercase "transport" ≠ "EIO" := by decide +kernel
  have hkey : toLowercase "transport" = "transport" := by decide +kernel
  have hpolling : toLowercase "polling" = "polling" := by decide +kernel
  have hwebsocket : toLowercase "websocket" = "websocket" := by decide +kernel
  rcases h with ⟨rfl,rfl⟩ | ⟨rfl,rfl⟩ <;> simp [Query.step,hversion,hkey,hpolling,hwebsocket]

theorem readQuery_append {more : List (String × String)} {read query : Query}
    (h : readQuery pairs = some read) (hmore : more.foldlM Query.step read = some query) :
    readQuery (pairs ++ more) = some query := by
  have hpairs : pairs.foldlM Query.step ⟨none,none⟩ = some read := h
  rw [readQuery,List.foldlM_append,hpairs]
  exact hmore

end Requests

/-- The URL asks for no other version of the protocol. -/
def Url.SameVersion (url : Url) : Prop := ∀ pair ∈ url.query, toUppercase pair.1 = "EIO" → pair.2 = "4"

instance (url : Url) : Decidable url.SameVersion :=
  inferInstanceAs (Decidable (∀ pair ∈ url.query, _ → _))

section Heads
variable {server : HttpCrates} {checked isPeek : Bool} {buf : Bytes} {addr : String} {pairs : List (String × String)}
variable {req : HttpHead} {idx length : ℕ} {sid : Option String}

structure HasHead (server : HttpCrates) (buf : Bytes) (addr method : String) (pairs : List (String × String))
    (req : HttpHead) (idx : ℕ) : Prop where
  parsed : server.parse buf = some (req,idx)
  method : req.method = some method
  query : ∃ path, req.path = some path ∧ server.queryPairs ("http://" ++ addr ++ path) = some pairs

theorem toUppercase_methods : toUppercase "GET" = "GET" ∧ toUppercase "POST" = "POST" := by decide +kernel

theorem parse_get (h : HasHead server buf addr "GET" pairs req idx) (hq : readQuery pairs = some ⟨sid,some .polling⟩)
    (hscan : scanHeaders true .polling 0 req.headers = some (.length length)) :
    parseRequestType server checked buf addr isPeek = .ok (some (.ofSid sid)) := by
  obtain ⟨hparsed,hmethod,path,hpath,hpairs⟩ := h
  have hhead : readHead server addr req = some (.get sid) := by
    simp [readHead,hmethod,hpath,hpairs,hq,hscan,toUppercase_methods]
  simp only [parseRequestType,hparsed,hhead]
  rfl

theorem parse_post (h : HasHead server buf addr "POST" pairs req idx) (hq : readQuery pairs = some ⟨sid,some .polling⟩)
    (hscan : scanHeaders false .polling 0 req.headers = some (.length length)) (hbody : idx+length ≤ buf.length)
    (hbuf : buf.length < 2^64) :
    parseRequestType server checked buf addr false = .ok (some (.ofPost sid (slice buf idx (idx+length)))) := by
  obtain ⟨hparsed,hmethod,path,hpath,hpairs⟩ := h
  have hhead : readHead server addr req = some (.post sid length) := by
    simp [readHead,hmethod,hpath,hpairs,hq,hscan,toUppercase_methods]
  have hread := @readBody_fits checked buf false idx length (Nat.lt_of_le_of_lt hbody hbuf)
  simp only [Bool.false_eq_true,↓reduceIte,hbody] at hread
  simp only [parseRequestType,hparsed,hhead,hread]
  rfl

theorem parse_upgrade (h : HasHead server buf addr "GET" pairs req idx)
    (hq : readQuery pairs = some ⟨sid,some .websocket⟩)
    (hscan : scanHeaders true .websocket 0 req.headers = some .upgrade) :
    parseRequestType server checked buf addr isPeek = .ok (some (.wsUpgrade sid)) := by
  obtain ⟨hparsed,hmethod,path,hpath,hpairs⟩ := h
  have hhead : readHead server addr req = some (.upgrade sid) := by
    simp [readHead,hmethod,hpath,hpairs,hq,hscan,toUppercase_methods]
  simp only [parseRequestType,hparsed,hhead]
  rfl

end Heads

/-- GET requests with this query, and POST requests that are read with their whole body, are for the session. -/
def PollsAs (pairs : List (String × String)) (sid : String) : Prop :=
  ∀ (server : HttpCrates) (checked isPeek : Bool) (buf : Bytes) (addr : String) (req : HttpHead) (idx length : ℕ),
    (HasHead server buf addr "GET" pairs req idx → scanHeaders true .polling 0 req.headers = some (.length length) →
      parseRequestType server checked buf addr isPeek = .ok (some (.pollingGet sid))) ∧
    (HasHead server buf addr "POST" pairs req idx → scanHeaders false .polling 0 req.headers = some (.length length) →
      idx+length ≤ buf.length → buf.length < 2^64 →
        parseRequestType server checked buf addr false = .ok (some (.pollingPost sid (slice buf idx (idx+length)))))

/-- Requests for a websocket with this query ask for the upgrade of a session, or for a new one. -/
def UpgradesAs (pairs : List (String × String)) (sid : Option String) : Prop :=
  ∀ (server : HttpCrates) (checked isPeek : Bool) (buf : Bytes) (addr : String) (req : HttpHead) (idx : ℕ),
    HasHead server buf addr "GET" pairs req idx → scanHeaders true .websocket 0 req.headers = some .upgrade →
      parseRequestType server checked buf addr isPeek = .ok (some (.wsUpgrade sid))

/-- What the server takes the requests of a socket for: those of polling for requests of its session, that of a
websocket that went through an upgrade for the upgrade of its session, and that of any other websocket for a new
session. -/
def ClientSocket.Addresses (socket : ClientSocket) (asked : Transcript Question Answer) : Prop :=
  match socket.transport with
  | .polling url _ => ∀ hash, PollsAs (url.appendPair "t" hash).query socket.handshake.sid
  | .websocket url => (Upgraded asked → UpgradesAs url.query (some socket.handshake.sid)) ∧
      (¬ Upgraded asked → UpgradesAs url.query none)

namespace SocketBuilder
variable {builder : SocketBuilder} {handshake : HandshakePacket} {asked : Transcript Question Answer}
variable {socket : ClientSocket}

theorem addresses_of_onSession (hversion : builder.url.SameVersion)
    (h : (builder.onSession handshake).OnSession handshake asked socket) : socket.Addresses asked := by
  obtain ⟨read,hread,-⟩ := readQuery_of_version hversion ⟨none,none⟩
  obtain ⟨rfl,-,⟨headers,htransport⟩ | ⟨url,htransport,hquery,hupgraded⟩⟩ := h
  · rw [ClientSocket.Addresses,htransport]
    intro hash
    have hpairs : ((pollingUrl (builder.onSession socket.handshake).url).appendPair "t" hash).query =
        builder.url.query ++ [("sid",socket.handshake.sid),("transport","polling"),("t",hash)] := by
      simp [pollingUrl,onSession,Url.appendPair]
    have hq : readQuery (builder.url.query ++ [("sid",socket.handshake.sid),("transport","polling"),("t",hash)]) =
        some ⟨some socket.handshake.sid,some .polling⟩ := by
      refine readQuery_append hread ?_
      simp only [List.foldlM_cons,step_sid,step_transport _ (Or.inl ⟨rfl,rfl⟩),step_hash,List.foldlM_nil]
      rfl
    rw [hpairs]
    intro server checked isPeek buf addr req idx length
    exact ⟨fun hhead hscan => parse_get hhead hq hscan,
      fun hhead hscan hbody hbuf => parse_post hhead hq hscan hbody hbuf⟩
  · rw [ClientSocket.Addresses,htransport]
    refine ⟨fun _ => ?_,fun hdirect => absurd hupgraded hdirect⟩
    have hpairs : url.query = builder.url.query ++ [("sid",socket.handshake.sid),("transport","websocket")] := by
      simp [hquery,onSession,Url.appendPair]
    have hq : readQuery url.query = some ⟨some socket.handshake.sid,some .websocket⟩ := by
      rw [hpairs]
      refine readQuery_append hread ?_
      simp only [List.foldlM_cons,step_sid,step_transport _ (Or.inr ⟨rfl,rfl⟩),List.foldlM_nil]
      rfl
    intro server checked isPeek buf addr req idx hhead hscan
    exact parse_upgrade hhead hq hscan

theorem addresses_of_direct (hversion : builder.url.SameVersion)
    (hsid : ∀ pair ∈ builder.url.query, toLowercase pair.1 ≠ "sid") (h : builder.Direct handshake asked socket) :
    socket.Addresses asked := by
  obtain ⟨read,hread,hkept⟩ := readQuery_of_version hversion ⟨none,none⟩
  obtain ⟨-,-,hdirect,url,htransport,hquery⟩ := h
  rw [ClientSocket.Addresses,htransport]
  refine ⟨fun hupgraded => absurd hupgraded hdirect,fun _ => ?_⟩
  have hnone : read.sid = none := hkept hsid
  have hq : readQuery url.query = some ⟨none,some .websocket⟩ := by
    rw [hquery]
    refine readQuery_append hread ?_
    simp only [List.foldlM_cons,step_transport _ (Or.inr ⟨rfl,rfl⟩),List.foldlM_nil,hnone]
    rfl
  intro server checked isPeek buf addr req idx hhead hscan
  exact parse_upgrade hhead hq hscan

end SocketBuilder

end SocketIox.EngineIo
