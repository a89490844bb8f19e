import SocketIox.EngineIo.HttpRequest
import SocketIox.EngineIo.Transport
import SocketIox.Proc.TryStream

/-! # Handling a request from what has arrived

`handle_http` peeks once and, unless it sees an upgrade, reads once, each time into a
buffer of `max_payload` bytes. What it acts on is decided by the bytes that have arrived
by then. A request that arrives in parts, or does not fit into the buffer, is taken for
a bad one.
-/
namespace SocketIox.EngineIo
open Wire

structure ServerOption where
  pingTimeout : ℕ
  pingInterval : ℕ
  maxPayload : ℕ
  deriving DecidableEq, Repr

instance : Inhabited ServerOption := ⟨⟨25000,20000,102400⟩⟩

structure HandshakePacket where
  sid : String
  upgrades : List String
  pingInterval : ℕ
  pingTimeout : ℕ
  maxPayload : ℕ
  deriving DecidableEq, Repr

/-- `Server::handshake_packet` for a session that has its id. -/
def handshakePacket (option : ServerOption) (upgrades : List String) (sid : String) : HandshakePacket :=
  ⟨sid,upgrades,option.pingInterval,option.pingTimeout,option.maxPayload⟩

def maxPayload : ℕ := 1000

inductive HttpAction where
  | upgrade (sid : Option String)
  | open_
  | get (sid : String)
  | post (sid : String) (data : Bytes)
  | badRequest
  deriving DecidableEq, Repr

section Handle
variable (crates : HttpCrates) (checked : Bool) (addr : String)

def peekRequestType (arrived : Bytes) : Except Fault (Option RequestType) :=
  parseRequestType crates checked (arrived.take maxPayload) addr true

def readRequestType (arrived : Bytes) : Except Fault (Option RequestType) :=
  parseRequestType crates checked (arrived.take maxPayload) addr false

/-- The `match` of `Polling::handle`. -/
def pollingAction : Option RequestType → HttpAction
  | some .pollingOpen => .open_
  | some (.pollingPost sid data) => .post sid data
  | some (.pollingGet sid) => .get sid
  | some (.wsUpgrade _) => .badRequest
  | none => .badRequest

/-- `handle_http`, given what had arrived when it peeked and when it read. -/
def handleHttp (peeked read : Bytes) : Except Fault HttpAction := do
  match ← peekRequestType crates checked addr peeked with
  | some (.wsUpgrade sid) => pure (.upgrade sid)
  | _ => do
    let request ← readRequestType crates checked addr read
    pure (pollingAction request)

/-- The polling handles after the request, apart from the one that an open adds. -/
def HttpAction.perform (handles : PollingHandles) : HttpAction → PollingHandles
  | .post sid data => pollingPost handles sid data
  | .upgrade _ | .open_ | .get _ | .badRequest => handles

end Handle

/-- `httparse` works on incomplete input: a head is complete as soon as all of its bytes are there,
and what follows does not matter. -/
structure HttpCrates.Incremental (crates : HttpCrates) : Prop where
  complete : ∀ buf req idx part, crates.parse buf = some (req,idx) → part <+: buf → idx ≤ part.length →
    crates.parse part = some (req,idx)
  unfinished : ∀ buf req idx part, crates.parse buf = some (req,idx) → part <+: buf → part.length < idx →
    crates.parse part = none

theorem sampleCrates_incremental (text : Bytes) (req : HttpHead) (url : String) (pairs : List (String × String)) :
    (sampleCrates text req url pairs).Incremental := by
  constructor
  · intro buf req' idx part h hpart hle
    simp only [sampleCrates,Option.ite_none_right_eq_some,Option.some.injEq,Prod.mk.injEq] at h ⊢
    obtain ⟨hp,hreq,rfl⟩ := h
    refine ⟨?_,hreq,rfl⟩
    exact List.isPrefixOf_iff_prefix.mpr (List.prefix_of_prefix_length_le (List.isPrefixOf_iff_prefix.mp hp) hpart hle)
  · intro buf req' idx part h hpart hlt
    simp only [sampleCrates,Option.ite_none_right_eq_some,Option.some.injEq,Prod.mk.injEq] at h
    obtain ⟨hp,hreq,rfl⟩ := h
    apply if_neg
    intro hshort
    exact absurd (List.isPrefixOf_iff_prefix.mp hshort).length_le (Nat.not_le.mpr hlt)

theorem postCrates_incremental (contentLength : String) : (postCrates contentLength).Incremental :=
  sampleCrates_incremental _ _ _ _

namespace Demand

def needed (demand : Demand) (idx : ℕ) : ℕ :=
  match demand with
  | .post _ contentLength => idx+contentLength
  | .upgrade _ | .get _ => idx

def seen (demand : Demand) (request : Bytes) (idx n : ℕ) (isPeek : Bool) : Option RequestType :=
  if n < idx then none
  else
    match demand with
    | .upgrade sid => some (.wsUpgrade sid)
    | .get sid => some (.ofSid sid)
    | .post sid contentLength =>
      if isPeek then some (.ofPost sid [])
      else if idx+contentLength ≤ n then some (.ofPost sid (slice request idx (idx+contentLength))) else none

/-- The peek of an upgrade has seen the head, the read of anything else has seen all of the request. -/
def Arrived (demand : Demand) (idx peeked read : ℕ) : Prop :=
  match demand with
  | .upgrade _ => idx ≤ peeked
  | .get _ | .post _ _ => demand.needed idx ≤ read

instance (demand : Demand) (idx peeked read : ℕ) : Decidable (demand.Arrived idx peeked read) :=
  match demand with
  | .upgrade _ => inferInstanceAs (Decidable (idx ≤ peeked))
  | .get sid => inferInstanceAs (Decidable ((Demand.get sid).needed idx ≤ read))
  | .post sid contentLength => inferInstanceAs (Decidable ((Demand.post sid contentLength).needed idx ≤ read))

end Demand

/-- A complete request: `idx` is the end of its head, and the body that it announces follows. -/
structure WellFormed (crates : HttpCrates) (addr : String) (request : Bytes) (idx : ℕ) (demand : Demand) : Prop where
  head : ∃ req, crates.parse request = some (req,idx) ∧ readHead crates addr req = some demand
  complete : demand.needed idx ≤ request.length

section Parts
variable {crates : HttpCrates} {checked : Bool} {addr : String} {request part peeked read : Bytes} {idx : ℕ}
variable {demand : Demand}

theorem slice_of_isPrefix {first last : ℕ} (h : part <+: request) (hle : last ≤ part.length) :
    slice part first last = slice request first last := by
  obtain ⟨rest,rfl⟩ := h
  unfold slice
  rw [List.take_append_of_le_length hle]

theorem parseRequestType_part (hi : crates.Incremental) (hw : WellFormed crates addr request idx demand)
    (hsize : request.length < 2^64) (hpart : part <+: request) (checked isPeek : Bool) :
    parseRequestType crates checked part addr isPeek = .ok (demand.seen request idx part.length isPeek) := by
  obtain ⟨req,hparse,hhead⟩ := hw.head
  unfold parseRequestType Demand.seen
  by_cases hlt : part.length < idx
  · rw [hi.unfinished _ _ _ _ hparse hpart hlt,if_pos hlt]
    rfl
  · rw [hi.complete _ _ _ _ hparse hpart (Nat.not_lt.mp hlt),if_neg hlt]
    simp only [hhead]
    cases demand with
    | upgrade sid => rfl
    | get sid => rfl
    | post sid contentLength =>
      have hfits : idx+contentLength < 2^64 := Nat.lt_of_le_of_lt hw.complete hsize
      simp only [readBody_fits hfits,bind,Except.bind,pure,Except.pure,Except.ok.injEq]
      cases isPeek with
      | true => rfl
      | false =>
        by_cases hle : idx+contentLength ≤ part.length
        · simp [hle,slice_of_isPrefix hpart hle]
        · simp [hle]

theorem take_maxPayload (hfits : request.length ≤ maxPayload) (hpart : part <+: request) :
    part.take maxPayload = part := List.take_of_length_le (Nat.le_trans hpart.length_le hfits)

theorem handleHttp_parts (hi : crates.Incremental) (hw : WellFormed crates addr request idx demand)
    (hfits : request.length ≤ maxPayload) (hpeeked : peeked <+: request) (hread : read <+: request) :
    handleHttp crates checked addr peeked read =
      match demand.seen request idx peeked.length true with
      | some (.wsUpgrade sid) => .ok (.upgrade sid)
      | _ => .ok (pollingAction (demand.seen request idx read.length false)) := by
  have hsize : request.length < 2^64 := Nat.lt_of_le_of_lt hfits (by decide)
  have hfirst := parseRequestType_part hi hw hsize hpeeked checked true
  have hsecond := parseRequestType_part hi hw hsize hread checked false
  unfold handleHttp peekRequestType readRequestType
  rw [take_maxPayload hfits hpeeked,take_maxPayload hfits hread,hfirst,hsecond]
  simp only [bind,Except.bind,pure,Except.pure]

end Parts

namespace Demand
variable {demand : Demand} {request : Bytes} {idx n : ℕ} {sid : Option String}

theorem seen_upgrade (h : idx ≤ n) (isPeek : Bool) :
    (Demand.upgrade sid).seen request idx n isPeek = some (.wsUpgrade sid) := if_neg (Nat.not_lt.mpr h)

theorem seen_unfinished (h : n < idx) (isPeek : Bool) : demand.seen request idx n isPeek = none := if_pos h

theorem ofSid_ne_wsUpgrade (sid : Option String) (upgraded : Option String) :
    RequestType.ofSid sid ≠ .wsUpgrade upgraded := by
  cases sid <;> exact nofun

theorem ofPost_ne_wsUpgrade (sid : Option String) (data : Bytes) (upgraded : Option String) :
    RequestType.ofPost sid data ≠ .wsUpgrade upgraded := by
  cases sid <;> exact nofun

theorem pollingAction_ofSid (sid : Option String) : pollingAction (some (.ofSid sid)) ≠ .badRequest := by
  cases sid <;> exact nofun

theorem pollingAction_ofPost (sid : Option String) (data : Bytes) :
    pollingAction (some (.ofPost sid data)) ≠ .badRequest := by
  cases sid <;> exact nofun

theorem seen_ne_wsUpgrade (h : ∀ sid, demand ≠ .upgrade sid) (isPeek : Bool) (upgraded : Option String) :
    demand.seen request idx n isPeek ≠ some (.wsUpgrade upgraded) := by
  unfold seen
  split
  · exact nofun
  · cases demand with
    | upgrade sid => exact absurd rfl (h sid)
    | get sid => simpa using ofSid_ne_wsUpgrade sid upgraded
    | post sid contentLength =>
      simp only
      split
      · simpa using ofPost_ne_wsUpgrade sid [] upgraded
      · split
        · simpa using ofPost_ne_wsUpgrade sid _ upgraded
        · exact nofun

theorem pollingAction_seen (h : ∀ sid, demand ≠ .upgrade sid) (hc : demand.needed idx ≤ request.length) :
    pollingAction (demand.seen request idx n false) = pollingAction (demand.seen request idx request.length false) ↔
      demand.needed idx ≤ n := by
  cases demand with
  | upgrade sid => exact absurd rfl (h sid)
  | get sid =>
    have hwhole : (Demand.get sid).seen request idx request.length false = some (.ofSid sid) :=
      if_neg (Nat.not_lt.mpr hc)
    rw [hwhole]
    by_cases hn : idx ≤ n
    · simp [seen,needed,hn,Nat.not_lt.mpr hn]
    · rw [seen_unfinished (Nat.not_le.mp hn)]
      simp only [needed,hn,iff_false]
      exact (pollingAction_ofSid sid).symm
  | post sid contentLength =>
    have hlength : idx+contentLength ≤ request.length := hc
    have hwhole : (Demand.post sid contentLength).seen request idx request.length false =
        some (.ofPost sid (slice request idx (idx+contentLength))) := by
      have hidx : ¬ request.length < idx := by omega
      simp [seen,hidx,hlength]
    rw [hwhole]
    by_cases hn : idx+contentLength ≤ n
    · have hidx : ¬ n < idx := by omega
      simp [seen,needed,hn,hidx]
    · have hnone : (Demand.post sid contentLength).seen request idx n false = none := by
        simp [seen,hn]
      rw [hnone]
      simp only [needed,hn,iff_false]
      exact (pollingAction_ofPost sid _).symm

end Demand

section Uniform
variable {crates : HttpCrates} {checked : Bool} {addr : String} {request peeked read : Bytes} {idx : ℕ}
variable {demand : Demand}

theorem handleHttp_polling (hi : crates.Incremental) (hw : WellFormed crates addr request idx demand)
    (hfits : request.length ≤ maxPayload) (hpeeked : peeked <+: request) (hread : read <+: request)
    (h : ∀ sid, demand ≠ .upgrade sid) : handleHttp crates checked addr peeked read =
      .ok (pollingAction (demand.seen request idx read.length false)) := by
  rw [handleHttp_parts hi hw hfits hpeeked hread]
  split
  · rename_i sid hseen
    exact absurd hseen (Demand.seen_ne_wsUpgrade h true sid)
  · rfl

theorem handleHttp_eq_iff (hi : crates.Incremental) (hw : WellFormed crates addr request idx demand)
    (hfits : request.length ≤ maxPayload) (hpeeked : peeked <+: request) (hread : read <+: request) :
    handleHttp crates checked addr peeked read = handleHttp crates checked addr request request ↔
      demand.Arrived idx peeked.length read.length := by
  have hself := List.prefix_refl request
  cases demand with
  | upgrade sid =>
    have hc : idx ≤ request.length := hw.complete
    rw [handleHttp_parts hi hw hfits hpeeked hread,handleHttp_parts hi hw hfits hself hself,Demand.seen_upgrade hc]
    by_cases hn : idx ≤ peeked.length
    · simp [Demand.seen_upgrade hn,Demand.Arrived,hn]
    · have hbad : pollingAction ((Demand.upgrade sid).seen request idx read.length false) = .badRequest := by
        unfold Demand.seen
        split <;> rfl
      rw [Demand.seen_unfinished (Nat.not_le.mp hn),hbad]
      simp [Demand.Arrived,hn]
  | get sid =>
    rw [handleHttp_polling hi hw hfits hpeeked hread (by simp),handleHttp_polling hi hw hfits hself hself (by simp),
      Except.ok.injEq]
    exact Demand.pollingAction_seen (by simp) hw.complete
  | post sid contentLength =>
    rw [handleHttp_polling hi hw hfits hpeeked hread (by simp),handleHttp_polling hi hw hfits hself hself (by simp),
      Except.ok.injEq]
    exact Demand.pollingAction_seen (by simp) hw.complete

theorem isPrefix_flatten_take (arrivals : List Bytes) (n : ℕ) : (arrivals.take n).flatten <+: arrivals.flatten := by
  refine ⟨(arrivals.drop n).flatten,?_⟩
  rw [← List.flatten_append,List.take_append_drop]

end Uniform

/-- For any split of a request into arrivals, with the peek after `i` of them and the read after `j`, the server
does what it does when everything arrives at once if and only if the peek of an upgrade has seen its
head, and the read of any other request has seen all of it. -/
theorem handle_http_uniform_iff (crates : HttpCrates) (hi : crates.Incremental) (checked : Bool) (addr : String)
    (arrivals : List Bytes) (idx : ℕ) (demand : Demand)
    (hw : WellFormed crates addr arrivals.flatten idx demand) (hfits : arrivals.flatten.length ≤ maxPayload)
    (i j : ℕ) :
    handleHttp crates checked addr (arrivals.take i).flatten (arrivals.take j).flatten =
        handleHttp crates checked addr arrivals.flatten arrivals.flatten ↔
      demand.Arrived idx (arrivals.take i).flatten.length (arrivals.take j).flatten.length :=
  handleHttp_eq_iff hi hw hfits (isPrefix_flatten_take arrivals i) (isPrefix_flatten_take arrivals j)

theorem post_wellFormed :
    WellFormed (postCrates "2") "127.0.0.1:4201" (postText "2" ++ [52,97]) (postText "2").length
      (.post (some "MA==") 2) where
  head := ⟨postHead "2",postCrates_parse "2" [52,97],postCrates_readHead (by decide +kernel)⟩
  complete := by simp [Demand.needed]

theorem postText_fits : (postText "2" ++ [52,97]).length ≤ maxPayload := by decide +kernel

theorem handle_http_uniform_post :
    handleHttp (postCrates "2") true "127.0.0.1:4201" (postText "2") (postText "2" ++ [52,97]) =
      handleHttp (postCrates "2") true "127.0.0.1:4201" (postText "2" ++ [52,97]) (postText "2" ++ [52,97]) := by
  have hflatten : [postText "2",[52,97]].flatten = postText "2" ++ [52,97] := by simp
  have hfirst : ([postText "2",[52,97]].take 1).flatten = postText "2" := by simp
  have h := handle_http_uniform_iff (postCrates "2") (postCrates_incremental "2") true "127.0.0.1:4201"
    [postText "2",[52,97]] (postText "2").length (.post (some "MA==") 2) (by rw [hflatten]; exact post_wellFormed)
    (by rw [hflatten]; exact postText_fits) 1 2
  rw [hfirst,show [postText "2",[52,97]].take 2 = [postText "2",[52,97]] from rfl,hflatten] at h
  exact h.mpr (by simp [Demand.Arrived,Demand.needed])

section Announced
variable {crates : HttpCrates} {addr sid : String} {head body peeked : Bytes} {req : HttpHead}

theorem readRequestType_overlong (hi : crates.Incremental) (hparse : crates.parse (head ++ body) = some (req,head.length))
    (hhead : readHead crates addr req = some (.post (some sid) body.length))
    (hlong : maxPayload < head.length+body.length) (checked : Bool) :
    readRequestType crates checked addr (head ++ body) = .ok none ∨
      ∃ fault, readRequestType crates checked addr (head ++ body) = .error fault := by
  have hpart := List.take_prefix maxPayload (head ++ body)
  have hlength : ((head ++ body).take maxPayload).length = maxPayload := by
    rw [List.length_take,List.length_append]
    omega
  unfold readRequestType parseRequestType
  rcases Nat.lt_or_ge maxPayload head.length with hlt | hge
  · left
    rw [hi.unfinished _ _ _ _ hparse hpart (by rwa [hlength])]
    rfl
  · rw [hi.complete _ _ _ _ hparse hpart (by rwa [hlength])]
    simp only [hhead]
    by_cases hfits : head.length+body.length < 2^64
    · left
      have hend : ¬ head.length+body.length ≤ ((head ++ body).take maxPayload).length := by
        rw [hlength]
        omega
      rw [readBody_fits hfits]
      simp only [Bool.false_eq_true,↓reduceIte,hend]
      rfl
    · right
      have hover := Nat.not_lt.mp hfits
      cases checked with
      | true => exact ⟨.overflow,by rw [readBody_overflow hover]; rfl⟩
      | false =>
        have hbuf : ((head ++ body).take maxPayload).length < 2^64 := by
          rw [hlength]
          decide
        have hwraps := readBody_wraps hover (by rwa [hlength]) hbuf (readHead_post_lt hhead)
        exact ⟨.slice,by rw [hwraps]; rfl⟩

theorem handleHttp_overlong (hi : crates.Incremental) (hparse : crates.parse (head ++ body) = some (req,head.length))
    (hhead : readHead crates addr req = some (.post (some sid) body.length))
    (hlong : maxPayload < head.length+body.length) (checked : Bool) (peeked : Bytes) :
    handleHttp crates checked addr peeked (head ++ body) ≠ .ok (.post sid body) := by
  intro h
  obtain ⟨request,-,h⟩ := Proc.ok_of_bind_ok h
  split at h
  · cases h
  · obtain ⟨second,hsecond,h⟩ := Proc.ok_of_bind_ok h
    rcases readRequestType_overlong hi hparse hhead hlong checked with hnone | ⟨fault,hfault⟩
    · rw [hnone] at hsecond
      cases hsecond
      cases h
    · rw [hfault] at hsecond
      cases hsecond

theorem handleHttp_post (hi : crates.Incremental) (hparse : crates.parse (head ++ body) = some (req,head.length))
    (hhead : readHead crates addr req = some (.post (some sid) body.length))
    (hfits : head.length+body.length ≤ maxPayload) (checked : Bool) (hpeeked : peeked <+: head ++ body) :
    handleHttp crates checked addr peeked (head ++ body) = .ok (.post sid body) := by
  have hlength : (head ++ body).length = head.length+body.length := List.length_append
  have hw : WellFormed crates addr (head ++ body) head.length (.post (some sid) body.length) :=
    ⟨⟨req,hparse,hhead⟩,Nat.le_of_eq hlength.symm⟩
  have hslice : slice (head ++ body) head.length (head.length+body.length) = body := by
    rw [slice,← hlength,List.take_length,List.drop_left]
  have hidx : ¬ (head ++ body).length < head.length := by
    rw [hlength]
    omega
  rw [handleHttp_polling hi hw (by rwa [hlength]) hpeeked (List.prefix_refl _) (by simp),Demand.seen,if_neg hidx,hslice]
  simp [pollingAction,RequestType.ofPost]

end Announced

/-- For every option and every POST to an open session, the body arrives in the session's inbox, provided that
it is no longer than announced, if and only if it is longer than announced or head and body fit into
the buffer. -/
theorem post_honoured_iff (crates : HttpCrates) (hi : crates.Incremental) (checked : Bool) (addr : String)
    (option : ServerOption) (upgrades : List String) (sid : String) (head body peeked : Bytes) (req : HttpHead)
    (hparse : crates.parse (head ++ body) = some (req,head.length))
    (hhead : readHead crates addr req = some (.post (some sid) body.length)) (hpeeked : peeked <+: head ++ body)
    (handles : PollingHandles) (received : List Bytes) (hhandle : handles.lookup sid = some ⟨received,false⟩) :
    (body.length ≤ (handshakePacket option upgrades sid).maxPayload →
      handleHttp crates checked addr peeked (head ++ body) = .ok (.post sid body) ∧
      ((HttpAction.post sid body).perform handles).lookup sid = some ⟨received ++ [body],false⟩) ↔
    option.maxPayload < body.length ∨ head.length+body.length ≤ maxPayload := by
  constructor
  · intro h
    by_contra hnot
    rw [not_or,Nat.not_lt,Nat.not_le] at hnot
    exact handleHttp_overlong hi hparse hhead hnot.2 checked peeked (h hnot.1).1
  · rintro (hlong | hfits) hannounced
    · exact absurd hannounced (Nat.not_le.mpr hlong)
    · exact ⟨handleHttp_post hi hparse hhead hfits checked hpeeked,lookup_pollingPost_self hhandle body⟩

theorem handle_http_split :
    WellFormed (postCrates "2") "127.0.0.1:4201" (postText "2" ++ [52,97]) (postText "2").length
      (.post (some "MA==") 2) ∧
    handleHttp (postCrates "2") true "127.0.0.1:4201" (postText "2" ++ [52,97]) (postText "2" ++ [52,97]) =
      .ok (.post "MA==" [52,97]) ∧
    handleHttp (postCrates "2") true "127.0.0.1:4201" (postText "2") (postText "2") = .ok .badRequest := by
  refine ⟨post_wellFormed,?_,?_⟩
  · exact handleHttp_post (postCrates_incremental "2") (postCrates_parse "2" [52,97])
      (postCrates_readHead (by decide +kernel)) (List.length_append ▸ postText_fits) true (List.prefix_refl _)
  · have hpart : postText "2" <+: postText "2" ++ [52,97] := List.prefix_append _ _
    have hshort : ¬ (postText "2").length+2 ≤ (postText "2").length := by omega
    rw [handleHttp_polling (postCrates_incremental "2") post_wellFormed postText_fits hpart hpart (by simp),
      Demand.seen,if_neg (Nat.lt_irrefl _)]
    simp only [Bool.false_eq_true,↓reduceIte,hshort]
    rfl

theorem post_honoured_small :
    handleHttp (postCrates "2") true "127.0.0.1:4201" (postText "2" ++ [52,97]) (postText "2" ++ [52,97]) =
      .ok (.post "MA==" [52,97]) ∧
    ((HttpAction.post "MA==" [52,97]).perform (AList.singleton "MA==" ⟨[],false⟩)).lookup "MA==" =
      some ⟨[[52,97]],false⟩ :=
  (post_honoured_iff (postCrates "2") (postCrates_incremental "2") true "127.0.0.1:4201" default ["websocket"]
    "MA==" (postText "2") [52,97] (postText "2" ++ [52,97]) (postHead "2") (postCrates_parse "2" [52,97])
    (postCrates_readHead (by decide +kernel)) (List.prefix_refl _) (AList.singleton "MA==" ⟨[],false⟩) [] rfl).mpr
    (Or.inr (List.length_append ▸ postText_fits)) (by decide)

theorem post_dishonoured :
    (List.replicate 1000 97 : Bytes).length ≤ (handshakePacket default ["websocket"] "MA==").maxPayload ∧
    (postCrates "1000").parse (postText "1000" ++ List.replicate 1000 97) =
      some (postHead "1000",(postText "1000").length) ∧
    readHead (postCrates "1000") "127.0.0.1:4201" (postHead "1000") = some (.post (some "MA==") 1000) ∧
    handleHttp (postCrates "1000") true "127.0.0.1:4201" (postText "1000" ++ List.replicate 1000 97)
      (postText "1000" ++ List.replicate 1000 97) ≠ .ok (.post "MA==" (List.replicate 1000 97)) := by
  have hparse := postCrates_parse "1000" (List.replicate 1000 97)
  have hlength : (List.replicate 1000 97 : Bytes).length = 1000 := List.length_replicate
  have hhead : readHead (postCrates "1000") "127.0.0.1:4201" (postHead "1000") = some (.post (some "MA==") 1000) :=
    postCrates_readHead (by decide +kernel)
  have hne : 0 < (postText "1000").length := by decide +kernel
  refine ⟨?_,hparse,hhead,?_⟩
  · rw [hlength]
    decide
  · refine handleHttp_overlong (postCrates_incremental "1000") hparse (by rw [hlength]; exact hhead) ?_ true _
    rw [hlength]
    unfold maxPayload
    omega

end SocketIox.EngineIo
