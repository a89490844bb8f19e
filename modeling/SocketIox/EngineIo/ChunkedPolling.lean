import SocketIox.EngineIo.PacketCodec

/-! # Polling responses that come in chunks

The client's transport yields every chunk of a response body on its own, and the socket
reads each one as a payload. A payload has one packet more than it has separators, so
every further chunk stands for a packet that the body as a whole does not have.
-/
namespace SocketIox.EngineIo
open Wire Proc.TryStream

/-- `ClientPollingTransport::stream` over the outcomes of its requests, each an error of the HTTP client or
the chunks of the response body. -/
def ClientPollingTransport.stream : List (Except String (List (Except String Bytes))) → List (Except Error Bytes)
  | [] => []
  | .error e :: _ => [.error (.httpError e)]
  | .ok chunks :: rest => yieldFrom (chunks.map (Except.mapError Error.httpError)) (stream rest)

def arriving (responses : List (List Bytes)) : List (Except String (List (Except String Bytes))) :=
  responses.map (fun chunks => .ok (chunks.map .ok))

theorem ClientPollingTransport.stream_arriving (responses : List (List Bytes)) :
    ClientPollingTransport.stream (arriving responses) = responses.flatten.map .ok := by
  induction responses with
  | nil => rfl
  | cons chunks rest ih =>
    have hchunks : (chunks.map Except.ok).map (Except.mapError Error.httpError) = chunks.map Except.ok := by
      simp [Except.mapError]
    simp only [arriving,List.map_cons,ClientPollingTransport.stream,hchunks,yieldFrom_map_ok,List.flatten_cons,
      List.map_append]
    exact congrArg _ ih

variable {base64 : Base64Crate}

theorem parsePayload_of_ok {bytes : Bytes} {packets : Payload} (h : Payload.tryFrom base64 bytes = .ok packets) :
    parsePayload base64 bytes = packets.map .ok := by
  simp only [parsePayload,h]

theorem stream_payloads {bodies : List Bytes} {payloads : List Payload}
    (h : List.Forall₂ (fun body packets => Payload.tryFrom base64 body = .ok packets) bodies payloads) :
    stream base64 (bodies.map .ok) = payloads.flatten.map .ok := by
  induction h with
  | nil => rfl
  | @cons body packets bodies payloads hbody _ ih =>
    simp only [List.map_cons,stream,parsePayload_of_ok hbody,yieldFrom_map_ok,ih,List.flatten_cons,List.map_append]

theorem ne_nil_of_payloads {bodies : List Bytes} {payloads : List Payload}
    (h : List.Forall₂ (fun body packets => Payload.tryFrom base64 body = .ok packets) bodies payloads) :
    ∀ body ∈ bodies, body ≠ [] := by
  induction h with
  | nil => simp
  | @cons body packets bodies payloads hbody _ ih =>
    intro other hother
    rcases List.mem_cons.mp hother with rfl | hrest
    · rintro rfl
      cases hbody
    · exact ih other hrest

theorem stream_length {items : List Bytes} {packets : Payload} (h : stream base64 (items.map .ok) = packets.map .ok) :
    packets.length = items.flatten.count separator + items.length := by
  induction items generalizing packets with
  | nil =>
    rw [List.map_nil,stream] at h
    simp [List.map_eq_nil_iff.mp h.symm]
  | cons bytes items ih =>
    simp only [List.map_cons,stream] at h
    cases hread : Payload.tryFrom base64 bytes with
    | error e =>
      simp only [parsePayload,hread,yieldFrom_error] at h
      cases packets <;> simp at h
    | ok first =>
      rw [parsePayload_of_ok hread,yieldFrom_map_ok] at h
      obtain ⟨first',rest,rfl,hfirst,hrest⟩ := List.map_eq_append_iff.mp h.symm
      have hlen : first'.length = first.length := by simpa using congrArg List.length hfirst
      have hcount := Payload.tryFrom_length base64 hread
      rw [length_splitOn] at hcount
      have hrest_length := ih hrest.symm
      simp only [List.length_append,List.flatten_cons,List.count_append,List.length_cons]
      omega

/-- However many responses there are, the packets are those of the bodies if and only if every body
arrives in one chunk. -/
theorem polling_chunks_iff (base64 : Base64Crate) (responses : List (List Bytes)) (payloads : List Payload)
    (hvalid : List.Forall₂ (fun body packets => Payload.tryFrom base64 body = .ok packets)
      (responses.map List.flatten) payloads) :
    stream base64 (ClientPollingTransport.stream (arriving responses)) = payloads.flatten.map .ok ↔
      ∀ chunks ∈ responses, chunks.length = 1 := by
  rw [ClientPollingTransport.stream_arriving]
  have hwhole := stream_payloads hvalid
  constructor
  · intro hchunked
    have hne : ∀ chunks ∈ responses, chunks ≠ [] := by
      rintro chunks hc rfl
      exact ne_nil_of_payloads hvalid [] (List.mem_map_of_mem hc) rfl
    have hsame : responses.flatten.flatten = (responses.map List.flatten).flatten := List.flatten_flatten
    have hlen := (stream_length hchunked).symm.trans (stream_length hwhole)
    rw [hsame,List.length_map] at hlen
    exact length_eq_one_of_length_flatten hne (by omega)
  · intro hone
    rw [flatten_eq_map_flatten hone]
    exact hwhole

theorem polling_chunks_whole :
    stream rfc4648 (ClientPollingTransport.stream (arriving [[[52,104,105]],[[50,0x1e,54]]])) =
      [⟨.message,[104,105]⟩,⟨.ping,[]⟩,⟨.noop,[]⟩].map .ok :=
  (polling_chunks_iff rfc4648 [[[52,104,105]],[[50,0x1e,54]]] [[⟨.message,[104,105]⟩],[⟨.ping,[]⟩,⟨.noop,[]⟩]]
    (.cons (by decide +kernel) (.cons (by decide +kernel) .nil))).mpr (by decide)

theorem polling_chunks_cut :
    Payload.tryFrom rfc4648 [52,104,105] = .ok [⟨.message,[104,105]⟩] ∧
      stream rfc4648 (ClientPollingTransport.stream (arriving [[[52,104],[105]]])) ≠
        [⟨.message,[104,105]⟩].map .ok := by
  constructor
  · decide +kernel
  · decide +kernel

end SocketIox.EngineIo
