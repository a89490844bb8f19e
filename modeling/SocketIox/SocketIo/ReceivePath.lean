import SocketIox.SocketIo.PacketFields
import SocketIox.SocketIo.Reassembly

/-! # The receive path on streams of any length

The generator of the raw socket is driven by the answers of `next` on the engine
socket, one after the other, where no answer ends the engine stream. Read this way
it is an automaton, and the stream may as well be infinite. On finite streams it
yields what `RawSocket.stream` yields.
-/
namespace SocketIox.SocketIo
open Wire

/-- Where the generator stands between two calls of `next`: in the loop of `stream`, in the
loop of `handle_engineio_packet`, at its end, or in a panic after unwrapping no answer. -/
inductive Phase where
  | outer
  | collecting (packet : Packet) (attachmentsLeft : ℕ) (attachments : List Bytes)
  | ended
  | panicked

structure Receiver where
  phase : Phase
  yielded : List (Except Error Packet)

namespace Receiver

def initial : Receiver := ⟨.outer,[]⟩

def fail (r : Receiver) (e : Error) : Receiver := ⟨.ended,r.yielded ++ [.error e]⟩

def give (r : Receiver) (packet : Packet) : Receiver := ⟨.outer,r.yielded ++ [.ok packet]⟩

section Step
variable (json : SerdeJson)

def step (r : Receiver) (next : Option EngineItem) : Receiver :=
  match r.phase,next with
  | .outer,none => { r with phase := .ended }
  | .outer,some (.error e) => r.fail (.incompleteResponseFromEngineIo e)
  | .outer,some (.ok item) =>
    if isMessage item.ptype then
      match Packet.tryFrom json item.data with
      | .error e => r.fail e
      | .ok packet =>
        if packet.attachmentCount = 0 then r.give packet
        else { r with phase := .collecting packet packet.attachmentCount.toNat [] }
    else r
  | .collecting _ _ _,none => { r with phase := .panicked }
  | .collecting _ _ _,some (.error e) => r.fail (.incompleteResponseFromEngineIo e)
  | .collecting packet left attachments,some (.ok item) =>
    if isMessage item.ptype then
      if left-1 > 0 then { r with phase := .collecting packet (left-1) (attachments ++ [item.data]) }
      else r.give { packet with attachments := some (attachments ++ [item.data]) }
    else r.fail (.invalidAttachmentPacketType item.ptype.toU8)
  | .ended,_ => r
  | .panicked,_ => r

def feed (r : Receiver) (answers : List (Option EngineItem)) : Receiver := answers.foldl (step json) r

def after (source : ℕ → Option EngineItem) : ℕ → Receiver
  | 0 => initial
  | n + 1 => (after source n).step json (source n)

@[simp] theorem feed_nil (r : Receiver) : r.feed json [] = r := rfl

@[simp] theorem feed_cons (r : Receiver) (next : Option EngineItem) (answers : List (Option EngineItem)) :
    r.feed json (next :: answers) = (r.step json next).feed json answers := rfl

theorem feed_append (r : Receiver) (xs ys : List (Option EngineItem)) :
    r.feed json (xs ++ ys) = (r.feed json xs).feed json ys := List.foldl_append

theorem after_eq_feed (source : ℕ → Option EngineItem) (n : ℕ) :
    after json source n = initial.feed json ((List.range n).map source) := by
  induction n with
  | zero => rfl
  | succ n ih => rw [after,ih,List.range_succ,List.map_append,feed_append,List.map_singleton,feed_cons,feed_nil]

theorem feed_ended (ys : List (Except Error Packet)) (answers : List (Option EngineItem)) :
    feed json ⟨.ended,ys⟩ answers = ⟨.ended,ys⟩ := by
  induction answers with
  | nil => rfl
  | cons next answers ih => exact ih

end Step

section Lists
variable (json : SerdeJson)

def answers (items : List EngineItem) : List (Option EngineItem) := items.map some ++ [none]

@[simp] theorem feed_answers_cons (r : Receiver) (item : EngineItem) (client : List EngineItem) :
    r.feed json (answers (item :: client)) = (r.step json (some item)).feed json (answers client) := rfl

theorem feed_collecting (packet : Packet) (left : ℕ) (attachments : List Bytes) (ys : List (Except Error Packet))
    (client : List EngineItem) :
    feed json ⟨.collecting packet (left+1) attachments,ys⟩ (answers client) =
      match takeAttachments (left+1) attachments client with
      | .done all rest =>
        feed json ⟨.outer,ys ++ [.ok { packet with attachments := some all }]⟩ (answers rest)
      | .failed e _ => ⟨.ended,ys ++ [.error e]⟩
      | .panicked => ⟨.panicked,ys⟩ := by
  induction client generalizing left attachments with
  | nil => rfl
  | cons item client ih =>
    cases item with
    | error e => exact feed_ended json _ _
    | ok item =>
      by_cases hm : isMessage item.ptype = true
      · cases left with
        | zero => simp [step,takeAttachments,hm,give]
        | succ left =>
          have hrest := ih left (attachments ++ [item.data])
          rw [feed_answers_cons,takeAttachments,if_pos hm,← hrest]
          simp [step,hm]
      · rw [feed_answers_cons,takeAttachments,if_neg hm]
        simp [step,hm,fail,feed_ended]

def finalPhase (y : Yielded) : Phase := if y.panicked then .panicked else .ended

theorem finalPhase_cons (item : Except Error Packet) (y : Yielded) : finalPhase (y.cons item) = finalPhase y := rfl

theorem feed_stream (items : List EngineItem) (ys : List (Except Error Packet)) :
    feed json ⟨.outer,ys⟩ (answers items) =
      ⟨finalPhase (RawSocket.stream json items),ys ++ (RawSocket.stream json items).items⟩ := by
  induction hn : items.length using Nat.strong_induction_on generalizing items ys with
  | _ n ih =>
    subst hn
    rcases items with _ | ⟨e | item,client⟩
    · simp [answers,step,RawSocket.stream,finalPhase]
    · rw [feed_answers_cons,RawSocket.stream]
      exact feed_ended json _ _
    · by_cases hm : isMessage item.ptype = true
      · rw [stream_message hm,feed_answers_cons]
        cases ht : Packet.tryFrom json item.data with
        | error e => simp [step,hm,ht,handleEngineioPacket,fail,feed_ended,finalPhase]
        | ok packet =>
          by_cases hz : packet.attachmentCount = 0
          · have hrest := ih client.length (by simp) client (ys ++ [.ok packet]) rfl
            simp [step,hm,ht,handleEngineioPacket,hz,give,hrest,Yielded.cons,finalPhase]
          · obtain ⟨left,hleft⟩ : ∃ left, packet.attachmentCount.toNat = left+1 :=
              Nat.exists_eq_succ_of_ne_zero (fun h => hz (UInt8.toNat_inj.mp h))
            have hcollect := feed_collecting json packet left [] ys client
            simp only [step,hm,ht,hz,handleEngineioPacket,↓reduceIte,hleft,hcollect]
            cases htake : takeAttachments (left+1) [] client with
            | done all rest =>
              have hle := takeAttachments_rest htake
              have hrest := ih rest.length (by simp only [List.length_cons]; omega) rest
                (ys ++ [.ok { packet with attachments := some all }]) rfl
              rw [finalPhase_cons]
              simp [hrest,Yielded.cons]
            | failed e rest => rfl
            | panicked => simp [finalPhase]
      · have hrest := ih client.length (by simp) client ys rfl
        rw [stream_skip (by simpa using hm),feed_answers_cons,← hrest]
        simp [step,hm]

/-- On a finite stream the generator yields the items of `RawSocket.stream`, and panics with it. -/
theorem after_eq_stream (items : List EngineItem) :
    after json (fun n => items[n]?) (items.length+1) =
      ⟨finalPhase (RawSocket.stream json items),(RawSocket.stream json items).items⟩ := by
  have hanswers : (List.range (items.length+1)).map (fun n => items[n]?) = answers items := by
    apply List.ext_getElem?
    intro i
    rcases Nat.lt_trichotomy i items.length with hi | hi | hi
    · simp [answers,hi,Nat.lt_succ_of_lt hi]
    · simp [answers,hi]
    · have hle : items.length+1 ≤ i := hi
      rw [List.getElem?_eq_none (by simpa using hle),List.getElem?_eq_none (by simpa [answers] using hle)]
  rw [after_eq_feed,hanswers,initial,feed_stream]
  rfl

end Lists

section Groups
variable (json : SerdeJson) (source : ℕ → Option EngineItem)

def header (next : Option EngineItem) : Option Packet :=
  match next with
  | some (.ok item) => if isMessage item.ptype then (Packet.tryFrom json item.data).toOption else none
  | _ => none

def isAttachment (next : Option EngineItem) : Bool :=
  match next with
  | some (.ok item) => isMessage item.ptype
  | _ => false

variable {json} in
theorem header_eq_some {next : Option EngineItem} {packet : Packet} (h : header json next = some packet) :
    ∃ item, next = some (.ok item) ∧ isMessage item.ptype = true ∧ Packet.tryFrom json item.data = .ok packet := by
  rcases next with _ | e | item
  · cases h
  · cases h
  · by_cases hm : isMessage item.ptype = true
    · refine ⟨item,rfl,hm,?_⟩
      cases ht : Packet.tryFrom json item.data with
      | error e => simp [header,hm,ht,Except.toOption] at h
      | ok decoded => simpa [header,hm,ht,Except.toOption] using h
    · simp [header,hm] at h

theorem isAttachment_eq_true {next : Option EngineItem} (h : isAttachment next = true) :
    ∃ item, next = some (.ok item) ∧ isMessage item.ptype = true := by
  rcases next with _ | e | item
  · cases h
  · cases h
  · exact ⟨item,rfl,h⟩

theorem attachmentCount_pos {packet : Packet} (h : packet.attachmentCount ≠ 0) :
    0 < packet.attachmentCount.toNat :=
  Nat.pos_of_ne_zero (fun hz => h (UInt8.toNat_inj.mp hz))

/-- The positions of a stream where a group may start: after an item that is no message,
and after a header with all the messages it announces. -/
inductive Starts : ℕ → Prop where
  | zero : Starts 0
  | skip {i : ℕ} {item : EngineIo.Packet} (hi : Starts i) (hs : source i = some (.ok item))
      (hm : isMessage item.ptype = false) : Starts (i+1)
  | group {i : ℕ} {packet : Packet} (hi : Starts i) (hh : header json (source i) = some packet)
      (ha : ∀ j < packet.attachmentCount.toNat, isAttachment (source (i+1+j)) = true) :
      Starts (i+1+packet.attachmentCount.toNat)

/-- The stream ends after a header and fewer messages than it announces. -/
def EndsInsideGroup : Prop :=
  ∃ i packet k, Starts json source i ∧ header json (source i) = some packet ∧
    k < packet.attachmentCount.toNat ∧ (∀ j < k, isAttachment (source (i+1+j)) = true) ∧ source (i+1+k) = none

def Explained (n : ℕ) : Phase → Prop
  | .outer => Starts json source n
  | .collecting packet left _ => ∃ i k, Starts json source i ∧ header json (source i) = some packet ∧
      n = i+1+k ∧ k+left = packet.attachmentCount.toNat ∧ 0 < left ∧
      ∀ j < k, isAttachment (source (i+1+j)) = true
  | .ended => True
  | .panicked => EndsInsideGroup json source

variable {json source}

theorem step_explained {n : ℕ} {r : Receiver} (h : Explained json source n r.phase) :
    Explained json source (n+1) (r.step json (source n)).phase := by
  obtain ⟨phase,ys⟩ := r
  cases phase with
  | outer =>
    rcases hs : source n with _ | e | item
    · trivial
    · trivial
    · by_cases hm : isMessage item.ptype = true
      · cases ht : Packet.tryFrom json item.data with
        | error e => simp [step,hm,ht,fail,Explained]
        | ok packet =>
          have hh : header json (source n) = some packet := by simp [header,hs,hm,ht,Except.toOption]
          by_cases hz : packet.attachmentCount = 0
          · have hg := Starts.group h hh (by simp [hz])
            simpa [step,hm,ht,hz,give,Explained] using hg
          · simp only [step,hm,ht,hz,↓reduceIte,Explained]
            exact ⟨n,0,h,hh,rfl,Nat.zero_add _,attachmentCount_pos hz,by simp⟩
      · have hg := Starts.skip h hs (by simpa using hm)
        simpa [step,hm,Explained] using hg
  | collecting packet left attachments =>
    obtain ⟨i,k,hi,hh,rfl,hcount,hpos,ha⟩ := h
    rcases hs : source (i+1+k) with _ | e | item
    · exact ⟨i,packet,k,hi,hh,by omega,ha,hs⟩
    · trivial
    · by_cases hm : isMessage item.ptype = true
      · have hnext : ∀ j < k+1, isAttachment (source (i+1+j)) = true := by
          intro j hj
          rcases Nat.lt_succ_iff_lt_or_eq.mp hj with hlt | rfl
          · exact ha j hlt
          · simp [isAttachment,hs,hm]
        by_cases hl : left-1 > 0
        · simp only [step,hm,↓reduceIte,if_pos hl,Explained]
          exact ⟨i,k+1,hi,hh,rfl,by omega,hl,hnext⟩
        · have hall : packet.attachmentCount.toNat = k+1 := by omega
          have hg := Starts.group hi hh (by rwa [hall])
          rw [hall,← Nat.add_assoc] at hg
          simpa [step,hm,hl,give,Explained] using hg
      · simp [step,hm,fail,Explained]
  | ended => trivial
  | panicked => exact h

variable (json source) in
theorem after_explained (n : ℕ) : Explained json source n (after json source n).phase := by
  induction n with
  | zero => exact Starts.zero
  | succ n ih => exact step_explained ih

theorem endsInsideGroup_of_panicked {n : ℕ} (h : (after json source n).phase = .panicked) :
    EndsInsideGroup json source := by
  have he := after_explained json source n
  rwa [h] at he

theorem after_group {i : ℕ} {packet : Packet} (ho : (after json source i).phase = .outer)
    (hh : header json (source i) = some packet) {k : ℕ} (hk : k ≤ packet.attachmentCount.toNat)
    (ha : ∀ j < k, isAttachment (source (i+1+j)) = true) :
    (after json source (i+1+k)).phase = .outer ∧ k = packet.attachmentCount.toNat ∨
      k < packet.attachmentCount.toNat ∧ ∃ attachments, (after json source (i+1+k)).phase =
        .collecting packet (packet.attachmentCount.toNat-k) attachments := by
  induction k with
  | zero =>
    obtain ⟨item,hs,hm,ht⟩ := header_eq_some hh
    by_cases hz : packet.attachmentCount = 0
    · left
      simp [after,step,ho,hs,hm,ht,hz,give]
    · right
      refine ⟨attachmentCount_pos hz,[],?_⟩
      simp [after,step,ho,hs,hm,ht,hz]
  | succ k ih =>
    rcases ih (by omega) (fun j hj => ha j (by omega)) with ⟨-,heq⟩ | ⟨hlt,attachments,hc⟩
    · omega
    · obtain ⟨item,hs,hm⟩ := isAttachment_eq_true (ha k (by omega))
      have hstep : after json source (i+1+(k+1)) = (after json source (i+1+k)).step json (some (.ok item)) := by
        rw [← hs]
        rfl
      by_cases hl : packet.attachmentCount.toNat-k-1 > 0
      · right
        refine ⟨by omega,attachments ++ [item.data],?_⟩
        rw [hstep]
        simp only [step,hc,hm,↓reduceIte,if_pos hl]
        rfl
      · left
        refine ⟨?_,by omega⟩
        rw [hstep]
        simp only [step,hc,hm,↓reduceIte,if_neg hl,give]

theorem after_starts {i : ℕ} (h : Starts json source i) : (after json source i).phase = .outer := by
  induction h with
  | zero => rfl
  | @skip i item hi hs hm ih => simp [after,step,ih,hs,hm]
  | @group i packet hi hh ha ih =>
    rcases after_group ih hh (Nat.le_refl _) ha with ⟨ho,-⟩ | ⟨hlt,-⟩
    · exact ho
    · exact absurd hlt (Nat.lt_irrefl _)

end Groups

/-- The receive path panics on the streams that end inside of a group, and on no other. -/
theorem receive_never_panics_iff (json : SerdeJson) (source : ℕ → Option EngineItem) :
    (∀ n, (after json source n).phase ≠ .panicked) ↔ ¬ EndsInsideGroup json source := by
  constructor
  · rintro h ⟨i,packet,k,hi,hh,hk,ha,hnone⟩
    apply h (i+1+k+1)
    rcases after_group (after_starts hi) hh (Nat.le_of_lt hk) ha with ⟨-,heq⟩ | ⟨-,attachments,hc⟩
    · exact absurd heq (Nat.ne_of_lt hk)
    · simp [after,step,hc,hnone]
  · intro h n hn
    exact h (endsInsideGroup_of_panicked hn)

theorem infinite_never_panics (json : SerdeJson) {source : ℕ → Option EngineItem} (h : ∀ n, source n ≠ none)
    (n : ℕ) : (after json source n).phase ≠ .panicked := by
  intro hn
  obtain ⟨i,packet,k,-,-,-,-,hnone⟩ := endsInsideGroup_of_panicked hn
  exact h _ hnone

theorem receive_panics_inside_group :
    (after sampleDocument (fun n => [(.ok ⟨.message,encodeUtf8 "51-[\"foo\"]".toList⟩ : EngineItem)][n]?)
      2).phase = .panicked := by
  have ht : Packet.tryFrom sampleDocument (encodeUtf8 "51-[\"foo\"]".toList) =
      .ok ⟨.binaryEvent,"/",some (.array [.string "foo"]),none,1,none⟩ := (tryFrom_encodeUtf8 _ _ _).trans rfl
  simp only [after,step,initial,List.getElem?_cons_zero,List.getElem?_cons_succ,List.getElem?_nil,isMessage,ht]
  rfl

end Receiver

end SocketIox.SocketIo
