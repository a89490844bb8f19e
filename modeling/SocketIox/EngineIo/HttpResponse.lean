import SocketIox.Wire.Lines
import SocketIox.EngineIo.HttpHandling

/-! # The text of a response

`http_response` writes a status line, the header lines and, if there is a body, an empty
line and the body. A reader of responses takes the lines up to the first empty one for
the head and expects as many bytes after it as the head announces. Without a body the
empty line is missing, and the head never ends.
-/
namespace SocketIox.EngineIo
open Wire

/-- The response that `Response::builder` makes. Names of headers are in lower case. -/
structure Response where
  status : ℕ
  headers : List (List Char × List Char)
  body : Option (List Char)
  deriving DecidableEq, Repr

def Response.builder (status : ℕ) (headers : List (List Char × List Char)) (body : Option (List Char)) :
    Option Response :=
  if 100 ≤ status ∧ status < 1000 then some ⟨status,headers,body⟩ else none

def bodyLen : Option (List Char) → ℕ
  | none => 0
  | some body => (encodeUtf8 body).length

def httpVersion : List Char := "HTTP/1.1".toList

def contentType : List Char := "content-type".toList

def connection : List Char := "connection".toList

def contentLength : List Char := "content-length".toList

def responseHeaders (body : Option (List Char)) : List (List Char × List Char) :=
  [(contentType,"text/plain; charset=UTF-8".toList),(connection,"Close".toList),
    (contentLength,digits (bodyLen body))]


section Text
variable (reason : ℕ → List Char)

def Response.statusLine (response : Response) : List Char :=
  httpVersion ++ ' ' :: (digits response.status ++ ' ' :: reason response.status)

def headerLine (header : List Char × List Char) : List Char := header.1 ++ ':' :: ' ' :: header.2

def Response.text (response : Response) : List Char :=
  let head := response.statusLine reason ++ ['\r','\n'] ++
    response.headers.flatMap (fun header => headerLine header ++ ['\r','\n'])
  match response.body with
  | none => head
  | some body => head ++ ['\r','\n'] ++ body

/-- `http_response`; without a value the `unwrap` of the builder's result has panicked. -/
def httpResponse (status : ℕ) (body : Option (List Char)) : Option (List Char) :=
  (Response.builder status (responseHeaders body) body).map (Response.text reason)

def writeStream (status : ℕ) (body : Option (List Char)) : Option Bytes :=
  (httpResponse reason status body).map encodeUtf8

end Text

structure Received where
  status : ℕ
  fields : List (Bytes × Bytes)
  rest : Bytes
  deriving DecidableEq, Repr

def readStatusLine (line : Bytes) : Option ℕ := do
  let (version,rest) ← cutAt 32 line
  let (code,_) ← cutAt 32 rest
  let code ← decodeUtf8 code
  if version = encodeUtf8 httpVersion then parseUnsigned 1000 code else none

def readField (line : Bytes) : Option (Bytes × Bytes) := do
  let (name,value) ← cutAt 58 line
  if name = [] then none else pure (name,value.dropWhile (· = 32))

def readResponse (text : Bytes) : Option Received := do
  let (lines,rest) ← readLines 13 10 [] text
  match lines with
  | [] => none
  | first :: lines => do
    let status ← readStatusLine first
    let fields ← lines.mapM readField
    pure ⟨status,fields,rest⟩

/-- The response is read with its status, and exactly the bytes that its one content length announces
follow the head and are the body. -/
def Received.Carries (received : Received) (status : ℕ) (body : Bytes) : Prop :=
  received.status = status ∧ received.rest = body ∧
    received.fields.filter (fun field => field.1 = encodeUtf8 contentLength) =
      [(encodeUtf8 contentLength,encodeUtf8 (digits body.length))]

instance (received : Received) (status : ℕ) (body : Bytes) : Decidable (received.Carries status body) :=
  inferInstanceAs (Decidable (_ ∧ _ ∧ _))

def bodyBytes (body : Option (List Char)) : Bytes := encodeUtf8 (body.getD [])

section Lines
variable {reason : ℕ → List Char}

def Response.lines (reason : ℕ → List Char) (response : Response) : List (List Char) :=
  response.statusLine reason :: response.headers.map headerLine

theorem encodeUtf8_lines (lines : List (List Char)) :
    encodeUtf8 (lines.flatMap (· ++ ['\r','\n'])) = (lines.map encodeUtf8).flatMap (· ++ [13,10]) := by
  have hmark : encodeUtf8 ['\r','\n'] = [13,10] := by decide
  induction lines with
  | nil => rfl
  | cons line lines ih =>
    simp only [List.flatMap_cons,List.map_cons,encodeUtf8_append,ih,hmark]

theorem Response.text_lines (response : Response) :
    response.statusLine reason ++ ['\r','\n'] ++
      response.headers.flatMap (fun header => headerLine header ++ ['\r','\n']) =
      (response.lines reason).flatMap (· ++ ['\r','\n']) := by
  simp [Response.lines,List.flatMap_map]

theorem Response.encodeUtf8_text_none {response : Response} (h : response.body = none) :
    encodeUtf8 (response.text reason) = ((response.lines reason).map encodeUtf8).flatMap (· ++ [13,10]) := by
  simp only [Response.text,h]
  rw [Response.text_lines,encodeUtf8_lines]

theorem Response.encodeUtf8_text_some {response : Response} {body : List Char} (h : response.body = some body) :
    encodeUtf8 (response.text reason) =
      ((response.lines reason).map encodeUtf8).flatMap (· ++ [13,10]) ++ 13 :: 10 :: encodeUtf8 body := by
  have hmark : encodeUtf8 ['\r','\n'] = [13,10] := by decide
  simp only [Response.text,h]
  rw [Response.text_lines,encodeUtf8_append,encodeUtf8_append,encodeUtf8_lines,hmark,List.append_assoc]
  rfl

theorem encodeUtf8_cons (c : Char) (text : List Char) :
    encodeUtf8 (c :: text) = String.utf8EncodeChar c ++ encodeUtf8 text := rfl

theorem readStatusLine_statusLine (reason : ℕ → List Char) (response : Response) (h : response.status < 1000) :
    readStatusLine (encodeUtf8 (response.statusLine reason)) = some response.status := by
  have hline : encodeUtf8 (response.statusLine reason) =
      encodeUtf8 httpVersion ++ 32 ::
        (encodeUtf8 (digits response.status) ++ 32 :: encodeUtf8 (reason response.status)) := by
    have hblank : String.utf8EncodeChar ' ' = [32] := by decide
    simp only [Response.statusLine,encodeUtf8_append,encodeUtf8_cons,hblank,List.singleton_append]
  have hversion : (32 : UInt8) ∉ encodeUtf8 httpVersion := not_mem_encodeUtf8 (by decide) (by decide)
  have hcode : (32 : UInt8) ∉ encodeUtf8 (digits response.status) :=
    not_mem_encodeUtf8 (by decide) (not_mem_digits (by decide) _)
  simp only [readStatusLine,hline,cutAt_append hversion,cutAt_append hcode,decodeUtf8_encodeUtf8,
    parseUnsigned_digits 1000 h,Option.bind_eq_bind,Option.bind_some,↓reduceIte]

theorem readField_headerLine {name value : List Char} (hname : ':' ∉ name) (hne : name ≠ [])
    (hvalue : (encodeUtf8 value).head? ≠ some 32) :
    readField (encodeUtf8 (headerLine (name,value))) = some (encodeUtf8 name,encodeUtf8 value) := by
  have hline : encodeUtf8 (headerLine (name,value)) = encodeUtf8 name ++ 58 :: 32 :: encodeUtf8 value := by
    have hcolon : String.utf8EncodeChar ':' = [58] := by decide
    have hblank : String.utf8EncodeChar ' ' = [32] := by decide
    simp only [headerLine,encodeUtf8_append,encodeUtf8_cons,hcolon,hblank,List.singleton_append]
  have hcut : (58 : UInt8) ∉ encodeUtf8 name := not_mem_encodeUtf8 (by decide) hname
  have hnonempty : encodeUtf8 name ≠ [] := fun h => hne (encodeUtf8_inj.mp h)
  have hdrop : (32 :: encodeUtf8 value).dropWhile (fun b => decide (b = 32)) = encodeUtf8 value := by
    rw [List.dropWhile_cons_of_pos (by decide)]
    cases hv : encodeUtf8 value with
    | nil => rfl
    | cons b rest =>
      rw [hv,List.head?_cons] at hvalue
      exact List.dropWhile_cons_of_neg (by simpa using hvalue)
  simp only [readField,hline,cutAt_append hcut,Option.bind_eq_bind,Option.bind_some,hnonempty,↓reduceIte,hdrop]
  rfl

theorem mapM_readField_responseHeaders (body : Option (List Char)) :
    ((responseHeaders body).map (encodeUtf8 ∘ headerLine)).mapM readField =
      some ((responseHeaders body).map (Prod.map encodeUtf8 encodeUtf8)) := by
  have htype : readField (encodeUtf8 (headerLine (contentType,"text/plain; charset=UTF-8".toList))) =
      some (encodeUtf8 contentType,encodeUtf8 "text/plain; charset=UTF-8".toList) :=
    readField_headerLine (by decide) (by decide) (by decide +kernel)
  have hconn : readField (encodeUtf8 (headerLine (connection,"Close".toList))) =
      some (encodeUtf8 connection,encodeUtf8 "Close".toList) :=
    readField_headerLine (by decide) (by decide) (by decide +kernel)
  have hlength : readField (encodeUtf8 (headerLine (contentLength,digits (bodyLen body)))) =
      some (encodeUtf8 contentLength,encodeUtf8 (digits (bodyLen body))) :=
    readField_headerLine (by decide) (by decide)
      (fun h => not_mem_encodeUtf8 (b := 32) (by decide) (not_mem_digits (by decide) _) (List.mem_of_head? h))
  simp only [responseHeaders,List.map_cons,List.map_nil,List.mapM_cons,List.mapM_nil,Function.comp_apply,htype,hconn,
    hlength,Option.bind_eq_bind,Option.bind_some,Option.pure_def,Prod.map]

theorem lines_no_cr (hreason : ∀ status, '\r' ∉ reason status) (status : ℕ) (body : Option (List Char)) :
    ∀ line ∈ (Response.lines reason ⟨status,responseHeaders body,body⟩).map encodeUtf8, (13 : UInt8) ∉ line := by
  intro line hline
  obtain ⟨text,htext,rfl⟩ := List.mem_map.mp hline
  apply not_mem_encodeUtf8 (by decide)
  have hdigits : ∀ n, '\r' ∉ digits n := fun n => not_mem_digits (by decide) n
  have hversion : '\r' ∉ httpVersion := by decide
  have htype : '\r' ∉ headerLine (contentType,"text/plain; charset=UTF-8".toList) := by decide
  have hconn : '\r' ∉ headerLine (connection,"Close".toList) := by decide
  have hlength : '\r' ∉ contentLength := by decide
  simp only [Response.lines,responseHeaders,List.map_cons,List.map_nil,List.mem_cons,List.not_mem_nil,or_false] at htext
  rcases htext with rfl | rfl | rfl | rfl
  · simpa [Response.statusLine,hversion,hdigits] using hreason status
  · exact htype
  · exact hconn
  · simpa [headerLine,hlength] using hdigits (bodyLen body)

theorem lines_ne_nil (response : Response) : ∀ line ∈ (response.lines reason).map encodeUtf8, line ≠ [] := by
  intro line hline
  obtain ⟨text,htext,rfl⟩ := List.mem_map.mp hline
  intro hnil
  have htext_nil : text = [] := encodeUtf8_inj.mp hnil
  subst htext_nil
  rcases List.mem_cons.mp htext with h | h
  · simp [Response.statusLine] at h
  · obtain ⟨header,-,hheader⟩ := List.mem_map.mp h
    simp [headerLine] at hheader

theorem readResponse_of_body (hreason : ∀ status, '\r' ∉ reason status) {status : ℕ} (hstatus : status < 1000)
    (body : List Char) :
    readResponse (encodeUtf8 (Response.text reason ⟨status,responseHeaders (some body),some body⟩)) =
      some ⟨status,(responseHeaders (some body)).map (Prod.map encodeUtf8 encodeUtf8),encodeUtf8 body⟩ := by
  have hlines := readLines_head 13 10 (lines_no_cr hreason status (some body)) (lines_ne_nil _) (encodeUtf8 body)
  rw [← Response.encodeUtf8_text_some rfl] at hlines
  have hstatusLine := readStatusLine_statusLine reason ⟨status,responseHeaders (some body),some body⟩ hstatus
  have hfields := mapM_readField_responseHeaders (some body)
  rw [← List.map_map] at hfields
  simp only [readResponse,hlines,Response.lines,List.map_cons,Option.bind_eq_bind,Option.bind_some,hstatusLine,hfields,
    Option.pure_def]

theorem readResponse_of_no_body (hreason : ∀ status, '\r' ∉ reason status) (status : ℕ) :
    readResponse (encodeUtf8 (Response.text reason ⟨status,responseHeaders none,none⟩)) = none := by
  have hlines := readLines_unended 13 10 (lines_no_cr hreason status none) (lines_ne_nil _)
  rw [← Response.encodeUtf8_text_none rfl] at hlines
  simp only [readResponse,hlines,Option.bind_eq_bind,Option.bind_none]

theorem writeStream_of_valid {status : ℕ} (hstatus : 100 ≤ status ∧ status < 1000) (body : Option (List Char)) :
    writeStream reason status body =
      some (encodeUtf8 (Response.text reason ⟨status,responseHeaders body,body⟩)) := by
  simp [writeStream,httpResponse,Response.builder,hstatus]

theorem responseHeaders_length_field (body : List Char) :
    ((responseHeaders (some body)).map (Prod.map encodeUtf8 encodeUtf8)).filter
      (fun field => field.1 = encodeUtf8 contentLength) =
      [(encodeUtf8 contentLength,encodeUtf8 (digits (encodeUtf8 body).length))] := by
  have htype : encodeUtf8 contentType ≠ encodeUtf8 contentLength := fun h =>
    absurd (encodeUtf8_inj.mp h) (by decide)
  have hconn : encodeUtf8 connection ≠ encodeUtf8 contentLength := fun h =>
    absurd (encodeUtf8_inj.mp h) (by decide)
  simp [responseHeaders,bodyLen,htype,hconn]

end Lines

/-- The response is well formed if and only if it has a body. -/
theorem http_response_well_formed_iff (reason : ℕ → List Char) (hreason : ∀ status, '\r' ∉ reason status)
    (status : ℕ) (hstatus : 100 ≤ status ∧ status < 1000) (body : Option (List Char)) :
    (∃ text received, writeStream reason status body = some text ∧ readResponse text = some received ∧
      received.Carries status (bodyBytes body)) ↔ body ≠ none := by
  rw [writeStream_of_valid hstatus]
  constructor
  · rintro ⟨text,received,htext,hread,-⟩ rfl
    rw [← Option.some.inj htext,readResponse_of_no_body hreason] at hread
    cases hread
  · intro hbody
    obtain ⟨body,rfl⟩ := Option.ne_none_iff_exists'.mp hbody
    refine ⟨_,_,rfl,readResponse_of_body hreason hstatus.2 body,rfl,rfl,?_⟩
    exact responseHeaders_length_field body

theorem http_response_well_formed_ok :
    ∃ text received, writeStream (fun _ => "OK".toList) 200 (some "ok".toList) = some text ∧
      readResponse text = some received ∧ received.Carries 200 (bodyBytes (some "ok".toList)) :=
  (http_response_well_formed_iff (fun _ => "OK".toList) (by intro _; decide) 200 (by decide)
    (some "ok".toList)).mpr (by simp)

theorem http_response_unended :
    ¬ ∃ text received, writeStream (fun _ => "Bad Request".toList) 400 none = some text ∧
      readResponse text = some received ∧ received.Carries 400 (bodyBytes none) := by
  rintro ⟨text,received,htext,hread,-⟩
  rw [writeStream_of_valid (by decide)] at htext
  rw [← Option.some.inj htext,readResponse_of_no_body (by intro _; decide)] at hread
  cases hread

/-- `stored` is the outcome of storing the transport, `pending` what `polling_get` has collected. -/
def HttpAction.answer (stored : Bool) (handshake : List Char) (pending : Option (List Char)) :
    HttpAction → Option (ℕ × Option (List Char))
  | .upgrade _ => none
  | .open_ => some (if stored then (200,some handshake) else (500,none))
  | .post _ _ => some (200,some "ok".toList)
  | .get _ => some (200,pending)
  | .badRequest => some (400,none)

theorem HttpAction.answer_written (reason : ℕ → List Char) {action : HttpAction} {stored : Bool}
    {handshake : List Char} {pending body : Option (List Char)} {status : ℕ}
    (h : action.answer stored handshake pending = some (status,body)) :
    ∃ text, writeStream reason status body = some text := by
  have hstatus : 100 ≤ status ∧ status < 1000 := by
    cases action with
    | upgrade sid => cases h
    | open_ =>
      cases stored <;>
        simp only [answer,Bool.false_eq_true,↓reduceIte,Option.some.injEq,Prod.mk.injEq] at h <;> omega
    | get sid | post sid data | badRequest =>
      simp only [answer,Option.some.injEq,Prod.mk.injEq] at h
      omega
  exact ⟨_,writeStream_of_valid hstatus body⟩

end SocketIox.EngineIo
