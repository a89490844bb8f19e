import Mathlib.Algebra.Group.Nat.Defs
import SocketIox.Wire.Segments
import SocketIox.Wire.Text

/-! # Reading the head of a request

`parse_request_type` classifies the bytes at hand. The head is cut out by `httparse`
and the query by `url`, which are parameters. Everything after that is here: the loop
over the query, the loop over the headers, and the arithmetic on the length that the
peer announces, with the faults it can run into.
-/
namespace SocketIox.EngineIo
open Wire

/-- What a complete `httparse::Request` holds. -/
structure HttpHead where
  method : Option String
  path : Option String
  headers : List (String × Bytes)
  deriving DecidableEq, Repr

/-- `Request::parse`, with the index behind the head, and the query pairs of `Url::parse`. A head
that is partial or malformed is `none`. -/
structure HttpCrates where
  parse : Bytes → Option (HttpHead × ℕ)
  queryPairs : String → Option (List (String × String))

def HttpCrates.Bounded (crates : HttpCrates) : Prop :=
  ∀ buf req idx, crates.parse buf = some (req,idx) → idx ≤ buf.length

inductive RequestType where
  | wsUpgrade (sid : Option String)
  | pollingOpen
  | pollingGet (sid : String)
  | pollingPost (sid : String) (data : Bytes)
  deriving DecidableEq, Repr

/-- Upper case of a character, as far as the outcome is ASCII. -/
def upperChar (c : Char) : List Char :=
  if c = '\u0131' then ['I']
  else if c = '\u017f' then ['S']
  else if c = '\u00df' then ['S','S']
  else if c = '\ufb00' then ['F','F']
  else if c = '\ufb01' then ['F','I']
  else if c = '\ufb02' then ['F','L']
  else if c = '\ufb03' then ['F','F','I']
  else if c = '\ufb04' then ['F','F','L']
  else if c = '\ufb05' ∨ c = '\ufb06' then ['S','T']
  else [c.toUpper]

def toUppercase (string : String) : String := String.ofList (string.toList.flatMap upperChar)

inductive QueryTransport where
  | websocket
  | polling
  deriving DecidableEq, Repr

/-- `sid` and `query_transport` while the query is read. -/
structure Query where
  sid : Option String
  transport : Option QueryTransport
  deriving DecidableEq, Repr

def Query.step (query : Query) (pair : String × String) : Option Query :=
  let (key,value) := pair
  if toUppercase key = "EIO" ∧ value ≠ "4" then none
  else
    let sid := if toLowercase key = "sid" then some value else query.sid
    let transport :=
      if toLowercase key = "transport" ∧ toLowercase value = "websocket" then some .websocket
      else if toLowercase key = "transport" ∧ toLowercase value = "polling" then some .polling
      else query.transport
    some ⟨sid,transport⟩

def readQuery (pairs : List (String × String)) : Option Query := pairs.foldlM Query.step ⟨none,none⟩

inductive HeaderScan where
  | upgrade
  | length (contentLength : ℕ)
  deriving DecidableEq, Repr

/-- The loop over the headers, from the `content_length` found so far. -/
def scanHeaders (isGet : Bool) (transport : QueryTransport) : ℕ → List (String × Bytes) → Option HeaderScan
  | contentLength, [] => some (.length contentLength)
  | contentLength, (name,value) :: rest =>
    if toLowercase name = "upgrade" ∧ isGet = true ∧ transport = .websocket then some .upgrade
    else if toLowercase name = "content-length" then do
      let text ← decodeUtf8 value
      let contentLength ← parseUnsigned (2^64) text
      scanHeaders isGet transport contentLength rest
    else scanHeaders isGet transport contentLength rest

inductive Demand where
  | upgrade (sid : Option String)
  | get (sid : Option String)
  | post (sid : Option String) (contentLength : ℕ)
  deriving DecidableEq, Repr

/-- `parse_request_type` between the parsing of the head and the reading of the body. -/
def readHead (crates : HttpCrates) (addr : String) (req : HttpHead) : Option Demand := do
  let method ← req.method
  if toUppercase method ≠ "GET" ∧ toUppercase method ≠ "POST" then none
  else do
    let path ← req.path
    let pairs ← crates.queryPairs ("http://" ++ addr ++ path)
    let query ← readQuery pairs
    let transport ← query.transport
    match ← scanHeaders (toUppercase method = "GET") transport 0 req.headers with
    | .upgrade => some (.upgrade query.sid)
    | .length contentLength =>
      some (if toUppercase method = "POST" then .post query.sid contentLength else .get query.sid)

/-- An overflow with overflow checks on, or a slice that is out of range or reversed. -/
inductive Fault where
  | overflow
  | slice
  deriving DecidableEq, Repr

/-- Addition of `usize`, which panics or wraps on overflow. -/
def addUsize (checked : Bool) (a b : ℕ) : Except Fault ℕ :=
  if a+b < 2^64 then .ok (a+b) else if checked then .error .overflow else .ok ((a+b)%2^64)

def sliceBuf (buf : Bytes) (first last : ℕ) : Except Fault Bytes :=
  if first ≤ last ∧ last ≤ buf.length then .ok (slice buf first last) else .error .slice

def RequestType.ofSid : Option String → RequestType
  | some sid => .pollingGet sid
  | none => .pollingOpen

def RequestType.ofPost (sid : Option String) (data : Bytes) : RequestType :=
  match sid with
  | some sid => .pollingPost sid data
  | none => .ofSid none

/-- The branch of `parse_request_type` for POST. -/
def readBody (checked : Bool) (buf : Bytes) (isPeek : Bool) (idx contentLength : ℕ) : Except Fault (Option Bytes) := do
  let last ← addUsize checked idx contentLength
  if isPeek then pure (some [])
  else if last ≤ buf.length then do
    let data ← sliceBuf buf idx (← addUsize checked idx contentLength)
    pure (some data)
  else pure none

def parseRequestType (crates : HttpCrates) (checked : Bool) (buf : Bytes) (addr : String) (isPeek : Bool) :
    Except Fault (Option RequestType) :=
  match crates.parse buf with
  | none => pure none
  | some (req,idx) =>
    match readHead crates addr req with
    | none => pure none
    | some (.upgrade sid) => pure (some (.wsUpgrade sid))
    | some (.get sid) => pure (some (.ofSid sid))
    | some (.post sid contentLength) => do
      let data ← readBody checked buf isPeek idx contentLength
      pure (data.map (RequestType.ofPost sid))

section Lengths

theorem scanHeaders_lt {isGet : Bool} {transport : QueryTransport} {start n : ℕ} {headers : List (String × Bytes)}
    (hs : start < 2^64) (h : scanHeaders isGet transport start headers = some (.length n)) : n < 2^64 := by
  induction headers generalizing start with
  | nil =>
    cases h
    exact hs
  | cons header rest ih =>
    obtain ⟨name,value⟩ := header
    unfold scanHeaders at h
    split at h
    · cases h
    · split at h
      · obtain ⟨text,-,h⟩ := Option.bind_eq_some_iff.mp h
        obtain ⟨contentLength,hlength,h⟩ := Option.bind_eq_some_iff.mp h
        exact ih (parseUnsigned_lt hlength) h
      · exact ih hs h

theorem readHead_post_lt {crates : HttpCrates} {addr : String} {req : HttpHead} {sid : Option String}
    {contentLength : ℕ} (h : readHead crates addr req = some (.post sid contentLength)) : contentLength < 2^64 := by
  obtain ⟨method,-,h⟩ := Option.bind_eq_some_iff.mp h
  split at h
  · cases h
  · obtain ⟨path,-,h⟩ := Option.bind_eq_some_iff.mp h
    obtain ⟨pairs,-,h⟩ := Option.bind_eq_some_iff.mp h
    obtain ⟨query,-,h⟩ := Option.bind_eq_some_iff.mp h
    obtain ⟨transport,-,h⟩ := Option.bind_eq_some_iff.mp h
    obtain ⟨scan,hscan,h⟩ := Option.bind_eq_some_iff.mp h
    cases scan with
    | upgrade => cases h
    | length n =>
      have hn := scanHeaders_lt (by decide) hscan
      simp only [Option.some.injEq] at h
      split at h
      · cases h
        exact hn
      · cases h

end Lengths

section Body
variable {checked : Bool} {buf : Bytes} {isPeek : Bool} {idx contentLength : ℕ}

theorem readBody_fits (h : idx+contentLength < 2^64) : readBody checked buf isPeek idx contentLength =
    .ok (if isPeek then some []
      else if idx+contentLength ≤ buf.length then some (slice buf idx (idx+contentLength)) else none) := by
  have hadd : addUsize checked idx contentLength = .ok (idx+contentLength) := if_pos h
  cases isPeek with
  | true => simp [readBody,hadd,bind,Except.bind,pure,Except.pure]
  | false =>
    by_cases hlen : idx+contentLength ≤ buf.length
    · have hslice : sliceBuf buf idx (idx+contentLength) = .ok (slice buf idx (idx+contentLength)) :=
        if_pos ⟨Nat.le_add_right _ _,hlen⟩
      simp [readBody,hadd,hlen,hslice,bind,Except.bind,pure,Except.pure]
    · simp [readBody,hadd,hlen,bind,Except.bind,pure,Except.pure]

theorem readBody_overflow (h : 2^64 ≤ idx+contentLength) :
    readBody true buf isPeek idx contentLength = .error .overflow := by
  have hadd : addUsize true idx contentLength = .error .overflow := by
    rw [addUsize,if_neg (Nat.not_lt.mpr h),if_pos rfl]
  simp [readBody,hadd,bind,Except.bind]

/-- A sum that wraps around passes the test against the buffer, and the slice is reversed. -/
theorem readBody_wraps (h : 2^64 ≤ idx+contentLength) (hidx : idx ≤ buf.length) (hbuf : buf.length < 2^64)
    (hlength : contentLength < 2^64) : readBody false buf false idx contentLength = .error .slice := by
  have hmod : (idx+contentLength)%2^64 = idx+contentLength-2^64 := by
    rw [Nat.mod_eq_sub_mod h]
    exact Nat.mod_eq_of_lt (by omega)
  have hadd : addUsize false idx contentLength = .ok (idx+contentLength-2^64) := by
    rw [addUsize,if_neg (Nat.not_lt.mpr h),hmod]
    rfl
  have hle : idx+contentLength-2^64 ≤ buf.length := by omega
  have hslice : sliceBuf buf idx (idx+contentLength-2^64) = .error .slice := by
    apply if_neg
    rintro ⟨hfirst,-⟩
    omega
  simp only [readBody,hadd,bind,Except.bind,Bool.false_eq_true,hle,↓reduceIte,hslice]

end Body

/-- Neither an overflow nor a slice out of range, in builds with overflow checks and without them. -/
def RequestSafe (crates : HttpCrates) (buf : Bytes) (addr : String) (isPeek : Bool) : Prop :=
  ∀ checked, ∃ request, parseRequestType crates checked buf addr isPeek = .ok request

def LengthFits (crates : HttpCrates) (buf : Bytes) (addr : String) : Prop :=
  ∀ req idx sid contentLength, crates.parse buf = some (req,idx) →
    readHead crates addr req = some (.post sid contentLength) → idx+contentLength < 2^64

/-- Parsing a request is safe if and only if the length of a POST fits. -/
theorem request_safe_iff (crates : HttpCrates) (buf : Bytes) (addr : String) (isPeek : Bool) :
    RequestSafe crates buf addr isPeek ↔ LengthFits crates buf addr := by
  constructor
  · intro h req idx sid contentLength hparse hhead
    by_contra hlarge
    obtain ⟨request,hrequest⟩ := h true
    simp only [parseRequestType,hparse,hhead,readBody_overflow (Nat.not_lt.mp hlarge)] at hrequest
    cases hrequest
  · intro h checked
    unfold parseRequestType
    cases hparse : crates.parse buf with
    | none => exact ⟨_,rfl⟩
    | some parsed =>
      obtain ⟨req,idx⟩ := parsed
      cases hhead : readHead crates addr req with
      | none => exact ⟨_,by simp only [hhead]; rfl⟩
      | some demand =>
        cases demand with
        | upgrade sid => exact ⟨_,by simp only [hhead]; rfl⟩
        | get sid => exact ⟨_,by simp only [hhead]; rfl⟩
        | post sid contentLength =>
          have hfits := h req idx sid contentLength hparse hhead
          exact ⟨_,by simp only [hhead,readBody_fits hfits]; rfl⟩

theorem read_faults_of_not_fits {crates : HttpCrates} (hb : crates.Bounded) {buf : Bytes} {addr : String}
    (hbuf : buf.length < 2^64) (h : ¬ LengthFits crates buf addr) :
    parseRequestType crates false buf addr false = .error .slice := by
  simp only [LengthFits,not_forall,exists_prop] at h
  obtain ⟨req,idx,sid,contentLength,hparse,hhead,hlarge⟩ := h
  have hwraps := readBody_wraps (Nat.not_lt.mp hlarge) (hb _ _ _ hparse) hbuf (readHead_post_lt hhead)
  simp only [parseRequestType,hparse,hhead,hwraps]
  rfl

def sampleCrates (text : Bytes) (req : HttpHead) (url : String) (pairs : List (String × String)) : HttpCrates where
  parse buf := if text.isPrefixOf buf then some (req,text.length) else none
  queryPairs string := if string = url then some pairs else none

def postText (contentLength : String) : Bytes := encodeUtf8
  ("POST /engine.io/?EIO=4&transport=polling&sid=MA== HTTP/1.1\r\ncontent-length: " ++ contentLength ++
    "\r\n\r\n").toList

def postHead (contentLength : String) : HttpHead :=
  ⟨some "POST",some "/engine.io/?EIO=4&transport=polling&sid=MA==",
    [("content-length",encodeUtf8 contentLength.toList)]⟩

def postCrates (contentLength : String) : HttpCrates :=
  sampleCrates (postText contentLength) (postHead contentLength)
    "http://127.0.0.1:4201/engine.io/?EIO=4&transport=polling&sid=MA=="
    [("EIO","4"),("transport","polling"),("sid","MA==")]

theorem postCrates_parse (contentLength : String) (body : Bytes) :
    (postCrates contentLength).parse (postText contentLength ++ body) =
      some (postHead contentLength,(postText contentLength).length) := by
  apply if_pos
  exact List.isPrefixOf_iff_prefix.mpr (List.prefix_append _ _)

theorem postCrates_readHead {contentLength : String} {n : ℕ} (h : parseUnsigned (2^64) contentLength.toList = some n) :
    readHead (postCrates contentLength) "127.0.0.1:4201" (postHead contentLength) = some (.post (some "MA==") n) := by
  have hquery : readQuery [("EIO","4"),("transport","polling"),("sid","MA==")] = some ⟨some "MA==",some .polling⟩ := by
    decide +kernel
  have hscan : scanHeaders false .polling 0 [("content-length",encodeUtf8 contentLength.toList)] =
      some (.length n) := by
    have hname : toLowercase "content-length" = "content-length" := by decide +kernel
    simp only [scanHeaders,hname,decodeUtf8_encodeUtf8,h,Option.bind_eq_bind,Option.bind_some,Bool.false_eq_true,
      false_and,and_false,↓reduceIte]
  have hmethod : toUppercase "POST" = "POST" := by decide +kernel
  simp [readHead,postHead,postCrates,sampleCrates,hmethod,hquery,hscan]

/-- A length of 2^64-1 overflows, and without overflow checks the slice is reversed. -/
theorem request_unsafe :
    ¬ RequestSafe (postCrates "18446744073709551615") (postText "18446744073709551615") "127.0.0.1:4201" false ∧
    ¬ RequestSafe (postCrates "18446744073709551615") (postText "18446744073709551615") "127.0.0.1:4201" true ∧
    parseRequestType (postCrates "18446744073709551615") false (postText "18446744073709551615")
      "127.0.0.1:4201" false = .error .slice := by
  have hparse := postCrates_parse "18446744073709551615" []
  rw [List.append_nil] at hparse
  have hnumber : parseUnsigned (2^64) "18446744073709551615".toList = some (2^64-1) := by decide +kernel
  have hhead := postCrates_readHead hnumber
  have hlength : 0 < (postText "18446744073709551615").length ∧ (postText "18446744073709551615").length < 2^64 := by
    decide +kernel
  have hlarge : 2^64 ≤ (postText "18446744073709551615").length+(2^64-1) := by omega
  have hread : parseRequestType (postCrates "18446744073709551615") false (postText "18446744073709551615")
      "127.0.0.1:4201" false = .error .slice := by
    simp only [parseRequestType,hparse,hhead]
    rw [readBody_wraps hlarge (Nat.le_refl _) hlength.2 (by decide)]
    rfl
  have hpeek : parseRequestType (postCrates "18446744073709551615") true (postText "18446744073709551615")
      "127.0.0.1:4201" true = .error .overflow := by
    simp only [parseRequestType,hparse,hhead]
    rw [readBody_overflow hlarge]
    rfl
  refine ⟨?_,?_,hread⟩
  · intro h
    obtain ⟨request,hrequest⟩ := h false
    rw [hread] at hrequest
    cases hrequest
  · intro h
    obtain ⟨request,hrequest⟩ := h true
    rw [hpeek] at hrequest
    cases hrequest

end SocketIox.EngineIo
