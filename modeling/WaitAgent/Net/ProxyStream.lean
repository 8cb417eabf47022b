import WaitAgent.Terminal.Ansi
import WaitAgent.Verified.Packets
import WaitAgent.Verified.Words

/-!
# Dialing through a proxy

A connection is a socket: the packets that the proxy sends over its whole life, and how
it ends.  The SOCKS5 handshake reads exact lengths; the HTTP one reads blocks until it has
seen the end of a header, and what a block holds behind it is not given back.
-/

namespace WaitAgent.Net

open Verified Terminal

/-! ## Proxies and their errors -/

inductive SshProxyScheme where
  | socks5
  | http
  deriving DecidableEq

def SshProxyScheme.asStr : SshProxyScheme → String
  | socks5 => "socks5"
  | http => "http"

structure SshProxy where
  scheme : SshProxyScheme
  host : String
  port : Nat
  deriving DecidableEq

def SshProxy.label (proxy : SshProxy) : String :=
  proxy.scheme.asStr ++ "://" ++ proxy.host ++ ":" ++ toString proxy.port

/-- `std::io::ErrorKind`, as far as the handshakes tell kinds apart. -/
inductive ErrorKind where
  | invalidData
  | invalidInput
  | permissionDenied
  | unexpectedEof
  | other
  deriving DecidableEq

structure IoError where
  kind : ErrorKind
  message : String
  deriving DecidableEq

inductive SshProxyError where
  | connectionFailed (proxy : String) (source : IoError)
  | handshakeFailed (proxy target detail : String)
  | proxyRefused (proxy target detail : String)
  deriving DecidableEq

/-! ## Sockets -/

structure Socket where
  /-- What arrives, from now on. -/
  arrivals : List (List UInt8)
  /-- What a read meets behind that: the end of the stream, or an error. -/
  ending : Option IoError
  /-- The results of the writes to come; further ones succeed. -/
  writes : List (Except IoError Unit)
  sent : List UInt8

abbrev Handshake := StateT Socket (Except IoError)

def writeAll (bytes : List UInt8) : Handshake Unit := fun socket =>
  match socket.writes with
  | .error error :: _ => .error error
  | .ok () :: writes => .ok ((), { socket with writes, sent := socket.sent ++ bytes })
  | [] => .ok ((), { socket with sent := socket.sent ++ bytes })

/-- `read_exact` with a buffer of `n` bytes. -/
def readExact (n : Nat) : Handshake (List UInt8) := fun socket =>
  let (bytes, arrivals) := takeBytes n socket.arrivals
  if bytes.length < n then
    .error (socket.ending.getD ⟨.unexpectedEof, "early eof"⟩)
  else .ok (bytes, { socket with arrivals })

/-! ## SOCKS5 -/

def socks5Version : UInt8 := 0x05

def socks5NoAuthentication : UInt8 := 0x00

def socks5CommandConnect : UInt8 := 0x01

def socks5AddressDomainname : UInt8 := 0x03

def maxDomainLen : Nat := 255

/-- The format `0x{:02x}`. -/
def hexByte (byte : UInt8) : String :=
  let digits := String.ofList (Nat.toDigits 16 byte.toNat)
  "0x" ++ (if byte < 16 then "0" ++ digits else digits)

def socks5ReplyDescription (code : UInt8) : String :=
  if code = 0x01 then "general failure"
  else if code = 0x02 then "connection not allowed by ruleset"
  else if code = 0x03 then "network unreachable"
  else if code = 0x04 then "host unreachable"
  else if code = 0x05 then "connection refused by the target"
  else if code = 0x06 then "TTL expired"
  else if code = 0x07 then "command not supported"
  else if code = 0x08 then "address type not supported"
  else "unknown error"

/-- The bound address that the proxy echoes back is skipped. -/
def skipAddress (kind : UInt8) : Handshake Unit :=
  if kind = 0x01 then do
    let _ ← readExact (4 + 2)
  else if kind = 0x03 then do
    let len ← readExact 1
    let _ ← readExact ((len.headD 0).toNat + 2)
  else if kind = 0x04 then do
    let _ ← readExact (16 + 2)
  else
    throw ⟨.invalidData, "unexpected SOCKS5 reply address type " ++ hexByte kind⟩

/-- The second half of the exchange: the request, and the code of the reply to it. -/
def socks5Request (targetHost : String) (targetPort : Nat) : Handshake UInt8 :=
  let domain := utf8Bytes targetHost.toList
  if domain.length > maxDomainLen then
    throw ⟨.invalidInput, "target host name is " ++ toString domain.length ++ " bytes (max " ++
      toString maxDomainLen ++ ")"⟩
  else do
    writeAll ([socks5Version, socks5CommandConnect, 0x00, socks5AddressDomainname,
      UInt8.ofNat domain.length] ++ domain ++
      [UInt8.ofNat (targetPort / 256), UInt8.ofNat (targetPort % 256)])
    let head ← readExact 4
    if head.headD 0 ≠ socks5Version then
      throw ⟨.invalidData, "unexpected SOCKS5 reply version " ++ hexByte (head.headD 0)⟩
    else do
      skipAddress (head.getD 3 0)
      return head.getD 1 0

def socks5Handshake (targetHost : String) (targetPort : Nat) : Handshake UInt8 := do
  writeAll [socks5Version, 0x01, socks5NoAuthentication]
  let greeting ← readExact 2
  if greeting.headD 0 ≠ socks5Version then
    throw ⟨.invalidData, "unexpected SOCKS5 greeting version " ++ hexByte (greeting.headD 0)⟩
  else if greeting.getD 1 0 ≠ socks5NoAuthentication then
    throw ⟨.permissionDenied, "proxy demands authentication method " ++
      hexByte (greeting.getD 1 0) ++
      "; authenticated proxies are not supported (issue #201 v1)"⟩
  else socks5Request targetHost targetPort

def socks5Connect (proxy : SshProxy) (targetHost : String) (targetPort : Nat)
    (socket : Socket) : Except SshProxyError Socket :=
  let target := targetHost ++ ":" ++ toString targetPort
  match socks5Handshake targetHost targetPort socket with
  | .error error =>
      if error.kind = .permissionDenied then
        .error (.proxyRefused proxy.label target error.message)
      else .error (.handshakeFailed proxy.label target error.message)
  | .ok (replyCode, socket) =>
      if replyCode ≠ 0x00 then
        .error (.proxyRefused proxy.label target ("SOCKS5 reply code " ++ hexByte replyCode ++
          " (" ++ socks5ReplyDescription replyCode ++ ")"))
      else .ok socket

/-! ## HTTP CONNECT -/

def maxHttpResponseHeader : Nat := 8192

/-- The size of the buffer that the header is read with. -/
def httpChunk : Nat := 512

/-- The bytes of `\r\n\r\n`. -/
def headerEnd : List UInt8 := [13, 10, 13, 10]

/-- Some four bytes in a row are the end of a header. -/
def headerComplete : List UInt8 → Bool
  | [] => false
  | byte :: bytes => (byte :: bytes).take 4 = headerEnd || headerComplete bytes

/-- The loop of `http_connect`, over what the reads to come return: the bytes read, and the
reads that are left. -/
def readHeader (ending : Option IoError) (bytes : List UInt8) :
    List (List UInt8) → Except IoError (List UInt8 × List (List UInt8))
  | [] =>
      if headerComplete bytes then .ok (bytes, [])
      else if bytes.length ≥ maxHttpResponseHeader then
        .error ⟨.invalidData, "HTTP CONNECT response header exceeds the read cap"⟩
      else
        .error (ending.getD ⟨.unexpectedEof,
          "proxy closed the connection during the HTTP CONNECT response"⟩)
  | chunk :: chunks =>
      if headerComplete bytes then .ok (bytes, chunk :: chunks)
      else if bytes.length ≥ maxHttpResponseHeader then
        .error ⟨.invalidData, "HTTP CONNECT response header exceeds the read cap"⟩
      else readHeader ending (bytes ++ chunk) chunks

def httpHandshake (target : String) : Handshake (List UInt8) := do
  writeAll (utf8Bytes ("CONNECT " ++ target ++ " HTTP/1.1\r\nHost: " ++ target ++
    "\r\n\r\n").toList)
  fun socket => do
    let (header, arrivals) ← readHeader socket.ending [] (reads httpChunk socket.arrivals)
    return (header, { socket with arrivals })

def statusLine (header : List UInt8) : String :=
  trim ((lines (fromUtf8Lossy header)).headD "")

/-- The second word of the status line, as a number. -/
def statusCode (header : List UInt8) : Option Nat :=
  ((words (statusLine header).toList).drop 1).head?.bind fun code =>
    parseU16 (String.ofList code)

def httpConnect (proxy : SshProxy) (targetHost : String) (targetPort : Nat)
    (socket : Socket) : Except SshProxyError Socket :=
  let target := targetHost ++ ":" ++ toString targetPort
  match httpHandshake target socket with
  | .error error => .error (.handshakeFailed proxy.label target error.message)
  | .ok (header, socket) =>
      match statusCode header with
      | none =>
          .error (.handshakeFailed proxy.label target
            ("unparseable HTTP CONNECT status line `" ++ statusLine header ++ "`"))
      | some code =>
          if 200 ≤ code ∧ code < 300 then .ok socket
          else if code = 407 then
            .error (.proxyRefused proxy.label target ("HTTP " ++ toString code ++
              " Proxy Authentication Required — authenticated proxies are not supported " ++
              "(issue #201 v1)"))
          else
            .error (.proxyRefused proxy.label target
              ("HTTP " ++ toString code ++ " from the proxy"))

/-- `connect` is the network: what a connection to a host and port meets. -/
def openProxyStream (connect : String → Nat → Except IoError Socket) (proxy : SshProxy)
    (targetHost : String) (targetPort : Nat) : Except SshProxyError Socket :=
  match connect proxy.host proxy.port with
  | .error source => .error (.connectionFailed proxy.label source)
  | .ok socket =>
      match proxy.scheme with
      | .socks5 => socks5Connect proxy targetHost targetPort socket
      | .http => httpConnect proxy targetHost targetPort socket

/-! ## What a handshake leaves -/

/-- Where the bytes to come start with `bytes`, a run that succeeds returns `value` and
leaves what follows them. -/
def Leaves {α : Type} (run : Handshake α) (bytes : List UInt8) (value : α) : Prop :=
  ∀ socket rest result, socket.arrivals.flatten = bytes ++ rest → run socket = .ok result →
    result.1 = value ∧ result.2.arrivals.flatten = rest

section

variable {α β : Type} {run : Handshake α} {more : α → Handshake β} {bytes bytes' : List UInt8}
  {a : α} {b : β}

theorem Leaves.bind (hRun : Leaves run bytes a) (hMore : Leaves (more a) bytes' b) :
    Leaves (run >>= more) (bytes ++ bytes') b := by
  intro socket rest result hArrive hBind
  have hBoth : (run socket >>= fun first => more first.1 first.2) = .ok result := hBind
  obtain ⟨⟨value, socket'⟩, hFirst, hSecond⟩ := bind_eq_ok.1 hBoth
  rw [List.append_assoc] at hArrive
  obtain ⟨rfl, hLeft⟩ := hRun socket _ _ hArrive hFirst
  exact hMore socket' rest result hLeft hSecond

theorem leaves_pure (a : α) : Leaves (pure a) [] a := by
  intro socket rest result hArrive hPure
  cases hPure
  exact ⟨rfl, hArrive⟩

theorem Leaves.then_pure (hRun : Leaves run bytes a) (b : β) :
    Leaves (run >>= fun _ => pure b) bytes b := by
  have hBoth : Leaves (run >>= fun _ => pure b) (bytes ++ []) b := hRun.bind (leaves_pure b)
  rwa [List.append_nil] at hBoth

theorem leaves_throw (error : IoError) : Leaves (throw error : Handshake α) bytes a := by
  intro socket rest result _ hThrow
  cases hThrow

end

theorem writeAll_ok {bytes : List UInt8} {socket : Socket} {result : Unit × Socket}
    (h : writeAll bytes socket = .ok result) :
    result.2.arrivals = socket.arrivals ∧ result.2.ending = socket.ending := by
  unfold writeAll at h
  split at h
  · cases h
  all_goals
    cases h
    exact ⟨rfl, rfl⟩

/-- What is written takes nothing from what arrives. -/
theorem Leaves.writeAll_bind {α : Type} {more : Unit → Handshake α} {bytes : List UInt8} {a : α}
    (h : Leaves (more ()) bytes a) (sent : List UInt8) :
    Leaves (writeAll sent >>= more) bytes a := by
  have hWrite : Leaves (writeAll sent) [] () := by
    intro socket rest result hArrive hWrite
    exact ⟨rfl, by rw [(writeAll_ok hWrite).1, hArrive, List.nil_append]⟩
  exact hWrite.bind h

theorem leaves_readExact {n : Nat} {bytes : List UInt8} (h : bytes.length = n) :
    Leaves (readExact n) bytes bytes := by
  intro socket rest result hArrive hRead
  obtain ⟨hTaken, hLeft⟩ := takeBytes_eq n socket.arrivals
  rw [hArrive, List.take_append_of_le_length (by omega), List.take_of_length_le (by omega)]
    at hTaken
  rw [hArrive, List.drop_append_of_le_length (by omega), List.drop_of_length_le (by omega),
    List.nil_append] at hLeft
  unfold readExact at hRead
  dsimp only at hRead
  split at hRead
  · cases hRead
  · cases hRead
    exact ⟨hTaken, hLeft⟩

/-! ### SOCKS5 -/

/-- An address of the kind, with its port. -/
def IsAddress (kind : UInt8) (address : List UInt8) : Prop :=
  kind = 0x01 ∧ address.length = 4 + 2 ∨
    kind = 0x03 ∧ (∃ len name, address = [len] ++ name ∧ name.length = len.toNat + 2) ∨
    kind = 0x04 ∧ address.length = 16 + 2

/-- No authentication is asked for, and the request is granted. -/
def Socks5Grants (reply : List UInt8) : Prop :=
  ∃ reserved kind address, IsAddress kind address ∧
    reply = [socks5Version, socks5NoAuthentication] ++
      ([socks5Version, 0x00, reserved, kind] ++ address)

theorem leaves_skipAddress {kind : UInt8} {address : List UInt8} (h : IsAddress kind address) :
    Leaves (skipAddress kind) address () := by
  unfold skipAddress
  obtain ⟨rfl, hLength⟩ | ⟨rfl, len, name, rfl, hLength⟩ | ⟨rfl, hLength⟩ := h
  · rw [if_pos rfl]
    exact (leaves_readExact hLength).then_pure ()
  · rw [if_neg (by decide), if_pos rfl]
    have hLen : Leaves (readExact 1) [len] [len] := leaves_readExact rfl
    exact hLen.bind ((leaves_readExact hLength).then_pure ())
  · rw [if_neg (by decide), if_neg (by decide), if_pos rfl]
    exact (leaves_readExact hLength).then_pure ()

theorem leaves_socks5Request {reserved kind : UInt8} {address : List UInt8}
    (h : IsAddress kind address) (targetHost : String) (targetPort : Nat) :
    Leaves (socks5Request targetHost targetPort)
      ([socks5Version, 0x00, reserved, kind] ++ address) 0 := by
  have hHead : Leaves (readExact 4) [socks5Version, 0x00, reserved, kind] _ :=
    leaves_readExact rfl
  unfold socks5Request
  extract_lets domain
  split_ifs
  · exact leaves_throw _
  · apply Leaves.writeAll_bind
    apply hHead.bind
    rw [if_neg (by simp)]
    exact (leaves_skipAddress h).then_pure 0

theorem leaves_socks5Handshake {reply : List UInt8} (h : Socks5Grants reply)
    (targetHost : String) (targetPort : Nat) :
    Leaves (socks5Handshake targetHost targetPort) reply 0 := by
  obtain ⟨reserved, kind, address, hAddress, rfl⟩ := h
  have hGreeting : Leaves (readExact 2) [socks5Version, socks5NoAuthentication] _ :=
    leaves_readExact rfl
  apply Leaves.writeAll_bind
  apply hGreeting.bind
  rw [if_neg (by simp), if_neg (by simp)]
  exact leaves_socks5Request hAddress targetHost targetPort

/-! ### HTTP CONNECT -/

theorem headerComplete_iff {bytes : List UInt8} :
    headerComplete bytes = true ↔ headerEnd <:+: bytes := by
  induction bytes with
  | nil => simp [headerComplete, headerEnd]
  | cons byte bytes ih =>
    have hTake : (byte :: bytes).take 4 = headerEnd ↔ headerEnd <+: byte :: bytes :=
      eq_comm.trans List.prefix_iff_eq_take.symm
    rw [headerComplete, Bool.or_eq_true, decide_eq_true_iff, hTake, ih, List.infix_cons_iff]

theorem headerComplete_mono {bytes more : List UInt8} (hPrefix : bytes <+: more)
    (h : headerComplete bytes = true) : headerComplete more = true :=
  headerComplete_iff.2 ((headerComplete_iff.1 h).trans hPrefix.isInfix)

/-- A header with nothing behind it that grants the tunnel. -/
def HttpGrants (reply : List UInt8) : Prop :=
  headerComplete reply = true ∧ headerComplete reply.dropLast = false ∧
    ∃ code, statusCode reply = some code ∧ 200 ≤ code ∧ code < 300

/-- No shorter part of a header is complete. -/
theorem eq_of_complete_prefix {bytes reply : List UInt8} (hPrefix : bytes <+: reply)
    (hComplete : headerComplete bytes = true) (hReply : headerComplete reply.dropLast = false) :
    bytes = reply := by
  by_contra hNe
  have hShort : bytes <+: reply.dropLast := by
    obtain ⟨rest, rfl⟩ := hPrefix
    have hRest : rest ≠ [] := fun h => hNe (by rw [h, List.append_nil])
    rw [List.dropLast_append_of_ne_nil hRest]
    exact List.prefix_append _ _
  rw [headerComplete_mono hShort hComplete] at hReply
  cases hReply

/-- The loop stops with the first read that completes the header. -/
theorem readHeader_ok {ending : Option IoError} {bytes header : List UInt8}
    {chunks rest : List (List UInt8)} (h : readHeader ending bytes chunks = .ok (header, rest)) :
    ∃ n, header = bytes ++ (chunks.take n).flatten ∧ rest = chunks.drop n ∧
      headerComplete header = true ∧
      ∀ m < n, headerComplete (bytes ++ (chunks.take m).flatten) = false := by
  induction chunks generalizing bytes with
  | nil =>
    rw [readHeader] at h
    split_ifs at h with hComplete
    cases h
    exact ⟨0, by simp, rfl, hComplete, by simp⟩
  | cons chunk chunks ih =>
    rw [readHeader] at h
    split_ifs at h with hComplete
    · cases h
      exact ⟨0, by simp, rfl, hComplete, by simp⟩
    · obtain ⟨n, hHeader, hRest, hDone, hBefore⟩ := ih h
      refine ⟨n + 1, by rw [hHeader, List.take_succ_cons, List.flatten_cons, List.append_assoc],
        hRest, hDone, fun m hm => ?_⟩
      cases m with
      | zero => simpa using hComplete
      | succ m =>
        rw [List.take_succ_cons, List.flatten_cons, ← List.append_assoc]
        exact hBefore m (by omega)

/-- What stands behind the header is kept exactly if a read ends with it. -/
theorem readHeader_left_iff {ending : Option IoError} {header reply tunnel : List UInt8}
    {chunks rest : List (List UInt8)} (h : readHeader ending [] chunks = .ok (header, rest))
    (hArrive : chunks.flatten = reply ++ tunnel) (hReply : headerComplete reply = true)
    (hFirst : headerComplete reply.dropLast = false) :
    rest.flatten = tunnel ↔ ∃ n, (chunks.take n).flatten = reply := by
  obtain ⟨n, hHeader, rfl, hDone, hBefore⟩ := readHeader_ok h
  rw [List.nil_append] at hHeader
  have hSplit (m : Nat) : (chunks.take m).flatten ++ (chunks.drop m).flatten = reply ++ tunnel := by
    rw [← List.flatten_append, List.take_append_drop, hArrive]
  constructor
  · intro hLeft
    have hBoth := hSplit n
    rw [hLeft] at hBoth
    exact ⟨n, List.append_cancel_right hBoth⟩
  · rintro ⟨m, hm⟩
    -- the loop has stopped by then, and not before the header was complete
    have hLe : n ≤ m := by
      by_contra hLt
      have hNot := hBefore m (by omega)
      rw [List.nil_append, hm, hReply] at hNot
      cases hNot
    have hPrefix : header <+: reply := by
      obtain ⟨between, hBetween⟩ : chunks.take n <+: chunks.take m :=
        List.take_prefix_take_left hLe
      rw [hHeader, ← hm, ← hBetween, List.flatten_append]
      exact List.prefix_append _ _
    have hEq := eq_of_complete_prefix hPrefix hDone hFirst
    have hBoth := hSplit n
    rw [← hHeader, hEq] at hBoth
    exact List.append_cancel_left hBoth

/-! ## The stream that is handed out -/

def GrantsTunnel : SshProxyScheme → List UInt8 → Prop
  | .socks5, reply => Socks5Grants reply
  | .http, reply => HttpGrants reply

/-- The header of an HTTP reply ends with one of the reads. -/
def EndsWithRead (socket : Socket) (reply : List UInt8) : Prop :=
  ∃ n, ((reads httpChunk socket.arrivals).take n).flatten = reply

theorem arrivals_socks5Connect {proxy : SshProxy} {targetHost : String} {targetPort : Nat}
    {socket stream : Socket} {reply tunnel : List UInt8} (hReply : Socks5Grants reply)
    (hArrive : socket.arrivals.flatten = reply ++ tunnel)
    (h : socks5Connect proxy targetHost targetPort socket = .ok stream) :
    stream.arrivals.flatten = tunnel := by
  unfold socks5Connect at h
  extract_lets target at h
  split at h
  · split_ifs at h
  · next hHandshake =>
    split_ifs at h
    cases h
    exact (leaves_socks5Handshake hReply targetHost targetPort _ _ _ hArrive hHandshake).2

theorem httpHandshake_ok {target : String} {socket : Socket} {result : List UInt8 × Socket}
    (h : httpHandshake target socket = .ok result) :
    readHeader socket.ending [] (reads httpChunk socket.arrivals) =
      .ok (result.1, result.2.arrivals) := by
  unfold httpHandshake at h
  obtain ⟨⟨_, socket'⟩, hWrite, hRest⟩ := bind_eq_ok.1 h
  obtain ⟨⟨header, arrivals⟩, hRead, hReturn⟩ := bind_eq_ok.1 hRest
  obtain ⟨hArrivals, hEnding⟩ := writeAll_ok hWrite
  rw [← hArrivals, ← hEnding, hRead]
  cases hReturn
  rfl

theorem arrivals_httpConnect_iff {proxy : SshProxy} {targetHost : String} {targetPort : Nat}
    {socket stream : Socket} {reply tunnel : List UInt8} (hReply : HttpGrants reply)
    (hArrive : socket.arrivals.flatten = reply ++ tunnel)
    (h : httpConnect proxy targetHost targetPort socket = .ok stream) :
    stream.arrivals.flatten = tunnel ↔ EndsWithRead socket reply := by
  unfold httpConnect at h
  extract_lets target at h
  split at h
  · cases h
  · next hHandshake =>
    split at h
    · cases h
    · split_ifs at h
      cases h
      exact readHeader_left_iff (httpHandshake_ok hHandshake)
        (by rw [flatten_reads, hArrive]) hReply.1 hReply.2.1

/-- The stream carries what followed the handshake if the proxy speaks SOCKS5, or if the
header of the HTTP reply ends with a read. -/
theorem proxied_stream_exact_iff (connect : String → Nat → Except IoError Socket)
    (proxy : SshProxy) (targetHost : String) (targetPort : Nat) (socket stream : Socket)
    (reply tunnel : List UInt8) (hConnect : connect proxy.host proxy.port = .ok socket)
    (hReply : GrantsTunnel proxy.scheme reply)
    (hArrive : socket.arrivals.flatten = reply ++ tunnel)
    (hOpen : openProxyStream connect proxy targetHost targetPort = .ok stream) :
    stream.arrivals.flatten = tunnel ↔ proxy.scheme = .socks5 ∨ EndsWithRead socket reply := by
  unfold openProxyStream at hOpen
  rw [hConnect] at hOpen
  dsimp only at hOpen
  cases hScheme : proxy.scheme with
  | socks5 =>
    rw [hScheme] at hReply hOpen
    have hLeft := arrivals_socks5Connect hReply hArrive hOpen
    simp [hLeft]
  | http =>
    rw [hScheme] at hReply hOpen
    rw [arrivals_httpConnect_iff hReply hArrive hOpen]
    simp

/-- A reply that grants the tunnel. -/
def grantedReply : List UInt8 :=
  utf8Bytes "HTTP/1.1 200 OK\r\n\r\n".toList

/-- The first bytes of a server that speaks first. -/
def serverBanner : List UInt8 :=
  utf8Bytes "SSH-2.0\r\n".toList

theorem httpGrants_grantedReply : HttpGrants grantedReply := by
  refine ⟨by decide +kernel, by decide +kernel, 200, by decide +kernel, by decide, by decide⟩

/-- A proxy at port 3128, which sends these packets and closes the connection. -/
def answering (arrivals : List (List UInt8)) : String → Nat → Except IoError Socket := fun _ _ =>
  .ok { arrivals, ending := none, writes := [], sent := [] }

def localProxy : SshProxy :=
  { scheme := .http, host := "127.0.0.1", port := 3128 }

/-- The bytes that the caller gets. -/
def received (arrivals : List (List UInt8)) : Option (List UInt8) :=
  (openProxyStream (answering arrivals) localProxy "host" 22).toOption.map fun stream =>
    stream.arrivals.flatten

/-- The banner comes in a packet of its own, and the caller reads it. -/
theorem proxied_banner_arrives :
    ∃ stream, openProxyStream (answering [grantedReply, serverBanner]) localProxy "host" 22 =
      .ok stream ∧ stream.arrivals.flatten = serverBanner := by
  have hOk : (received [grantedReply, serverBanner]).isSome = true := by decide +kernel
  rw [received] at hOk
  cases hOpen : openProxyStream (answering [grantedReply, serverBanner]) localProxy "host" 22 with
  | error error => simp [hOpen, Except.toOption] at hOk
  | ok stream =>
    exact ⟨stream, rfl, (proxied_stream_exact_iff _ localProxy "host" 22 _ stream grantedReply
      serverBanner rfl httpGrants_grantedReply (by simp) hOpen).2
        (Or.inr ⟨1, by decide +kernel⟩)⟩

/-- The banner comes in the packet of the reply, and is lost. -/
theorem banner_in_reply_lost :
    GrantsTunnel localProxy.scheme grantedReply ∧
      received [grantedReply ++ serverBanner] = some [] ∧ serverBanner ≠ [] := by
  refine ⟨httpGrants_grantedReply, by decide +kernel, by decide +kernel⟩

end WaitAgent.Net
