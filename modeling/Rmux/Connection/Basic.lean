import Rmux.Bufio
import Rmux.Connection.Backend

/-!
# `Connection`: one backend session's lifecycle

The `Connection` of `package connection` and its operations: `NewConnection`, `Disconnect`,
`IsConnected`, `ReconnectIfNecessary`, `authenticate`, `SelectDatabase` and `CheckConnection`.
Each operation is a function of the connection, the world of sockets and sessions
(`Rmux.Connection.Backend`), and the faults the environment picks for its I/O; it returns Go's
result with the connection and the world after it, or the panic it raises. `Op.run` gathers them
into one step, and `Reachable` is every state a run from `NewConnection` reaches, under any
faults.

A `*net.Conn`, `*bufio.Reader` or `*writer.FlexibleWriter` field is kept as what the
operations read of it: the socket's number, the reader's state with the socket it reads, and
the socket the writer writes to.
-/

namespace Rmux

/-- `bufio.NewReader(rd)`: a reader with the default 4096-byte buffer, empty. The bytes of its
socket are attached at each read (`readLine`). -/
def Reader.new : Reader :=
  ⟨[], 4096, none, ⟨[], .timeout, by simp⟩, by simp, by decide, by decide, by simp⟩

/-- A reader takes the socket as it is now, unless it still keeps the error of a failed fill,
which it returns before reading again. -/
def Reader.attach (b : Reader) (sock : Socket) : Reader :=
  if h : b.err = none then { b with rd := sock, err_end := fun h' => absurd h h' } else b

/-- The socket as one read of the connection finds it: the replies the session has sent and the
connection has not read, then the read deadline; under a fault, the first `n` bytes of those
replies, then the fault's error. -/
def Session.inbound (s : Session) : Option (Nat × Error) → Socket
  | some (n, e) => ⟨if s.replies.take n = [] then [] else [s.replies.take n], e, by split <;> simp_all⟩
  | none => ⟨if s.replies = [] then [] else [s.replies], .timeout, by split <;> simp_all⟩

/-- The replies a read leaves with the session, having not delivered them. -/
def Session.undelivered (s : Session) : Option (Nat × Error) → List UInt8
  | some (n, _) => s.replies.drop n
  | none => []

/-- An outbound connection to a backend. `Reader` is the reader with the socket it reads, and
`Writer` the socket the writer writes to. Reference: `connection.go:43`. -/
structure Connection where
  connection : Option Nat
  DatabaseId : Int
  Reader : Option (Nat × Reader)
  Writer : Option Nat
  authUser : List UInt8
  authPassword : List UInt8

/-- `NewConnection(...)`: the configuration only, no dial. The protocol, endpoint and timeouts
are passed to the dial and the deadlines alone, whose outcomes are the environment's.
Reference: `connection.go:63`. -/
def NewConnection (authUser authPassword : List UInt8) : Connection :=
  ⟨none, 0, none, none, authUser, authPassword⟩

/-- Modelled from the spec: `protocol.WriteLine(line, writer, true)`, which is not in this
repository. The spec's `FlushLine`: the line and `REDIS_NEWLINE` are written to the writer's
socket and flushed, and the write's error is returned unchanged. A failed write may still have
delivered a prefix of the bytes, as many as the fault says. A nil writer is dereferenced. -/
def WriteLine (be : Backend) (line : List UInt8) (writer : Option Nat) (w : World)
    (fault : Option (Nat × Error)) : Except Panic (Option Error × World) :=
  match writer with
  | none => .error .nilPointer
  | some k =>
    match fault with
    | none => .ok (none, w.set k (be.receive (w.session k) (line ++ REDIS_NEWLINE)))
    | some (n, e) => .ok (some e, w.set k (be.receive (w.session k) ((line ++ REDIS_NEWLINE).take n)))

/-- `reader.ReadLine()` on the connection's reader: `bufio`'s `ReadLine` over the socket as the
read finds it. The replies it delivers and does not take stay in the socket, and those it does
not deliver stay with the session. A nil reader is dereferenced. -/
def readLine (reader : Option (Nat × Reader)) (w : World) (fault : Option (Nat × Error)) :
    Except Panic (List UInt8 × Bool × Option Error × (Nat × Reader) × World) :=
  match reader with
  | none => .error .nilPointer
  | some (k, b) =>
    let s := w.session k
    match (b.attach (s.inbound fault)).ReadLine with
    | (line, isPrefix, err, b') =>
      let s := if b.err = none then { s with replies := b'.rd.bytes ++ s.undelivered fault } else s
      .ok (line, isPrefix, err, (k, b'), w.set k s)

namespace Connection

/-- `c.Disconnect()`. Reference: `connection.go:76`. -/
def Disconnect (c : Connection) : Connection :=
  { c with connection := none, DatabaseId := 0, Reader := none, Writer := none }

/-- `c.IsConnected()`: a read of at most 4 bytes straight from the socket, with a deadline of
10 µs. Replies the session has sent are taken by it and dropped; on an idle socket the read
meets the probe's error, and only a timeout counts as connected. Reference:
`connection.go:220`. -/
def IsConnected (c : Connection) (w : World) (f : Faults) : Bool × World :=
  match c.connection with
  | none => (false, w)
  | some k =>
    let s := w.session k
    if s.replies = [] then (decide (f.probe = .timeout), w)
    else (true, w.set k { s with replies := s.replies.drop 4 })

/-- The AUTH line `authenticate` sends. Reference: `connection.go:156`. -/
def authCommand (c : Connection) : List UInt8 :=
  if c.authUser = [] then bytesOf "AUTH " ++ c.authPassword
  else bytesOf "AUTH " ++ c.authUser ++ bytesOf " " ++ c.authPassword

/-- `this.authenticate()`. A failed write returns its error and leaves the socket as it is; a
failed read or any reply but `+OK` disconnects. Reference: `connection.go:146`. -/
def authenticate (be : Backend) (c : Connection) (w : World) (f : Faults) :
    Except Panic (Option Error × Connection × World) :=
  match c.connection with
  | none => .ok (some (.new "authenticating against an invalid connection"), c, w)
  | some _ =>
    if c.authPassword = [] then .ok (none, c, w)
    else
      (WriteLine be c.authCommand c.Writer w f.write).bind fun (err, w) =>
      match err with
      | some e => .ok (some e, c, w)
      | none =>
        (readLine c.Reader w f.read).bind fun (line, isPrefix, err, reader, w) =>
        let c := { c with Reader := some reader }
        if err ≠ none ∨ isPrefix = true ∨ line ≠ OK_RESPONSE then
          .ok (some (.new "invalid authentication response"), c.Disconnect, w)
        else .ok (none, c, w)

/-- `c.ReconnectIfNecessary()`: nothing while the passive probe says connected; otherwise a
disconnect, a dial, a new reader and writer on the new socket, and `authenticate`. Reference:
`connection.go:88`. -/
def ReconnectIfNecessary (be : Backend) (c : Connection) (w : World) (f : Faults) :
    Except Panic (Option Error × Connection × World) :=
  match c.IsConnected w f with
  | (true, w) => .ok (none, c, w)
  | (false, w) =>
    let c := c.Disconnect
    match f.dial with
    | some e => .ok (some e, { c with connection := none }, w)
    | none =>
      let k := w.next
      let c : Connection :=
        { c with connection := some k, DatabaseId := 0, Writer := some k, Reader := some (k, .new) }
      c.authenticate be w.dial f

/-- `this.SelectDatabase(DatabaseId)`. A failed write returns its error and leaves the socket as
it is; a failed read or any reply but `+OK` disconnects. Reference: `connection.go:118`. -/
def SelectDatabase (be : Backend) (c : Connection) (w : World) (f : Faults) (DatabaseId : Int) :
    Except Panic (Option Error × Connection × World) :=
  match c.connection with
  | none => .ok (some (.new "Selecting database on an invalid connection"), c, w)
  | some _ =>
    (WriteLine be (selectLine DatabaseId) c.Writer w f.write).bind fun (err, w) =>
    match err with
    | some e => .ok (some e, c, w)
    | none =>
      (readLine c.Reader w f.read).bind fun (line, isPrefix, err, reader, w) =>
      let c := { c with Reader := some reader }
      if err ≠ none ∨ isPrefix = true ∨ line ≠ OK_RESPONSE then
        .ok (some (.new "Invalid select response"), c.Disconnect, w)
      else .ok (none, { c with DatabaseId := DatabaseId }, w)

/-- `myConnection.CheckConnection()`: a `PING`, which must be answered `+PONG`; any failure
disconnects. Reference: `connection.go:184`. -/
def CheckConnection (be : Backend) (c : Connection) (w : World) (f : Faults) :
    Except Panic (Bool × Connection × World) :=
  match c.connection with
  | none => .ok (false, c, w)
  | some _ =>
    (WriteLine be SHORT_PING_COMMAND c.Writer w f.write).bind fun (err, w) =>
    match err with
    | some _ => .ok (false, c.Disconnect, w)
    | none =>
      (readLine c.Reader w f.read).bind fun (line, isPrefix, err, reader, w) =>
      let c := { c with Reader := some reader }
      if err = none ∧ isPrefix = false ∧ line = PONG_RESPONSE then .ok (true, c, w)
      else .ok (false, c.Disconnect, w)

end Connection

/-! ## Runs -/

/-- The operations a caller makes on a connection. -/
inductive Op where
  | reconnectIfNecessary
  | selectDatabase (id : Int)
  | checkConnection
  | isConnected
  | disconnect
  deriving DecidableEq, Repr

/-- One operation under the given faults: the connection and the world after it, or the panic
it raises. -/
def Op.run (be : Backend) (f : Faults) : Op → Connection × World → Except Panic (Connection × World)
  | .reconnectIfNecessary, (c, w) => (c.ReconnectIfNecessary be w f).map fun r => r.2
  | .selectDatabase id, (c, w) => (c.SelectDatabase be w f id).map fun r => r.2
  | .checkConnection, (c, w) => (c.CheckConnection be w f).map fun r => r.2
  | .isConnected, (c, w) => .ok (c, (c.IsConnected w f).2)
  | .disconnect, (c, w) => .ok (c.Disconnect, w)

/-- The states a run from `NewConnection` reaches: any sequence of operations, each under any
faults, that raises no panic. -/
inductive Reachable (be : Backend) : Connection × World → Prop
  | init (authUser authPassword : List UInt8) (w : World) :
      Reachable be (NewConnection authUser authPassword, w)
  | step {s s' : Connection × World} (op : Op) (f : Faults) :
      Reachable be s → op.run be f s = .ok s' → Reachable be s'

/-- What holds of every initial state and is kept by every operation under any faults holds of
every reachable state. -/
theorem Reachable.invariant {be : Backend} (P : Connection × World → Prop)
    (init : ∀ authUser authPassword w, P (NewConnection authUser authPassword, w))
    (step : ∀ (op : Op) (f : Faults) (s s' : Connection × World), P s → op.run be f s = .ok s' → P s')
    {s : Connection × World}
    (h : Reachable be s) : P s := by
  induction h with
  | init authUser authPassword w => exact init authUser authPassword w
  | step op f _ hrun ih => exact step op f _ _ ih hrun

end Rmux
