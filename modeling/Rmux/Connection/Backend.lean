import Rmux.Protocol.Basic

/-!
# The backend at the other end of a connection

A `Connection` talks to a Redis backend over a socket. What the backend does with the bytes it
receives is not code of this repository; it is modelled here as far as the connection's
lifecycle depends on it. Each socket carries a session of the backend (`Session`): whether it
has answered an AUTH with `+OK`, the database it has selected, the bytes of a command line it
has received only in part, and the replies it has sent that the connection has not read yet.
The backend serves every command line it receives whole (`Backend.receive`, `Backend.serve`):
`AUTH`, `select <n>` and `PING`, the three commands a connection sends, and answers anything
else with an error. It runs with Redis's default of `DATABASES = 16` databases, and refuses a
`select` outside them.

`Faults` is the environment's side of one operation of the connection: how each dial, write and
read it makes turns out. A failed write may have delivered part of its line, and a failed read
part of the replies, before its error (a deadline that passes in the middle of a reply).
-/

namespace Rmux

/-! ## Sessions -/

/-- A backend's configuration: whether a session must AUTH before it may select or ping, and the
AUTH arguments it accepts. -/
structure Backend where
  requiresAuth : Bool
  accepts : List UInt8 → Bool

/-- The backend's session on one socket. -/
structure Session where
  authed : Bool
  db : Int
  received : List UInt8
  replies : List UInt8
  deriving DecidableEq, Repr

/-- A session as the backend opens it on a new socket. -/
def Session.fresh : Session := ⟨false, 0, [], []⟩

/-- `fmt.Sprintf("%d", n)`. -/
def formatInt (n : Int) : List UInt8 :=
  if n < 0 then '-'.toUInt8 :: decimal n.natAbs else decimal n.toNat

/-- The backend's reading of a decimal argument with an optional minus sign. -/
def parseSigned : List UInt8 → Option Int
  | [] => none
  | c :: ds =>
    if c = '-'.toUInt8 then
      if ds ≠ [] ∧ ∀ b ∈ ds, IsDigit b then some (-(decimalValue 0 ds : Int)) else none
    else if ∀ b ∈ c :: ds, IsDigit b then some (decimalValue 0 (c :: ds)) else none

/-- The line `SelectDatabase(id)` sends: `fmt.Sprintf("select %d", id)`. Reference:
`connection.go:124`. -/
def selectLine (id : Int) : List UInt8 := bytesOf "select " ++ formatInt id

/-- The backend reads back every database number `SelectDatabase` formats. -/
theorem parseSigned_formatInt (n : Int) : parseSigned (formatInt n) = some n := by
  unfold formatInt
  split
  · rw [parseSigned, if_pos rfl, if_pos ⟨decimal_ne_nil _, decimal_digits _⟩, decimalValue_decimal]
    congr 1; omega
  · obtain ⟨d, ds, hd⟩ := List.exists_cons_of_ne_nil (decimal_ne_nil n.toNat)
    rw [hd, parseSigned, if_neg (by simpa using decimal_head_ne_minus hd),
      if_pos (hd ▸ decimal_digits _), ← hd, decimalValue_decimal]
    congr 1; omega

/-- A `select` line holds no `\n`. -/
theorem lf_not_mem_selectLine (id : Int) : 10 ∉ selectLine id := by
  refine List.not_mem_append (by decide) ?_
  unfold formatInt
  split
  · rintro (_ | ⟨_, h⟩); exact absurd (decimal_digits _ 10 h) (by decide)
  · exact fun h => absurd (decimal_digits _ 10 h) (by decide)

/-- The number of databases of the backend: Redis's default configuration, `databases 16`.
`select <n>` is refused unless `0 ≤ n < DATABASES`. -/
def DATABASES : Nat := 16

/-- The error line the backend answers a command it refuses with. -/
def ERR_LINE : List UInt8 := bytesOf "-ERR"

/-- The error line the backend answers a command with before an AUTH it requires. -/
def NOAUTH_LINE : List UInt8 := bytesOf "-NOAUTH Authentication required."

/-- A session sends a reply line. -/
def Session.reply (s : Session) (line : List UInt8) : Session :=
  { s with replies := s.replies ++ (line ++ REDIS_NEWLINE) }

/-- The backend's answer to one whole command line: `PING`, `AUTH <args>` and `select <n>`, the
last two only after an AUTH when the backend requires one, and `select <n>` only for a database
it has. -/
def Backend.serve (be : Backend) (s : Session) (line : List UInt8) : Session :=
  let ready := s.authed || !be.requiresAuth
  if line = SHORT_PING_COMMAND then s.reply (if ready then PONG_RESPONSE else NOAUTH_LINE)
  else if line.take 5 = bytesOf "AUTH " then
    if be.accepts (line.drop 5) then { s.reply OK_RESPONSE with authed := true }
    else s.reply ERR_LINE
  else
    match if line.take 7 = bytesOf "select " then parseSigned (line.drop 7) else none with
    | some n =>
      if ready then
        if 0 ≤ n ∧ n < DATABASES then { s.reply OK_RESPONSE with db := n } else s.reply ERR_LINE
      else s.reply NOAUTH_LINE
    | none => s.reply ERR_LINE

/-- The backend's answer to the three lines a connection sends: `PING`, an `AUTH` and a
`select`. -/
theorem Backend.serve_ping (be : Backend) (s : Session) :
    be.serve s SHORT_PING_COMMAND =
      s.reply (if s.authed || !be.requiresAuth then PONG_RESPONSE else NOAUTH_LINE) := by
  rw [Backend.serve, if_pos rfl]

theorem Backend.serve_auth (be : Backend) (s : Session) (args : List UInt8) :
    be.serve s (bytesOf "AUTH " ++ args) =
      if be.accepts args then { s.reply OK_RESPONSE with authed := true } else s.reply ERR_LINE := by
  rw [Backend.serve, if_neg,
    if_pos (show (bytesOf "AUTH " ++ args).take 5 = _ from List.take_left' rfl),
    show (bytesOf "AUTH " ++ args).drop 5 = args from List.drop_left' rfl]
  intro h
  exact absurd (congrArg List.head? h)
    (by rw [show (bytesOf "AUTH " ++ args).head? = some 65 from rfl]; decide)

theorem Backend.serve_selectLine (be : Backend) (s : Session) (id : Int) :
    be.serve s (selectLine id) =
      if s.authed || !be.requiresAuth then
        if 0 ≤ id ∧ id < DATABASES then { s.reply OK_RESPONSE with db := id } else s.reply ERR_LINE
      else s.reply NOAUTH_LINE := by
  have h7 : (selectLine id).take 7 = bytesOf "select " := List.take_left' rfl
  rw [Backend.serve, if_neg, if_neg, if_pos h7, selectLine,
    show (bytesOf "select " ++ formatInt id).drop 7 = formatInt id from List.drop_left' rfl,
    parseSigned_formatInt]
  · intro h
    exact absurd (congrArg List.head? h)
      (by rw [show ((selectLine id).take 5).head? = some 115 from rfl]; decide)
  · intro h
    exact absurd (congrArg List.head? h) (by rw [show (selectLine id).head? = some 115 from rfl]; decide)

/-- The backend receives bytes on a session: each `\r\n` ends a command line, which it serves. -/
def Backend.receive (be : Backend) : Session → List UInt8 → Session
  | s, [] => s
  | s, b :: rest =>
    if b = 10 ∧ s.received.getLast? = some 13 then
      be.receive (be.serve { s with received := [] } s.received.dropLast) rest
    else be.receive { s with received := s.received ++ [b] } rest

/-- A session with no command line in part that receives a line with no `\n`, and its `\r\n`,
serves that line. -/
theorem Backend.receive_line (be : Backend) {line : List UInt8} (hl : 10 ∉ line) :
    ∀ {s : Session}, be.receive s (line ++ [13, 10]) =
      be.serve { s with received := [] } (s.received ++ line) := by
  induction line with
  | nil => intro s; simp [Backend.receive]
  | cons b line ih =>
    intro s
    have hb : b ≠ 10 := fun h => hl (h ▸ .head _)
    rw [List.cons_append, Backend.receive, if_neg (not_and_of_not_left _ hb),
      ih (fun h => hl (.tail _ h))]
    simp

/-! ## The world -/

/-- The sockets dialled so far, numbered from `0`, each with the backend's session on it. -/
structure World where
  next : Nat
  session : Nat → Session

/-- The session on socket `k` becomes `s`. -/
def World.set (w : World) (k : Nat) (s : Session) : World :=
  { w with session := Function.update w.session k s }

/-- A dial opens socket `w.next`, with a fresh session on it. -/
def World.dial (w : World) : World :=
  { next := w.next + 1, session := Function.update w.session w.next Session.fresh }

@[simp] theorem World.set_session_self (w : World) (k : Nat) (s : Session) :
    (w.set k s).session k = s := by simp [World.set]

@[simp] theorem World.set_set (w : World) (k : Nat) (s s' : Session) :
    (w.set k s).set k s' = w.set k s' := by simp [World.set]

@[simp] theorem World.set_next (w : World) (k : Nat) (s : Session) : (w.set k s).next = w.next := rfl

@[simp] theorem World.dial_session_next (w : World) : w.dial.session w.next = Session.fresh := by
  simp [World.dial]

@[simp] theorem World.dial_next (w : World) : w.dial.next = w.next + 1 := rfl

/-- The environment's side of one operation: the error the passive probe's read meets on an
idle socket, whether the dial fails, whether the write fails (with the bytes it still delivers
and its error), and whether the socket read behind `ReadLine` fails (with the bytes of the
pending replies it still delivers and its error). An operation dials, writes and reads at most
once each. -/
structure Faults where
  probe : Error
  dial : Option Error
  write : Option (Nat × Error)
  read : Option (Nat × Error)

end Rmux
