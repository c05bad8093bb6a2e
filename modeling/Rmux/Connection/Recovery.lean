import Rmux.Connection.InStep

/-!
# Recovery: a disconnect brings the connection back in step

`Connection.InStep` is kept by every run whose faults keep step (`Runs.inStep`), and a failed
write or a reply cut before its `\r\n` can break it for good, as the failing runs of
`Rmux.Connection.Lifecycle` show: the probe keeps reporting the socket as connected. This module
shows the way back. `Connection.recovers`: from any state whatsoever, a `Disconnect`, then a
`ReconnectIfNecessary` and a `SelectDatabase(id)` of a database the backend has, meeting no
fault, against a backend that takes the connection's credentials, leave the connection on a new
socket with `DatabaseId = id`, in step with its session, and every later run whose faults keep
step keeps it so.

The steps, in the order the module lands them: one command exchange with no fault reads the
session's one reply line (`OnSocket.exchange_ok`); from it `authenticate`, `SelectDatabase` and
`CheckConnection` succeed on a socket in step (`authenticate_succeeds`, `SelectDatabase_succeeds`,
`CheckConnection_ready`), and `ReconnectIfNecessary` on a connection with no socket dials one and
succeeds (`ReconnectIfNecessary_succeeds`).
-/

namespace Rmux

namespace Connection

section
variable {be : Backend} {c : Connection} {w : World} {f : Faults}

/-- One command exchange with no fault on a socket in step with the connection: the session
serves the line whole, and the read takes its one reply line. -/
theorem OnSocket.exchange_ok (be : Backend) {k : Nat} {line L : List UInt8} (hs : c.OnSocket w k)
    (hf : f.write = none) (hr : f.read = none) (hl : 10 ∉ line)
    (hrep : (be.serve (w.session k) line).replies = L ++ [13, 10]) (hL : 10 ∉ L)
    (hLs : L.length + 2 ≤ 4096) :
    WriteLine be line c.Writer w f.write = .ok (none, w.set k (be.serve (w.session k) line)) ∧
      ∃ b', readLine c.Reader (w.set k (be.serve (w.session k) line)) f.read =
          .ok (L, false, none, (k, b'), w.set k { be.serve (w.session k) line with replies := [] }) ∧
        b'.Idle := by
  obtain ⟨b, hb, hi⟩ := hs.reader
  refine ⟨by rw [hs.writer, hf, WriteLine_serves be hl hs.received], ?_⟩
  rw [hb, hr]
  exact readLine_served hi hrep hL hLs

/-- `authenticate` with no fault, on a socket in step with the connection, against a backend that
accepts the connection's AUTH arguments when it has a password, succeeds and changes the reader
only. -/
theorem authenticate_succeeds {k : Nat} (hu : 10 ∉ c.authUser) (hp : 10 ∉ c.authPassword)
    (hk : c.connection = some k) (hs : c.OnSocket w k) (hf : f.write = none) (hr : f.read = none)
    (ha : c.authPassword ≠ [] → be.accepts (c.authCommand.drop 5) = true) :
    ∃ r w', c.authenticate be w f = .ok (none, { c with Reader := r }, w') := by
  unfold authenticate
  rw [hk]
  dsimp only
  split
  · exact ⟨c.Reader, w, by rw [← hk]⟩
  rename_i hne
  obtain ⟨args, hargs, hl⟩ := authCommand_eq hu hp
  have hacc : be.accepts args = true := by
    simpa [hargs, show (bytesOf "AUTH ").length = 5 from rfl] using ha hne
  have hserve := be.serve_auth (w.session k) args
  rw [← hargs, hacc, if_pos rfl] at hserve
  obtain ⟨h1, b', h2, -⟩ := hs.exchange_ok be hf hr hl (L := OK_RESPONSE)
    (by simp [hserve, Session.reply, hs.replies]) (by decide) (by decide)
  simp only [h1, Except.ok_bind, h2]
  rw [if_neg (by decide)]
  exact ⟨_, _, rfl⟩

/-- `SelectDatabase` of a database the backend has, with no fault, on a connection in step with a
session that may select, succeeds and changes the reader and the database only. -/
theorem SelectDatabase_succeeds {k : Nat} (hc : c.InStep w) (hk : c.connection = some k)
    (hf : f.write = none) (hr : f.read = none)
    (hready : ((w.session k).authed || !be.requiresAuth) = true) (id : Int)
    (hid : 0 ≤ id ∧ id < DATABASES) :
    ∃ r w', c.SelectDatabase be w f id = .ok (none, { c with Reader := r, DatabaseId := id }, w') := by
  obtain ⟨hs, -⟩ := hc.socket k hk
  have hserve := be.serve_selectLine (w.session k) id
  rw [hready, if_pos rfl, if_pos hid] at hserve
  obtain ⟨h1, b', h2, -⟩ := hs.exchange_ok be hf hr (lf_not_mem_selectLine id) (L := OK_RESPONSE)
    (by simp [hserve, Session.reply, hs.replies]) (by decide) (by decide)
  unfold SelectDatabase
  rw [hk]
  simp only [h1, Except.ok_bind, h2]
  rw [if_neg (by decide)]
  exact ⟨_, _, rfl⟩

/-- `ReconnectIfNecessary` on a connection with no socket, with no fault, against a backend that
accepts its AUTH arguments when it has a password, dials socket `w.next` and succeeds there with
database `0`. -/
theorem ReconnectIfNecessary_succeeds (hu : 10 ∉ c.authUser) (hp : 10 ∉ c.authPassword)
    (hn : c.connection = none) (hdial : f.dial = none) (hf : f.write = none) (hr : f.read = none)
    (ha : c.authPassword ≠ [] → be.accepts (c.authCommand.drop 5) = true) :
    ∃ r w', c.ReconnectIfNecessary be w f =
      .ok (none, ⟨some w.next, 0, r, some w.next, c.authUser, c.authPassword⟩, w') := by
  unfold ReconnectIfNecessary
  simp only [IsConnected, hn, hdial]
  exact authenticate_succeeds (w := w.dial) (f := f)
    (c := ⟨some w.next, 0, some (w.next, .new), some w.next, c.authUser, c.authPassword⟩)
    hu hp rfl ⟨rfl, ⟨_, rfl, Reader.idle_new⟩, by simp [Session.fresh], by simp [Session.fresh],
      by simp [Session.fresh]⟩ hf hr ha

/-- `CheckConnection` with no fault, on a connection in step with a session that may run commands,
answers true and changes the reader only. -/
theorem CheckConnection_ready {k : Nat} (hc : c.InStep w) (hk : c.connection = some k)
    (hf : f.write = none) (hr : f.read = none)
    (hready : ((w.session k).authed || !be.requiresAuth) = true) :
    ∃ r w', c.CheckConnection be w f = .ok (true, { c with Reader := r }, w') := by
  obtain ⟨hs, -⟩ := hc.socket k hk
  have hserve := be.serve_ping (w.session k)
  rw [hready, if_pos rfl] at hserve
  obtain ⟨h1, b', h2, -⟩ := hs.exchange_ok be hf hr (show 10 ∉ SHORT_PING_COMMAND by decide)
    (L := PONG_RESPONSE) (by simp [hserve, Session.reply, hs.replies]) (by decide) (by decide)
  unfold CheckConnection
  rw [hk]
  simp only [h1, Except.ok_bind, h2]
  rw [if_pos (by decide)]
  exact ⟨_, _, rfl⟩

end

end Connection

/-- **Recovery.** From any state whatsoever, however far failed writes or cut replies have put the
connection out of step with the session on its socket: a `Disconnect`, then a
`ReconnectIfNecessary` and a `SelectDatabase(id)` of a database the backend has, meeting no dial,
write or read fault, against a backend that takes the connection's credentials, leave it on a new
socket with `DatabaseId = id`; and from there every run whose faults keep step keeps it in step
with the backend. -/
theorem Connection.recovers {be : Backend} {c : Connection} {w : World} {f : Faults} {id : Int}
    (hu : 10 ∉ c.authUser) (hp : 10 ∉ c.authPassword)
    (hauth : if c.authPassword = [] then be.requiresAuth = false
      else be.accepts (c.authCommand.drop 5) = true)
    (hid : 0 ≤ id ∧ id < DATABASES) (hdial : f.dial = none) (hf : f.write = none)
    (hr : f.read = none) :
    ∃ s₁ s₂, Op.run be f .reconnectIfNecessary (c.Disconnect, w) = .ok s₁ ∧
      Op.run be f (.selectDatabase id) s₁ = .ok s₂ ∧ s₂.1.connection = some w.next ∧
      s₂.1.DatabaseId = id ∧ ∀ s, Runs be Faults.KeepsStep s₂ s → s.1.InStep s.2 := by
  obtain ⟨r₁, w₁, h₁⟩ := Connection.ReconnectIfNecessary_succeeds (c := c.Disconnect)
    hu hp rfl hdial hf hr fun hne => by rwa [if_neg (show ¬ c.authPassword = [] from hne)] at hauth
  have hkeep : f.KeepsStep := ⟨hf, fun _ _ h => by simp [hr] at h⟩
  have hi₁ := Connection.ReconnectIfNecessary_inStep (Connection.inStep_disconnect hu hp w) hkeep h₁
  have hready : ((w₁.session w.next).authed || !be.requiresAuth) = true := by
    by_cases hpw : c.authPassword = []
    · rw [if_pos hpw] at hauth; simp [hauth]
    · simp [(hi₁.socket _ rfl).2 hpw]
  obtain ⟨r₂, w₂, h₂⟩ := Connection.SelectDatabase_succeeds hi₁ rfl hf hr hready id hid
  have hi₂ := Connection.SelectDatabase_inStep hi₁ hkeep h₂
  exact ⟨_, _, by simp only [Op.run, h₁]; rfl, by simp only [Op.run, h₂]; rfl, rfl, rfl,
    fun s hs => Runs.inStep_from hi₂ hs⟩

/-- A connection with the password `secret`, against a backend that requires it, recovers into
database `5`. -/
theorem Connection.recovers_secret :
    ∃ s₁ s₂, Op.run ⟨true, fun a => a == bytesOf "secret"⟩ ⟨.timeout, none, none, none⟩
        .reconnectIfNecessary ((NewConnection [] (bytesOf "secret")).Disconnect,
          ⟨0, fun _ => Session.fresh⟩) = .ok s₁ ∧
      Op.run ⟨true, fun a => a == bytesOf "secret"⟩ ⟨.timeout, none, none, none⟩ (.selectDatabase 5) s₁ =
        .ok s₂ ∧ s₂.1.connection = some 0 ∧ s₂.1.DatabaseId = 5 ∧
      ∀ s, Runs ⟨true, fun a => a == bytesOf "secret"⟩ Faults.KeepsStep s₂ s → s.1.InStep s.2 :=
  Connection.recovers (by decide) (by decide) (by decide) (by decide) rfl rfl rfl

end Rmux
