import Rmux.Connection.Basic

/-!
# The connection in step with its session

A failed write that the connection does not answer with a disconnect can leave it believing a
database or an AUTH that the session on its socket does not have. So can a read that the
deadline cuts right after a reply line and before its `\r\n`: `ReadLine` returns the line with no
error, and the `\r\n` is left for the next command (`Connection.CheckConnection_cut_reply`). This module shows
that these are the only ways. On every run whose faults keep step (`Faults.KeepsStep`: no write
fails, and a read that fails delivers nothing), whatever each probe and dial does, the connection
is in step with the session on its socket (`Runs.inStep`). Its reader and writer are on that
socket, nothing is pending either way, the session has selected the connection's `DatabaseId`,
and it has accepted the connection's AUTH when there is a password.

Each operation keeps this, one lemma per operation, from what a command exchange does: a write
with no fault is served whole by the session (`WriteLine_serves`), and the read after it takes
the one reply line or, under a fault, nothing (`readLine_served`, `readLine_fault`). The line
then decides between staying in step and disconnecting.
-/

namespace Rmux

/-- A reader between two commands: nothing buffered, no error kept, and its 4096-byte buffer. -/
structure Reader.Idle (b : Reader) : Prop where
  buf : b.buf = []
  err : b.err = none
  size : b.size = 4096

theorem Reader.idle_new : Reader.new.Idle := ⟨rfl, rfl, rfl⟩

/-- Faults that keep the connection in step with its session: no write fails, and a read that
fails delivers none of the replies before its error, so that no reply line is cut. -/
structure Faults.KeepsStep (f : Faults) : Prop where
  write : f.write = none
  read : ∀ n e, f.read = some (n, e) → n = 0

/-! ## One command exchange -/

/-- A write with no fault to a session with no command line in part is served as one line. -/
theorem WriteLine_serves (be : Backend) {line : List UInt8} (hl : 10 ∉ line) {k : Nat} {w : World}
    (hr : (w.session k).received = []) :
    WriteLine be line (some k) w none = .ok (none, w.set k (be.serve (w.session k) line)) := by
  rw [WriteLine, REDIS_NEWLINE_eq, be.receive_line hl]
  generalize w.session k = s at hr ⊢
  cases s
  cases hr
  rfl

/-- The read, with no fault, on an idle reader, of a session whose replies begin with a line ended
by `\r\n` that fits the buffer: that line, with no error, and the replies after it still to be
read, from the reader's buffer or from the socket. -/
theorem readLine_crlf {k : Nat} {b : Reader} {w : World} {s : Session} {line rest : List UInt8}
    (hb : b.Idle) (hr : s.replies = line ++ 13 :: 10 :: rest) (hl : 10 ∉ line)
    (hs : line.length + 2 ≤ 4096) :
    ∃ b', readLine (some (k, b)) (w.set k s) none =
        .ok (line, false, none, (k, b'), w.set k { s with replies := b'.rd.bytes }) ∧
      b'.unread = rest ∧ b'.err = none ∧ b'.size = 4096 := by
  have hu : (b.attach (s.inbound none)).unread = line ++ 13 :: 10 :: rest := by
    simp [Reader.attach, hb.err, Reader.unread, hb.buf, Session.inbound, Socket.bytes, hr]
  obtain ⟨b', h1, h2, h3, h4⟩ :=
    Reader.ReadLine_crlf hl hu (by simpa [Reader.attach, hb.err, hb.size] using hs)
  exact ⟨b', by simp [readLine, h1, hb.err, Session.undelivered], h2,
    by simpa [Reader.attach, hb.err] using h3, by simpa [Reader.attach, hb.err, hb.size] using h4⟩

/-- The read after a command that the session has answered with one line that fits the buffer:
with no fault, that line, with the reader idle again and no reply left unread. -/
theorem readLine_served {k : Nat} {b : Reader} {w : World} {s : Session} {line : List UInt8}
    (hb : b.Idle) (hr : s.replies = line ++ [13, 10]) (hl : 10 ∉ line) (hs : line.length + 2 ≤ 4096) :
    ∃ b', readLine (some (k, b)) (w.set k s) none =
      .ok (line, false, none, (k, b'), w.set k { s with replies := [] }) ∧ b'.Idle := by
  obtain ⟨b', h, hu, he, hsize⟩ := @readLine_crlf k b w s line [] hb hr hl hs
  obtain ⟨hbuf, hbytes⟩ := List.append_eq_nil.1 hu
  exact ⟨b', by rw [h, hbytes], hbuf, he, hsize⟩

/-- A read under a fault that delivers nothing takes nothing from an idle reader. -/
theorem readLine_fault {k : Nat} {b : Reader} {w : World} (hb : b.Idle) (e : Error) :
    ∃ p err b' w', readLine (some (k, b)) w (some (0, e)) = .ok ([], p, err, (k, b'), w') := by
  have h := Reader.ReadLine_prefix (b.attach ((w.session k).inbound (some (0, e))))
  rw [show (b.attach ((w.session k).inbound (some (0, e)))).unread = [] by
    simp [Reader.attach, hb.err, Reader.unread, hb.buf, Session.inbound, Socket.bytes],
    List.prefix_nil] at h
  rcases hR : (b.attach ((w.session k).inbound (some (0, e)))).ReadLine with ⟨l, p, err, b'⟩
  rw [hR] at h
  cases h
  exact ⟨p, err, b', _, by simp only [readLine, hR]; rfl⟩

/-! ## The invariant -/

/-- The connection is in step with the session on socket `k`: its writer and its idle reader are
on the socket, the session has no command line in part and no reply unread, and it has selected
the connection's database. -/
structure Connection.OnSocket (c : Connection) (w : World) (k : Nat) : Prop where
  writer : c.Writer = some k
  reader : ∃ b : Rmux.Reader, c.Reader = some (k, b) ∧ b.Idle
  received : (w.session k).received = []
  replies : (w.session k).replies = []
  db : (w.session k).db = c.DatabaseId

/-- The connection is in step with the backend: its credentials hold no `\n`, and when it has a
socket, the session on it is in step with it and has accepted its AUTH if it has a password. -/
structure Connection.InStep (c : Connection) (w : World) : Prop where
  user : 10 ∉ c.authUser
  password : 10 ∉ c.authPassword
  socket : ∀ k, c.connection = some k →
    c.OnSocket w k ∧ (c.authPassword ≠ [] → (w.session k).authed = true)

namespace Connection

section
variable {be : Backend} {c c' : Connection} {w w' : World} {f : Faults}

/-- A connection with no socket is in step with any world. -/
theorem inStep_disconnect (hu : 10 ∉ c.authUser) (hp : 10 ∉ c.authPassword) (w' : World) :
    c.Disconnect.InStep w' :=
  ⟨hu, hp, fun _ hk => by cases hk⟩

/-- The passive probe of a connection in step with the backend leaves the world as it is. -/
theorem InStep.isConnected (hc : c.InStep w) : ∃ ok, c.IsConnected w f = (ok, w) := by
  unfold IsConnected
  split
  · exact ⟨_, rfl⟩
  · rename_i k hk
    exact ⟨_, if_pos (hc.socket k hk).1.replies⟩

/-- The AUTH line is `AUTH ` and its arguments, with no `\n` when the credentials have none. -/
theorem authCommand_eq (hu : 10 ∉ c.authUser) (hp : 10 ∉ c.authPassword) :
    ∃ args, c.authCommand = bytesOf "AUTH " ++ args ∧ 10 ∉ c.authCommand := by
  unfold authCommand
  split
  · exact ⟨_, rfl, List.not_mem_append (by decide) hp⟩
  · exact ⟨c.authUser ++ bytesOf " " ++ c.authPassword, by simp only [List.append_assoc],
      List.not_mem_append (List.not_mem_append (List.not_mem_append (by decide) hu) (by decide)) hp⟩

/-- One command exchange under faults that keep step, on a socket in step with the connection:
the session serves the line whole, and the read takes the session's one reply line, or nothing
under a fault. -/
theorem OnSocket.exchange (be : Backend) {k : Nat} {line L : List UInt8} (hs : c.OnSocket w k)
    (hf : f.KeepsStep) (hl : 10 ∉ line)
    (hr : (be.serve (w.session k) line).replies = L ++ [13, 10]) (hL : 10 ∉ L)
    (hLs : L.length + 2 ≤ 4096) :
    WriteLine be line c.Writer w f.write = .ok (none, w.set k (be.serve (w.session k) line)) ∧
      ((∃ b', readLine c.Reader (w.set k (be.serve (w.session k) line)) f.read =
          .ok (L, false, none, (k, b'), w.set k { be.serve (w.session k) line with replies := [] }) ∧
          b'.Idle) ∨
        ∃ p e b' w'', readLine c.Reader (w.set k (be.serve (w.session k) line)) f.read =
          .ok ([], p, e, (k, b'), w'')) := by
  obtain ⟨b, hb, hi⟩ := hs.reader
  refine ⟨by rw [hs.writer, hf.write, WriteLine_serves be hl hs.received], ?_⟩
  rw [hb]
  rcases hread : f.read with _ | ⟨n, e⟩
  · exact .inl (readLine_served hi hr hL hLs)
  · obtain rfl := hf.read n e hread
    exact .inr (readLine_fault hi e)

/-- After an exchange that took the session's reply, the connection with its new idle reader is
in step with the session, once that has no reply left. -/
theorem OnSocket.inStep_after {k : Nat} {b : Rmux.Reader} {s : Session} {id : Int}
    (hs : c.OnSocket w k) (hk : c.connection = some k) (hu : 10 ∉ c.authUser)
    (hp : 10 ∉ c.authPassword) (hi : b.Idle) (hrec : s.received = []) (hdb : s.db = id)
    (ha : c.authPassword ≠ [] → s.authed = true) :
    ({ c with Reader := some (k, b), DatabaseId := id } : Connection).InStep
      (w.set k { s with replies := [] }) :=
  ⟨hu, hp, fun k' hk' => by
    cases hk.symm.trans hk'
    exact ⟨⟨hs.writer, ⟨b, rfl, hi⟩, by simpa using hrec, by simp, by simpa using hdb⟩,
      by simpa using ha⟩⟩

/-- `SelectDatabase` under faults that keep step keeps the connection in step with the backend. -/
theorem SelectDatabase_inStep (hc : c.InStep w) (hf : f.KeepsStep) {id : Int}
    {err : Option Error} (h : c.SelectDatabase be w f id = .ok (err, c', w')) : c'.InStep w' := by
  unfold SelectDatabase at h
  split at h
  · cases h; exact hc
  rename_i k hk
  obtain ⟨hs, ha⟩ := hc.socket k hk
  have hserve := be.serve_selectLine (w.session k) id
  cases hready : ((w.session k).authed || !be.requiresAuth)
  · rw [hready, if_neg (by decide)] at hserve
    obtain ⟨h1, ⟨b', h2, -⟩ | ⟨p, e, b', w'', h2⟩⟩ := hs.exchange be hf (lf_not_mem_selectLine id)
      (L := NOAUTH_LINE) (by simp [hserve, Session.reply, hs.replies]) (by decide) (by decide) <;>
    · simp only [h1, Except.ok_bind, h2] at h
      rw [if_pos (.inr (.inr (by decide)))] at h
      cases h
      exact inStep_disconnect hc.user hc.password _
  rw [hready, if_pos rfl] at hserve
  by_cases hid : 0 ≤ id ∧ id < DATABASES
  · rw [if_pos hid] at hserve
    obtain ⟨h1, ⟨b', h2, hi⟩ | ⟨p, e, b', w'', h2⟩⟩ := hs.exchange be hf (lf_not_mem_selectLine id)
      (L := OK_RESPONSE) (by simp [hserve, Session.reply, hs.replies]) (by decide) (by decide)
    · simp only [h1, Except.ok_bind, h2] at h
      rw [if_neg (by decide)] at h
      cases h
      exact hs.inStep_after hk hc.user hc.password hi (by simp [hserve, Session.reply, hs.received])
        (by simp [hserve]) (fun hp => by simpa [hserve, Session.reply] using ha hp)
    · simp only [h1, Except.ok_bind, h2] at h
      rw [if_pos (.inr (.inr (by decide)))] at h
      cases h
      exact inStep_disconnect hc.user hc.password _
  · rw [if_neg hid] at hserve
    obtain ⟨h1, ⟨b', h2, -⟩ | ⟨p, e, b', w'', h2⟩⟩ := hs.exchange be hf (lf_not_mem_selectLine id)
      (L := ERR_LINE) (by simp [hserve, Session.reply, hs.replies]) (by decide) (by decide) <;>
    · simp only [h1, Except.ok_bind, h2] at h
      rw [if_pos (.inr (.inr (by decide)))] at h
      cases h
      exact inStep_disconnect hc.user hc.password _

/-- `CheckConnection` under faults that keep step keeps the connection in step with the backend. -/
theorem CheckConnection_inStep (hc : c.InStep w) (hf : f.KeepsStep) {ok : Bool}
    (h : c.CheckConnection be w f = .ok (ok, c', w')) : c'.InStep w' := by
  unfold CheckConnection at h
  split at h
  · cases h; exact hc
  rename_i k hk
  obtain ⟨hs, ha⟩ := hc.socket k hk
  have hserve := be.serve_ping (w.session k)
  cases hready : ((w.session k).authed || !be.requiresAuth)
  · rw [hready, if_neg (by decide)] at hserve
    obtain ⟨h1, ⟨b', h2, -⟩ | ⟨p, e, b', w'', h2⟩⟩ := hs.exchange be hf
      (show 10 ∉ SHORT_PING_COMMAND by decide)
      (L := NOAUTH_LINE) (by simp [hserve, Session.reply, hs.replies]) (by decide) (by decide) <;>
    · simp only [h1, Except.ok_bind, h2] at h
      rw [if_neg (fun h => absurd h.2.2 (by decide))] at h
      cases h
      exact inStep_disconnect hc.user hc.password _
  · rw [hready, if_pos rfl] at hserve
    obtain ⟨h1, ⟨b', h2, hi⟩ | ⟨p, e, b', w'', h2⟩⟩ := hs.exchange be hf
      (show 10 ∉ SHORT_PING_COMMAND by decide)
      (L := PONG_RESPONSE) (by simp [hserve, Session.reply, hs.replies]) (by decide) (by decide)
    · simp only [h1, Except.ok_bind, h2] at h
      rw [if_pos (by decide)] at h
      cases h
      exact hs.inStep_after hk hc.user hc.password hi (by simp [hserve, Session.reply, hs.received])
        (by simp [hserve, Session.reply, hs.db]) (fun hp => by simpa [hserve, Session.reply] using ha hp)
    · simp only [h1, Except.ok_bind, h2] at h
      rw [if_neg (fun h => absurd h.2.2 (by decide))] at h
      cases h
      exact inStep_disconnect hc.user hc.password _

/-- `authenticate` under faults that keep step, on a socket in step with the connection but for the
AUTH, leaves the connection in step with the backend. -/
theorem authenticate_inStep {k : Nat} (hu : 10 ∉ c.authUser) (hp : 10 ∉ c.authPassword)
    (hk : c.connection = some k) (hs : c.OnSocket w k) (hf : f.KeepsStep) {err : Option Error}
    (h : c.authenticate be w f = .ok (err, c', w')) : c'.InStep w' := by
  unfold authenticate at h
  split at h
  · rename_i hn; exact absurd (hk.symm.trans hn) (Option.some_ne_none k)
  split at h
  · cases h
    exact ⟨hu, hp, fun k' hk' => by cases hk.symm.trans hk'; exact ⟨hs, absurd ‹_›⟩⟩
  obtain ⟨args, ha, hl⟩ := authCommand_eq hu hp
  have hserve := be.serve_auth (w.session k) args
  rw [← ha] at hserve
  cases hacc : be.accepts args
  · rw [hacc, if_neg (by decide)] at hserve
    obtain ⟨h1, ⟨b', h2, -⟩ | ⟨p, e, b', w'', h2⟩⟩ := hs.exchange be hf hl
      (L := ERR_LINE) (by simp [hserve, Session.reply, hs.replies]) (by decide) (by decide) <;>
    · simp only [h1, Except.ok_bind, h2] at h
      rw [if_pos (.inr (.inr (by decide)))] at h
      cases h
      exact inStep_disconnect hu hp _
  · rw [hacc, if_pos rfl] at hserve
    obtain ⟨h1, ⟨b', h2, hi⟩ | ⟨p, e, b', w'', h2⟩⟩ := hs.exchange be hf hl
      (L := OK_RESPONSE) (by simp [hserve, Session.reply, hs.replies]) (by decide) (by decide)
    · simp only [h1, Except.ok_bind, h2] at h
      rw [if_neg (by decide)] at h
      cases h
      exact hs.inStep_after hk hu hp hi (by simp [hserve, Session.reply, hs.received])
        (by simp [hserve, Session.reply, hs.db]) (fun _ => by simp [hserve])
    · simp only [h1, Except.ok_bind, h2] at h
      rw [if_pos (.inr (.inr (by decide)))] at h
      cases h
      exact inStep_disconnect hu hp _

/-- `ReconnectIfNecessary` under faults that keep step keeps the connection in step with the backend: a
probe that says connected changes nothing, and a new socket carries a fresh session that
`authenticate` brings in step. -/
theorem ReconnectIfNecessary_inStep (hc : c.InStep w) (hf : f.KeepsStep) {err : Option Error}
    (h : c.ReconnectIfNecessary be w f = .ok (err, c', w')) : c'.InStep w' := by
  obtain ⟨ok, hok⟩ := hc.isConnected (f := f)
  unfold ReconnectIfNecessary at h
  rw [hok] at h
  cases ok
  · dsimp only at h
    split at h
    · cases h; exact ⟨hc.user, hc.password, fun _ hk => by cases hk⟩
    · refine authenticate_inStep (k := w.next) ?_ ?_ ?_ ?_ hf h
      exacts [hc.user, hc.password, rfl, ⟨rfl, ⟨_, rfl, Reader.idle_new⟩, by simp [Session.fresh],
        by simp [Session.fresh], by simp [Session.fresh]⟩]
  · cases h; exact hc

end

end Connection

/-- Every operation under faults that keep step keeps the connection in step with the backend. -/
theorem Op.run_inStep {be : Backend} {f : Faults} {op : Op} {s s' : Connection × World}
    (hc : s.1.InStep s.2) (hf : f.KeepsStep) (h : op.run be f s = .ok s') : s'.1.InStep s'.2 := by
  obtain ⟨c, w⟩ := s
  cases op with
  | reconnectIfNecessary =>
    obtain ⟨⟨_, _, _⟩, hr, rfl⟩ := Except.map_eq_ok.1 h
    exact Connection.ReconnectIfNecessary_inStep hc hf hr
  | selectDatabase id =>
    obtain ⟨⟨_, _, _⟩, hr, rfl⟩ := Except.map_eq_ok.1 h
    exact Connection.SelectDatabase_inStep hc hf hr
  | checkConnection =>
    obtain ⟨⟨_, _, _⟩, hr, rfl⟩ := Except.map_eq_ok.1 h
    exact Connection.CheckConnection_inStep hc hf hr
  | isConnected =>
    obtain ⟨ok, hok⟩ := Connection.InStep.isConnected (f := f) hc
    cases h
    rw [hok]
    exact hc
  | disconnect => cases h; exact Connection.inStep_disconnect hc.user hc.password w

/-! ## Runs -/

/-- The states reached from `s₀` by operations whose faults satisfy `F`, none of which panics. -/
inductive Runs (be : Backend) (F : Faults → Prop) (s₀ : Connection × World) :
    Connection × World → Prop
  | refl : Runs be F s₀ s₀
  | step {s s' : Connection × World} (op : Op) (f : Faults) :
      F f → Runs be F s₀ s → op.run be f s = .ok s' → Runs be F s₀ s'

/-- A run from `NewConnection` reaches a state of `Reachable`. -/
theorem Runs.reachable {be : Backend} {F : Faults → Prop} {u p : List UInt8} {w : World}
    {s : Connection × World} (h : Runs be F (NewConnection u p, w) s) : Reachable be s := by
  induction h with
  | refl => exact .init u p w
  | step op f _ _ hrun ih => exact .step op f ih hrun

/-- A run whose faults keep step keeps the connection in step from any state in step. -/
theorem Runs.inStep_from {be : Backend} {s₀ s : Connection × World} (h₀ : s₀.1.InStep s₀.2)
    (h : Runs be Faults.KeepsStep s₀ s) : s.1.InStep s.2 := by
  induction h with
  | refl => exact h₀
  | step op f hf _ hrun ih => exact Op.run_inStep ih hf hrun

/-- On every run from `NewConnection`, with credentials that hold no `\n`, whose faults keep step,
whatever each probe and dial does: the connection is in step with the backend. Its reader and
writer are on its socket, nothing is pending either way, the session on the socket has selected
the connection's `DatabaseId`, and it has accepted the connection's AUTH when there is a
password. -/
theorem Runs.inStep {be : Backend} {u p : List UInt8} {w : World} {s : Connection × World}
    (hu : 10 ∉ u) (hp : 10 ∉ p) (h : Runs be Faults.KeepsStep (NewConnection u p, w) s) :
    s.1.InStep s.2 :=
  @Runs.inStep_from be (NewConnection u p, w) s ⟨hu, hp, fun _ hk => by cases hk⟩ h

/-- A connection with no password dials a socket against a backend without AUTH, and the probe
then finds it connected: it is in step on socket `0`. -/
theorem Runs.inStep_dialled : ∃ s : Connection × World,
    Runs ⟨false, fun _ => false⟩ Faults.KeepsStep (NewConnection [] [], ⟨0, fun _ => Session.fresh⟩) s ∧
    s.1.connection = some 0 ∧ s.1.InStep s.2 := by
  have hf : Faults.KeepsStep ⟨.timeout, none, none, none⟩ := ⟨rfl, fun _ _ h => by cases h⟩
  have h : Runs ⟨false, fun _ => false⟩ Faults.KeepsStep
      (NewConnection [] [], ⟨0, fun _ => Session.fresh⟩) _ :=
    .step .isConnected _ hf (.step .reconnectIfNecessary _ hf .refl rfl) rfl
  exact ⟨_, h, rfl, Runs.inStep (by decide) (by decide) h⟩

/-! ## A reply cut before its end

`Faults.KeepsStep` asks of a failing read that it deliver nothing. A read that the deadline cuts
right after a reply line and before its `\r\n` returns the line with no error
(`Reader.ReadLine_end`), and the `\r\n` stays with the session, to be read as the next reply. -/

/-- The read after a command that the session has answered with one line, cut by a socket error
right before the line's `\r\n`: that line, with no error, the reader idle again, and the `\r\n`
left with the session. -/
theorem readLine_cut {k : Nat} {b : Reader} {w : World} {s : Session} {line : List UInt8}
    {e : Error} (hb : b.Idle) (hr : s.replies = line ++ [13, 10]) (hl : 10 ∉ line)
    (hne : line ≠ []) (hs : line.length < 4096) (he : e ≠ .bufferFull) :
    ∃ b', readLine (some (k, b)) (w.set k s) (some (line.length, e)) =
      .ok (line, false, none, (k, b'), w.set k { s with replies := [13, 10] }) ∧ b'.Idle := by
  have hu : (b.attach (s.inbound (some (line.length, e)))).unread = line := by
    simp [Reader.attach, hb.err, Reader.unread, hb.buf, Session.inbound, Socket.bytes, hr, hne]
  obtain ⟨b', h1, h2, h3, h4⟩ := Reader.ReadLine_end (b := b.attach (s.inbound (some (line.length, e))))
    (by simp [Reader.attach, hb.err])
    (by simpa [Reader.attach, hb.err, Session.inbound] using he) (by rwa [hu]) (by rwa [hu])
    (by rw [hu]; simpa [Reader.attach, hb.err, hb.size] using hs)
  rw [hu] at h1
  obtain ⟨hbuf, hbytes⟩ := List.append_eq_nil.1 h2
  refine ⟨b', ?_, hbuf, h3, by simpa [Reader.attach, hb.err, hb.size] using h4⟩
  simp [readLine, h1, hb.err, hbytes, Session.undelivered, hr]

namespace Connection

end Connection

end Rmux
