import Rmux.Connection.Basic

/-!
# The connection's lifecycle over every run

What holds of a `Connection` after any sequence of operations, whatever the environment does
with each dial, write and read. `Reachable.consistent`: the socket, the reader and the writer
are there together or not at all, and with no socket the database is `0`. Each operation keeps
this shape (one lemma per operation, from the forms its result can take), and a run keeps it by
`Reachable.invariant`. On a connection of this shape, `Op.run_ok_of_consistent`: no operation
panics. `SelectDatabase_records` says what a selection leaves in `DatabaseId` under any faults,
and `Connection.Consistent.failures_disconnect` that every failure but a failed write
disconnects, while a failed write keeps the socket.
-/

namespace Rmux

/-- The connection's fields agree: the socket, the reader and the writer are all there or all
nil, and with no socket the database is `0`. -/
structure Connection.Consistent (c : Connection) : Prop where
  reader_iff : c.connection = none ↔ c.Reader = none
  writer_iff : c.Reader = none ↔ c.Writer = none
  db_zero : c.connection = none → c.DatabaseId = 0

namespace Connection

section
variable {be : Backend} {c c' : Connection} {w w' : World} {f : Faults}

theorem consistent_new (authUser authPassword : List UInt8) (w : World) :
    (NewConnection authUser authPassword, w).1.Consistent :=
  ⟨by simp [NewConnection], by simp [NewConnection], fun _ => rfl⟩

theorem consistent_disconnect (c : Connection) : c.Disconnect.Consistent :=
  ⟨by simp [Disconnect], by simp [Disconnect], fun _ => rfl⟩

theorem Consistent.setReader (hc : c.Consistent) (h : c.connection ≠ none) (r : Nat × Rmux.Reader) :
    ({ c with Reader := some r } : Connection).Consistent :=
  ⟨by simp [h], by simpa using (hc.writer_iff.not.1 (hc.reader_iff.not.1 h)), fun h' => absurd h' h⟩

theorem Consistent.setDatabaseId (hc : c.Consistent) (h : c.connection ≠ none) (id : Int) :
    ({ c with DatabaseId := id } : Connection).Consistent :=
  ⟨hc.reader_iff, hc.writer_iff, fun h' => absurd h' h⟩

/-- `authenticate` keeps the fields consistent. -/
theorem authenticate_consistent (hc : c.Consistent) {err : Option Error}
    (h : c.authenticate be w f = .ok (err, c', w')) : c'.Consistent := by
  unfold authenticate at h
  split at h
  · cases h; exact hc
  · rename_i k hk
    split at h
    · cases h; exact hc
    · obtain ⟨⟨err₁, w₁⟩, -, h⟩ := Except.bind_eq_ok.1 h
      dsimp only at h
      split at h
      · cases h; exact hc
      · obtain ⟨⟨line, isPrefix, err₂, reader, w₂⟩, -, h⟩ := Except.bind_eq_ok.1 h
        dsimp only at h
        split at h <;> cases h
        · exact consistent_disconnect _
        · exact hc.setReader (by simp [hk]) _

/-- `ReconnectIfNecessary` keeps the fields consistent. -/
theorem ReconnectIfNecessary_consistent (hc : c.Consistent) {err : Option Error}
    (h : c.ReconnectIfNecessary be w f = .ok (err, c', w')) : c'.Consistent := by
  unfold ReconnectIfNecessary at h
  split at h
  · cases h; exact hc
  · split at h
    · cases h; exact ⟨by simp [Disconnect], by simp [Disconnect], fun _ => rfl⟩
    · exact authenticate_consistent ⟨by simp, by simp, by simp⟩ h

/-- `SelectDatabase` keeps the fields consistent. -/
theorem SelectDatabase_consistent (hc : c.Consistent) {id : Int} {err : Option Error}
    (h : c.SelectDatabase be w f id = .ok (err, c', w')) : c'.Consistent := by
  unfold SelectDatabase at h
  split at h
  · cases h; exact hc
  · rename_i k hk
    obtain ⟨⟨err₁, w₁⟩, -, h⟩ := Except.bind_eq_ok.1 h
    dsimp only at h
    split at h
    · cases h; exact hc
    · obtain ⟨⟨line, isPrefix, err₂, reader, w₂⟩, -, h⟩ := Except.bind_eq_ok.1 h
      dsimp only at h
      split at h <;> cases h
      · exact consistent_disconnect _
      · exact (hc.setReader (by simp [hk]) _).setDatabaseId (by simp [hk]) _

/-- A write answers the error of its fault, and no error when there is none. -/
theorem WriteLine_err {line : List UInt8} {writer : Option Nat} {fault : Option (Nat × Error)}
    {err : Option Error} (h : WriteLine be line writer w fault = .ok (err, w')) :
    err = fault.map Prod.snd := by
  unfold WriteLine at h
  split at h
  · cases h
  · split at h <;> cases h <;> rfl

/-- `CheckConnection` keeps the fields consistent. -/
theorem CheckConnection_consistent (hc : c.Consistent) {ok : Bool}
    (h : c.CheckConnection be w f = .ok (ok, c', w')) : c'.Consistent := by
  unfold CheckConnection at h
  split at h
  · cases h; exact hc
  · rename_i k hk
    obtain ⟨⟨err₁, w₁⟩, -, h⟩ := Except.bind_eq_ok.1 h
    dsimp only at h
    split at h
    · cases h; exact consistent_disconnect _
    · obtain ⟨⟨line, isPrefix, err₂, reader, w₂⟩, -, h⟩ := Except.bind_eq_ok.1 h
      dsimp only at h
      split at h <;> cases h
      · exact hc.setReader (by simp [hk]) _
      · exact consistent_disconnect _

end

end Connection

/-- Every operation keeps the connection's fields consistent. -/
theorem Op.run_consistent {be : Backend} {f : Faults} {op : Op} {s s' : Connection × World}
    (hc : s.1.Consistent) (h : op.run be f s = .ok s') : s'.1.Consistent := by
  obtain ⟨c, w⟩ := s
  cases op with
  | reconnectIfNecessary =>
    obtain ⟨⟨_, _, _⟩, hr, rfl⟩ := Except.map_eq_ok.1 h
    exact Connection.ReconnectIfNecessary_consistent hc hr
  | selectDatabase id =>
    obtain ⟨⟨_, _, _⟩, hr, rfl⟩ := Except.map_eq_ok.1 h
    exact Connection.SelectDatabase_consistent hc hr
  | checkConnection =>
    obtain ⟨⟨_, _, _⟩, hr, rfl⟩ := Except.map_eq_ok.1 h
    exact Connection.CheckConnection_consistent hc hr
  | isConnected => cases h; exact hc
  | disconnect => cases h; exact Connection.consistent_disconnect c

/-- In every state a run from `NewConnection` reaches, under any outcome of each dial, write and
read, the socket is nil exactly when the reader is, the reader exactly when the writer is, and
with no socket the database is `0`. -/
theorem Reachable.consistent {be : Backend} {s : Connection × World} (h : Reachable be s) :
    s.1.Consistent :=
  h.invariant (fun s => s.1.Consistent) Connection.consistent_new fun _ _ _ _ => Op.run_consistent


/-- A connection with no password, dialled once by `ReconnectIfNecessary`, is reachable and
consistent. -/
theorem Reachable.consistent_dialled :
    Reachable ⟨false, fun _ => false⟩ (⟨some 0, 0, some (0, .new), some 0, [], []⟩,
      ⟨1, Function.update (fun _ => Session.fresh) 0 Session.fresh⟩) ∧
      Connection.Consistent ⟨some 0, 0, some (0, .new), some 0, [], []⟩ := by
  have h : Reachable ⟨false, fun _ => false⟩ (⟨some 0, 0, some (0, .new), some 0, [], []⟩,
      ⟨1, Function.update (fun _ => Session.fresh) 0 Session.fresh⟩) :=
    .step .reconnectIfNecessary ⟨.timeout, none, none, none⟩ (.init [] [] ⟨0, fun _ => Session.fresh⟩) rfl
  exact ⟨h, Reachable.consistent h⟩

/-! ## No panic

The operations dereference the reader and the writer only after they have found a socket, and in
a consistent connection the three are nil together: no operation panics from a reachable state,
under any faults. -/

/-- A write to a writer that is there raises no panic. -/
theorem WriteLine_ok (be : Backend) (line : List UInt8) (k : Nat) (w : World)
    (fault : Option (Nat × Error)) : ∃ r, WriteLine be line (some k) w fault = .ok r := by
  obtain _ | ⟨n, e⟩ := fault <;> exact ⟨_, rfl⟩

/-- A read from a reader that is there raises no panic. -/
theorem readLine_ok (r : Nat × Reader) (w : World) (fault : Option (Nat × Error)) :
    ∃ x, readLine (some r) w fault = .ok x := ⟨_, rfl⟩

namespace Connection

section
variable {be : Backend} {c : Connection} {w : World} {f : Faults}

/-- On a consistent connection with a socket, the writer and the reader are there. -/
theorem Consistent.some_of_connection (hc : c.Consistent) {k : Nat} (hk : c.connection = some k) :
    (∃ kw, c.Writer = some kw) ∧ ∃ r, c.Reader = some r := by
  have hr : c.Reader ≠ none := hc.reader_iff.not.1 (by simp [hk])
  exact ⟨Option.ne_none_iff_exists'.1 (hc.writer_iff.not.1 hr), Option.ne_none_iff_exists'.1 hr⟩

theorem authenticate_ok (hc : c.Consistent) : ∃ r, c.authenticate be w f = .ok r := by
  unfold authenticate
  split
  · exact ⟨_, rfl⟩
  rename_i k hk
  obtain ⟨⟨kw, hw⟩, ⟨r, hr⟩⟩ := hc.some_of_connection hk
  split
  · exact ⟨_, rfl⟩
  obtain ⟨⟨err, w₁⟩, h1⟩ := WriteLine_ok be c.authCommand kw w f.write
  obtain ⟨x, h2⟩ := readLine_ok r w₁ f.read
  rw [hw, h1, Except.ok_bind]
  cases err
  · rw [hr]
    simp only [h2, Except.ok_bind]
    split <;> exact ⟨_, rfl⟩
  · exact ⟨_, rfl⟩

theorem SelectDatabase_ok (hc : c.Consistent) (id : Int) :
    ∃ r, c.SelectDatabase be w f id = .ok r := by
  unfold SelectDatabase
  split
  · exact ⟨_, rfl⟩
  rename_i k hk
  obtain ⟨⟨kw, hw⟩, ⟨r, hr⟩⟩ := hc.some_of_connection hk
  obtain ⟨⟨err, w₁⟩, h1⟩ := WriteLine_ok be (selectLine id) kw w f.write
  obtain ⟨x, h2⟩ := readLine_ok r w₁ f.read
  rw [hw, h1, Except.ok_bind]
  cases err
  · rw [hr]
    simp only [h2, Except.ok_bind]
    split <;> exact ⟨_, rfl⟩
  · exact ⟨_, rfl⟩

theorem CheckConnection_ok (hc : c.Consistent) : ∃ r, c.CheckConnection be w f = .ok r := by
  unfold CheckConnection
  split
  · exact ⟨_, rfl⟩
  rename_i k hk
  obtain ⟨⟨kw, hw⟩, ⟨r, hr⟩⟩ := hc.some_of_connection hk
  obtain ⟨⟨err, w₁⟩, h1⟩ := WriteLine_ok be SHORT_PING_COMMAND kw w f.write
  obtain ⟨x, h2⟩ := readLine_ok r w₁ f.read
  rw [hw, h1, Except.ok_bind]
  cases err
  · rw [hr]
    simp only [h2, Except.ok_bind]
    split <;> exact ⟨_, rfl⟩
  · exact ⟨_, rfl⟩

theorem ReconnectIfNecessary_ok (c : Connection) : ∃ r, c.ReconnectIfNecessary be w f = .ok r := by
  unfold ReconnectIfNecessary
  split
  · exact ⟨_, rfl⟩
  · split
    · exact ⟨_, rfl⟩
    · exact authenticate_ok ⟨by simp, by simp, by simp⟩

end

end Connection

/-- On a consistent connection, the shape of every state a run from `NewConnection` reaches
(`Reachable.consistent`), every operation under every outcome of its probe, dial, write and read
returns without a panic: a nil reader or writer is never dereferenced. -/
theorem Op.run_ok_of_consistent {be : Backend} (f : Faults) (op : Op) {s : Connection × World}
    (hc : s.1.Consistent) : ∃ s', op.run be f s = .ok s' := by
  obtain ⟨c, w⟩ := s
  cases op with
  | reconnectIfNecessary =>
    obtain ⟨r, hr⟩ : ∃ r, c.ReconnectIfNecessary be w f = .ok r :=
      Connection.ReconnectIfNecessary_ok c
    exact ⟨_, by simp only [Op.run, hr]; rfl⟩
  | selectDatabase id =>
    obtain ⟨r, hr⟩ : ∃ r, c.SelectDatabase be w f id = .ok r := Connection.SelectDatabase_ok hc id
    exact ⟨_, by simp only [Op.run, hr]; rfl⟩
  | checkConnection =>
    obtain ⟨r, hr⟩ : ∃ r, c.CheckConnection be w f = .ok r := Connection.CheckConnection_ok hc
    exact ⟨_, by simp only [Op.run, hr]; rfl⟩
  | isConnected | disconnect => exact ⟨_, rfl⟩

/-- A `SelectDatabase` on a connection dialled once, whose read the deadline cuts after two bytes,
returns. -/
theorem Op.run_ok_cut_read :
    ∃ s', Op.run ⟨false, fun _ => false⟩ ⟨.timeout, none, none, some (2, .timeout)⟩ (.selectDatabase 3)
      (⟨some 0, 0, some (0, .new), some 0, [], []⟩, ⟨1, fun _ => Session.fresh⟩) = .ok s' :=
  Op.run_ok_of_consistent _ _ ⟨by simp, by simp, by simp⟩

/-! ## Failed writes that keep the socket

`SelectDatabase` and `authenticate` return a failed write's error without disconnecting, where
`CheckConnection` disconnects. A failed write may still have delivered its line, so the session
on the socket the connection keeps need not be the one it believes. -/

/-- From a connection dialled once, a `SelectDatabase` whose write fails returns the error and
keeps the socket, reader and writer, where a `CheckConnection` whose write fails the same way
disconnects; and a first `ReconnectIfNecessary` whose AUTH write fails returns the error with the
new socket kept. -/
theorem SelectDatabase_write_fault :
    let be : Backend := ⟨false, fun _ => false⟩
    let c : Connection := ⟨some 0, 0, some (0, .new), some 0, [], []⟩
    let w : World := ⟨1, Function.update (fun _ => Session.fresh) 0 Session.fresh⟩
    let f : Faults := ⟨.timeout, none, some (0, .timeout), none⟩
    Reachable be (c, w) ∧ (∃ w', c.SelectDatabase be w f 1 = .ok (some .timeout, c, w')) ∧
      (∃ w', c.CheckConnection be w f = .ok (false, c.Disconnect, w')) ∧
      ∃ c' w', (NewConnection [] (bytesOf "secret")).ReconnectIfNecessary ⟨true, fun _ => true⟩
        ⟨0, fun _ => Session.fresh⟩ f = .ok (some .timeout, c', w') ∧ c'.connection = some 0 := by
  intro be c w f
  exact ⟨.step .reconnectIfNecessary ⟨.timeout, none, none, none⟩
    (.init [] [] ⟨0, fun _ => Session.fresh⟩) rfl, ⟨_, rfl⟩, ⟨_, rfl⟩, _, _, rfl, rfl⟩

/-- Two runs from `NewConnection` that leave the connection out of step with the session on its
socket. With a password configured, a first `ReconnectIfNecessary` whose AUTH write delivers
nothing returns the write's error and keeps the socket; a second one, whose passive probe times
out, returns nil, and the session on that socket has answered no AUTH. With no password, a
`SelectDatabase 5` whose write fails after delivering the whole `select 5` line returns the error
with `DatabaseId` still `0`, while the session has selected database `5`. -/
theorem ReconnectIfNecessary_unauthenticated :
    (∃ c₁ w₁ c₂ w₂,
      (NewConnection [] (bytesOf "secret")).ReconnectIfNecessary ⟨true, fun _ => true⟩
        ⟨0, fun _ => Session.fresh⟩ ⟨.timeout, none, some (0, .timeout), none⟩ =
        .ok (some .timeout, c₁, w₁) ∧
      c₁.ReconnectIfNecessary ⟨true, fun _ => true⟩ w₁ ⟨.timeout, none, none, none⟩ =
        .ok (none, c₂, w₂) ∧
      c₂.connection = some 0 ∧ c₂.authPassword ≠ [] ∧ (w₂.session 0).authed = false) ∧
    let c : Connection := ⟨some 0, 0, some (0, .new), some 0, [], []⟩
    let w : World := ⟨1, Function.update (fun _ => Session.fresh) 0 Session.fresh⟩
    Reachable ⟨false, fun _ => false⟩ (c, w) ∧
      ∃ w', c.SelectDatabase ⟨false, fun _ => false⟩ w ⟨.timeout, none, some (10, .timeout), none⟩ 5 =
        .ok (some .timeout, c, w') ∧ c.DatabaseId = 0 ∧ (w'.session 0).db = 5 := by
  have hl : selectLine 5 = bytesOf "select 5" := by
    simp [selectLine, formatInt, decimal_of_lt_ten]; rfl
  refine ⟨⟨_, _, _, _, rfl, rfl, rfl, by decide, rfl⟩, .step .reconnectIfNecessary
    ⟨.timeout, none, none, none⟩ (.init [] [] ⟨0, fun _ => Session.fresh⟩) rfl, _, rfl, rfl, ?_⟩
  simp only [hl]
  rfl

/-! ## Failures that disconnect

The failing runs above all go through a failed write, which keeps the socket. Every other failure
disconnects: with no write fault, an operation that answers an error, or a `CheckConnection` that
answers false, leaves the connection with no socket, no reader, no writer and database `0`. -/

namespace Connection

section
variable {be : Backend} {c c' : Connection} {w w' : World} {f : Faults}

/-- A consistent connection with no socket is the disconnected one. -/
theorem Consistent.eq_disconnect (hc : c.Consistent) (hn : c.connection = none) :
    c = c.Disconnect := by
  have hr := hc.reader_iff.1 hn
  cases c
  simp only [Disconnect, mk.injEq, and_true]
  exact ⟨hn, hc.db_zero hn, hr, hc.writer_iff.1 hr⟩

/-- A write with no fault answers no error. -/
theorem WriteLine_no_fault {line : List UInt8} {writer : Option Nat} {err : Option Error}
    (h : WriteLine be line writer w none = .ok (err, w')) : err = none :=
  WriteLine_err h

/-- A write under a fault answers an error. -/
theorem WriteLine_fails {line : List UInt8} {writer : Option Nat} {fault : Option (Nat × Error)}
    {err : Option Error} (hf : fault ≠ none) (h : WriteLine be line writer w fault = .ok (err, w')) :
    ∃ e, err = some e := by
  obtain ⟨⟨n, e⟩, rfl⟩ := Option.ne_none_iff_exists'.1 hf
  exact ⟨e, WriteLine_err h⟩

/-- A probe that finds the socket down leaves the world as it was. -/
theorem IsConnected_false {w₁ : World} (h : c.IsConnected w f = (false, w₁)) : w₁ = w := by
  unfold IsConnected at h
  split at h
  · cases h; rfl
  · dsimp only at h
    split at h
    · exact (Prod.mk.inj h).2.symm
    · cases h

/-- An `authenticate` whose write fails leaves the connection as it was. -/
theorem authenticate_write_fails_keeps (hf : f.write ≠ none) {err : Option Error}
    (h : c.authenticate be w f = .ok (err, c', w')) : c' = c := by
  unfold authenticate at h
  split at h
  · cases h; rfl
  split at h
  · cases h; rfl
  obtain ⟨⟨err₁, w₁⟩, hW, h⟩ := Except.bind_eq_ok.1 h
  obtain ⟨e, rfl⟩ := WriteLine_fails hf hW
  cases h; rfl

/-- A `SelectDatabase` whose write fails leaves the connection as it was. -/
theorem SelectDatabase_write_fails_keeps (hf : f.write ≠ none) {id : Int} {err : Option Error}
    (h : c.SelectDatabase be w f id = .ok (err, c', w')) : c' = c := by
  unfold SelectDatabase at h
  split at h
  · cases h; rfl
  obtain ⟨⟨err₁, w₁⟩, hW, h⟩ := Except.bind_eq_ok.1 h
  obtain ⟨e, rfl⟩ := WriteLine_fails hf hW
  cases h; rfl

/-- A `ReconnectIfNecessary` whose dial goes through and whose AUTH write fails answers the error
on the socket it dialled, which it keeps. -/
theorem ReconnectIfNecessary_write_fails_keeps (hd : f.dial = none) (hf : f.write ≠ none)
    {e : Error} (h : c.ReconnectIfNecessary be w f = .ok (some e, c', w')) :
    c'.connection = some w.next := by
  unfold ReconnectIfNecessary at h
  split at h
  · cases h
  rename_i w₁ hw
  cases IsConnected_false hw
  simp only [hd] at h
  rw [authenticate_write_fails_keeps hf h]

/-- `authenticate` on a socket, with no write fault, fails only by disconnecting. -/
theorem authenticate_fails_disconnects {k : Nat} {e : Error} (hk : c.connection = some k)
    (hf : f.write = none) (h : c.authenticate be w f = .ok (some e, c', w')) : c' = c'.Disconnect := by
  unfold authenticate at h
  rw [hk] at h
  dsimp only at h
  split at h
  · cases h
  obtain ⟨⟨err₁, w₁⟩, hW, h⟩ := Except.bind_eq_ok.1 h
  rw [hf] at hW
  cases WriteLine_no_fault hW
  obtain ⟨⟨line, isPrefix, err₂, reader, w₂⟩, -, h⟩ := Except.bind_eq_ok.1 h
  dsimp only at h
  split at h <;> cases h
  rfl

/-- `ReconnectIfNecessary` with no write fault fails only by disconnecting. -/
theorem ReconnectIfNecessary_fails_disconnects {e : Error} (hf : f.write = none)
    (h : c.ReconnectIfNecessary be w f = .ok (some e, c', w')) : c' = c'.Disconnect := by
  unfold ReconnectIfNecessary at h
  split at h
  · cases h
  dsimp only at h
  split at h
  · cases h; rfl
  · exact authenticate_fails_disconnects rfl hf h

/-- `SelectDatabase` on a consistent connection with no write fault fails only by disconnecting. -/
theorem SelectDatabase_fails_disconnects {id : Int} {e : Error} (hc : c.Consistent)
    (hf : f.write = none) (h : c.SelectDatabase be w f id = .ok (some e, c', w')) :
    c' = c'.Disconnect := by
  unfold SelectDatabase at h
  split at h
  · rename_i hn; cases h; exact hc.eq_disconnect hn
  obtain ⟨⟨err₁, w₁⟩, hW, h⟩ := Except.bind_eq_ok.1 h
  rw [hf] at hW
  cases WriteLine_no_fault hW
  obtain ⟨⟨line, isPrefix, err₂, reader, w₂⟩, -, h⟩ := Except.bind_eq_ok.1 h
  dsimp only at h
  split at h <;> cases h
  rfl

/-- `CheckConnection` on a consistent connection answers false only by disconnecting, a failed
write included. -/
theorem CheckConnection_fails_disconnects (hc : c.Consistent)
    (h : c.CheckConnection be w f = .ok (false, c', w')) : c' = c'.Disconnect := by
  unfold CheckConnection at h
  split at h
  · rename_i hn; cases h; exact hc.eq_disconnect hn
  obtain ⟨⟨err₁, w₁⟩, -, h⟩ := Except.bind_eq_ok.1 h
  dsimp only at h
  split at h
  · cases h; rfl
  obtain ⟨⟨line, isPrefix, err₂, reader, w₂⟩, -, h⟩ := Except.bind_eq_ok.1 h
  dsimp only at h
  split at h <;> cases h
  rfl

end

end Connection

/-- **Failures that disconnect.** On a consistent connection, the shape of every state a run from
`NewConnection` reaches (`Reachable.consistent`), under any faults: a `CheckConnection` that
answers false leaves it disconnected, a failed write included; a `ReconnectIfNecessary` or a
`SelectDatabase` that answers an error leaves it disconnected (no socket, reader or writer, and
database `0`) unless its write failed. A failed write keeps the socket: `SelectDatabase` leaves the
connection as it was, and `ReconnectIfNecessary`, once its dial has gone through, keeps the
socket it dialled. -/
theorem Connection.Consistent.failures_disconnect {be : Backend} {c : Connection} {w : World}
    {f : Faults} (hc : c.Consistent) :
    (∀ e c' w', c.ReconnectIfNecessary be w f = .ok (some e, c', w') →
        (f.write = none → c' = c'.Disconnect) ∧
          (f.dial = none → f.write ≠ none → c'.connection = some w.next)) ∧
      (∀ id e c' w', c.SelectDatabase be w f id = .ok (some e, c', w') →
        (f.write = none → c' = c'.Disconnect) ∧ (f.write ≠ none → c' = c)) ∧
      (∀ c' w', c.CheckConnection be w f = .ok (false, c', w') → c' = c'.Disconnect) :=
  ⟨fun _ _ _ h => ⟨fun hf => Connection.ReconnectIfNecessary_fails_disconnects hf h,
      fun hd hf => Connection.ReconnectIfNecessary_write_fails_keeps hd hf h⟩,
    fun _ _ _ _ h => ⟨fun hf => Connection.SelectDatabase_fails_disconnects hc hf h,
      fun hf => Connection.SelectDatabase_write_fails_keeps hf h⟩,
    fun _ _ => Connection.CheckConnection_fails_disconnects hc⟩

/-- On a connection dialled once and selected into database `3`, under faults whose write fails. -/
theorem Connection.Consistent.failures_disconnect_write_fault :
    let be : Backend := ⟨true, fun _ => true⟩
    let c : Connection := ⟨some 0, 3, some (0, .new), some 0, [], []⟩
    let w : World := ⟨1, fun _ => Session.fresh⟩
    let f : Faults := ⟨.timeout, none, some (0, .timeout), none⟩
    (∀ e c' w', c.ReconnectIfNecessary be w f = .ok (some e, c', w') →
        (f.write = none → c' = c'.Disconnect) ∧
          (f.dial = none → f.write ≠ none → c'.connection = some w.next)) ∧
      (∀ id e c' w', c.SelectDatabase be w f id = .ok (some e, c', w') →
        (f.write = none → c' = c'.Disconnect) ∧ (f.write ≠ none → c' = c)) ∧
      (∀ c' w', c.CheckConnection be w f = .ok (false, c', w') → c' = c'.Disconnect) :=
  Connection.Consistent.failures_disconnect ⟨by simp, by simp, by simp⟩

end Rmux
