import LuaSession.Proofs.Stream.Lines

/-!
# Streams that fail as they like

A stream to write to whose every write and flush may fail, together with a stream to read from that
may end or fail after any byte.

* `Outbound.putLine_writer`: the streams of a `World` are such streams.
* `Link.read_cases`: what a reading takes.
-/

namespace LuaSession.Stream

/-- A stream to write to, by what each write and each flush comes to. Any of them may fail, and those
after it may do as they like. -/
structure Writer (S : Type) where
  write : String → S → Except String Unit × S
  flush : S → Except String Unit × S

variable {S : Type}

/-- One write. Writing nothing is no write. -/
def Writer.put (w : Writer S) (text : String) (s : S) : Except TransportError Unit × S :=
  if text.isEmpty then (.ok (), s)
  else
    match w.write text s with
    | (.error f, s) => (.error (.write f), s)
    | (.ok (), s) => (.ok (), s)

/-- A line: its text, a line feed and a flush, up to the first that fails. -/
def Writer.putLine (w : Writer S) (line : String) (s : S) : Except TransportError Unit × S :=
  match w.put line s with
  | (.error e, s) => (.error e, s)
  | (.ok (), s) =>
    match w.put "\n" s with
    | (.error e, s) => (.error e, s)
    | (.ok (), s) =>
      match w.flush s with
      | (.error f, s) => (.error (.write f), s)
      | (.ok (), s) => (.ok (), s)

/-- The stream whose writes fail from some number on. -/
def Outbound.writer : Writer Outbound where
  write text o :=
    match o.limit with
    | some (n, f) =>
      if o.writes.length < n then (.ok (), { o with writes := o.writes ++ [text] }) else (.error f, o)
    | none => (.ok (), { o with writes := o.writes ++ [text] })
  flush o :=
    match o.flushFailure with
    | some f => (.error f, o)
    | none => (.ok (), o)

theorem Outbound.put_writer (o : Outbound) (text : String) : o.put text = writer.put text o := by
  unfold put Writer.put writer
  split
  · rfl
  · dsimp only
    rcases o.limit with _ | ⟨n, f⟩
    · rfl
    · dsimp only
      split
      · rfl
      · rfl

/-- A line is written to it as to any such stream. -/
theorem Outbound.putLine_writer (o : Outbound) (line : String) :
    o.putLine line = writer.putLine line o := by
  unfold putLine Writer.putLine
  rw [put_writer]
  rcases writer.put line o with ⟨e | _, o₁⟩
  · rfl
  · dsimp only
    rw [put_writer]
    rcases writer.put "\n" o₁ with ⟨e | _, o₂⟩
    · rfl
    · unfold writer
      dsimp only
      cases o₂.flushFailure <;> rfl

/-- A stream to read from and one to write to. -/
structure Link (S : Type) where
  inbound : Inbound
  outbound : S

/-- The ports of a link. -/
def Writer.ports (w : Writer S) : Ports (StateM (Link S)) where
  readLine l :=
    let (r, ps) := nextLine l.inbound.failure l.inbound.pieces
    (r, { l with inbound := { l.inbound with pieces := ps } })
  writeLine line l :=
    let (r, s) := w.putLine line l.outbound
    (r, { l with outbound := s })
  log _ := pure ()

/-- A reading gives the first line that readings give, or finds that there is none. -/
theorem Link.read_cases (w : Writer S) (l : Link S) :
    (∃ line l', w.ports.readLine l = (.ok (some line), l') ∧
      l.inbound.readable = line :: l'.inbound.readable ∧ l'.outbound = l.outbound) ∨
    (∃ l', w.ports.readLine l = (endOf l.inbound.failure, l') ∧
      l.inbound.readable = [] ∧ l'.inbound.readable = [] ∧ l'.outbound = l.outbound) := by
  obtain ⟨line, ps, hnext, hread⟩ | ⟨hnext, hread⟩ :=
    nextLine_readable l.inbound.failure l.inbound.pieces
  · refine .inl ⟨line, { l with inbound := { l.inbound with pieces := ps } }, ?_, hread, rfl⟩
    simp only [Writer.ports, hnext]
  · refine .inr ⟨{ l with inbound := { l.inbound with pieces := [] } }, ?_, hread, rfl, rfl⟩
    simp only [Writer.ports, hnext]

end LuaSession.Stream
