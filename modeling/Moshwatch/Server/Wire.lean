import Moshwatch.General.Carried
import Moshwatch.Server.Emitter

namespace Moshwatch

namespace EmitterRun

section SendLoop

variable {send : Nat → SendResult}

/-- What is written is the front of the payload, and all of it when no call ends the loop. -/
theorem sendLoop_spec {fuel call : Nat} {rest : List UInt8} (enough : rest.length ≤ fuel) :
    (sendLoop send fuel call rest).1 <+: rest ∧
      ((sendLoop send fuel call rest).1 = rest ↔ (sendLoop send fuel call rest).2 = none) := by
  fun_induction sendLoop send fuel call rest with
  | case1 => simp
  | case2 call rest nonempty =>
    exact absurd (List.eq_nil_of_length_eq_zero (Nat.le_zero.mp enough)) nonempty
  | case3 fuel call rest nonempty errno failed =>
    exact ⟨List.nil_prefix, by simpa using Ne.symm nonempty⟩
  | case4 fuel call rest nonempty stopped =>
    exact ⟨List.nil_prefix, by simpa using Ne.symm nonempty⟩
  | case5 fuel call rest nonempty count positive written more ended result ih =>
    have later : (rest.drop count).length ≤ fuel := by
      have some : count ≠ 0 := positive
      rw [List.length_drop]
      omega
    obtain ⟨front, all⟩ := ih later
    rw [result] at front all
    constructor
    · conv_rhs => rw [← List.take_append_drop count rest]
      exact (List.prefix_append_right_inj _).mpr front
    · rw [← all]
      conv_lhs => rhs; rw [← List.take_append_drop count rest]
      exact List.append_right_inj _

end SendLoop

variable {run : EmitterRun} {printDouble : F64 → List UInt8}

structure SameWires (before after : EmitterRun) : Prop where
  connection : after.emitter.connection = before.emitter.connection
  closed : after.closed = before.closed
  sessionId : after.emitter.sessionId = before.emitter.sessionId
  startedAt : after.emitter.startedAtUnixMs = before.emitter.startedAtUnixMs

theorem sameWires_warn (run : EmitterRun) (message : String) : SameWires run (run.warn message) := by
  unfold warn
  split <;> exact ⟨rfl, rfl, rfl, rfl⟩

theorem SameWires.unconfirmed {before after : EmitterRun} (same : SameWires before.unconfirmed after) :
    SameWires before after := ⟨same.1, same.2, same.3, same.4⟩

def connected (run : EmitterRun) : EmitterRun :=
  { run with
    emitter := { run.emitter with connection := some (run.emitter.connection.getD []) } }

theorem connectSocket_cases (run : EmitterRun) (calls : EmitCalls) :
    ((run.connectSocket calls).1 = false ∧ SameWires run (run.connectSocket calls).2) ∨
      run.connectSocket calls = (true, run.connected) := by
  unfold connectSocket connected
  split
  · rename_i connected
    obtain ⟨bytes, found⟩ := Option.isSome_iff_exists.mp connected
    right
    rw [found, Option.getD_some, ← found]
  · rename_i closed
    have none : run.emitter.connection = none := by simpa using closed
    split
    · exact .inl ⟨rfl, sameWires_warn run _⟩
    · split
      · exact .inl ⟨rfl, ⟨rfl, rfl, rfl, rfl⟩⟩
      · split
        · split
          · exact .inl ⟨rfl, (sameWires_warn run.unconfirmed _).unconfirmed⟩
          · exact .inl ⟨rfl, ⟨rfl, rfl, rfl, rfl⟩⟩
        · right
          rw [none]
          rfl

section Outcomes

def carrying (run : EmitterRun) (bytes : List UInt8) : EmitterRun :=
  { run with
    emitter := { run.emitter with
      connection := some (run.emitter.connection.getD [] ++ bytes) } }

/-- A payload is not written, written as a whole, or cut short on a connection that is closed. -/
theorem sendPayload_cases (run : EmitterRun) (calls : EmitCalls) (payload : List UInt8) :
    SameWires run (run.sendPayload calls payload) ∨
      SameWires (run.carrying (payload ++ [10])) (run.sendPayload calls payload) ∨
      ∃ part, part <+: payload ∧
        SameWires (run.carrying part).closeSocket (run.sendPayload calls payload) := by
  unfold sendPayload
  rcases connectSocket_cases run calls with ⟨failed, same⟩ | opened
  · left
    generalize run.connectSocket calls = outcome at failed same ⊢
    obtain ⟨connected, after⟩ := outcome
    change connected = false at failed
    subst failed
    exact same
  · right
    rw [opened]
    have spec := @sendLoop_spec calls.send (payload ++ [10]).length 0 _ le_rfl
    dsimp only
    generalize sendLoop calls.send (payload ++ [10]).length 0 (payload ++ [10]) = outcome at spec ⊢
    obtain ⟨written, ended⟩ := outcome
    obtain ⟨front, all⟩ := spec
    have cut : ended ≠ none → written <+: payload := by
      intro early
      rcases List.prefix_concat_iff.mp front with whole | part
      · exact absurd (all.mp whole) early
      · exact part
    cases ended with
    | none =>
      left
      rw [all.mpr rfl]
      exact ⟨rfl, rfl, rfl, rfl⟩
    | some result =>
      right
      refine ⟨written, cut (by simp), ?_⟩
      cases result with
      | written count => exact ⟨rfl, rfl, rfl, rfl⟩
      | failed errno =>
        dsimp only
        split
        · exact (sameWires_warn _ _).unconfirmed
        · exact ⟨rfl, rfl, rfl, rfl⟩

end Outcomes

section Shipped

variable (emitter : TelemetryEmitter) (printDouble : F64 → List UInt8)

/-- Each connection has carried payloads of its own, in the order of the calls that wrote them. -/
inductive Shipped (run : EmitterRun) (sent : List TelemetrySample) : Prop where
  | mk (ended : List (List TelemetrySample)) (live : Option (List TelemetrySample))
    (sessionId : run.emitter.sessionId = emitter.sessionId)
    (startedAt : run.emitter.startedAtUnixMs = emitter.startedAtUnixMs)
    (closed : List.Forall₂ (Framing.Carries 10 (emitter.payload printDouble)) ended run.closed)
    (connection : run.emitter.connection =
      live.map (Framing.joined 10 (emitter.payload printDouble)))
    (order : (ended.flatten ++ live.getD []).Sublist sent)

variable {emitter printDouble} {sent : List TelemetrySample}

theorem payload_congr (sessionId : run.emitter.sessionId = emitter.sessionId)
    (startedAt : run.emitter.startedAtUnixMs = emitter.startedAtUnixMs) :
    run.emitter.payload printDouble = emitter.payload printDouble := by
  funext sample
  rw [TelemetryEmitter.payload, sessionId, startedAt]
  rfl

theorem Shipped.same {after : EmitterRun} (shipped : Shipped emitter printDouble run sent)
    (same : SameWires run after) (sample : TelemetrySample) :
    Shipped emitter printDouble after (sent ++ [sample]) := by
  obtain ⟨ended, live, sessionId, startedAt, closed, connection, order⟩ := shipped
  rw [← same.closed] at closed
  exact .mk ended live (same.sessionId.trans sessionId) (same.startedAt.trans startedAt) closed
    (same.connection.trans connection) (order.trans (List.sublist_append_left _ _))

theorem Shipped.emit (shipped : Shipped emitter printDouble run sent)
    (call : TelemetrySample × EmitCalls) :
    Shipped emitter printDouble (run.emit printDouble call) (sent ++ [call.1]) := by
  unfold EmitterRun.emit
  split
  · exact shipped.same ⟨rfl, rfl, rfl, rfl⟩ call.1
  · rcases sendPayload_cases run call.2 (run.emitter.payload printDouble call.1) with
      same | same | ⟨part, within, same⟩
    · exact shipped.same same call.1
    all_goals
      obtain ⟨ended, live, sessionId, startedAt, closed, connection, order⟩ := shipped
      have own := @payload_congr run emitter printDouble sessionId startedAt
      have carried : run.emitter.connection.getD [] =
          Framing.joined 10 (emitter.payload printDouble) (live.getD []) := by
        rw [connection]
        cases live <;> rfl
    · refine .mk ended (some (live.getD [] ++ [call.1])) (same.sessionId.trans sessionId)
        (same.startedAt.trans startedAt) ?_ ?_ ?_
      · rw [same.closed]
        exact closed
      · rw [same.connection, carrying, carried, own, Option.map_some, Framing.joined_concat]
      · rw [Option.getD_some, ← List.append_assoc]
        exact order.append_right _
    · rw [own] at within
      refine .mk (ended ++ [live.getD [] ++ [call.1]]) none (same.sessionId.trans sessionId)
        (same.startedAt.trans startedAt) ?_ same.connection ?_
      · rw [same.closed, closeSocket, carrying, carried]
        exact List.rel_append closed (.cons (.torn _ call.1 part within) .nil)
      · rw [Option.getD_none, List.append_nil, List.flatten_append, List.flatten_singleton,
          ← List.append_assoc]
        exact order.append_right _

/-- Whatever the system calls return, each call of `emit` puts its payload on one connection at
    most, behind those of the calls before it. -/
theorem shipped_emits (closed : emitter.connection = none)
    (calls : List (TelemetrySample × EmitCalls)) :
    Shipped emitter printDouble (emits printDouble emitter calls) (calls.map Prod.fst) := by
  induction calls using List.reverseRecOn with
  | nil => exact .mk [] none rfl rfl .nil closed (List.Sublist.refl _)
  | append_singleton calls call ih =>
    rw [emits, List.foldl_concat, List.map_append]
    exact ih.emit call

theorem Shipped.connections (shipped : Shipped emitter printDouble run sent) :
    ∃ wires, List.Forall₂ (Framing.Carries 10 (emitter.payload printDouble)) wires
        run.connections ∧ wires.flatten.Sublist sent := by
  obtain ⟨ended, live, -, -, closed, connection, order⟩ := shipped
  refine ⟨ended ++ live.toList, ?_, ?_⟩
  · rw [EmitterRun.connections, connection]
    apply List.rel_append closed
    cases live with
    | none => exact .nil
    | some items => exact .cons (.whole items) .nil
  · rw [List.flatten_append]
    cases live with
    | none => simpa using order
    | some items => simpa using order

end Shipped

section Unhindered

/-- System calls none of which fails, and each `send` of which takes at least one byte. -/
structure Unhindered (calls : EmitCalls) : Prop where
  socket : calls.socket = true
  connect : calls.connect = none
  send : ∀ call, ∃ count, calls.send call = .written (count + 1)

theorem sendLoop_unhindered {send : Nat → SendResult}
    (takes : ∀ call, ∃ count, send call = .written (count + 1)) {fuel call : Nat}
    {rest : List UInt8} : (sendLoop send fuel call rest).2 = none := by
  fun_induction sendLoop send fuel call rest with
  | case1 => rfl
  | case2 => rfl
  | case3 fuel call rest nonempty errno failed =>
    obtain ⟨count, written⟩ := takes call
    rw [written] at failed
    cases failed
  | case4 fuel call rest nonempty stopped =>
    obtain ⟨count, written⟩ := takes call
    rw [written] at stopped
    cases stopped
  | case5 fuel call rest nonempty count positive written more ended result ih =>
    rw [result] at ih
    exact ih

variable {emitter : TelemetryEmitter} {printDouble : F64 → List UInt8}

structure Delivering (emitter : TelemetryEmitter) (printDouble : F64 → List UInt8)
    (run : EmitterRun) (sent : List TelemetrySample) : Prop where
  sessionId : run.emitter.sessionId = emitter.sessionId
  startedAt : run.emitter.startedAtUnixMs = emitter.startedAtUnixMs
  socketPath : run.emitter.socketPath = emitter.socketPath
  closed : run.closed = []
  opened : sent ≠ [] → run.emitter.connection.isSome = true ∧ run.emitter.deliveryConfirmed = true
  carried : run.emitter.connection.getD [] =
    Framing.joined 10 (emitter.payload printDouble) sent

theorem connectSocket_unhindered {calls : EmitCalls} (unhindered : Unhindered calls)
    (short : run.emitter.socketPath.length < sunPathBytes) :
    run.connectSocket calls = (true, run.connected) := by
  unfold connectSocket connected
  split
  · rename_i connected
    obtain ⟨bytes, found⟩ := Option.isSome_iff_exists.mp connected
    rw [found, Option.getD_some, ← found]
  · rename_i closed
    have none : run.emitter.connection = none := by simpa using closed
    rw [if_neg (Nat.not_le.mpr short), unhindered.socket, unhindered.connect, none]
    rfl

theorem Delivering.emit {sent : List TelemetrySample}
    (delivering : Delivering emitter printDouble run sent) (enabled : emitter.enabled = true)
    (short : emitter.socketPath.length < sunPathBytes) {call : TelemetrySample × EmitCalls}
    (unhindered : Unhindered call.2) :
    Delivering emitter printDouble (run.emit printDouble call) (sent ++ [call.1]) := by
  obtain ⟨sessionId, startedAt, socketPath, closed, -, carried⟩ := delivering
  have own := @payload_congr run emitter printDouble sessionId startedAt
  have still : run.emitter.enabled = true := by
    rw [← enabled, TelemetryEmitter.enabled, TelemetryEmitter.enabled, socketPath, sessionId]
  unfold EmitterRun.emit sendPayload
  rw [still, own, connectSocket_unhindered unhindered (socketPath ▸ short)]
  have spec := @sendLoop_spec call.2.send (emitter.payload printDouble call.1 ++ [10]).length 0 _
    le_rfl
  have ends := @sendLoop_unhindered call.2.send unhindered.send
    (emitter.payload printDouble call.1 ++ [10]).length 0 (emitter.payload printDouble call.1 ++ [10])
  simp only [Bool.not_true, Bool.false_eq_true, if_false]
  generalize sendLoop call.2.send (emitter.payload printDouble call.1 ++ [10]).length 0
    (emitter.payload printDouble call.1 ++ [10]) = outcome at spec ends ⊢
  obtain ⟨written, ended⟩ := outcome
  have whole : written = emitter.payload printDouble call.1 ++ [10] := spec.2.mpr ends
  change ended = none at ends
  subst ends whole
  refine ⟨sessionId, startedAt, socketPath, closed, fun _ => ⟨rfl, rfl⟩, ?_⟩
  rw [Framing.joined_concat, ← carried]
  simp [write, connected]

/-- Where no system call fails, one connection carries all payloads. -/
theorem connections_unhindered (closed : emitter.connection = none)
    (enabled : emitter.enabled = true) (short : emitter.socketPath.length < sunPathBytes)
    {calls : List (TelemetrySample × EmitCalls)}
    (unhindered : ∀ call ∈ calls, Unhindered call.2) :
    (calls ≠ [] → (emits printDouble emitter calls).connections =
        [Framing.joined 10 (emitter.payload printDouble) (calls.map Prod.fst)] ∧
      (emits printDouble emitter calls).emitter.wakeupIntervalMs = 1000) ∧
    (emits printDouble emitter calls).connections.flatten =
      Framing.joined 10 (emitter.payload printDouble) (calls.map Prod.fst) := by
  have delivering : Delivering emitter printDouble (emits printDouble emitter calls)
      (calls.map Prod.fst) := by
    induction calls using List.reverseRecOn with
    | nil =>
      exact ⟨rfl, rfl, rfl, rfl, fun sent => absurd rfl sent,
        by rw [emits, List.foldl_nil, start, closed]; rfl⟩
    | append_singleton calls call ih =>
      rw [List.forall_mem_append] at unhindered
      rw [emits, List.foldl_concat, List.map_append]
      exact (ih unhindered.1).emit enabled short (unhindered.2 call (by simp))
  have carried := delivering.carried
  rw [connections, delivering.closed, List.nil_append]
  cases connection : (emits printDouble emitter calls).emitter.connection with
  | none =>
    rw [connection] at carried
    constructor
    · intro sent
      have opened := (delivering.opened (by simpa using sent)).1
      rw [connection] at opened
      cases opened
    · exact carried
  | some bytes =>
    rw [connection] at carried
    change bytes = _ at carried
    subst carried
    refine ⟨fun sent => ⟨rfl, ?_⟩, by simp⟩
    rw [TelemetryEmitter.wakeupIntervalMs, if_pos (delivering.opened (by simpa using sent)).2]

end Unhindered

end EmitterRun

end Moshwatch
