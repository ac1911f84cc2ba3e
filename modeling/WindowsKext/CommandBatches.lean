import WindowsKext.CommandCore
import WindowsKext.Library.PrefixCode

/-! Batches of commands. `Device::write` applies the longest prefix of complete and valid commands
in order and stops at the first byte behind it, and the commands of both clients are read back. -/

namespace WindowsKext

open ByteString LittleEndian FieldLayout PrefixCode

section Splitting

@[simp] theorem CommandType.fromU8_toU8 (command : CommandType) :
    CommandType.fromU8 command.toU8 = some command := by
  cases command <;> rfl

theorem CommandType.toU8_of_fromU8 {value : UInt8} {command : CommandType}
    (known : CommandType.fromU8 value = some command) : command.toU8 = value := by
  unfold CommandType.fromU8 at known
  split at known <;> rename_i number
  all_goals first
    | cases known
      exact (UInt8.toNat_inj.mp number).symm
    | cases known

theorem splitFirstCommand_complete {command : CommandType} {payload : Bytes}
    (complete : payload.length = command.payloadSize) (rest : Bytes) :
    splitFirstCommand (command.toU8 :: (payload ++ rest)) = .ok (command, payload, rest) := by
  have long : ¬ (command.toU8 :: (payload ++ rest)).length < 1 + command.payloadSize := by
    rw [List.length_cons, List.length_append]
    omega
  have first : slice (command.toU8 :: (payload ++ rest)) 1 (1 + command.payloadSize) = payload := by
    rw [slice, Nat.add_comm, List.take_succ_cons, List.drop_succ_cons, List.drop_zero,
      List.take_left' complete]
  have last : (command.toU8 :: (payload ++ rest)).drop (1 + command.payloadSize) = rest := by
    rw [Nat.add_comm, List.drop_succ_cons, List.drop_left' complete]
  simp only [splitFirstCommand, CommandType.fromU8_toU8, long, ↓reduceIte, first, last]

theorem splitFirstCommand_ok {bytes payload rest : Bytes} {command : CommandType}
    (split : splitFirstCommand bytes = .ok (command, payload, rest)) :
    bytes = command.toU8 :: (payload ++ rest) ∧ payload.length = command.payloadSize := by
  cases bytes with
  | nil => cases split
  | cons value tail =>
      cases known : CommandType.fromU8 value with
      | none => simp [splitFirstCommand, known] at split
      | some found =>
          by_cases short : (value :: tail).length < 1 + found.payloadSize
          · simp only [splitFirstCommand, known, short, ↓reduceIte] at split
            cases split
          · simp only [splitFirstCommand, known, short, ↓reduceIte, Except.ok.injEq,
              Prod.mk.injEq] at split
            obtain ⟨rfl, rfl, rfl⟩ := split
            have byte := CommandType.toU8_of_fromU8 known
            rw [List.length_cons] at short
            rw [byte, slice, Nat.add_comm, List.take_succ_cons, List.drop_succ_cons, List.drop_zero,
              List.drop_succ_cons, List.take_append_drop, List.length_take]
            exact ⟨rfl, by omega⟩

end Splitting

section Validity

def verdictByte (command : CommandType) (payload : Bytes) : Option UInt8 :=
  match command with
  | .verdict => some (byteAt payload 8)
  | .updateV4 => some (byteAt payload 13)
  | .updateV6 => some (byteAt payload 37)
  | _ => none

def hasValidVerdict (command : CommandType) (payload : Bytes) : Bool :=
  (verdictByte command payload).all fun value => (Verdict.fromU8 value).isSome

theorem parseVerdict_some {payload : Bytes} (complete : payload.length = verdictPayloadSize) :
    parseVerdict payload =
      some { id := u64OfBytes (field payload 0 8), verdict := byteAt payload 8 } := by
  unfold verdictPayloadSize at complete
  simp [parseVerdict, exactPayload, complete, readU64Le, verdictPayloadSize, getRange, field]

theorem parseUpdate_some {n size localPort remoteAddress remotePort verdict : Nat} {payload : Bytes}
    (complete : payload.length = size) (local1 : 1 + n ≤ size) (local2 : localPort + 2 ≤ size)
    (remote1 : remoteAddress + n ≤ size) (remote2 : remotePort + 2 ≤ size) :
    parseUpdate n size localPort remoteAddress remotePort verdict payload =
      some { protocol := byteAt payload 0
             localAddress := Layout.arrayAt (field payload 1 n) 0 n
             localPort := u16OfBytes (field payload localPort 2)
             remoteAddress := Layout.arrayAt (field payload remoteAddress n) 0 n
             remotePort := u16OfBytes (field payload remotePort 2)
             verdict := byteAt payload verdict } := by
  subst complete
  simp [parseUpdate, exactPayload, readArray, readU16Le, getRange, field, local1, local2, remote1,
    remote2]

variable {Rest : Type} (context : CommandContext Rest) (state : CommandState Rest)

theorem parseUpdateV4_some {payload : Bytes} (complete : payload.length = updateV4PayloadSize) :
    ∃ update, parseUpdateV4 payload = some update ∧ update.verdict = byteAt payload 13 :=
  ⟨_, parseUpdate_some complete (by decide) (by decide) (by decide) (by decide), rfl⟩

theorem parseUpdateV6_some {payload : Bytes} (complete : payload.length = updateV6PayloadSize) :
    ∃ update, parseUpdateV6 payload = some update ∧ update.verdict = byteAt payload 37 :=
  ⟨_, parseUpdate_some complete (by decide) (by decide) (by decide) (by decide), rfl⟩

/-- A complete command is applied when its verdict is valid. Otherwise it fails and changes
nothing. -/
theorem applyCommand_complete {command : CommandType} {payload : Bytes}
    (complete : payload.length = command.payloadSize) :
    if hasValidVerdict command payload then
      (state.applyCommand context command payload).1 = .ok ()
    else state.applyCommand context command payload = (.error statusInvalidParameter, state) := by
  cases command with
  | verdict =>
      simp only [CommandState.applyCommand, parseVerdict_some complete, hasValidVerdict,
        verdictByte, Option.all_some]
      cases Verdict.fromU8 (byteAt payload 8) with
      | none => rfl
      | some action => rfl
  | updateV4 =>
      obtain ⟨update, parsed, byte⟩ := parseUpdateV4_some complete
      simp only [CommandState.applyCommand, parsed, byte, hasValidVerdict, verdictByte,
        Option.all_some]
      cases Verdict.fromU8 (byteAt payload 13) with
      | none => rfl
      | some verdict => rfl
  | updateV6 =>
      obtain ⟨update, parsed, byte⟩ := parseUpdateV6_some complete
      simp only [CommandState.applyCommand, parsed, byte, hasValidVerdict, verdictByte,
        Option.all_some]
      cases Verdict.fromU8 (byteAt payload 37) with
      | none => rfl
      | some verdict => rfl
  | _ => rfl

end Validity

structure Command where
  kind : CommandType
  payload : Bytes
  complete : payload.length = kind.payloadSize
  valid : hasValidVerdict kind payload = true

namespace Command

def bytes (command : Command) : Bytes := command.kind.toU8 :: command.payload

def splitFirst (buffer : Bytes) : Option (Command × Bytes) :=
  match splitFirstCommand buffer with
  | .error _ => none
  | .ok (kind, payload, rest) =>
      if valid : payload.length = kind.payloadSize ∧ hasValidVerdict kind payload = true then
        some (⟨kind, payload, valid.1, valid.2⟩, rest)
      else none

/-- Commands are a code: the type byte determines the length. -/
def code : Code UInt8 Command where
  encode := bytes
  split := splitFirst
  encode_ne_nil _ := List.cons_ne_nil _ _
  split_encode command rest := by
    have split := splitFirstCommand_complete command.complete rest
    simp only [splitFirst, bytes, List.cons_append, split, command.complete, command.valid,
      and_self, ↓reduceDIte]
  encode_split := by
    intro buffer command rest found
    simp only [splitFirst] at found
    split at found
    · cases found
    · rename_i split
      split at found
      · cases found
        exact (splitFirstCommand_ok split).1
      · cases found

variable {Rest : Type} (context : CommandContext Rest)

def apply (state : CommandState Rest) (command : Command) : CommandState Rest :=
  (state.applyCommand context command.kind command.payload).2

theorem applyCommand_eq (state : CommandState Rest) (command : Command) :
    state.applyCommand context command.kind command.payload =
      (.ok (), command.apply context state) := by
  have result := applyCommand_complete context state command.complete
  rw [if_pos command.valid] at result
  exact Prod.ext result rfl

end Command

section Batches

variable {Rest : Type} (context : CommandContext Rest)

theorem writeLoop_nil (fuel offset : Nat) (state : CommandState Rest) :
    CommandState.writeLoop context fuel offset [] state = (.ok (), state) := by
  cases fuel <;> rfl

theorem writeLoop_command (fuel offset : Nat) (command : Command) (rest : Bytes)
    (state : CommandState Rest) :
    CommandState.writeLoop context (fuel + 1) offset (command.bytes ++ rest) state =
      CommandState.writeLoop context fuel (offset + command.bytes.length) rest
        (command.apply context state) := by
  have split := splitFirstCommand_complete command.complete rest
  have applied := command.applyCommand_eq context state
  have length : command.bytes.length = 1 + command.payload.length := by
    rw [Command.bytes, List.length_cons, Nat.add_comm]
  simp only [Command.bytes, List.cons_append, CommandState.writeLoop, List.isEmpty_cons,
    Bool.false_eq_true, ↓reduceIte, split, applied]
  rw [← Command.bytes, length]

theorem writeLoop_rejects {rest : Bytes} (stuck : Command.splitFirst rest = none)
    (nonempty : rest ≠ []) (fuel offset : Nat) (state : CommandState Rest) :
    CommandState.writeLoop context (fuel + 1) offset rest state =
      (.error ⟨statusInvalidParameter, offset⟩, state) := by
  have some : rest.isEmpty = false := List.isEmpty_eq_false_iff.mpr nonempty
  simp only [CommandState.writeLoop, some, Bool.false_eq_true, ↓reduceIte]
  cases split : splitFirstCommand rest with
  | error error => rfl
  | ok found =>
      obtain ⟨kind, payload, next⟩ := found
      have complete := (splitFirstCommand_ok split).2
      have invalid : ¬ hasValidVerdict kind payload = true := by
        intro valid
        simp [Command.splitFirst, split, complete, valid] at stuck
      have result := applyCommand_complete context state complete
      rw [if_neg invalid] at result
      simp only [result]

theorem writeLoop_commands {rest : Bytes} (stuck : Command.splitFirst rest = none)
    (commands : List Command) (fuel offset : Nat) (state : CommandState Rest)
    (enough : (Command.code.encodeAll commands ++ rest).length ≤ fuel) :
    CommandState.writeLoop context fuel offset (Command.code.encodeAll commands ++ rest) state =
      (if rest = [] then .ok ()
        else .error ⟨statusInvalidParameter, offset + (Command.code.encodeAll commands).length⟩,
        commands.foldl (Command.apply context) state) := by
  induction commands generalizing fuel offset state with
  | nil =>
      by_cases nonempty : rest = []
      · subst nonempty
        exact writeLoop_nil context fuel offset state
      · have positive := List.length_pos_iff.mpr nonempty
        obtain ⟨fuel, rfl⟩ : ∃ less, fuel = less + 1 := by
          refine ⟨fuel - 1, ?_⟩
          simp only [Code.encodeAll, List.flatMap_nil, List.nil_append] at enough
          omega
        rw [if_neg nonempty]
        exact writeLoop_rejects context stuck nonempty fuel offset state
  | cons command commands ih =>
      have positive : 0 < command.bytes.length := List.length_pos_iff.mpr (List.cons_ne_nil _ _)
      have same : Command.code.encode command = command.bytes := rfl
      rw [Code.encodeAll_cons, same, List.append_assoc] at enough ⊢
      rw [List.length_append] at enough
      obtain ⟨fuel, rfl⟩ : ∃ less, fuel = less + 1 := ⟨fuel - 1, by omega⟩
      rw [writeLoop_command, ih _ _ _ (by omega), List.length_append, Nat.add_assoc]
      rfl

end Batches

section Clients

/-- What a client sent is split off whatever follows, and its payload decodes to a value. -/
def ReadsBack {Value : Type} (sent : Bytes) (command : CommandType) (parse : Bytes → Option Value)
    (value : Value) : Prop :=
  ∀ rest, ∃ payload, splitFirstCommand (sent ++ rest) = .ok (command, payload, rest) ∧
    parse payload = some value

theorem readsBack_of_payload {Value : Type} {sent payload : Bytes} {command : CommandType}
    {parse : Bytes → Option Value} {value : Value} (bytes : sent = command.toU8 :: payload)
    (complete : payload.length = command.payloadSize) (parsed : parse payload = some value) :
    ReadsBack sent command parse value := by
  intro rest
  refine ⟨payload, ?_, parsed⟩
  rw [bytes, List.cons_append]
  exact splitFirstCommand_complete complete rest

theorem sendVerdictCommand_readsBack (verdict : VerdictCommand) :
    ReadsBack (sendVerdictCommand verdict) .verdict parseVerdict verdict := by
  have complete : (bytesOfU64 verdict.id ++ [verdict.verdict]).length = verdictPayloadSize := by
    rw [List.length_append, length_bytesOfU64]
    rfl
  have parsed : parseVerdict (bytesOfU64 verdict.id ++ [verdict.verdict]) = some verdict := by
    rw [parseVerdict_some complete]
    simp [field_here, byteAt_later, byteAt_cons_zero]
  exact readsBack_of_payload rfl complete parsed

theorem sendUpdateCommand_bytes {n : Nat} (command : UInt8) (update : Update n) :
    sendUpdateCommand command update = command :: (update.protocol :: (update.localAddress.toList ++
      (bytesOfU16 update.localPort ++ (update.remoteAddress.toList ++
        (bytesOfU16 update.remotePort ++ [update.verdict]))))) := rfl

theorem sendUpdateV4Command_readsBack (update : Update 4) :
    ReadsBack (sendUpdateV4Command update) .updateV4 parseUpdateV4 update := by
  refine readsBack_of_payload (sendUpdateCommand_bytes 2 update) ?_ ?_
  · simp [CommandType.payloadSize, updateV4PayloadSize]
  · rw [parseUpdateV4, parseUpdate_some (by simp [updateV4PayloadSize]) (by decide) (by decide)
      (by decide) (by decide)]
    simp [field_here, field_later, field_cons_later, byteAt_later, byteAt_cons_later,
      byteAt_cons_zero, Layout.arrayAt_toList]

theorem sendUpdateV6Command_readsBack (update : Update 16) :
    ReadsBack (sendUpdateV6Command update) .updateV6 parseUpdateV6 update := by
  refine readsBack_of_payload (sendUpdateCommand_bytes 3 update) ?_ ?_
  · simp [CommandType.payloadSize, updateV6PayloadSize]
  · rw [parseUpdateV6, parseUpdate_some (by simp [updateV6PayloadSize]) (by decide) (by decide)
      (by decide) (by decide)]
    simp [field_here, field_later, field_cons_later, byteAt_later, byteAt_cons_later,
      byteAt_cons_zero, Layout.arrayAt_toList]

theorem byte_of_shift (id : UInt64) {index : Nat} (bound : index < 8) :
    ((id >>> UInt64.ofNat (index * 8)) &&& 0xFF).toUInt8 =
      UInt8.ofNat (id.toNat / 2 ^ (index * 8)) := by
  have small : (UInt64.ofNat (index * 8)).toNat = index * 8 :=
    UInt64.toNat_ofNat_of_lt' (show index * 8 < 2 ^ 64 by omega)
  have distance : index * 8 % 64 = index * 8 := by omega
  have mask : (0xFF : UInt64).toNat = 255 := rfl
  apply UInt8.toNat_inj.mp
  rw [UInt64.toNat_toUInt8, UInt64.toNat_and, UInt64.toNat_shiftRight, small, distance,
    Nat.shiftRight_eq_div_pow, UInt8.toNat_ofNat', mask, and_byte, Nat.mod_mod]

theorem sendVerdict_eq (id : UInt64) (verdict : UInt8) :
    sendVerdict id verdict = sendVerdictCommand { id := id, verdict := verdict } := by
  have bytes : (List.range 8).map (fun i => ((id >>> UInt64.ofNat (i * 8)) &&& 0xFF).toUInt8) =
      bytesOfU64 id := by
    rw [bytesOfU64, encode_eq_map]
    apply List.map_congr_left
    intro index member
    exact byte_of_shift id (List.mem_range.mp member)
  rw [sendVerdict, bytes]
  rfl

end Clients

def StartsInvalid (buffer : Bytes) : Prop :=
  match splitFirstCommand buffer with
  | .error error => error ≠ .empty
  | .ok (kind, payload, _) => hasValidVerdict kind payload = false

/-- The commands of the longest valid prefix of a buffer, and what is behind them. Any other valid
commands at the front of the buffer are the first of these. -/
structure LongestPrefix (buffer : Bytes) (commands : List Command) (rest : Bytes) : Prop where
  split : buffer = commands.flatMap Command.bytes ++ rest
  longest : ∀ other : List Command, other.flatMap Command.bytes <+: buffer → other <+: commands
  behind : rest = [] ∨ StartsInvalid rest

theorem startsInvalid_of_stuck {rest : Bytes} (stuck : Command.splitFirst rest = none)
    (nonempty : rest ≠ []) : StartsInvalid rest := by
  unfold StartsInvalid
  unfold Command.splitFirst at stuck
  split at stuck
  · rename_i error split
    rintro rfl
    cases rest with
    | nil => exact nonempty rfl
    | cons value tail =>
        simp only [splitFirstCommand] at split
        split at split
        · cases split
        · split at split <;> cases split
  · rename_i kind payload next split
    have complete := (splitFirstCommand_ok split).2
    cases valid : hasValidVerdict kind payload with
    | false => rfl
    | true => simp [complete, valid] at stuck

theorem exists_longestPrefix (buffer : Bytes) :
    ∃ commands rest, LongestPrefix buffer commands rest ∧ Command.splitFirst rest = none := by
  obtain ⟨commands, rest, split, stuck⟩ := Command.code.exists_words buffer
  refine ⟨commands, rest, ⟨split, ?_, ?_⟩, stuck⟩
  · intro other fits
    rw [split] at fits
    exact Command.code.isPrefix_words stuck fits
  · by_cases nonempty : rest = []
    · exact .inl nonempty
    · exact .inr (startsInvalid_of_stuck stuck nonempty)

section Writes

variable {Rest : Type} (context : CommandContext Rest)

theorem write_split (commands : List Command) {rest : Bytes}
    (stuck : Command.splitFirst rest = none)
    (nonempty : commands.flatMap Command.bytes ++ rest ≠ []) (state : CommandState Rest) :
    state.write context (commands.flatMap Command.bytes ++ rest) =
      (if rest = [] then .ok ()
        else .error ⟨statusInvalidParameter, (commands.flatMap Command.bytes).length⟩,
        commands.foldl (Command.apply context) state) := by
  have some : (commands.flatMap Command.bytes ++ rest).isEmpty = false :=
    List.isEmpty_eq_false_iff.mpr nonempty
  have loop := writeLoop_commands context stuck commands _ 0 state (Nat.le_refl _)
  rw [Nat.zero_add] at loop
  rw [CommandState.write, some]
  exact loop

theorem write_ok {buffer : Bytes} {state : CommandState Rest}
    (ok : (state.write context buffer).1 = .ok ()) :
    ∃ commands : List Command, buffer = commands.flatMap Command.bytes := by
  by_cases nonempty : buffer = []
  · subst nonempty
    cases ok
  · obtain ⟨commands, rest, ⟨split, -, -⟩, stuck⟩ := exists_longestPrefix buffer
    rw [split] at nonempty
    rw [split, write_split context commands stuck nonempty] at ok
    by_cases empty : rest = []
    · exact ⟨commands, by rw [split, empty, List.append_nil]⟩
    · rw [if_neg empty] at ok
      cases ok

theorem write_append (state : CommandState Rest) {first second : Bytes} (nonempty : first ≠ [])
    (more : second ≠ []) (ok : (state.write context first).1 = .ok ()) :
    (state.write context (first ++ second)).2 =
      ((state.write context first).2.write context second).2 := by
  have empty : Command.splitFirst [] = none := rfl
  obtain ⟨commands, rfl⟩ := write_ok context ok
  obtain ⟨later, rest, ⟨split, -, -⟩, stuck⟩ := exists_longestPrefix second
  have alone := write_split context commands empty (by simpa using nonempty) state
  rw [List.append_nil] at alone
  have joined : commands.flatMap Command.bytes ++ second =
      (commands ++ later).flatMap Command.bytes ++ rest := by
    rw [split, List.flatMap_append, List.append_assoc]
  have whole := write_split context (commands ++ later) stuck
    (by rw [← joined]; simp [nonempty]) state
  rw [split] at more
  rw [alone, joined, whole, split, write_split context later stuck more, List.foldl_append]

def plainCommands : List (Bytes × CommandType) :=
  [(sendShutdownCommand, .shutdown), (sendClearCacheCommand, .clearCache),
    (sendGetLogsCommand, .getLogs), (sendGetBandwidthStatsCommand, .getBandwidthStats),
    (sendPrintMemoryStatsCommand, .printMemoryStats),
    (sendCleanEndedConnectionsCommand, .cleanEndedConnections)]

theorem plainCommands_readBack : ∀ command ∈ plainCommands,
    ReadsBack command.1 command.2 (exactPayload · 0) [] := by
  intro command member
  simp only [plainCommands, List.mem_cons, List.not_mem_nil, or_false] at member
  rcases member with rfl | rfl | rfl | rfl | rfl | rfl
  all_goals exact readsBack_of_payload rfl rfl rfl

/-- `Device::write` applies the commands of the longest valid prefix in order. It succeeds if that
is the whole buffer; otherwise it reports the offset of the first command that is unknown, truncated
or has an invalid verdict, and leaves the state as the commands before it did. So two writes of
which the first succeeds do what one write of both does. The commands of the Go client and the C++
verdict are read back as they were sent. -/
theorem write_applies_validCommands (state : CommandState Rest) :
    (∀ buffer ≠ [], ∃ commands rest, LongestPrefix buffer commands rest ∧
      state.write context buffer =
        (if rest = [] then .ok ()
          else .error ⟨statusInvalidParameter, (commands.flatMap Command.bytes).length⟩,
          commands.foldl (Command.apply context) state)) ∧
    (∀ first ≠ [], ∀ second ≠ [], (state.write context first).1 = .ok () →
      (state.write context (first ++ second)).2 =
        ((state.write context first).2.write context second).2) ∧
    (∀ verdict, ReadsBack (sendVerdictCommand verdict) .verdict parseVerdict verdict) ∧
    (∀ update, ReadsBack (sendUpdateV4Command update) .updateV4 parseUpdateV4 update) ∧
    (∀ update, ReadsBack (sendUpdateV6Command update) .updateV6 parseUpdateV6 update) ∧
    (∀ command ∈ plainCommands, ReadsBack command.1 command.2 (exactPayload · 0) []) ∧
    (∀ id verdict, ReadsBack (sendVerdict id verdict) .verdict parseVerdict
      { id := id, verdict := verdict }) := by
  refine ⟨?_, ?_, sendVerdictCommand_readsBack, sendUpdateV4Command_readsBack,
    sendUpdateV6Command_readsBack, plainCommands_readBack, ?_⟩
  · intro buffer nonempty
    obtain ⟨commands, rest, longest, stuck⟩ := exists_longestPrefix buffer
    refine ⟨commands, rest, longest, ?_⟩
    have split := longest.split
    rw [split] at nonempty
    rw [split, write_split context commands stuck nonempty]
  · intro first nonempty second more ok
    exact write_append context state nonempty more ok
  · intro id verdict
    rw [sendVerdict_eq]
    exact sendVerdictCommand_readsBack _

end Writes

def idleContext : CommandContext Unit where
  environment _ :=
    { smoltcp := Smoltcp.documented
      wfp :=
        { resetFilters := .ok ()
          injectNetwork := fun _ _ => .ok ()
          injectTransport := fun _ => .ok () }
      ignoreSpecialPorts := false
      inboundUdpPidFallbackEnabled := false
      currentProcessId := 4
      currentThreadId := 8
      ownerPid := 0 }
  now _ := 1000
  shutdown state := state
  completeReadyTcpEndpointClosure _ state := state
  clearTcpEndpointCache state := state
  clearUdpEndpointCache state := state
  cleanUdpLifecycleState state := state
  flushLogs state := state
  pushBandwidthUpdates state := state
  expireInactiveUntrackedConnections state := state
  expireUnestablishedTcpConnections state := state

def idleState : CommandState Unit where
  device := Device.new
  effects := []
  applied := 0
  rest := ()

/-- A request for logs and a cache reset are applied, and the truncated verdict behind them is
reported at its offset. -/
theorem write_applies_validCommands_truncatedVerdict :
    (idleState.write idleContext [5, 4, 1, 7]).1 = .error ⟨statusInvalidParameter, 2⟩ ∧
    (idleState.write idleContext [5, 4, 1, 7]).2.effects = [.resetFilters] ∧
    ∃ commands rest, LongestPrefix [5, 4, 1, 7] commands rest ∧
      idleState.write idleContext [5, 4, 1, 7] =
        (if rest = [] then .ok ()
          else .error ⟨statusInvalidParameter, (commands.flatMap Command.bytes).length⟩,
          commands.foldl (Command.apply idleContext) idleState) :=
  ⟨rfl, rfl, (write_applies_validCommands idleContext idleState).1 [5, 4, 1, 7] (by decide)⟩

end WindowsKext
