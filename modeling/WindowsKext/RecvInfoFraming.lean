import WindowsKext.RecvInfoCore

/-! Where `RecvInfo` leaves its reader. The deferred drain reads up to the declared size, so a
record is consumed exactly when the reads of its fields end within it. -/

namespace WindowsKext

open ByteString LittleEndian FieldLayout

theorem readFull_exhausted (size : Nat) {helper : ReadHelper}
    (exhausted : helper.reader.exhausted = true) :
    (ReadHelper.readFull size helper).2.reader.exhausted = true := by
  unfold ReadHelper.readFull Reader.readFull
  split
  · rename_i outcome
    split at outcome
    · cases outcome
      exact exhausted
    · cases outcome
  · rename_i outcome
    split at outcome
    · cases outcome
    · cases outcome
      rfl

theorem readUntilTheEnd_exhausted {helper : ReadHelper}
    (exhausted : helper.reader.exhausted = true) :
    helper.readUntilTheEnd.reader.exhausted = true := by
  simp only [ReadHelper.readUntilTheEnd, ReadHelper.readBytes, beq_self_eq_true, ↓reduceIte]
  split
  · exact exhausted
  · split
    · exact exhausted
    · exact readFull_exhausted _ exhausted

theorem Recv.andThen_pure {Value Next : Type} (action : Recv Value) (before after : GoErrors)
    (make : Value → Next) (helper : ReadHelper) :
    (action.andThen before after (fun value => .pure (make value)) helper).2 =
      (action helper).2 := by
  unfold Recv.andThen
  split
  · rename_i outcome
    rw [outcome]
    rfl
  · rename_i outcome
    rw [outcome]

/-- The helper of a record after some bytes of the stream behind the header. -/
def helperAt (infoType : UInt8) (size : UInt32) (stream : Bytes) (position : Nat) : ReadHelper where
  infoType := infoType
  commandSize := size
  readSize := position
  reader := { bytes := stream.drop position, exhausted := false }

section Positions

variable {infoType : UInt8} {size : UInt32} {stream : Bytes} {position : Nat}

/-- The stream was too short for the reads, or they ended at a position, which lies within the
record exactly under a condition. -/
def EndsWithin (infoType : UInt8) (size : UInt32) (stream : Bytes) (position : Nat)
    (condition : Prop) (helper : ReadHelper) : Prop :=
  helper.reader.exhausted = true ∨
    ∃ reached, helper = helperAt infoType size stream reached ∧ reached ≤ stream.length ∧
      position ≤ reached ∧ (reached ≤ size.toNat ↔ condition)

theorem readFull_at (infoType : UInt8) (size : UInt32) (count : Nat)
    (inside : position ≤ stream.length) :
    (∃ error helper, ReadHelper.readFull count (helperAt infoType size stream position) =
        (.error error, helper) ∧ helper.reader.exhausted = true) ∨
      position + count ≤ stream.length ∧
        ReadHelper.readFull count (helperAt infoType size stream position) =
          (.ok ((stream.drop position).take count),
            helperAt infoType size stream (position + count)) := by
  by_cases enough : count ≤ (stream.drop position).length
  · refine .inr ⟨?_, ?_⟩
    · rw [List.length_drop] at enough
      omega
    · simp only [ReadHelper.readFull, helperAt, Reader.readFull, enough, ↓reduceIte, List.drop_drop]
  · refine .inl ⟨[.unexpectedReadError, if (stream.drop position).isEmpty then .eof
      else .unexpectedEof],
      { infoType := infoType
        commandSize := size
        readSize := position + (stream.drop position).length
        reader := ⟨[], true⟩ }, ?_, rfl⟩
    simp only [ReadHelper.readFull, helperAt, Reader.readFull, enough, ↓reduceIte]
    rfl

theorem toNat_ofNat_of_le {count : Nat} (within : count ≤ size.toNat) :
    (UInt32.ofNat count).toNat = count := by
  have bound := size.toNat_lt
  rw [UInt32.toNat_ofNat']
  omega

theorem readUntilTheEnd_at (inside : position ≤ stream.length) :
    (helperAt infoType size stream position).readUntilTheEnd.reader.exhausted = true ∨
      ∃ reached, (helperAt infoType size stream position).readUntilTheEnd =
          helperAt infoType size stream reached ∧ reached ≤ stream.length ∧
        position ≤ reached ∧ (position ≤ size.toNat → reached = size.toNat) := by
  by_cases past : UInt32.ofNat position ≥ size
  · refine .inr ⟨position, ?_, inside, Nat.le_refl position, fun within => ?_⟩
    · simp [ReadHelper.readUntilTheEnd, ReadHelper.readBytes, helperAt, past]
    · have exact : size.toNat ≤ (UInt32.ofNat position).toNat := past
      rw [toNat_ofNat_of_le within] at exact
      omega
  · have before : (UInt32.ofNat position).toNat < size.toNat := UInt32.not_le.mp past
    have rest : (size - UInt32.ofNat position).toNat =
        size.toNat - (UInt32.ofNat position).toNat :=
      UInt32.toNat_sub_of_le _ _ (UInt32.le_of_lt before)
    have fits : ¬ size < UInt32.ofNat position + (size - UInt32.ofNat position) := by
      intro beyond
      have beyond : size.toNat < (UInt32.ofNat position + (size - UInt32.ofNat position)).toNat :=
        beyond
      have bound := size.toNat_lt
      rw [UInt32.toNat_add, rest] at beyond
      omega
    have drained : (helperAt infoType size stream position).readUntilTheEnd =
        (ReadHelper.readFull (size - UInt32.ofNat position).toNat
          (helperAt infoType size stream position)).2 := by
      simp [ReadHelper.readUntilTheEnd, ReadHelper.readBytes, helperAt, past, fits]
    rw [drained]
    rcases readFull_at infoType size (size - UInt32.ofNat position).toNat inside with
      ⟨error, helper, failed, exhausted⟩ | ⟨bound, read⟩
    · rw [failed]
      exact .inl exhausted
    · rw [read]
      refine .inr ⟨_, rfl, bound, Nat.le_add_right _ _, fun within => ?_⟩
      rw [toNat_ofNat_of_le within] at rest before
      omega

section Reads

variable {Value Next : Type}

theorem endsWithin_here {condition : Prop} (inside : position ≤ stream.length)
    (exact : position ≤ size.toNat ↔ condition) :
    EndsWithin infoType size stream position condition
      (helperAt infoType size stream position) :=
  .inr ⟨position, rfl, inside, Nat.le_refl position, exact⟩

theorem EndsWithin.earlier {condition : Prop} {helper : ReadHelper} {later : Nat}
    (ends : EndsWithin infoType size stream later condition helper) (before : position ≤ later) :
    EndsWithin infoType size stream position condition helper := by
  rcases ends with exhausted | ⟨reached, same, inside, after, exact⟩
  · exact .inl exhausted
  · exact .inr ⟨reached, same, inside, by omega, exact⟩

theorem EndsWithin.congr {condition other : Prop} {helper : ReadHelper}
    (ends : EndsWithin infoType size stream position condition helper)
    (same : condition ↔ other) : EndsWithin infoType size stream position other helper := by
  rcases ends with exhausted | ⟨reached, at', inside, after, exact⟩
  · exact .inl exhausted
  · exact .inr ⟨reached, at', inside, after, exact.trans same⟩

theorem readData_at (infoType : UInt8) (size : UInt32) (layout : Layout Value)
    (inside : position ≤ stream.length) :
    (∃ error helper, ReadHelper.readData layout (helperAt infoType size stream position) =
        (.error error, helper) ∧ helper.reader.exhausted = true) ∨
      position + layout.size ≤ stream.length ∧
        ReadHelper.readData layout (helperAt infoType size stream position) =
          (if UInt32.ofNat (position + layout.size) > size then .error [.unexpectedInfoSize]
            else .ok (layout.read ((stream.drop position).take layout.size)),
            helperAt infoType size stream (position + layout.size)) := by
  rcases readFull_at infoType size layout.size inside with
    ⟨error, helper, failed, exhausted⟩ | ⟨bound, read⟩
  · refine .inl ⟨[] ++ error ++ [], helper, ?_, exhausted⟩
    simp only [ReadHelper.readData, Recv.andThen, failed]
  · refine .inr ⟨bound, ?_⟩
    by_cases beyond : UInt32.ofNat (position + layout.size) > size
    · have checked : ReadHelper.checkOverRead (helperAt infoType size stream
          (position + layout.size)) = (.error [.unexpectedInfoSize], helperAt infoType size stream
            (position + layout.size)) := if_pos beyond
      simp only [ReadHelper.readData, Recv.andThen, read, checked, beyond, ↓reduceIte,
        List.nil_append, List.append_nil]
    · have checked : ReadHelper.checkOverRead (helperAt infoType size stream
          (position + layout.size)) = (.ok (), helperAt infoType size stream
            (position + layout.size)) := if_neg beyond
      simp only [ReadHelper.readData, Recv.andThen, read, checked, beyond, ↓reduceIte, Recv.pure]

theorem readData_ends {layout : Layout Value} {next : Value → Recv Next} {condition : Prop}
    (before after : GoErrors) (inside : position ≤ stream.length)
    (ends : position + layout.size ≤ stream.length →
      (position + layout.size < 2 ^ 32 → position + layout.size ≤ size.toNat) →
      EndsWithin infoType size stream (position + layout.size) condition
        (next (layout.read ((stream.drop position).take layout.size))
          (helperAt infoType size stream (position + layout.size))).2) :
    EndsWithin infoType size stream position
      (position + layout.size ≤ size.toNat ∧ condition)
      ((ReadHelper.readData layout).andThen before after next
        (helperAt infoType size stream position)).2 := by
  rcases readData_at infoType size layout inside with
    ⟨error, helper, failed, exhausted⟩ | ⟨bound, read⟩
  · refine .inl ?_
    simp only [Recv.andThen, failed]
    exact exhausted
  · by_cases beyond : UInt32.ofNat (position + layout.size) > size
    · have outside : ¬ position + layout.size ≤ size.toNat := by
        intro within
        have beyond : size.toNat < (UInt32.ofNat (position + layout.size)).toNat := beyond
        rw [toNat_ofNat_of_le within] at beyond
        omega
      simp only [Recv.andThen, read, beyond, ↓reduceIte]
      exact .inr ⟨_, rfl, bound, Nat.le_add_right _ _, fun within => absurd within outside,
        fun both => absurd both.1 outside⟩
    · have within : position + layout.size < 2 ^ 32 → position + layout.size ≤ size.toNat := by
        intro small
        have checked : (UInt32.ofNat (position + layout.size)).toNat ≤ size.toNat :=
          UInt32.not_lt.mp beyond
        rwa [UInt32.toNat_ofNat_of_lt' small] at checked
      simp only [Recv.andThen, read, beyond, ↓reduceIte]
      rcases ends bound within with exhausted | ⟨last, same, inside, after, exact⟩
      · exact .inl exhausted
      · refine .inr ⟨last, same, inside, by omega, ?_⟩
        constructor
        · exact fun within => ⟨by omega, exact.mp within⟩
        · exact fun both => exact.mpr both.2

theorem readData_last {layout : Layout Value} {make : Value → Next} (before after : GoErrors)
    (inside : position ≤ stream.length) :
    EndsWithin infoType size stream position (position + layout.size ≤ size.toNat)
      ((ReadHelper.readData layout).andThen before after (fun value => .pure (make value))
        (helperAt infoType size stream position)).2 := by
  refine EndsWithin.congr (readData_ends before after inside ?_) (and_self_iff ..)
  exact fun bound _ => endsWithin_here bound Iff.rfl

/-- An explicit payload length that stays below `2 ^ 32` together with the bytes before it is
checked against the record. -/
theorem readBytes_ends {asked : UInt32} (inside : position ≤ stream.length)
    (within : position ≤ size.toNat) (nonzero : asked > 0) :
    EndsWithin infoType size stream position
      (position = size.toNat ∨ position + asked.toNat < 2 ^ 32)
      (ReadHelper.readBytes asked (helperAt infoType size stream position)).2 := by
  have here := toNat_ofNat_of_le within
  have bound := size.toNat_lt
  have askedBound := asked.toNat_lt
  have positive : 0 < asked.toNat := nonzero
  have different : (asked == 0) = false := by
    simp only [beq_eq_false_iff_ne, ne_eq]
    rintro rfl
    exact absurd positive (by decide)
  by_cases full : UInt32.ofNat position ≥ size
  · have exact : size.toNat ≤ (UInt32.ofNat position).toNat := full
    have unchanged : (ReadHelper.readBytes asked (helperAt infoType size stream position)).2 =
        helperAt infoType size stream position := by
      simp [ReadHelper.readBytes, helperAt, full]
    rw [unchanged]
    refine endsWithin_here inside ⟨fun _ => .inl (by omega), fun _ => within⟩
  · have before : (UInt32.ofNat position).toNat < size.toNat := UInt32.not_le.mp full
    have sum : (UInt32.ofNat position + asked).toNat = (position + asked.toNat) % 2 ^ 32 := by
      rw [UInt32.toNat_add, here]
    by_cases beyond : size < UInt32.ofNat position + asked
    · have beyond' : size.toNat < (UInt32.ofNat position + asked).toNat := beyond
      have unchanged : (ReadHelper.readBytes asked (helperAt infoType size stream position)).2 =
          helperAt infoType size stream position := by
        simp [ReadHelper.readBytes, helperAt, full, different, beyond]
      rw [unchanged]
      refine endsWithin_here inside ⟨fun _ => .inr ?_, fun _ => within⟩
      rw [sum] at beyond'
      omega
    · have fits : (UInt32.ofNat position + asked).toNat ≤ size.toNat := UInt32.not_lt.mp beyond
      have reads : ReadHelper.readBytes asked (helperAt infoType size stream position) =
          ReadHelper.readFull asked.toNat (helperAt infoType size stream position) := by
        simp [ReadHelper.readBytes, helperAt, full, different, beyond]
      rw [reads]
      rcases readFull_at infoType size asked.toNat inside with
        ⟨error, helper, failed, exhausted⟩ | ⟨inside', read⟩
      · rw [failed]
        exact .inl exhausted
      · rw [read]
        refine .inr ⟨_, rfl, inside', Nat.le_add_right _ _, ?_⟩
        rw [sum] at fits
        omega

theorem EndsWithin.andThen_pure {condition : Prop} {action : Recv Value} {helper : ReadHelper}
    (ends : EndsWithin infoType size stream position condition (action helper).2)
    (before after : GoErrors) (make : Value → Next) :
    EndsWithin infoType size stream position condition
      (action.andThen before after (fun value => .pure (make value)) helper).2 := by
  rw [Recv.andThen_pure]
  exact ends

theorem recvBandwidthValues_ends {n : Nat} (parseError : GoError) (count : Nat)
    (inside : position ≤ stream.length) :
    EndsWithin infoType size stream position
      (position + (bandwidthValue n).size * count ≤ size.toNat)
      ((recvBandwidthValues parseError count : Recv (List (BandwidthValue n)))
        (helperAt infoType size stream position)).2 := by
  induction count generalizing position with
  | zero => exact endsWithin_here inside (by rw [Nat.mul_zero, Nat.add_zero])
  | succ count ih =>
      refine EndsWithin.congr (readData_ends [parseError] [] inside fun bound _ =>
        (ih bound).andThen_pure [] [] _) ?_
      rw [Nat.mul_succ]
      constructor
      · rintro ⟨-, within⟩
        omega
      · exact fun within => ⟨by omega, by omega⟩

end Reads

def u32At (bytes : Bytes) (offset : Nat) : UInt32 := u32OfBytes ((bytes.drop offset).take 4)

/-- The declared size covers the fixed fields, and an inner length or count does not lead out of
the record. -/
def FieldsWithin (infoType : UInt8) (payload : Bytes) : Prop :=
  match infoType with
  | 0 => 1 ≤ payload.length
  | 1 =>
      connectionFieldsSize 4 ≤ payload.length ∧
        (payload.length = connectionFieldsSize 4 ∨
          connectionFieldsSize 4 + (u32At payload (connectionFieldsSize 4 - 4)).toNat < 2 ^ 32)
  | 2 =>
      connectionFieldsSize 16 ≤ payload.length ∧
        (payload.length = connectionFieldsSize 16 ∨
          connectionFieldsSize 16 + (u32At payload (connectionFieldsSize 16 - 4)).toNat < 2 ^ 32)
  | 3 => connectionEndFieldsSize 4 ≤ payload.length
  | 4 => connectionEndFieldsSize 16 ≤ payload.length
  | 5 => 5 ≤ payload.length ∧ 5 + bandwidthValueSize 4 * (u32At payload 1).toNat ≤ payload.length
  | 6 => 5 ≤ payload.length ∧ 5 + bandwidthValueSize 16 * (u32At payload 1).toNat ≤ payload.length
  | _ => True

section Bodies

theorem size_connectionInternal (n : Nat) :
    (connectionInternal n).size + 4 = connectionFieldsSize n := by
  change 8 + (8 + (1 + (1 + (n + (n + (2 + (2 + 1))))))) + 4 = 8 + 8 + 1 + 1 + n + n + 2 + 2 + 1 + 4
  omega

theorem size_connectionEnd (n : Nat) : (connectionEnd n).size = connectionEndFieldsSize n := by
  change 8 + (1 + (1 + (n + (n + (2 + 2))))) = 8 + 1 + 1 + n + n + 2 + 2
  omega

theorem size_bandwidthValue (n : Nat) : (bandwidthValue n).size = bandwidthValueSize n := by
  change n + (2 + (n + (2 + (8 + 8)))) = 2 * n + 2 * 2 + 2 * 8
  omega

theorem recvConnection_ends {n : Nat} (parseError : GoError) (fixed payloadSize payload : GoErrors)
    (make : ConnectionFields n → Bytes → GoInfo) (small : connectionFieldsSize n < 2 ^ 32) :
    EndsWithin infoType size stream 0
      (connectionFieldsSize n ≤ size.toNat ∧
        (size.toNat = connectionFieldsSize n ∨
          connectionFieldsSize n + (u32At stream (connectionFieldsSize n - 4)).toNat < 2 ^ 32))
      (recvConnection parseError fixed payloadSize payload make
        (helperAt infoType size stream 0)).2 := by
  have fields := size_connectionInternal n
  have total : 0 + (connectionInternal n).size + Layout.u32.size = connectionFieldsSize n := by
    rw [Nat.zero_add]
    exact fields
  have start : 0 + (connectionInternal n).size + Layout.u32.size - 4 =
      0 + (connectionInternal n).size := Nat.add_sub_cancel _ 4
  have ends : EndsWithin infoType size stream 0
      (0 + (connectionInternal n).size ≤ size.toNat ∧ connectionFieldsSize n ≤ size.toNat ∧
        (connectionFieldsSize n = size.toNat ∨
          connectionFieldsSize n + (u32At stream (connectionFieldsSize n - 4)).toNat < 2 ^ 32))
      (recvConnection parseError fixed payloadSize payload make
        (helperAt infoType size stream 0)).2 := by
    refine readData_ends [parseError] fixed (Nat.zero_le _) fun bound _ => ?_
    rw [← total] at small ⊢
    refine readData_ends [parseError] payloadSize bound fun bound within => ?_
    rw [start]
    have read : Layout.u32.read ((stream.drop (0 + (connectionInternal n).size)).take
        Layout.u32.size) = u32At stream (0 + (connectionInternal n).size) := rfl
    rw [read]
    split
    · rename_i nonzero
      exact (readBytes_ends bound (within small) nonzero).andThen_pure _ _ _
    · rename_i zero
      have none : (u32At stream (0 + (connectionInternal n).size)).toNat = 0 := by
        have := UInt32.not_lt.mp zero
        exact Nat.le_zero.mp this
      refine endsWithin_here bound ⟨fun _ => .inr ?_, fun _ => within small⟩
      rw [none]
      omega
  refine ends.congr ⟨?_, ?_⟩
  · rintro ⟨-, within, inner⟩
    exact ⟨within, inner.imp_left Eq.symm⟩
  · rintro ⟨within, inner⟩
    exact ⟨by omega, within, inner.imp_left Eq.symm⟩

theorem recvConnectionEnd_ends {n : Nat} (parseError : GoError)
    (make : ConnectionEndFields n → GoInfo) :
    EndsWithin infoType size stream 0 (connectionEndFieldsSize n ≤ size.toNat)
      (recvConnectionEnd parseError make (helperAt infoType size stream 0)).2 := by
  have ends : EndsWithin infoType size stream 0 (0 + (connectionEnd n).size ≤ size.toNat)
      (recvConnectionEnd parseError make (helperAt infoType size stream 0)).2 :=
    readData_last [parseError] [] (Nat.zero_le _)
  rwa [Nat.zero_add, size_connectionEnd] at ends

theorem recvBandwidth_ends {n : Nat} (parseError : GoError)
    (make : UInt8 → List (BandwidthValue n) → GoInfo) :
    EndsWithin infoType size stream 0
      (5 ≤ size.toNat ∧ 5 + bandwidthValueSize n * (u32At stream 1).toNat ≤ size.toNat)
      (recvBandwidth parseError make (helperAt infoType size stream 0)).2 := by
  have ends : EndsWithin infoType size stream 0
      (1 ≤ size.toNat ∧ 5 ≤ size.toNat ∧
        5 + (bandwidthValue n).size * (u32At stream 1).toNat ≤ size.toNat)
      (recvBandwidth parseError make (helperAt infoType size stream 0)).2 :=
    readData_ends [parseError] [] (Nat.zero_le _) fun bound _ =>
      readData_ends [parseError] [] bound fun bound _ =>
        (recvBandwidthValues_ends parseError _ bound).andThen_pure [] [] _
  rw [size_bandwidthValue] at ends
  exact ends.congr ⟨fun all => all.2, fun both => ⟨by omega, both⟩⟩

theorem recvLogLine_ends (parseError : GoError) :
    EndsWithin infoType size stream 0 (1 ≤ size.toNat)
      (recvLogLine parseError (helperAt infoType size stream 0)).2 := by
  have ends : EndsWithin infoType size stream 0 (1 ≤ size.toNat ∧ True)
      (recvLogLine parseError (helperAt infoType size stream 0)).2 := by
    refine readData_ends [parseError] [] (Nat.zero_le _) fun bound within => ?_
    refine EndsWithin.andThen_pure ?_ [parseError] [] _
    rcases readUntilTheEnd_at bound with exhausted | ⟨reached, same, inside, after, exact⟩
    · exact .inl exhausted
    · have ended := exact (within (by decide))
      exact .inr ⟨reached, same, inside, after, ⟨fun _ => trivial, fun _ => Nat.le_of_eq ended⟩⟩
  exact ends.congr ⟨And.left, fun within => ⟨within, trivial⟩⟩

end Bodies

theorem u32At_append {payload following : Bytes} {offset : Nat}
    (inside : offset + 4 ≤ payload.length) :
    u32At (payload ++ following) offset = u32At payload offset := by
  rw [u32At, u32At, List.drop_append_of_le_length (by omega),
    List.take_append_of_le_length (by rw [List.length_drop]; omega)]

theorem recvBody_ends (infoType : UInt8) {payload following : Bytes}
    (declared : size.toNat = payload.length) :
    EndsWithin infoType size (payload ++ following) 0 (FieldsWithin infoType payload)
      (recvBody infoType (helperAt infoType size (payload ++ following) 0)).2 := by
  unfold recvBody
  split
  · refine (recvConnection_ends _ _ _ _ _ (by decide)).congr ?_
    rw [declared]
    refine and_congr_right fun within => ?_
    rw [u32At_append (by unfold connectionFieldsSize at *; omega)]
  · refine (recvConnection_ends _ _ _ _ _ (by decide)).congr ?_
    rw [declared]
    refine and_congr_right fun within => ?_
    rw [u32At_append (by unfold connectionFieldsSize at *; omega)]
  · refine (recvConnectionEnd_ends _ _).congr ?_
    rw [declared]
    exact Iff.rfl
  · refine (recvConnectionEnd_ends _ _).congr ?_
    rw [declared]
    exact Iff.rfl
  · refine (recvLogLine_ends _).congr ?_
    rw [declared]
    exact Iff.rfl
  · refine (recvBandwidth_ends _ _).congr ?_
    rw [declared]
    refine and_congr_right fun within => ?_
    rw [u32At_append (by omega)]
  · refine (recvBandwidth_ends _ _).congr ?_
    rw [declared]
    refine and_congr_right fun within => ?_
    rw [u32At_append (by omega)]
  · refine endsWithin_here (Nat.zero_le _) ⟨fun _ => ?_, fun _ => Nat.zero_le _⟩
    unfold FieldsWithin
    split <;> first | contradiction | trivial

end Positions

/-- A record with its header, as any sender may frame it. -/
def framed (infoType : UInt8) (size : UInt32) (payload following : Bytes) : Reader where
  bytes := infoType :: (bytesOfU32 size ++ (payload ++ following))
  exhausted := false

theorem recvInfo_framed (infoType : UInt8) (size : UInt32) (payload following : Bytes) :
    recvInfo (framed infoType size payload following) =
      ((recvBody infoType (helperAt infoType size (payload ++ following) 0)).1,
        (recvBody infoType (helperAt infoType size (payload ++ following) 0)).2.readUntilTheEnd.reader) := by
  have header : Reader.readValue (framed infoType size payload following) Layout.u8 =
      (.ok infoType, ⟨bytesOfU32 size ++ (payload ++ following), false⟩) := by
    simp [Reader.readValue, Reader.readFull, framed, Layout.u8, byteAt]
  have declared : Reader.readValue ⟨bytesOfU32 size ++ (payload ++ following), false⟩ Layout.u32 =
      (.ok size, ⟨payload ++ following, false⟩) := by
    have enough : Layout.u32.size ≤ (bytesOfU32 size ++ (payload ++ following)).length := by
      rw [List.length_append, length_bytesOfU32]
      exact Nat.le_add_right _ _
    have value : Layout.u32.read ((bytesOfU32 size ++ (payload ++ following)).take
        Layout.u32.size) = size := Layout.read_take Layout.u32 size _
    have rest : (bytesOfU32 size ++ (payload ++ following)).drop Layout.u32.size =
        payload ++ following := Layout.drop_write Layout.u32 size _
    simp only [Reader.readValue, Reader.readFull, enough, ↓reduceIte, value, rest]
  simp only [recvInfo, header, declared]
  rfl

/-- `RecvInfo` leaves the reader behind the record exactly when the reads of its fields end
within the declared size. -/
theorem recvInfo_consumes_record_iff (infoType : UInt8) (size : UInt32) (payload following : Bytes)
    (declared : size.toNat = payload.length)
    (available : (recvInfo (framed infoType size payload following)).2.exhausted = false) :
    (recvInfo (framed infoType size payload following)).2.bytes = following ↔
      FieldsWithin infoType payload := by
  rw [recvInfo_framed] at available ⊢
  simp only at available ⊢
  rcases recvBody_ends infoType declared with exhausted | ⟨reached, same, inside, -, exact⟩
  · rw [readUntilTheEnd_exhausted exhausted] at available
    cases available
  · rw [same] at available ⊢
    rcases readUntilTheEnd_at inside with exhausted | ⟨last, drained, inside', after, ends⟩
    · rw [exhausted] at available
      cases available
    · rw [drained, ← exact, declared]
      rw [declared] at ends
      have left : (helperAt infoType size (payload ++ following) last).reader.bytes =
          (payload ++ following).drop last := rfl
      rw [left]
      constructor
      · intro positioned
        have lengths := congrArg List.length positioned
        rw [List.length_drop, List.length_append] at lengths
        rw [List.length_append] at inside'
        omega
      · intro within
        rw [ends within, List.drop_left]

theorem recvInfo_consumes_record_iff_logLine :
    (recvInfo (framed 0 2 [4, 65] [3, 22])).2.bytes = [3, 22] ↔ FieldsWithin 0 [4, 65] :=
  recvInfo_consumes_record_iff 0 2 [4, 65] [3, 22] (by decide) (by decide)

def twoLogLines : Bytes :=
  [0, 2, 0, 0, 0, 4, 65, 0, 16, 0, 0, 0, 4, 66, 67, 68, 69, 70, 71, 72, 73, 74, 75, 76, 77, 78, 79,
    80]

/-- A connection end that declares no payload is read to the end of its fields, which takes most
of the records behind it. -/
theorem recvInfo_overreads_connectionEnd :
    (recvInfo (framed 3 0 [] twoLogLines)).1 =
        .error [.text "failed to parse InfoConnectionEndEventV4", .unexpectedInfoSize] ∧
      (recvInfo (framed 3 0 [] twoLogLines)).2.exhausted = false ∧
      (recvInfo (framed 3 0 [] twoLogLines)).2.bytes = [75, 76, 77, 78, 79, 80] ∧
      (recvInfo (framed 3 0 [] twoLogLines)).2.bytes ≠ twoLogLines :=
  ⟨rfl, by decide, by decide, by decide⟩

end WindowsKext
