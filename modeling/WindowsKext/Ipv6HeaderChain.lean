import WindowsKext.Ipv6PacketCore

/-! The IPv6 extension-header chain of a byte string, and the header walk as a report on it. -/

namespace WindowsKext

open ByteString

def extensionLength (packet : Bytes) (protocol : IpProtocol) (offset : Nat) : Nat :=
  if protocol = .ipv6Frag then 8 else ((byteAt packet (offset + 1)).toNat + 1) * 8

/-- A Fragment header with an offset or with more fragments to come. -/
def isNonAtomicFragment (packet : Bytes) (header : IpProtocol × Nat) : Bool :=
  decide (header.1 = .ipv6Frag) && wordAt packet (header.2 + 2) &&& 0xfff9 != 0

def isActiveRouting (packet : Bytes) (header : IpProtocol × Nat) : Bool :=
  decide (header.1 = .ipv6Route) && byteAt packet (header.2 + 3) != 0

/-- Complete extension headers with the offset of each, and what follows them. -/
structure HeaderChain where
  headers : List (IpProtocol × Nat)
  protocol : IpProtocol
  offset : Nat
  stopped : Bool

/-- The chain of at most `limit` headers from one header on. -/
def headerChain (packet : Bytes) (stopAtFragment : Bool) :
    Nat → IpProtocol → Nat → HeaderChain
  | 0, protocol, offset =>
      { headers := [], protocol := protocol, offset := offset, stopped := false }
  | limit + 1, protocol, offset =>
      if protocol.isExtension && offset + extensionLength packet protocol offset ≤ packet.length then
        let next := IpProtocol.ofNumber (byteAt packet offset)
        let nextOffset := offset + extensionLength packet protocol offset
        if stopAtFragment && isNonAtomicFragment packet (protocol, offset) then
          { headers := [(protocol, offset)], protocol := next, offset := nextOffset, stopped := true }
        else
          let rest := headerChain packet stopAtFragment limit next nextOffset
          { rest with headers := (protocol, offset) :: rest.headers }
      else { headers := [], protocol := protocol, offset := offset, stopped := false }

theorem extensionLength_pos (packet : Bytes) (protocol : IpProtocol) (offset : Nat) :
    8 ≤ extensionLength packet protocol offset := by
  unfold extensionLength
  split <;> omega

theorem fragmentBits_eq {word : Nat} (bound : word < 65536) :
    (word &&& 0xfff9 != 0) = (word / 8 != 0 || word % 2 == 1) := by
  have low : (word &&& 0xfff9) % 2 = word % 2 := by
    have masked := Nat.and_assoc word 0xfff9 1
    rw [Nat.and_one_is_mod] at masked
    rw [masked]
    exact Nat.and_one_is_mod word
  have high : (word &&& 0xfff9) / 8 = word / 8 := by
    have shifted := Nat.shiftRight_and_distrib (a := word) (b := 0xfff9) (i := 3)
    have whole : word >>> 3 &&& 0xfff9 >>> 3 = word >>> 3 % 2 ^ 13 :=
      Nat.and_two_pow_sub_one_eq_mod _ 13
    rw [whole, Nat.shiftRight_eq_div_pow, Nat.shiftRight_eq_div_pow] at shifted
    omega
  by_cases zero : word &&& 0xfff9 = 0
  · rw [zero] at low high
    have offset : word / 8 = 0 := by omega
    have more : word % 2 = 0 := by omega
    simp [zero, offset, more]
  · have set : word / 8 ≠ 0 ∨ word % 2 = 1 := by
      refine Decidable.byContradiction fun clear => ?_
      have small : word = 0 ∨ word = 2 ∨ word = 4 ∨ word = 6 := by omega
      rcases small with rfl | rfl | rfl | rfl <;> exact zero (by decide)
    have left : (word &&& 0xfff9 != 0) = true := bne_iff_ne.mpr zero
    rw [left]
    rcases set with offset | more
    · rw [bne_iff_ne.mpr offset, Bool.true_or]
    · rw [beq_iff_eq.mpr more, Bool.or_true]

theorem wordAt_take {packet : Bytes} {count index : Nat} (inside : index + 2 ≤ count) :
    wordAt (packet.take count) index = wordAt packet index := by
  rw [wordAt, wordAt, byteAt_take, byteAt_take, if_pos (by omega), if_pos (by omega)]

theorem readPrefix_bytes (packet : Bytes) (length : Nat) :
    PacketData.readPrefix packet length =
      (if length ≤ packet.length then some (packet.take length) else none, packet) := rfl

def reportChain (packet : Bytes) (inspectRoutingHeader : Bool) (headers : Ipv6Headers)
    (chain : HeaderChain) : Ipv6Headers :=
  { protocol := chain.protocol
    transportOffset := chain.offset
    isFragment := headers.isFragment || chain.headers.any (isNonAtomicFragment packet)
    activeRoutingHeader := headers.activeRoutingHeader ||
      (inspectRoutingHeader && chain.headers.any (isActiveRouting packet))
    resolved := headers.resolved || (!chain.stopped && !chain.protocol.isExtension) }

section Loop

variable {packet : Bytes} {stopAtFragment inspectRoutingHeader : Bool} {remaining : Nat}
  {headers : Ipv6Headers}

theorem walkIpv6Loop_of_end
    (ended : headers.protocol.isExtension = false ∨ remaining = 0 ∨ packet.length <
      headers.transportOffset + extensionLength packet headers.protocol headers.transportOffset) :
    walkIpv6Loop stopAtFragment inspectRoutingHeader remaining headers packet =
      ({ headers with
        resolved := headers.resolved || !headers.protocol.isExtension }, packet) := by
  obtain ⟨protocol, offset, isFragment, active, resolved⟩ := headers
  have options (kind : IpProtocol) (notFragment : kind ≠ .ipv6Frag)
      (short : packet.length < offset + extensionLength packet kind offset)
      (readable : offset + 2 ≤ packet.length) :
      ¬ offset + ((byteAt (packet.take (offset + 2)) (offset + 1)).toNat + 1) * 8 ≤
        packet.length := by
    rw [extensionLength, if_neg notFragment] at short
    rw [byteAt_take, if_pos (by omega)]
    omega
  cases protocol with
  | ipv6Frag =>
      cases remaining with
      | zero => simp [walkIpv6Loop, IpProtocol.isExtension]
      | succ remaining =>
          have short : ¬ offset + 8 ≤ packet.length := by
            simpa [IpProtocol.isExtension, extensionLength] using ended
          simp [walkIpv6Loop, IpProtocol.isExtension, PacketData.len, short]
  | hopByHop | ipv6Route | ipv6Opts =>
      cases remaining with
      | zero => simp [walkIpv6Loop, IpProtocol.isExtension]
      | succ remaining =>
          simp only [IpProtocol.isExtension, Bool.true_eq_false, Nat.add_eq_zero_iff,
            Nat.succ_ne_self, and_false, false_or] at ended
          by_cases readable : offset + 2 ≤ packet.length
          · have long := options _ (by decide) ended readable
            simp [walkIpv6Loop, IpProtocol.isExtension, PacketData.len, readPrefix_bytes,
              readable, long]
          · simp [walkIpv6Loop, IpProtocol.isExtension, readPrefix_bytes, readable]
  | _ => cases remaining <;> simp [walkIpv6Loop, IpProtocol.isExtension]

theorem walkIpv6Loop_of_step (extension : headers.protocol.isExtension = true)
    (complete : headers.transportOffset +
      extensionLength packet headers.protocol headers.transportOffset ≤ packet.length) :
    walkIpv6Loop stopAtFragment inspectRoutingHeader (remaining + 1) headers packet =
      let here := (headers.protocol, headers.transportOffset)
      let next : Ipv6Headers :=
        { protocol := IpProtocol.ofNumber (byteAt packet headers.transportOffset)
          transportOffset := headers.transportOffset +
            extensionLength packet headers.protocol headers.transportOffset
          isFragment := headers.isFragment || isNonAtomicFragment packet here
          activeRoutingHeader := headers.activeRoutingHeader ||
            (inspectRoutingHeader && isActiveRouting packet here)
          resolved := headers.resolved }
      if stopAtFragment && isNonAtomicFragment packet here then (next, packet)
      else walkIpv6Loop stopAtFragment inspectRoutingHeader remaining next packet := by
  obtain ⟨protocol, offset, isFragment, active, resolved⟩ := headers
  cases protocol with
  | ipv6Frag =>
      simp only [extensionLength, ↓reduceIte] at complete
      have first : byteAt (packet.take (offset + 4)) offset = byteAt packet offset := by
        rw [byteAt_take, if_pos (by omega)]
      have bits : wordAt (packet.take (offset + 4)) (offset + 2) = wordAt packet (offset + 2) :=
        wordAt_take (by omega)
      have readable : offset + 4 ≤ packet.length := by omega
      simp only [walkIpv6Loop, PacketData.len, complete, ↓reduceIte, readPrefix_bytes, readable,
        first, bits, isNonAtomicFragment, isActiveRouting, extensionLength, decide_true,
        Bool.true_and]
      cases fragmented : (wordAt packet (offset + 2) &&& 0xfff9 != 0) with
      | true => cases stopAtFragment <;> simp
      | false => simp
  | hopByHop | ipv6Route | ipv6Opts =>
      simp only [extensionLength, reduceCtorEq, ↓reduceIte] at complete
      have first : byteAt (packet.take (offset + 2)) offset = byteAt packet offset := by
        rw [byteAt_take, if_pos (by omega)]
      have second : byteAt (packet.take (offset + 2)) (offset + 1) =
          byteAt packet (offset + 1) := by
        rw [byteAt_take, if_pos (by omega)]
      have third : byteAt (packet.take (offset + 4)) (offset + 3) =
          byteAt packet (offset + 3) := by
        rw [byteAt_take, if_pos (by omega)]
      have readable : offset + 2 ≤ packet.length := by omega
      have routing : offset + 4 ≤ packet.length := by omega
      cases inspectRoutingHeader <;>
        simp [walkIpv6Loop, PacketData.len, readPrefix_bytes, readable, routing, complete, first,
          second, third, isNonAtomicFragment, isActiveRouting, extensionLength]
  | _ => cases extension

end Loop

theorem walkIpv6Loop_eq (packet : Bytes) (stopAtFragment inspectRoutingHeader : Bool)
    (remaining : Nat) (headers : Ipv6Headers) :
    walkIpv6Loop stopAtFragment inspectRoutingHeader remaining headers packet =
      (reportChain packet inspectRoutingHeader headers
        (headerChain packet stopAtFragment remaining headers.protocol headers.transportOffset),
        packet) := by
  induction remaining generalizing headers with
  | zero => simp [walkIpv6Loop_of_end, headerChain, reportChain]
  | succ remaining ih =>
      rw [headerChain]
      split
      · rename_i inside
        simp only [Bool.and_eq_true, decide_eq_true_eq] at inside
        rw [walkIpv6Loop_of_step inside.1 inside.2]
        dsimp only
        split
        · rename_i stops
          simp [reportChain, (Bool.and_eq_true _ _ ▸ stops).2]
        · simp [ih, reportChain, Bool.or_assoc, Bool.and_or_distrib_left]
      · rename_i outside
        rw [walkIpv6Loop_of_end]
        · simp [reportChain]
        · simp only [Bool.and_eq_true, decide_eq_true_eq, not_and, Nat.not_le] at outside
          cases extension : headers.protocol.isExtension with
          | false => exact .inl rfl
          | true => exact .inr (.inr (outside extension))

theorem headerChain_offset_le (packet : Bytes) (stopAtFragment : Bool) (limit : Nat)
    (protocol : IpProtocol) (offset : Nat) :
    offset ≤ (headerChain packet stopAtFragment limit protocol offset).offset := by
  induction limit generalizing protocol offset with
  | zero => exact Nat.le_refl _
  | succ limit ih =>
      rw [headerChain]
      split
      · dsimp only
        split
        · exact Nat.le_add_right _ _
        · exact Nat.le_trans (Nat.le_add_right _ _) (ih _ _)
      · exact Nat.le_refl _

theorem headerChain_offset_le_length {packet : Bytes} {offset : Nat}
    (inside : offset ≤ packet.length) (stopAtFragment : Bool) (limit : Nat)
    (protocol : IpProtocol) :
    (headerChain packet stopAtFragment limit protocol offset).offset ≤ packet.length := by
  induction limit generalizing protocol offset with
  | zero => exact inside
  | succ limit ih =>
      rw [headerChain]
      split
      · rename_i complete
        simp only [Bool.and_eq_true, decide_eq_true_eq] at complete
        dsimp only
        split
        · exact complete.2
        · exact ih complete.2 _
      · exact inside

theorem headerChain_of_step {packet : Bytes} {protocol : IpProtocol} {offset : Nat}
    (extension : protocol.isExtension = true)
    (complete : offset + extensionLength packet protocol offset ≤ packet.length) (limit : Nat) :
    headerChain packet false (limit + 1) protocol offset =
      let rest := headerChain packet false limit (IpProtocol.ofNumber (byteAt packet offset))
        (offset + extensionLength packet protocol offset)
      { rest with headers := (protocol, offset) :: rest.headers } := by
  simp [headerChain, extension, complete]

/-- A resolved chain is determined by the bytes of its headers, in a byte string that may be
longer. -/
theorem headerChain_congr {left right : Bytes} (length : left.length ≤ right.length)
    (limit : Nat) (protocol : IpProtocol) (offset : Nat)
    (resolved : (headerChain left false limit protocol offset).protocol.isExtension = false)
    (same : ∀ index, offset ≤ index → index < (headerChain left false limit protocol offset).offset →
      byteAt right index = byteAt left index) :
    headerChain right false limit protocol offset = headerChain left false limit protocol offset ∧
      (headerChain left false limit protocol offset).headers.any (isNonAtomicFragment right) =
        (headerChain left false limit protocol offset).headers.any (isNonAtomicFragment left) ∧
      (headerChain left false limit protocol offset).headers.any (isActiveRouting right) =
        (headerChain left false limit protocol offset).headers.any (isActiveRouting left) := by
  induction limit generalizing protocol offset with
  | zero => simp [headerChain]
  | succ limit ih =>
      by_cases step : protocol.isExtension = true ∧
          offset + extensionLength left protocol offset ≤ left.length
      · obtain ⟨extension, complete⟩ := step
        rw [headerChain_of_step extension complete] at resolved same ⊢
        have further := headerChain_offset_le left false limit
          (IpProtocol.ofNumber (byteAt left offset)) (offset + extensionLength left protocol offset)
        have positive := extensionLength_pos left protocol offset
        have here (index : Nat) (bound : index < 8) :
            byteAt right (offset + index) = byteAt left (offset + index) :=
          same _ (Nat.le_add_right _ _) (by dsimp only; omega)
        have first := here 0 (by omega)
        rw [Nat.add_zero] at first
        have sameLength : extensionLength right protocol offset =
            extensionLength left protocol offset := by
          simp only [extensionLength, here 1 (by omega)]
        have sameFragment : isNonAtomicFragment right (protocol, offset) =
            isNonAtomicFragment left (protocol, offset) := by
          simp only [isNonAtomicFragment, wordAt, Nat.add_assoc, here 2 (by omega),
            here 3 (by omega)]
        have sameRouting : isActiveRouting right (protocol, offset) =
            isActiveRouting left (protocol, offset) := by
          simp only [isActiveRouting, here 3 (by omega)]
        obtain ⟨chain, fragments, routing⟩ := ih _ _ resolved fun index low high =>
          same index (by omega) high
        have rightComplete : offset + extensionLength right protocol offset ≤ right.length := by
          rw [sameLength]
          exact Nat.le_trans complete length
        have rightStep := headerChain_of_step extension rightComplete limit
        rw [first, sameLength, chain] at rightStep
        refine ⟨rightStep, ?_, ?_⟩
        · rw [List.any_cons, List.any_cons, sameFragment, fragments]
        · rw [List.any_cons, List.any_cons, sameRouting, routing]
      · have ended : protocol.isExtension = false := by
          rw [headerChain] at resolved
          split at resolved
          · rename_i inside
            exact absurd (by simpa using inside) step
          · exact resolved
        simp [headerChain, ended]

/-- A header of a longer chain is in the shorter one, or the shorter one stops before an
extension header. -/
theorem headerChain_mem_of_limit {packet : Bytes} {header : IpProtocol × Nat} {limit : Nat}
    {protocol : IpProtocol} {offset : Nat}
    (member : header ∈ (headerChain packet false limit protocol offset).headers)
    (other : Nat) :
    header ∈ (headerChain packet false other protocol offset).headers ∨
      (headerChain packet false other protocol offset).protocol.isExtension = true := by
  induction limit generalizing protocol offset other with
  | zero => cases member
  | succ limit ih =>
      by_cases step : protocol.isExtension = true ∧
          offset + extensionLength packet protocol offset ≤ packet.length
      · obtain ⟨extension, complete⟩ := step
        cases other with
        | zero => exact .inr extension
        | succ other =>
            rw [headerChain_of_step extension complete] at member ⊢
            rcases List.mem_cons.mp member with rfl | inRest
            · exact .inl List.mem_cons_self
            · rcases ih inRest other with found | ended
              · exact .inl (List.mem_cons_of_mem _ found)
              · exact .inr ended
      · rw [headerChain] at member
        split at member
        · rename_i inside
          exact absurd (by simpa using inside) step
        · cases member

theorem headerChain_of_unfragmented {packet : Bytes} {limit : Nat} {protocol : IpProtocol}
    {offset : Nat} (unfragmented : (headerChain packet true limit protocol offset).headers.any
      (isNonAtomicFragment packet) = false) :
    headerChain packet false limit protocol offset =
      headerChain packet true limit protocol offset := by
  induction limit generalizing protocol offset with
  | zero => rfl
  | succ limit ih =>
      rw [headerChain] at unfragmented ⊢
      rw [headerChain]
      split
      · rename_i step
        simp only [step, ↓reduceIte, Bool.true_and] at unfragmented
        simp only [Bool.false_and, Bool.false_eq_true, ↓reduceIte, Bool.true_and]
        cases fragment : isNonAtomicFragment packet (protocol, offset) with
        | true => simp [fragment] at unfragmented
        | false =>
            simp only [fragment, Bool.false_eq_true, ↓reduceIte, List.any_cons,
              Bool.false_or] at unfragmented ⊢
            rw [ih unfragmented]
      · rfl

theorem headerChain_stop_of_unfragmented {packet : Bytes} {limit : Nat} {protocol : IpProtocol}
    {offset : Nat} (unfragmented : (headerChain packet false limit protocol offset).headers.any
      (isNonAtomicFragment packet) = false) :
    headerChain packet true limit protocol offset =
      headerChain packet false limit protocol offset := by
  induction limit generalizing protocol offset with
  | zero => rfl
  | succ limit ih =>
      rw [headerChain] at unfragmented ⊢
      rw [headerChain]
      split
      · rename_i step
        simp only [step, ↓reduceIte, Bool.false_and, Bool.false_eq_true, List.any_cons,
          Bool.or_eq_false_iff] at unfragmented
        simp only [Bool.false_and, Bool.false_eq_true, ↓reduceIte, Bool.true_and, unfragmented.1,
          ih unfragmented.2]
      · rfl

theorem headerChain_not_stopped (packet : Bytes) (limit : Nat) (protocol : IpProtocol)
    (offset : Nat) : (headerChain packet false limit protocol offset).stopped = false := by
  induction limit generalizing protocol offset with
  | zero => rfl
  | succ limit ih =>
      rw [headerChain]
      split
      · exact ih _ _
      · rfl

def baseHeaders (packet : Bytes) : Ipv6Headers :=
  { protocol := Ipv6Packet.nextHeader packet
    transportOffset := ipv6BaseLen
    isFragment := false
    activeRoutingHeader := false
    resolved := false }

/-- The extension headers of a packet that starts with an IPv6 base header. -/
def packetChain (packet : Bytes) (stopAtFragment : Bool) : HeaderChain :=
  headerChain packet stopAtFragment maxIpv6ExtHeaders (Ipv6Packet.nextHeader packet) ipv6BaseLen

theorem walkIpv6HeadersReader_eq {packet : Bytes} (base : ipv6BaseLen ≤ packet.length)
    (stopAtFragment inspectRoutingHeader : Bool) :
    (walkIpv6HeadersReader packet stopAtFragment inspectRoutingHeader).1 =
      reportChain packet inspectRoutingHeader (baseHeaders packet)
        (packetChain packet stopAtFragment) := by
  have next : Ipv6Packet.nextHeader (packet.take ipv6BaseLen) = Ipv6Packet.nextHeader packet := by
    rw [Ipv6Packet.nextHeader, Ipv6Packet.nextHeader, byteAt_take, if_pos (by decide)]
  simp only [walkIpv6HeadersReader, readPrefix_bytes, base, ↓reduceIte, next, walkIpv6Loop_eq]
  rfl

theorem walkIpv6Headers_eq {packet : Bytes} (base : ipv6BaseLen ≤ packet.length)
    (stopAtFragment : Bool) :
    walkIpv6Headers packet stopAtFragment =
      reportChain packet true (baseHeaders packet) (packetChain packet stopAtFragment) :=
  walkIpv6HeadersReader_eq base stopAtFragment true

end WindowsKext
