import WindowsKext.PacketMetadataChecks

/-! What the IPv6 header walk reports, against chains of extension headers that are read off the
protocol numbers of the packet. -/

namespace WindowsKext

open ByteString

/-- Hop-by-Hop Options, Routing, Fragment and Destination Options. -/
def extensionNumbers : List UInt8 := [0, 43, 44, 60]

structure ExtensionHeader where
  number : UInt8
  offset : Nat

namespace ExtensionHeader

variable (packet : Bytes) (header : ExtensionHeader)

/-- A Fragment header has eight bytes, the others say how many eight-byte units follow the first. -/
def size : Nat :=
  if header.number = 44 then 8 else 8 + 8 * (byteAt packet (header.offset + 1)).toNat

def nextNumber : UInt8 := byteAt packet header.offset

/-- A Fragment header with a fragment offset or with the flag for more fragments. -/
def NonAtomic : Prop :=
  header.number = 44 ∧
    (wordAt packet (header.offset + 2) / 8 ≠ 0 ∨ wordAt packet (header.offset + 2) % 2 = 1)

def HasSegmentsLeft : Prop := header.number = 43 ∧ byteAt packet (header.offset + 3) ≠ 0

end ExtensionHeader

/-- Complete extension headers from a protocol number and its offset on, up to a protocol that is
not an extension and where it starts. -/
inductive ExtensionChain (packet : Bytes) : UInt8 → Nat → List ExtensionHeader → UInt8 → Nat → Prop
  | upper {number : UInt8} {offset : Nat} (other : number ∉ extensionNumbers) :
      ExtensionChain packet number offset [] number offset
  | extension {header : ExtensionHeader} {rest : List ExtensionHeader} {last : UInt8} {stop : Nat}
      (supported : header.number ∈ extensionNumbers)
      (complete : header.offset + header.size packet ≤ packet.length)
      (follows : ExtensionChain packet (header.nextNumber packet)
        (header.offset + header.size packet) rest last stop) :
      ExtensionChain packet header.number header.offset (header :: rest) last stop

/-- A chain that the walk follows: not too long, and without a fragment where the walk stops. -/
structure FollowedChain (packet : Bytes) (stopAtFragment : Bool) (limit : Nat) (number : UInt8)
    (offset : Nat) (headers : List ExtensionHeader) (last : UInt8) (stop : Nat) : Prop where
  chain : ExtensionChain packet number offset headers last stop
  short : headers.length ≤ limit
  whole : stopAtFragment = true → ∀ header, header ∈ headers → ¬ header.NonAtomic packet

/-- The packet has a base header, at most eight extension headers and then the protocol `last` at
`stop`. -/
structure ResolvesTo (packet : Bytes) (stopAtFragment : Bool) (headers : List ExtensionHeader)
    (last : UInt8) (stop : Nat) : Prop where
  base : 40 ≤ packet.length
  followed : FollowedChain packet stopAtFragment 8 (byteAt packet 6) 40 headers last stop

section Numbers

variable (number : UInt8)

theorem isExtension_ofNumber :
    (IpProtocol.ofNumber number).isExtension = true ↔ number ∈ extensionNumbers := by
  simp only [IpProtocol.ofNumber, IpProtocol.isExtension, extensionNumbers]
  grind

theorem ofNumber_eq_ipv6Frag : IpProtocol.ofNumber number = .ipv6Frag ↔ number = 44 := by
  grind [IpProtocol.ofNumber]

theorem ofNumber_eq_ipv6Route : IpProtocol.ofNumber number = .ipv6Route ↔ number = 43 := by
  grind [IpProtocol.ofNumber]

end Numbers

section Chain

variable {packet : Bytes} {stopAtFragment : Bool}

def ExtensionHeader.listed (header : ExtensionHeader) : IpProtocol × Nat :=
  (IpProtocol.ofNumber header.number, header.offset)

theorem extensionLength_listed (packet : Bytes) (header : ExtensionHeader) :
    extensionLength packet (IpProtocol.ofNumber header.number) header.offset =
      header.size packet := by
  rw [extensionLength, ExtensionHeader.size]
  by_cases fragment : header.number = 44
  · rw [if_pos ((ofNumber_eq_ipv6Frag _).mpr fragment), if_pos fragment]
  · rw [if_neg (mt (ofNumber_eq_ipv6Frag _).mp fragment), if_neg fragment]
    omega

theorem isNonAtomicFragment_listed (packet : Bytes) (header : ExtensionHeader) :
    isNonAtomicFragment packet header.listed = true ↔ header.NonAtomic packet := by
  rw [isNonAtomicFragment, fragmentBits_eq (wordAt_lt _ _), Bool.and_eq_true, decide_eq_true_eq,
    Bool.or_eq_true, bne_iff_ne, beq_iff_eq]
  exact and_congr (ofNumber_eq_ipv6Frag _) Iff.rfl

theorem isActiveRouting_listed (packet : Bytes) (header : ExtensionHeader) :
    isActiveRouting packet header.listed = true ↔ header.HasSegmentsLeft packet := by
  rw [isActiveRouting, Bool.and_eq_true, decide_eq_true_eq, bne_iff_ne]
  exact and_congr (ofNumber_eq_ipv6Route _) Iff.rfl

variable {limit : Nat} {number : UInt8} {offset : Nat}

theorem FollowedChain.headerChain {headers : List ExtensionHeader} {last : UInt8} {stop : Nat}
    (followed : FollowedChain packet stopAtFragment limit number offset headers last stop) :
    headerChain packet stopAtFragment limit (IpProtocol.ofNumber number) offset =
      { headers := headers.map ExtensionHeader.listed
        protocol := IpProtocol.ofNumber last
        offset := stop
        stopped := false } := by
  obtain ⟨chain, short, whole⟩ := followed
  induction chain generalizing limit with
  | upper other =>
      have plain := mt (isExtension_ofNumber _).mp other
      cases limit with
      | zero => rfl
      | succ limit => simp [WindowsKext.headerChain, plain]
  | @extension header rest last stop supported complete follows ih =>
      cases limit with
      | zero => cases short
      | succ limit =>
          have extension := (isExtension_ofNumber _).mpr supported
          have continues : (stopAtFragment && isNonAtomicFragment packet header.listed) = false := by
            cases stopAtFragment with
            | false => rfl
            | true =>
                have atomic := whole rfl header List.mem_cons_self
                rw [← isNonAtomicFragment_listed] at atomic
                simpa using atomic
          have tail := ih (Nat.le_of_succ_le_succ short) fun stops header member =>
            whole stops header (List.mem_cons_of_mem _ member)
          rw [ExtensionHeader.nextNumber] at tail
          rw [ExtensionHeader.listed] at continues
          simp only [WindowsKext.headerChain, extension, extensionLength_listed, complete, continues,
            tail, decide_true, Bool.and_self, ↓reduceIte, Bool.false_eq_true, List.map_cons]
          rfl

theorem followedChain_of_plain (plain : (IpProtocol.ofNumber number).isExtension = false) :
    FollowedChain packet stopAtFragment limit number offset [] number offset := by
  refine ⟨.upper ?_, Nat.zero_le _, ?_⟩
  · rw [← isExtension_ofNumber, plain]
    exact Bool.false_ne_true
  · intro _ header member
    cases member

theorem exists_followedChain
    (going : (headerChain packet stopAtFragment limit (IpProtocol.ofNumber number)
      offset).stopped = false)
    (upper : (headerChain packet stopAtFragment limit (IpProtocol.ofNumber number)
      offset).protocol.isExtension = false) :
    ∃ headers last stop,
      FollowedChain packet stopAtFragment limit number offset headers last stop := by
  induction limit generalizing number offset with
  | zero => exact ⟨_, _, _, followedChain_of_plain upper⟩
  | succ limit ih =>
      by_cases step : ((IpProtocol.ofNumber number).isExtension && decide (offset +
          extensionLength packet (IpProtocol.ofNumber number) offset ≤ packet.length)) = true
      · rw [headerChain, if_pos step] at going upper
        dsimp only at going upper
        by_cases stops : (stopAtFragment && isNonAtomicFragment packet
            (IpProtocol.ofNumber number, offset)) = true
        · rw [if_pos stops] at going
          cases going
        · rw [if_neg stops] at going upper
          obtain ⟨headers, last, stop, chain, short, whole⟩ := ih going upper
          rw [Bool.and_eq_true, decide_eq_true_eq] at step
          have size := extensionLength_listed packet ⟨number, offset⟩
          dsimp only at size
          rw [size] at step chain
          refine ⟨⟨number, offset⟩ :: headers, last, stop, ?_, Nat.succ_le_succ short, ?_⟩
          · exact @ExtensionChain.extension packet ⟨number, offset⟩ headers last stop
              ((isExtension_ofNumber _).mp step.1) step.2 chain
          · intro stopping header member
            rcases List.mem_cons.mp member with rfl | member
            · rw [← isNonAtomicFragment_listed]
              intro fragment
              rw [stopping, Bool.true_and] at stops
              exact stops fragment
            · exact whole stopping header member
      · rw [headerChain, if_neg step] at upper
        exact ⟨_, _, _, followedChain_of_plain upper⟩

end Chain

structure WalkReports (packet : Bytes) (stopAtFragment : Bool) (walk : Ipv6Headers) : Prop where
  resolved : walk.resolved = true ↔
    ∃ headers last stop, ResolvesTo packet stopAtFragment headers last stop
  reported : ∀ headers last stop, ResolvesTo packet stopAtFragment headers last stop →
    walk.protocol = IpProtocol.ofNumber last ∧
    walk.transportOffset = stop ∧
    (walk.isFragment = true ↔ ∃ header, header ∈ headers ∧ header.NonAtomic packet) ∧
    (walk.activeRoutingHeader = true ↔
      ∃ header, header ∈ headers ∧ header.HasSegmentsLeft packet)
  bounded : walk.transportOffset ≤ 16424
  inside : 40 ≤ packet.length → walk.transportOffset ≤ packet.length

theorem any_listed {check : IpProtocol × Nat → Bool} {property : ExtensionHeader → Prop}
    (same : ∀ header : ExtensionHeader, check header.listed = true ↔ property header)
    (headers : List ExtensionHeader) :
    (headers.map ExtensionHeader.listed).any check = true ↔
      ∃ header, header ∈ headers ∧ property header := by
  rw [List.any_map, List.any_eq_true]
  exact exists_congr fun header => and_congr Iff.rfl (same header)

section Walk

variable {packet : Bytes} {stopAtFragment : Bool}

theorem walkIpv6Headers_of_short (short : ¬ 40 ≤ packet.length) :
    (walkIpv6Headers packet stopAtFragment).resolved = false := by
  have unread : ¬ ipv6BaseLen ≤ packet.length := short
  simp only [walkIpv6Headers, walkIpv6HeadersReader, readPrefix_bytes, unread, ↓reduceIte]

theorem ResolvesTo.walkIpv6Headers {headers : List ExtensionHeader} {last : UInt8} {stop : Nat}
    (resolves : ResolvesTo packet stopAtFragment headers last stop) :
    walkIpv6Headers packet stopAtFragment =
      { protocol := IpProtocol.ofNumber last
        transportOffset := stop
        isFragment := (headers.map ExtensionHeader.listed).any (isNonAtomicFragment packet)
        activeRoutingHeader := (headers.map ExtensionHeader.listed).any (isActiveRouting packet)
        resolved := !(IpProtocol.ofNumber last).isExtension } := by
  have chain : packetChain packet stopAtFragment = _ := resolves.followed.headerChain
  rw [walkIpv6Headers_eq resolves.base, chain]
  simp [reportChain, baseHeaders]

theorem ExtensionChain.last_not_extension {number : UInt8} {offset : Nat}
    {headers : List ExtensionHeader} {last : UInt8} {stop : Nat}
    (chain : ExtensionChain packet number offset headers last stop) :
    (IpProtocol.ofNumber last).isExtension = false := by
  induction chain with
  | upper other => exact Bool.eq_false_iff.mpr (mt (isExtension_ofNumber _).mp other)
  | extension _ _ _ ih => exact ih

theorem walkIpv6Headers_resolved_iff :
    (walkIpv6Headers packet stopAtFragment).resolved = true ↔
      ∃ headers last stop, ResolvesTo packet stopAtFragment headers last stop := by
  constructor
  · intro resolved
    by_cases base : 40 ≤ packet.length
    · rw [walkIpv6Headers_eq base] at resolved
      simp only [reportChain, baseHeaders, Bool.false_or, Bool.and_eq_true,
        Bool.not_eq_true'] at resolved
      obtain ⟨headers, last, stop, followed⟩ := exists_followedChain resolved.1 resolved.2
      exact ⟨headers, last, stop, base, followed⟩
    · rw [walkIpv6Headers_of_short base] at resolved
      cases resolved
  · rintro ⟨headers, last, stop, resolves⟩
    rw [resolves.walkIpv6Headers, resolves.followed.chain.last_not_extension]
    rfl

end Walk

/-- The walk resolves exactly the packets with a complete chain of at most eight extension headers,
and reports the end of that chain. The offset fits in 16 bits, so an inspector keeps it unchanged. -/
theorem walkIpv6Headers_reports (packet : Bytes) (stopAtFragment : Bool) :
    WalkReports packet stopAtFragment (walkIpv6Headers packet stopAtFragment) ∧
      ∀ (S : Type) [PacketData S] (inspector : PacketInspector S) (header : HeaderInspection),
        (inspector.resolveIpv6Header header).1.transportOffset =
          if inspector.ipv6 && header.error.isNone && header.protocol.isExtension then
            (walkIpv6HeadersReader inspector.reader inspector.permitFragments false).1.transportOffset
          else header.transportOffset := by
  refine ⟨⟨walkIpv6Headers_resolved_iff, ?_, walkIpv6HeadersReader_offset_le _ _ _, ?_⟩, ?_⟩
  · intro headers last stop resolves
    rw [resolves.walkIpv6Headers]
    exact ⟨rfl, rfl, any_listed (isNonAtomicFragment_listed packet) headers,
      any_listed (isActiveRouting_listed packet) headers⟩
  · intro base
    rw [walkIpv6Headers_eq base]
    exact headerChain_offset_le_length base _ _ _
  · intro S _ inspector header
    unfold PacketInspector.resolveIpv6Header
    split
    · exact walkIpv6HeadersReader_offset _ _ _
    · rfl

/-- Eight Hop-by-Hop headers before TCP. -/
example : walkIpv6Headers (List.replicate 96 0 ++ 6 :: List.replicate 7 0) false =
    { protocol := .tcp
      transportOffset := 104
      isFragment := false
      activeRoutingHeader := false
      resolved := true } := by decide +kernel

end WindowsKext
