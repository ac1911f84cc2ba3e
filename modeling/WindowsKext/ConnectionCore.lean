import Std

/-! Addresses, tuples and cached connections of `connection.rs` and the key type of
`connection_map.rs`. IPv4 and IPv6 connections share one record over their address family. -/

namespace WindowsKext

structure Ipv4Address where
  octets : Vector UInt8 4
deriving DecidableEq

structure Ipv6Address where
  octets : Vector UInt8 16
deriving DecidableEq

inductive IpAddress where
  | ipv4 (address : Ipv4Address)
  | ipv6 (address : Ipv6Address)
deriving DecidableEq

def Ipv4Address.new (a b c d : UInt8) : Ipv4Address := ⟨#v[a, b, c, d]⟩

/-- The loopback network is 127.0.0.0/8. -/
def Ipv4Address.isLoopback (address : Ipv4Address) : Bool :=
  address.octets[0] == 127

def Ipv6Address.loopback : Ipv6Address :=
  ⟨#v[0, 0, 0, 0, 0, 0, 0, 0, 0, 0, 0, 0, 0, 0, 0, 1]⟩

def Ipv6Address.isLoopback (address : Ipv6Address) : Bool :=
  address == Ipv6Address.loopback

/-- The protocol numbers the driver names. Every other number is `unknown`, which keeps
`Unknown(0)` apart from the Hop-by-Hop header as the source does. -/
inductive IpProtocol where
  | hopByHop
  | icmp
  | tcp
  | udp
  | ipv6Route
  | ipv6Frag
  | icmpv6
  | ipv6Opts
  | unknown (number : UInt8)
deriving DecidableEq

/-- `IpProtocol::from(u8)`. -/
def IpProtocol.ofNumber (number : UInt8) : IpProtocol :=
  if number = 0 then .hopByHop
  else if number = 1 then .icmp
  else if number = 6 then .tcp
  else if number = 17 then .udp
  else if number = 43 then .ipv6Route
  else if number = 44 then .ipv6Frag
  else if number = 58 then .icmpv6
  else if number = 60 then .ipv6Opts
  else .unknown number

/-- Position of a protocol in the derived order: named variants first. -/
def IpProtocol.rank : IpProtocol → Nat
  | .hopByHop => 0
  | .icmp => 1
  | .tcp => 2
  | .udp => 3
  | .ipv6Route => 4
  | .ipv6Frag => 5
  | .icmpv6 => 6
  | .ipv6Opts => 7
  | .unknown number => 8 + number.toNat

theorem IpProtocol.rank_injective {left right : IpProtocol}
    (same : left.rank = right.rank) : left = right := by
  cases left <;> cases right <;> simp only [rank] at same <;> first | rfl | omega | skip
  rw [UInt8.toNat_inj.mp (Nat.add_left_cancel same)]

structure Key where
  protocol : IpProtocol
  localAddress : IpAddress
  localPort : UInt16
  remoteAddress : IpAddress
  remotePort : UInt16
deriving DecidableEq

def Key.small (key : Key) : IpProtocol × UInt16 :=
  (key.protocol, key.localPort)

def Key.isIpv6 (key : Key) : Bool :=
  match key.localAddress with
  | .ipv4 _ => false
  | .ipv6 _ => true

def Key.isLoopback (key : Key) : Bool :=
  match key.localAddress with
  | .ipv4 address => address.isLoopback
  | .ipv6 address => address.isLoopback

/-- Actual loopback traffic, or a local address routed back to itself. -/
def Key.isLoopbackLike (key : Key) : Bool :=
  key.isLoopback || key.localAddress == key.remoteAddress

def Key.reverse (key : Key) : Key :=
  { protocol := key.protocol
    localAddress := key.remoteAddress
    localPort := key.remotePort
    remoteAddress := key.localAddress
    remotePort := key.localPort }

def pmDnsPort : UInt16 := 53
def pmSpnPort : UInt16 := 717
def pmSplitTunPort : UInt16 := 719

/-- Returns true if redirect lookup is enabled for `remotePort`. The registry setting
IgnoreSpecialPorts is read once at start-up, so it is a parameter of the model. -/
def isRedirectPort (ignoreSpecialPorts : Bool) (port : UInt16) : Bool :=
  (port == pmDnsPort || port == pmSpnPort || port == pmSplitTunPort) && !ignoreSpecialPorts

def fastTrackPmPackets (ignoreSpecialPorts : Bool) (key : Key) : Bool :=
  key.localAddress == key.remoteAddress && isRedirectPort ignoreSpecialPorts key.localPort

inductive Verdict where
  | undecided
  | undeterminable
  | accept
  | permanentAccept
  | block
  | permanentBlock
  | drop
  | permanentDrop
  | redirectNameServer
  | redirectTunnel
  | failed
  | redirectSplitTunnel
deriving DecidableEq

/-- `FromPrimitive::from_u8` for the verdict byte of a command. -/
def Verdict.fromU8 (value : UInt8) : Option Verdict :=
  match value.toNat with
  | 0 => some .undecided
  | 1 => some .undeterminable
  | 2 => some .accept
  | 3 => some .permanentAccept
  | 4 => some .block
  | 5 => some .permanentBlock
  | 6 => some .drop
  | 7 => some .permanentDrop
  | 8 => some .redirectNameServer
  | 9 => some .redirectTunnel
  | 10 => some .failed
  | 11 => some .redirectSplitTunnel
  | _ => none

def Verdict.isRedirect : Verdict → Bool
  | .redirectNameServer | .redirectTunnel | .redirectSplitTunnel => true
  | _ => false

inductive Direction where
  | outbound
  | inbound
deriving DecidableEq

structure ConnectionExtra where
  endTimestamp : Nat
  direction : Direction
  /-- A native WFP endpoint or flow can report the end of this exact generation. -/
  nativeLifecycle : Bool
  /-- Packet-layer fallbacks may expire on inactivity. -/
  idleExpiration : Bool
deriving DecidableEq

/-- One cached connection generation over the address type of its family. -/
structure Connection (A : Type) where
  protocol : IpProtocol
  localAddress : A
  localPort : UInt16
  remoteAddress : A
  remotePort : UInt16
  verdict : Verdict
  processId : Nat
  threadId : Nat
  instanceId : Nat
  lastAccessedTimestamp : Nat
  extra : ConnectionExtra
deriving DecidableEq

abbrev ConnectionV4 := Connection Ipv4Address
abbrev ConnectionV6 := Connection Ipv6Address

/-- Big-endian number of a byte string, as `from_be_bytes` reads it. -/
def fromBeBytes (bytes : List UInt8) : Nat :=
  bytes.foldl (fun number byte => number * 256 + byte.toNat) 0

theorem fromBeBytes_append_singleton (bytes : List UInt8) (byte : UInt8) :
    fromBeBytes (bytes ++ [byte]) = fromBeBytes bytes * 256 + byte.toNat := by
  simp [fromBeBytes]

theorem fromBeBytes_injective (left right : List UInt8) (length : left.length = right.length)
    (same : fromBeBytes left = fromBeBytes right) : left = right := by
  generalize size : left.length = count
  induction count generalizing left right with
  | zero =>
      have leftNil : left = [] := List.length_eq_zero_iff.mp size
      have rightNil : right = [] := List.length_eq_zero_iff.mp (by omega)
      rw [leftNil, rightNil]
  | succ count ih =>
      obtain ⟨leftInit, leftLast, rfl⟩ :=
        left.eq_nil_or_concat.resolve_left (by rintro rfl; simp at size)
      obtain ⟨rightInit, rightLast, rfl⟩ :=
        right.eq_nil_or_concat.resolve_left (by rintro rfl; simp at length)
      simp only [List.concat_eq_append, List.length_append, List.length_singleton] at length size
      simp only [List.concat_eq_append, fromBeBytes_append_singleton] at same
      have leftBound := leftLast.toNat_lt
      have rightBound := rightLast.toNat_lt
      have lastEq : leftLast = rightLast := UInt8.toNat_inj.mp (by omega)
      have initEq := ih leftInit rightInit (by omega) (by omega) (by omega)
      rw [initEq, lastEq]

/-- The parts of a connection that depend on its address family. The compact index key of
an address determines the address, and the family recognizes exactly its own addresses. -/
class AddressFamily (A : Type) where
  RemoteAddressKey : Type
  compareKeys : RemoteAddressKey → RemoteAddressKey → Ordering
  [transKeys : Std.TransCmp compareKeys]
  [lawfulKeys : Std.LawfulEqCmp compareKeys]
  addressKey : A → RemoteAddressKey
  toIpAddress : A → IpAddress
  ofIpAddress : IpAddress → Option A
  isIpv6 : Bool
  /-- Target of a redirected packet: 127.0.0.1 or ::1. -/
  redirectAddress : IpAddress
  isLoopback : A → Bool
  addressKey_injective : ∀ {left right}, addressKey left = addressKey right → left = right
  ofIpAddress_eq_some : ∀ {address value},
    ofIpAddress address = some value ↔ address = toIpAddress value

attribute [instance] AddressFamily.transKeys AddressFamily.lawfulKeys

instance : AddressFamily Ipv4Address where
  RemoteAddressKey := Nat
  compareKeys := compare
  addressKey address := fromBeBytes address.octets.toList
  toIpAddress := .ipv4
  ofIpAddress
    | .ipv4 address => some address
    | .ipv6 _ => none
  isIpv6 := false
  redirectAddress := .ipv4 (Ipv4Address.new 127 0 0 1)
  isLoopback := Ipv4Address.isLoopback
  addressKey_injective := by
    intro left right same
    have octets := fromBeBytes_injective _ _ (by simp) same
    cases left
    cases right
    simpa only [Vector.toList_inj, Ipv4Address.mk.injEq] using octets
  ofIpAddress_eq_some := by
    intro address value
    cases address <;> simp

def ipv6AddressKey (address : Ipv6Address) : Nat × Nat :=
  (fromBeBytes (address.octets.toList.take 8), fromBeBytes (address.octets.toList.drop 8))

def compareWords (left right : Nat × Nat) : Ordering :=
  compareLex (compareOn Prod.fst) (compareOn Prod.snd) left right

instance : Std.TransCmp compareWords :=
  inferInstanceAs (Std.TransCmp (compareLex (compareOn Prod.fst) (compareOn Prod.snd)))

instance : Std.LawfulEqCmp compareWords where
  eq_of_compare := by
    intro left right same
    simp only [compareWords, compareLex, compareOn, Ordering.then_eq_eq,
      Std.LawfulEqOrd.compare_eq_iff_eq] at same
    exact Prod.ext same.1 same.2

instance : AddressFamily Ipv6Address where
  RemoteAddressKey := Nat × Nat
  compareKeys := compareWords
  addressKey := ipv6AddressKey
  toIpAddress := .ipv6
  ofIpAddress
    | .ipv4 _ => none
    | .ipv6 address => some address
  isIpv6 := true
  redirectAddress := .ipv6 Ipv6Address.loopback
  isLoopback := Ipv6Address.isLoopback
  addressKey_injective := by
    intro left right same
    simp only [ipv6AddressKey, Prod.mk.injEq] at same
    have high := fromBeBytes_injective _ _ (by simp) same.1
    have low := fromBeBytes_injective _ _ (by simp) same.2
    have octets : left.octets.toList = right.octets.toList := by
      rw [← List.take_append_drop 8 left.octets.toList, high, low, List.take_append_drop]
    cases left
    cases right
    simpa only [Vector.toList_inj, Ipv6Address.mk.injEq] using octets
  ofIpAddress_eq_some := by
    intro address value
    cases address <;> simp

structure RedirectInfo where
  localAddress : IpAddress
  remoteAddress : IpAddress
  remotePort : UInt16
  redirectPort : UInt16
  unify : Bool
  redirectAddress : IpAddress
deriving DecidableEq

section Connection

variable {A : Type} [AddressFamily A]

namespace Connection

def getLocalAddress (connection : Connection A) : IpAddress :=
  AddressFamily.toIpAddress connection.localAddress

def getRemoteAddress (connection : Connection A) : IpAddress :=
  AddressFamily.toIpAddress connection.remoteAddress

def getKey (connection : Connection A) : Key :=
  { protocol := connection.protocol
    localAddress := connection.getLocalAddress
    localPort := connection.localPort
    remoteAddress := connection.getRemoteAddress
    remotePort := connection.remotePort }

def redirectInfo (connection : Connection A) : Option RedirectInfo :=
  let redirect (redirectPort : UInt16) (unify : Bool) : RedirectInfo :=
    { localAddress := connection.getLocalAddress
      remoteAddress := connection.getRemoteAddress
      remotePort := connection.remotePort
      redirectPort := redirectPort
      unify := unify
      redirectAddress := AddressFamily.redirectAddress A }
  match connection.verdict with
  | .redirectNameServer => some (redirect pmDnsPort false)
  | .redirectTunnel => some (redirect pmSpnPort true)
  | .redirectSplitTunnel => some (redirect pmSplitTunPort true)
  | _ => none

def remoteEquals [DecidableEq A] (connection : Connection A) (key : Key) : Bool :=
  if connection.protocol != key.protocol || connection.localPort != key.localPort ||
      connection.remotePort != key.remotePort then
    false
  else
    match AddressFamily.ofIpAddress key.localAddress with
    | none => false
    | some localAddress =>
        if connection.localAddress != localAddress then false
        else
          match AddressFamily.ofIpAddress key.remoteAddress with
          | none => false
          | some remoteAddress => connection.remoteAddress == remoteAddress

def redirectEquals (connection : Connection A) (key : Key) : Bool :=
  match connection.verdict with
  | .redirectNameServer =>
      if key.remotePort != pmDnsPort then false
      else
        match AddressFamily.ofIpAddress (A := A) key.remoteAddress with
        | some address => AddressFamily.isLoopback address
        | none => false
  | .redirectTunnel =>
      if key.remotePort != pmSpnPort then false
      else key.localAddress == key.remoteAddress
  | .redirectSplitTunnel =>
      if key.remotePort != pmSplitTunPort then false
      else key.localAddress == key.remoteAddress
  | _ => false

/-- `end`, which is a reserved word here. -/
def endAt (connection : Connection A) (timestamp : Nat) : Connection A :=
  { connection with extra := { connection.extra with endTimestamp := timestamp } }

def hasEnded (connection : Connection A) : Bool :=
  connection.extra.endTimestamp > 0

def setLastAccessedTime (connection : Connection A) (timestamp : Nat) : Connection A :=
  { connection with lastAccessedTimestamp := timestamp }

def markNativeLifecycle (connection : Connection A) : Connection A :=
  { connection with extra := { connection.extra with nativeLifecycle := true } }

/-- `from_key_with_lifecycle`: the caller draws the clock value and the instance id. -/
def fromKeyWithLifecycle (timestamp instanceId : Nat) (key : Key) (processId : Nat)
    (direction : Direction) (nativeLifecycle : Bool) : Except String (Connection A) :=
  match AddressFamily.ofIpAddress key.localAddress with
  | none => .error "wrong ip address version"
  | some localAddress =>
      match AddressFamily.ofIpAddress key.remoteAddress with
      | none => .error "wrong ip address version"
      | some remoteAddress =>
          .ok {
            protocol := key.protocol
            localAddress := localAddress
            localPort := key.localPort
            remoteAddress := remoteAddress
            remotePort := key.remotePort
            verdict := .undecided
            processId := processId
            threadId := 0
            instanceId := instanceId
            lastAccessedTimestamp := timestamp
            extra := {
              direction := direction
              endTimestamp := 0
              nativeLifecycle := nativeLifecycle
              idleExpiration := direction == .outbound } }

theorem remoteEquals_iff [DecidableEq A] (connection : Connection A) (key : Key) :
    connection.remoteEquals key = true ↔ connection.getKey = key := by
  obtain ⟨protocol, localAddress, localPort, remoteAddress, remotePort⟩ := key
  simp only [remoteEquals, getKey, getLocalAddress, getRemoteAddress, Key.mk.injEq]
  by_cases ports : connection.protocol = protocol ∧ connection.localPort = localPort ∧
      connection.remotePort = remotePort
  · obtain ⟨sameProtocol, sameLocal, sameRemote⟩ := ports
    simp only [sameProtocol, sameLocal, sameRemote, bne_self_eq_false, Bool.or_self,
      Bool.false_eq_true, ↓reduceIte, true_and, and_true]
    cases localFound : AddressFamily.ofIpAddress (A := A) localAddress with
    | none =>
        simp only [Bool.false_eq_true, false_iff, not_and]
        intro same
        rw [← same, AddressFamily.ofIpAddress_eq_some.mpr rfl] at localFound
        cases localFound
    | some value =>
        have localEq := AddressFamily.ofIpAddress_eq_some.mp localFound
        by_cases sameLocalAddress : connection.localAddress = value
        · simp only [sameLocalAddress, bne_self_eq_false, Bool.false_eq_true, ↓reduceIte,
            localEq, true_and]
          cases remoteFound : AddressFamily.ofIpAddress (A := A) remoteAddress with
          | none =>
              simp only [Bool.false_eq_true, false_iff]
              intro same
              rw [← same, AddressFamily.ofIpAddress_eq_some.mpr rfl] at remoteFound
              cases remoteFound
          | some remote =>
              have remoteEq := AddressFamily.ofIpAddress_eq_some.mp remoteFound
              rw [remoteEq, beq_iff_eq]
              constructor
              · intro same
                rw [same]
              · intro same
                have found := AddressFamily.ofIpAddress_eq_some.mpr same.symm
                rw [AddressFamily.ofIpAddress_eq_some.mpr rfl] at found
                exact (Option.some.inj found).symm
        · have different : AddressFamily.toIpAddress connection.localAddress ≠ localAddress := by
            intro same
            have found := AddressFamily.ofIpAddress_eq_some.mpr same.symm
            rw [localFound] at found
            exact sameLocalAddress (Option.some.inj found).symm
          simp [sameLocalAddress, different]
  · have rejected : (connection.protocol != protocol || connection.localPort != localPort ||
        connection.remotePort != remotePort) = true := by
      simp only [Bool.or_eq_true, bne_iff_ne, ne_eq]
      grind
    simp only [rejected, ↓reduceIte, Bool.false_eq_true, false_iff]
    rintro ⟨sameProtocol, -, sameLocal, -, sameRemote⟩
    exact ports ⟨sameProtocol, sameLocal, sameRemote⟩

theorem redirectEquals_port {connection : Connection A} {key : Key}
    (matched : connection.redirectEquals key = true) :
    isRedirectPort false key.remotePort = true := by
  unfold redirectEquals at matched
  simp only [isRedirectPort, Bool.not_false, Bool.and_true, Bool.or_eq_true, beq_iff_eq]
  split at matched
  · split at matched
    · cases matched
    · rename_i port
      exact .inl (.inl (by simpa using port))
  · split at matched
    · cases matched
    · rename_i port
      exact .inl (.inr (by simpa using port))
  · split at matched
    · cases matched
    · rename_i port
      exact .inr (by simpa using port)
  · cases matched

end Connection

end Connection

end WindowsKext
