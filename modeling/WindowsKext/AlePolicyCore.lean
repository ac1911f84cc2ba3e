import WindowsKext.ConnectionCore

/-! Injection origins as WFP reports them, and the packet policy of `ale_policy.rs`. -/

namespace WindowsKext

/-- The origin that WFP reports for a packet and one of the driver's injection handles. -/
inductive PacketInjectionOrigin where
  | notInjected
  | injectedBySelf
  | injectedByOther
  | unknown
deriving DecidableEq

namespace PacketInjectionOrigin

def isSelfInjected (origin : PacketInjectionOrigin) : Bool := origin == .injectedBySelf

def isInjectedByOther (origin : PacketInjectionOrigin) : Bool := origin == .injectedByOther

end PacketInjectionOrigin

inductive PacketInjectionAction where
  | permitSelfInjected
  | process (injectedByOther : Bool)
deriving DecidableEq

/-- Packet layers permit what either handle of the driver injected. -/
def classifyPacketInjection (networkSelfInjected networkInjectedByOther : Bool)
    (queryTransport : Unit → Bool × Bool) : PacketInjectionAction :=
  if networkSelfInjected then .permitSelfInjected
  else
    -- "Other" relative to the network handle can still be a transport clone of the driver.
    let (transportSelfInjected, transportInjectedByOther) := queryTransport ()
    if transportSelfInjected then .permitSelfInjected
    else .process (networkInjectedByOther || transportInjectedByOther)

/-- The origins that the two handles report for one packet. -/
structure InjectionOrigins where
  network : PacketInjectionOrigin
  transport : PacketInjectionOrigin

def InjectionOrigins.action (origins : InjectionOrigins) : PacketInjectionAction :=
  classifyPacketInjection origins.network.isSelfInjected origins.network.isInjectedByOther
    fun _ => (origins.transport.isSelfInjected, origins.transport.isInjectedByOther)

def InjectionOrigins.selfInjected (origins : InjectionOrigins) : Bool :=
  origins.network.isSelfInjected || origins.transport.isSelfInjected

theorem InjectionOrigins.action_eq (origins : InjectionOrigins) :
    origins.action =
      if origins.selfInjected then .permitSelfInjected
      else .process (origins.network.isInjectedByOther || origins.transport.isInjectedByOther) := by
  unfold action classifyPacketInjection selfInjected
  cases origins.network.isSelfInjected <;> simp

/-- A missing inbound UDP tuple may borrow the process of the first live match, unless that is
unknown or System. -/
def inboundUdpFallbackPid (protocol : IpProtocol) (enabled : Bool) (lookup : Unit → Option Nat) :
    Option Nat :=
  if !enabled || protocol != .udp then none
  else (lookup ()).filter fun pid => !(pid == 0 || pid == 4)

end WindowsKext
