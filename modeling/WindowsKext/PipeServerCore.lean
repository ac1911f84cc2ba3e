import Std

/-! `duplex_pipe_server.cpp`: the worker that accepts one client after the other, and the calls of
`Send` and `RequestStop` that run beside it, one atomic operation after the other. -/

namespace WindowsKext

inductive ClientConnectionEvent where
  | connected
  | disconnected
deriving DecidableEq

/-- A session. `connectionActive` is `Connection::IsActive`. -/
structure ClientState where
  ended : Bool
  connectedNotified : Bool
  connectionActive : Bool
deriving DecidableEq

/-- What the threads share. Sessions are numbered in the order of their creation. `callbacks` are
the invocations of the connection callback with the session that they are about, and
`clientConnected` is the flag that the callback of `Driver` stores. -/
structure ServerState where
  running : Bool
  activeSession : Option Nat
  created : Nat
  sessions : Nat → ClientState
  callbacks : List (ClientConnectionEvent × Nat)
  clientConnected : Bool

inductive Ending where
  | exchangeEnded
  | cancel
  | removeActive
  | loadNotified
  | notify
deriving DecidableEq

inductive Worker where
  | accepting
  | checkRunning (session : Nat)
  | exchangeActive (session : Nat)
  | recheckRunning (session : Nat)
  | withdraw (session : Nat)
  | storeNotified (session : Nat)
  | announce (session : Nat)
  | reading (session : Nat)
  | ending (session : Nat) (stage : Ending)
  | loadActive
  | finalEnding (session : Nat) (stage : Ending)
  | storeStopped
  | returned
deriving DecidableEq

inductive Sender where
  | loadActive
  | loadRunning (session : Nat)
  | loadEnded (session : Nat)
  | loadNotified (session : Nat)
  | loadStatus (session : Nat)
  | writeFrame (session : Nat)
  | ending (session : Nat) (stage : Ending)
  | returned
deriving DecidableEq

inductive Stopper where
  | storeStopped
  | loadActive
  | cancel (session : Nat)
  | returned
deriving DecidableEq

namespace ServerState

def setSession (server : ServerState) (session : Nat) (state : ClientState) : ServerState :=
  { server with
    sessions := fun other => if other = session then state else server.sessions other }

def cancel (server : ServerState) (session : Nat) : ServerState :=
  server.setSession session { server.sessions session with connectionActive := false }

/-- The callback of `Driver` is one atomic store, so its invocation is one step. -/
def invokeConnectionCallback (server : ServerState) (event : ClientConnectionEvent)
    (session : Nat) : ServerState :=
  { server with
    callbacks := server.callbacks ++ [(event, session)]
    clientConnected := event == .connected }

/-- A strong compare and exchange of `activeSession_`. -/
def exchangeActive (server : ServerState) (expected desired : Option Nat) : ServerState :=
  if server.activeSession = expected then { server with activeSession := desired } else server

def endSession (server : ServerState) (session : Nat) : Ending → Option Ending × ServerState
  | .exchangeEnded =>
      if (server.sessions session).ended then (none, server)
      else
        (some .cancel,
          server.setSession session { server.sessions session with ended := true })
  | .cancel => (some .removeActive, server.cancel session)
  | .removeActive => (some .loadNotified, server.exchangeActive (some session) none)
  | .loadNotified =>
      if (server.sessions session).connectedNotified then (some .notify, server)
      else (none, server)
  | .notify => (none, server.invokeConnectionCallback .disconnected session)

end ServerState

/-- How an operation on the pipe goes: the next client finishes its handshake, or a frame is read;
it fails; or the pipe cannot be created. -/
inductive PipeOutcome where
  | success
  | failure
  | noPipe
deriving DecidableEq

def Worker.step (server : ServerState) (outcome : PipeOutcome) : Worker → Worker × ServerState
  | .accepting =>
      if !server.running then (.loadActive, server)
      else
        match outcome with
        | .success =>
            (.checkRunning server.created, { server with created := server.created + 1 })
        | .failure => (.accepting, server)
        | .noPipe => (.loadActive, server)
  | .checkRunning session =>
      if server.running then (.exchangeActive session, server)
      else (.accepting, server.cancel session)
  | .exchangeActive session =>
      if server.activeSession = none then
        (.recheckRunning session, server.exchangeActive none (some session))
      else (.accepting, server.cancel session)
  | .recheckRunning session =>
      if server.running then (.storeNotified session, server) else (.withdraw session, server)
  | .withdraw session =>
      (.accepting, (server.exchangeActive (some session) none).cancel session)
  | .storeNotified session =>
      (.announce session,
        server.setSession session { server.sessions session with connectedNotified := true })
  | .announce session =>
      (.reading session, server.invokeConnectionCallback .connected session)
  | .reading session =>
      -- `ReadClientFrames` leaves its loop, and the transport cancels what it could not read.
      if server.running && !(server.sessions session).ended &&
          (server.sessions session).connectionActive then
        match outcome with
        | .success => (.reading session, server)
        | _ => (.ending session .exchangeEnded, server.cancel session)
      else (.ending session .exchangeEnded, server)
  | .ending session stage =>
      match server.endSession session stage with
      | (some stage, server) => (.ending session stage, server)
      | (none, server) => (.accepting, server)
  | .loadActive =>
      match server.activeSession with
      | some session => (.finalEnding session .exchangeEnded, server)
      | none => (.storeStopped, server)
  | .finalEnding session stage =>
      match server.endSession session stage with
      | (some stage, server) => (.finalEnding session stage, server)
      | (none, server) => (.storeStopped, server)
  | .storeStopped => (.returned, { server with running := false })
  | .returned => (.returned, server)

def Sender.step (server : ServerState) (writes : Bool) : Sender → Sender × ServerState
  | .loadActive =>
      match server.activeSession with
      | some session => (.loadRunning session, server)
      | none => (.returned, server)
  | .loadRunning session =>
      (if server.running then .loadEnded session else .returned, server)
  | .loadEnded session =>
      (if (server.sessions session).ended then .returned else .loadNotified session, server)
  | .loadNotified session =>
      (if (server.sessions session).connectedNotified then .loadStatus session else .returned,
        server)
  | .loadStatus session =>
      (if (server.sessions session).connectionActive then .writeFrame session else .returned,
        server)
  | .writeFrame session =>
      (if writes then .returned else .ending session .exchangeEnded, server)
  | .ending session stage =>
      match server.endSession session stage with
      | (some stage, server) => (.ending session stage, server)
      | (none, server) => (.returned, server)
  | .returned => (.returned, server)

def Stopper.step (server : ServerState) : Stopper → Stopper × ServerState
  | .storeStopped => (.loadActive, { server with running := false })
  | .loadActive =>
      match server.activeSession with
      | some session => (.cancel session, server)
      | none => (.returned, server)
  | .cancel session => (.returned, server.cancel session)
  | .returned => (.returned, server)

structure PipeServer where
  state : ServerState
  worker : Worker
  senders : List Sender
  stoppers : List Stopper

inductive PipeServerStep where
  | worker (outcome : PipeOutcome)
  | send
  | sender (index : Nat) (writes : Bool)
  | requestStop
  | stopper (index : Nat)
deriving DecidableEq

namespace PipeServer

def started : PipeServer where
  state := {
    running := true
    activeSession := none
    created := 0
    sessions := fun _ => {
      ended := false
      connectedNotified := false
      connectionActive := true }
    callbacks := []
    clientConnected := false }
  worker := .accepting
  senders := []
  stoppers := []

def step (server : PipeServer) : PipeServerStep → PipeServer
  | .worker outcome =>
      let (worker, state) := server.worker.step server.state outcome
      { server with
        state := state
        worker := worker }
  | .send => { server with senders := server.senders ++ [.loadActive] }
  | .sender index writes =>
      match server.senders[index]? with
      | some sender =>
          let (sender, state) := sender.step server.state writes
          { server with
            state := state
            senders := server.senders.set index sender }
      | none => server
  | .requestStop => { server with stoppers := server.stoppers ++ [.storeStopped] }
  | .stopper index =>
      match server.stoppers[index]? with
      | some stopper =>
          let (stopper, state) := stopper.step server.state
          { server with
            state := state
            stoppers := server.stoppers.set index stopper }
      | none => server

def run (steps : List PipeServerStep) : PipeServer := steps.foldl step started

end PipeServer

end WindowsKext
