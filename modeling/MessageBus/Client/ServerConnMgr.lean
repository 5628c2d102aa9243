import MessageBus.Client.Futures
import MessageBus.Wire.Messages

set_option autoImplicit false

namespace MessageBus.Client

open Messages (MsgBusGetClientRsp)
open Server (ClientHost)

inductive ServerRequest where
  | registerNetMsgBusReceiver
  | postNetMsgUseServerRelay
  | queryAvailableServices
  | reqReceiverInfo (callback : Bool)
  deriving DecidableEq, Repr

namespace ServerRequest

def callback : ServerRequest -> Bool
  | .reqReceiverInfo callback => callback
  | _ => false

-- MsgBusGetClientRsp rsp; what the constructor leaves open is zero here.
def emptyRsp : MsgBusGetClientRsp :=
  { head := Messages.newHead 1 Messages.BodyType.rspGetclient, retCode := 0
    destName := Messages.padded [] Messages.maxServiceName, destHost := .unset }

def result (request : ServerRequest) (netFuture : NetFuture) :
    Except Messages.Abort (Bool × Option ClientHost) :=
  match request with
  | .registerNetMsgBusReceiver =>
    .ok (!(netFuture.hasError || netFuture.rspContent.isEmpty), none)
  | .postNetMsgUseServerRelay | .queryAvailableServices => .ok (!netFuture.hasError, none)
  | .reqReceiverInfo _ =>
    if netFuture.hasError || netFuture.rspContent.isEmpty then .ok (false, none)
    else do
      let rsp ← emptyRsp.unPackBody netFuture.rspContent netFuture.rspContent.length
      return if rsp.2.retCode = 0 then (true, some rsp.2.destHost) else (false, none)

end ServerRequest

inductive ServerCallPhase where
  | inserted
  | sending
  | waiting
  | joined
  | returned (result : Bool)
  deriving DecidableEq, Repr

structure ServerCall where
  request : ServerRequest
  futureId : UInt32
  future : FutureRef
  rsp : Bytes
  host : Option ClientHost
  phase : ServerCallPhase
  deriving DecidableEq, Repr

inductive ServerCallEvent where
  | testServerTcp
  | sendData (ok : Bool)
  | join
  | timeout
  | readContent
  deriving DecidableEq, Repr

inductive ServerRsp where
  | register (retCode : UInt16) (serviceName errMsg : Bytes)
  | getClient (rspBody : Bytes)
  | sendMsg (retCode : UInt16) (errMsg : Bytes)
  | queryServices (serviceName : List Bytes)
  -- Confirmed alive, unregistered, a relayed message, or unknown: no future is looked up.
  | other
  deriving DecidableEq, Repr

namespace ServerRsp

def success : Bytes := "success".toUTF8.toList

def answer (isreceiverRegistered : Bool) : ServerRsp -> Bool × Bytes
  | .register _ serviceName errMsg =>
    if isreceiverRegistered then (false, serviceName) else (true, errMsg)
  | .getClient rspBody => (false, rspBody)
  | .sendMsg retCode errMsg => if retCode ≠ 0 then (true, errMsg) else (false, success)
  | .queryServices serviceName => (false, serviceName.flatMap fun name => name ++ [0x2c])
  | .other => (false, [])

end ServerRsp

namespace FutureMgr

def setAnswer (mgr : FutureMgr) (future : FutureRef) (isError : Bool) (content : Bytes) :
    FutureMgr :=
  { mgr with futures := mgr.futures.modify future fun netFuture =>
      { netFuture.setResult content with hasError := netFuture.hasError || isError } }

end FutureMgr

namespace ServerCall

def waitTimeOut : Bytes := "wait time out.".toUTF8.toList

def step (call : ServerCall) (mgr : FutureMgr) (serverTcp : Bool) :
    ServerCallEvent -> Option ServerCall
  -- assert(m_server_tcp), and the test after it.
  | .testServerTcp =>
    match call.phase with
    | .inserted => some { call with phase := if serverTcp then .sending else .returned false }
    | _ => none
  | .sendData ok =>
    match call.phase with
    | .sending =>
      if !ok then some { call with phase := .returned false }
      else if call.request.callback then some { call with phase := .returned true }
      else some { call with phase := .waiting }
    | _ => none
  | .join =>
    match call.phase with
    | .waiting =>
      if (mgr.futures[call.future]?).any NetFuture.ready then some { call with phase := .joined }
      else none
    | _ => none
  | .timeout =>
    match call.phase with
    | .waiting => some { call with phase := .returned false, rsp := waitTimeOut }
    | _ => none
  | .readContent =>
    match call.phase with
    | .joined =>
      (mgr.futures[call.future]?).bind fun netFuture =>
        match call.request.result netFuture with
        | .ok (result, host) =>
          some { call with phase := .returned result, rsp := netFuture.rspContent, host }
        -- The process does not survive a body that is too short.
        | .error _ => none
    | _ => none

end ServerCall

structure ServerConnMgr where
  serverConnecting : Bool
  serverTcp : Bool
  isreceiverRegistered : Bool
  futureMgr : FutureMgr
  -- The requests that have found the server connected and have no future yet.
  starting : List ServerRequest
  calls : List ServerCall
  -- The answer that the loop thread has found a future for.
  answering : Option (FutureRef × ServerRsp)

namespace ServerConnMgr

inductive Event where
  -- The writes of StartServerCommunicateLoop, StopServerConnection, onServerTcpClose and
  -- onServerTcpError.
  | setServerConnecting (connecting : Bool)
  | setServerTcp (present : Bool)
  | request (request : ServerRequest)
  | updateReceiverBusyState
  | unRegisterNetMsgBusReceiver (sent : Bool)
  | insertFuture (index : Nat) (now : Int)
  | call (index : Nat) (event : ServerCallEvent)
  | rsp (msgId : UInt32) (rsp : ServerRsp)
  | setAnswer
  deriving DecidableEq, Repr

def initial : ServerConnMgr :=
  { serverConnecting := false, serverTcp := false, isreceiverRegistered := false,
    futureMgr := .initial, starting := [], calls := [], answering := none }

def startRequest (mgr : ServerConnMgr) (request : ServerRequest) : ServerConnMgr :=
  if mgr.serverConnecting then { mgr with starting := mgr.starting ++ [request] } else mgr

def noteRsp (mgr : ServerConnMgr) : ServerRsp -> ServerConnMgr
  | .register retCode _ _ => { mgr with isreceiverRegistered := retCode = 0 }
  | _ => mgr

def step (mgr : ServerConnMgr) : Event -> Option ServerConnMgr
  | .setServerConnecting connecting => some { mgr with serverConnecting := connecting }
  | .setServerTcp present => some { mgr with serverTcp := present }
  | .request request => some (mgr.startRequest request)
  | .updateReceiverBusyState =>
    if mgr.isreceiverRegistered then some (mgr.startRequest .registerNetMsgBusReceiver)
    else some mgr
  | .unRegisterNetMsgBusReceiver sent =>
    if mgr.serverConnecting && mgr.serverTcp && sent then
      some { mgr with isreceiverRegistered := false }
    else some mgr
  | .insertFuture index now =>
    (mgr.starting[index]?).map fun request =>
      let future := mgr.futureMgr.safeInsertFuture request.callback now
      { mgr with
        futureMgr := future.2
        starting := mgr.starting.eraseIdx index
        calls := mgr.calls ++ [{ request, futureId := future.1.futureId, future := future.1.future,
                                 rsp := [], host := none, phase := .inserted }] }
  | .call index event =>
    (mgr.calls[index]?).bind fun call =>
      (call.step mgr.futureMgr mgr.serverTcp event).map fun next =>
        { mgr with calls := mgr.calls.set index next }
  | .rsp msgId rsp =>
    if mgr.answering.isSome then none
    else if rsp = .other then some mgr
    else
      let ready := mgr.futureMgr.safeGetFuture msgId true
      some { mgr.noteRsp rsp with
        futureMgr := ready.2
        answering := ready.1.map fun future => (future, rsp) }
  -- The callback that runs after it touches nothing of the ServerConnMgr.
  | .setAnswer =>
    (mgr.answering).map fun (future, rsp) =>
      let answer := rsp.answer mgr.isreceiverRegistered
      { mgr with
        futureMgr := mgr.futureMgr.setAnswer future answer.1 answer.2
        answering := none }

end ServerConnMgr
end MessageBus.Client
