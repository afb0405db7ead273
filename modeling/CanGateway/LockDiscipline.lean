import CanGateway.Broadcast
import CanGateway.Library.LockOrder

/-!
# The order in which the program takes its mutexes

Each function below is the source function of its name with everything left out that is neither a
mutex call, nor a call of such a function, nor a jump: its conditions are left open, so that every
path of the source is a path here.
-/

namespace CanGateway.Locks

open LockOrder LockOrder.Prog

/-- The mutexes; `buffer` is the one local to `handle_can_buf_query`. -/
inductive Mutex where
  | eventSock
  | dataUpload
  | dataCounter
  | dataDownload
  | packet
  | downloadProcess
  | tcpBuffer
  | bcastCfg
  | bcastState
  | canWrite (canId : Nat)
  | bcastGroupId
  | bcastRxGate
  | bcastWake (ch : Nat)
  | buffer
  deriving DecidableEq

/-! ## The code -/

/-- `pthread_mutex_lock(&m); ... pthread_mutex_unlock(&m);` -/
def critical (m : Mutex) (inside : List (Prog Mutex)) : Prog Mutex :=
  block (.lock m :: inside ++ [.unlock m])

/-- `if (...) { pthread_mutex_unlock(&m); return; }` -/
def returnEarly (m : Mutex) : Prog Mutex := opt [.unlock m, .exit .ret]

def sendEvent : Prog Mutex := critical .eventSock [returnEarly .eventSock]

def adjustTcpBufferTotal : Prog Mutex := critical .tcpBuffer [returnEarly .tcpBuffer]

def updateTcpBufferUsage : Prog Mutex := critical .tcpBuffer []

/-! ### What goes out through port 9010 -/

def sendReceivedCanFrameToPc : Prog Mutex :=
  critical .dataUpload
    [returnEarly .dataUpload,
      -- The channel is closed.
      returnEarly .dataUpload,
      -- A failed send reports its event before the socket's mutex is given back.
      opt [.call sendEvent]]

/-- One response through `data_upload_socket`, given up when there is none. -/
def uploadOnce : Prog Mutex := critical .dataUpload [returnEarly .dataUpload]

def sendCanConfigResponse : Prog Mutex := uploadOnce

def sendCanInfoResponse : Prog Mutex :=
  critical .dataUpload
    [returnEarly .dataUpload,
      -- `malloc` failed.
      opt [.unlock .dataUpload, .exit .ret],
      critical .dataCounter []]

def sendCanSendResponse : Prog Mutex := uploadOnce

def sendCanTransmitResponse : Prog Mutex := uploadOnce

def sendStartStopResponse : Prog Mutex := block [.call sendCanSendResponse]

def sendBroadcastConfigResponse : Prog Mutex :=
  block [critical .dataCounter [], .call sendCanSendResponse]

def sendVersionQueryResponse : Prog Mutex := uploadOnce

def sendCanTxStatus : Prog Mutex := uploadOnce

def handleNormalMode : Prog Mutex := uploadOnce

/-! ### Broadcast -/

def broadcastBufferAvailable : Prog Mutex := critical .bcastState []

def resetBroadcastBuffers : Prog Mutex :=
  block
    [each (List.range axicanMax) fun ch => critical (.bcastWake ch) [],
      critical .bcastRxGate []]

def nextBroadcastGroupId : Prog Mutex := critical .bcastGroupId []

def getBroadcastStoreMask : Prog Mutex := critical .bcastCfg []

def setBroadcastRxGate : Prog Mutex := critical .bcastRxGate []

def isBroadcastRxGateOpen : Prog Mutex := critical .bcastRxGate []

def isBroadcastPpsWindowOpen : Prog Mutex :=
  block [opt [.exit .ret], .call isBroadcastRxGateOpen]

def selectBroadcastMaskOnPps : Prog Mutex := critical .bcastCfg [returnEarly .bcastCfg]

def notifyBroadcastChannels : Prog Mutex :=
  each (List.range axicanMax) fun ch => opt [critical (.bcastWake ch) []]

def processBroadcastPps : Prog Mutex :=
  critical .bcastState
    [.call setBroadcastRxGate, .call selectBroadcastMaskOnPps, opt [.call notifyBroadcastChannels]]

def ppsIrqThread : Prog Mutex :=
  block
    [opt [.call sendEvent, .exit .ret],
      .loop (block
        [opt [.exit .cont],
          opt [opt [.exit .cont], .exit .brk],
          opt [.call processBroadcastPps]])]

def sendBroadcastGroupForChannel (canId : Nat) : Prog Mutex :=
  block
    [opt [.exit .ret],
      opt [.exit .ret],
      .loop (block
        [critical (.canWrite canId) [],
          opt [.call sendEvent, .exit .ret]])]

def takeBroadcastGroup (canId : Nat) : Prog Mutex :=
  block [opt [.exit .ret], critical .bcastState [critical (.bcastWake canId) []]]

def broadcastCanSendThread (canId : Nat) : Prog Mutex :=
  block
    [opt [.exit .ret],
      .loop (block
        [.lock (.bcastWake canId),
          .loop (wait (.bcastWake canId)),
          -- `!running`
          opt [.unlock (.bcastWake canId), .exit .brk],
          .unlock (.bcastWake canId),
          .call (takeBroadcastGroup canId),
          opt [.exit .cont],
          .call (sendBroadcastGroupForChannel canId)])]

/-! ### Commands on port 9009 -/

def handleCanConfig : Prog Mutex :=
  block
    [opt [.call sendEvent, .exit .ret],
      opt [.call sendEvent, .exit .ret],
      opt [.call sendEvent, .exit .ret],
      -- `switch (param->CAN_DATA_MODE)`: the alone mode falls through into the normal mode, and
      -- that into the default.
      opt [setBaudAndMode],
      opt [setBaudAndMode],
      .call sendEvent]
where
  /-- What the two modes do when the type is 0, up to their `break` out of the `switch`, which is
  the end of the function. -/
  setBaudAndMode : Prog Mutex :=
    block
      [opt [.call sendEvent],
        opt [.call sendEvent],
        opt [.call sendEvent],
        .call sendCanConfigResponse,
        .exit .ret]

def handleCanInfoQuery : Prog Mutex :=
  block [opt [opt [.call sendEvent, .exit .ret]], .call sendCanInfoResponse]

def handleCanBufQuery : Prog Mutex :=
  block
    [opt [.call sendEvent, .exit .ret],
      critical .buffer [each (List.range axicanMax) fun _ => .call broadcastBufferAvailable],
      critical .dataUpload [returnEarly .dataUpload]]

def handleVersionQuery : Prog Mutex :=
  block [opt [.call sendVersionQueryResponse, .exit .ret], .call sendVersionQueryResponse]

def handleBroadcastConfig : Prog Mutex :=
  block
    [refuse, refuse, refuse, refuse, refuse, refuse,
      critical .bcastState [critical .bcastCfg [], .call resetBroadcastBuffers],
      .call sendBroadcastConfigResponse]
where
  /-- A check that fails. -/
  refuse : Prog Mutex :=
    opt [.call sendEvent, .call sendBroadcastConfigResponse, .exit .ret]

def handleCanStartStop : Prog Mutex :=
  block
    [opt [.call sendEvent, .call sendStartStopResponse, .exit .ret],
      .branch (.call sendStartStopResponse)
        (.branch (.call sendStartStopResponse)
          (block [.call sendEvent, .call sendStartStopResponse]))]

def tcpClientHandler9009 : Prog Mutex :=
  .loop (block
    [opt [.exit .cont],
      opt [opt [.call sendEvent], .exit .brk],
      .loop (block
        [opt [.exit .brk],
          opt [.exit .cont],
          opt [dispatch]])])
where
  /-- `switch (command)`. -/
  dispatch : Prog Mutex :=
    .branch (.call handleCanConfig)
      (.branch (.call handleCanInfoQuery)
        (.branch (.call handleCanBufQuery)
          (.branch (.call handleCanStartStop)
            (.branch (.call handleBroadcastConfig)
              (.branch (.call handleVersionQuery)
                (.call sendEvent))))))

/-! ### The other connections -/

/-- A handler that holds the port's socket while it reads and drops what comes in. -/
def holdSocket (m : Mutex) : Prog Mutex :=
  block [critical m [], .loop (opt [.exit .brk]), critical m []]

def tcpClientHandler9010 : Prog Mutex := holdSocket .dataUpload

def tcpClientHandler9011 : Prog Mutex := holdSocket .eventSock

def enqueueNormalCanPayload : Prog Mutex :=
  block [opt [.exit .ret], opt [.call sendEvent, .exit .ret]]

def enqueueBroadcastGroup : Prog Mutex :=
  block
    [opt [.call sendEvent, .exit .ret],
      opt [.call sendEvent, .exit .ret],
      critical .bcastState
        [.call isBroadcastPpsWindowOpen,
          returnEarly .bcastState,
          returnEarly .bcastState,
          .call nextBroadcastGroupId,
          returnEarly .bcastState]]

def process9012CanPayloadFrames : Prog Mutex :=
  block
    [opt [.exit .ret],
      opt [.exit .ret],
      .loop (opt [.exit .ret]),
      opt
        [opt [.call enqueueNormalCanPayload, .exit .ret],
          opt [opt [.exit .ret], .call enqueueBroadcastGroup, .exit .ret],
          .exit .ret],
      .loop (opt [.exit .ret]),
      opt [.exit .ret],
      .call enqueueBroadcastGroup]

def processDownloadDataBatch : Prog Mutex :=
  block
    [opt [.exit .ret],
      .loop (block
        [opt [.exit .cont],
          opt [.exit .cont],
          opt [.exit .brk],
          opt [.call process9012CanPayloadFrames, .exit .cont],
          -- The buffer of the packet's type is full.
          opt [.call sendEvent]])]

/-- A batch run the way the handler of port 9012 runs it. -/
def guardedDownloadDataBatch : Prog Mutex :=
  critical .downloadProcess [.call processDownloadDataBatch]

def tcpClientHandler9012 : Prog Mutex :=
  block
    [opt [.exit .ret],
      critical .downloadProcess [critical .dataDownload []],
      .loop (block
        [opt [.exit .brk],
          opt [.exit .cont],
          opt [.exit .brk],
          critical .downloadProcess
            [critical .dataDownload [], opt [.call processDownloadDataBatch]],
          opt [.exit .brk]]),
      critical .dataDownload []]

/-! ### Threads of the channels -/

def sendSingleFrame (canId : Nat) : Prog Mutex :=
  block
    [critical (.canWrite canId) [],
      opt [.call sendCanTransmitResponse, .call sendEvent]]

def axicanDataSendThread (canId : Nat) : Prog Mutex :=
  block
    [opt [.exit .ret],
      .loop (block
        [opt [.exit .brk],
          opt [.exit .cont],
          opt [.call sendEvent, .exit .cont],
          opt [.call sendEvent, .exit .cont],
          opt [.call (sendSingleFrame canId), .exit .cont],
          -- `pthread_mutex_lock` failed.
          opt [.exit .cont],
          .lock .packet,
          opt [opt [.unlock .packet, .exit .cont]],
          opt [.unlock .packet, .exit .cont],
          opt [.unlock .packet, .exit .cont],
          opt [.loop (.call (sendSingleFrame canId))],
          .unlock .packet])]

def axicanDataProcessThread : Prog Mutex :=
  block
    [opt [.exit .ret],
      .loop (opt [.loop (.call handleNormalMode)])]

def processAndSendResponse (canId : Nat) : Prog Mutex :=
  block
    [opt [.exit .ret],
      .loop (block [critical (.canWrite canId) [], opt [.call sendEvent]])]

/-- Which frames it answers and which it passes on is left open. -/
def alongDataTidThread (canId : Nat) : Prog Mutex :=
  block
    [opt [.exit .ret],
      .loop (.branch (.call (processAndSendResponse canId)) (.call sendCanTransmitResponse))]

def bufferReportThread : Prog Mutex :=
  .loop (block
    [critical .tcpBuffer [],
      critical .tcpBuffer [],
      each (List.range axicanMax) fun _ => .call broadcastBufferAvailable,
      critical .dataDownload []])

/-! ## The order -/

/-- A mutex is only taken by a thread all of whose mutexes rank lower. -/
def Mutex.rank : Mutex → Nat
  | .downloadProcess | .buffer | .packet => 0
  | .dataDownload | .bcastState | .canWrite _ | .dataUpload => 1
  | .tcpBuffer | .eventSock | .dataCounter => 2
  | .bcastCfg | .bcastRxGate | .bcastGroupId | .bcastWake _ => 2

attribute [local simp] Disciplined critical returnEarly holdSocket Mutex.rank.eq_def

theorem sendEvent_disciplined : Disciplined Mutex.rank 2 sendEvent := by
  simp [sendEvent]

theorem adjustTcpBufferTotal_disciplined : Disciplined Mutex.rank 2 adjustTcpBufferTotal := by
  simp [adjustTcpBufferTotal]

theorem updateTcpBufferUsage_disciplined : Disciplined Mutex.rank 2 updateTcpBufferUsage := by
  simp [updateTcpBufferUsage]

theorem uploadOnce_disciplined : Disciplined Mutex.rank 1 uploadOnce := by
  simp [uploadOnce]

theorem sendReceivedCanFrameToPc_disciplined :
    Disciplined Mutex.rank 1 sendReceivedCanFrameToPc := by
  simp [sendReceivedCanFrameToPc, sendEvent_disciplined.wp_call]

theorem sendCanInfoResponse_disciplined : Disciplined Mutex.rank 1 sendCanInfoResponse := by
  simp [sendCanInfoResponse]

theorem sendStartStopResponse_disciplined : Disciplined Mutex.rank 1 sendStartStopResponse := by
  simp [sendStartStopResponse, sendCanSendResponse, uploadOnce_disciplined.wp_call]

theorem sendBroadcastConfigResponse_disciplined :
    Disciplined Mutex.rank 1 sendBroadcastConfigResponse := by
  simp [sendBroadcastConfigResponse, sendCanSendResponse, uploadOnce_disciplined.wp_call]

theorem broadcastBufferAvailable_disciplined :
    Disciplined Mutex.rank 1 broadcastBufferAvailable := by
  simp [broadcastBufferAvailable]

-- Asking every channel's space, whatever is held.
theorem wp_each_broadcastBufferAvailable {k : Nat} (hk : k ≤ 1) {own : List Mutex}
    (hown : ∀ m ∈ own, m.rank < 1) (Q : Post Mutex) {N : List Mutex → Prop} (hN : N own) :
    wp Mutex.rank k (.each (List.range axicanMax) fun _ => .call broadcastBufferAvailable)
      (Q.andThen N) own := by
  refine wp_each hN fun ch _ M hM => ?_
  rw [broadcastBufferAvailable_disciplined.wp_call hk hown]
  exact hM

theorem resetBroadcastBuffers_disciplined : Disciplined Mutex.rank 2 resetBroadcastBuffers := by
  refine wp_each ?_ fun ch _ N hN => ?_
  · simp
  · simp [hN]

theorem nextBroadcastGroupId_disciplined : Disciplined Mutex.rank 2 nextBroadcastGroupId := by
  simp [nextBroadcastGroupId]

theorem getBroadcastStoreMask_disciplined : Disciplined Mutex.rank 2 getBroadcastStoreMask := by
  simp [getBroadcastStoreMask]

theorem setBroadcastRxGate_disciplined : Disciplined Mutex.rank 2 setBroadcastRxGate := by
  simp [setBroadcastRxGate]

theorem isBroadcastRxGateOpen_disciplined : Disciplined Mutex.rank 2 isBroadcastRxGateOpen := by
  simp [isBroadcastRxGateOpen]

theorem isBroadcastPpsWindowOpen_disciplined :
    Disciplined Mutex.rank 2 isBroadcastPpsWindowOpen := by
  simp [isBroadcastPpsWindowOpen, isBroadcastRxGateOpen_disciplined.wp_call]

theorem selectBroadcastMaskOnPps_disciplined :
    Disciplined Mutex.rank 2 selectBroadcastMaskOnPps := by
  simp [selectBroadcastMaskOnPps]

theorem notifyBroadcastChannels_disciplined :
    Disciplined Mutex.rank 2 notifyBroadcastChannels := by
  refine wp_each ?_ fun ch _ N hN => ?_
  · simp
  · simp [hN]

theorem processBroadcastPps_disciplined : Disciplined Mutex.rank 1 processBroadcastPps := by
  simp [processBroadcastPps, setBroadcastRxGate_disciplined.wp_call,
    selectBroadcastMaskOnPps_disciplined.wp_call, notifyBroadcastChannels_disciplined.wp_call]

theorem ppsIrqThread_disciplined : Disciplined Mutex.rank 1 ppsIrqThread := by
  simp [ppsIrqThread, sendEvent_disciplined.wp_call, processBroadcastPps_disciplined.wp_call]

theorem sendBroadcastGroupForChannel_disciplined (canId : Nat) :
    Disciplined Mutex.rank 1 (sendBroadcastGroupForChannel canId) := by
  simp [sendBroadcastGroupForChannel, sendEvent_disciplined.wp_call]

theorem takeBroadcastGroup_disciplined (canId : Nat) :
    Disciplined Mutex.rank 1 (takeBroadcastGroup canId) := by
  simp [takeBroadcastGroup]

theorem broadcastCanSendThread_disciplined (canId : Nat) :
    Disciplined Mutex.rank 1 (broadcastCanSendThread canId) := by
  simp [broadcastCanSendThread, (takeBroadcastGroup_disciplined canId).wp_call,
    (sendBroadcastGroupForChannel_disciplined canId).wp_call]

theorem handleCanConfig_disciplined : Disciplined Mutex.rank 1 handleCanConfig := by
  simp [handleCanConfig, handleCanConfig.setBaudAndMode, sendCanConfigResponse,
    sendEvent_disciplined.wp_call, uploadOnce_disciplined.wp_call]

theorem handleCanInfoQuery_disciplined : Disciplined Mutex.rank 1 handleCanInfoQuery := by
  simp [handleCanInfoQuery, sendEvent_disciplined.wp_call,
    sendCanInfoResponse_disciplined.wp_call]

theorem handleCanBufQuery_disciplined : Disciplined Mutex.rank 0 handleCanBufQuery := by
  simp [handleCanBufQuery, sendEvent_disciplined.wp_call, wp_each_broadcastBufferAvailable]

theorem handleVersionQuery_disciplined : Disciplined Mutex.rank 1 handleVersionQuery := by
  simp [handleVersionQuery, sendVersionQueryResponse, uploadOnce_disciplined.wp_call]

theorem handleBroadcastConfig_disciplined : Disciplined Mutex.rank 1 handleBroadcastConfig := by
  simp [handleBroadcastConfig, handleBroadcastConfig.refuse, sendEvent_disciplined.wp_call,
    sendBroadcastConfigResponse_disciplined.wp_call, resetBroadcastBuffers_disciplined.wp_call]

theorem handleCanStartStop_disciplined : Disciplined Mutex.rank 1 handleCanStartStop := by
  simp [handleCanStartStop, sendEvent_disciplined.wp_call,
    sendStartStopResponse_disciplined.wp_call]

theorem tcpClientHandler9009_disciplined : Disciplined Mutex.rank 0 tcpClientHandler9009 := by
  simp [tcpClientHandler9009, tcpClientHandler9009.dispatch, sendEvent_disciplined.wp_call,
    handleCanConfig_disciplined.wp_call, handleCanInfoQuery_disciplined.wp_call,
    handleCanBufQuery_disciplined.wp_call, handleCanStartStop_disciplined.wp_call,
    handleBroadcastConfig_disciplined.wp_call, handleVersionQuery_disciplined.wp_call]

theorem tcpClientHandler9010_disciplined : Disciplined Mutex.rank 1 tcpClientHandler9010 := by
  simp [tcpClientHandler9010]

theorem tcpClientHandler9011_disciplined : Disciplined Mutex.rank 2 tcpClientHandler9011 := by
  simp [tcpClientHandler9011]

theorem enqueueNormalCanPayload_disciplined :
    Disciplined Mutex.rank 2 enqueueNormalCanPayload := by
  simp [enqueueNormalCanPayload, sendEvent_disciplined.wp_call]

theorem enqueueBroadcastGroup_disciplined : Disciplined Mutex.rank 1 enqueueBroadcastGroup := by
  simp [enqueueBroadcastGroup, sendEvent_disciplined.wp_call,
    isBroadcastPpsWindowOpen_disciplined.wp_call, nextBroadcastGroupId_disciplined.wp_call]

theorem process9012CanPayloadFrames_disciplined :
    Disciplined Mutex.rank 1 process9012CanPayloadFrames := by
  simp [process9012CanPayloadFrames, enqueueNormalCanPayload_disciplined.wp_call,
    enqueueBroadcastGroup_disciplined.wp_call]

theorem processDownloadDataBatch_disciplined :
    Disciplined Mutex.rank 1 processDownloadDataBatch := by
  simp [processDownloadDataBatch, sendEvent_disciplined.wp_call,
    process9012CanPayloadFrames_disciplined.wp_call]

theorem guardedDownloadDataBatch_disciplined :
    Disciplined Mutex.rank 0 guardedDownloadDataBatch := by
  simp [guardedDownloadDataBatch, processDownloadDataBatch_disciplined.wp_call]

theorem tcpClientHandler9012_disciplined : Disciplined Mutex.rank 0 tcpClientHandler9012 := by
  simp [tcpClientHandler9012, processDownloadDataBatch_disciplined.wp_call]

theorem sendSingleFrame_disciplined (canId : Nat) :
    Disciplined Mutex.rank 1 (sendSingleFrame canId) := by
  simp [sendSingleFrame, sendCanTransmitResponse, sendEvent_disciplined.wp_call,
    uploadOnce_disciplined.wp_call]

theorem axicanDataSendThread_disciplined (canId : Nat) :
    Disciplined Mutex.rank 0 (axicanDataSendThread canId) := by
  simp [axicanDataSendThread, sendEvent_disciplined.wp_call,
    (sendSingleFrame_disciplined canId).wp_call]

theorem axicanDataProcessThread_disciplined :
    Disciplined Mutex.rank 1 axicanDataProcessThread := by
  simp [axicanDataProcessThread, handleNormalMode, uploadOnce_disciplined.wp_call]

theorem processAndSendResponse_disciplined (canId : Nat) :
    Disciplined Mutex.rank 1 (processAndSendResponse canId) := by
  simp [processAndSendResponse, sendEvent_disciplined.wp_call]

theorem alongDataTidThread_disciplined (canId : Nat) :
    Disciplined Mutex.rank 1 (alongDataTidThread canId) := by
  simp [alongDataTidThread, sendCanTransmitResponse, uploadOnce_disciplined.wp_call,
    (processAndSendResponse_disciplined canId).wp_call]

theorem bufferReportThread_disciplined : Disciplined Mutex.rank 1 bufferReportThread := by
  simp [bufferReportThread, wp_each_broadcastBufferAvailable]

/-! ## Any number of threads -/

/-- The functions a thread may be running. -/
inductive Routine where
  | sendEvent
  | adjustTcpBufferTotal
  | updateTcpBufferUsage
  | sendReceivedCanFrameToPc
  | sendCanConfigResponse
  | sendCanInfoResponse
  | sendCanSendResponse
  | sendCanTransmitResponse
  | sendStartStopResponse
  | sendBroadcastConfigResponse
  | sendVersionQueryResponse
  | sendCanTxStatus
  | handleNormalMode
  | getBroadcastStoreMask
  | processBroadcastPps
  | ppsIrqThread
  | sendBroadcastGroupForChannel (canId : Nat)
  | takeBroadcastGroup (canId : Nat)
  | broadcastCanSendThread (canId : Nat)
  | handleCanConfig
  | handleCanInfoQuery
  | handleCanBufQuery
  | handleVersionQuery
  | handleBroadcastConfig
  | handleCanStartStop
  | tcpClientHandler9009
  | tcpClientHandler9010
  | tcpClientHandler9011
  | processDownloadDataBatch
  | guardedDownloadDataBatch
  | tcpClientHandler9012
  | sendSingleFrame (canId : Nat)
  | axicanDataSendThread (canId : Nat)
  | axicanDataProcessThread
  | processAndSendResponse (canId : Nat)
  | alongDataTidThread (canId : Nat)
  | bufferReportThread

def Routine.body : Routine → Prog Mutex
  | .sendEvent => Locks.sendEvent
  | .adjustTcpBufferTotal => Locks.adjustTcpBufferTotal
  | .updateTcpBufferUsage => Locks.updateTcpBufferUsage
  | .sendReceivedCanFrameToPc => Locks.sendReceivedCanFrameToPc
  | .sendCanConfigResponse => Locks.sendCanConfigResponse
  | .sendCanInfoResponse => Locks.sendCanInfoResponse
  | .sendCanSendResponse => Locks.sendCanSendResponse
  | .sendCanTransmitResponse => Locks.sendCanTransmitResponse
  | .sendStartStopResponse => Locks.sendStartStopResponse
  | .sendBroadcastConfigResponse => Locks.sendBroadcastConfigResponse
  | .sendVersionQueryResponse => Locks.sendVersionQueryResponse
  | .sendCanTxStatus => Locks.sendCanTxStatus
  | .handleNormalMode => Locks.handleNormalMode
  | .getBroadcastStoreMask => Locks.getBroadcastStoreMask
  | .processBroadcastPps => Locks.processBroadcastPps
  | .ppsIrqThread => Locks.ppsIrqThread
  | .sendBroadcastGroupForChannel canId => Locks.sendBroadcastGroupForChannel canId
  | .takeBroadcastGroup canId => Locks.takeBroadcastGroup canId
  | .broadcastCanSendThread canId => Locks.broadcastCanSendThread canId
  | .handleCanConfig => Locks.handleCanConfig
  | .handleCanInfoQuery => Locks.handleCanInfoQuery
  | .handleCanBufQuery => Locks.handleCanBufQuery
  | .handleVersionQuery => Locks.handleVersionQuery
  | .handleBroadcastConfig => Locks.handleBroadcastConfig
  | .handleCanStartStop => Locks.handleCanStartStop
  | .tcpClientHandler9009 => Locks.tcpClientHandler9009
  | .tcpClientHandler9010 => Locks.tcpClientHandler9010
  | .tcpClientHandler9011 => Locks.tcpClientHandler9011
  | .processDownloadDataBatch => Locks.processDownloadDataBatch
  | .guardedDownloadDataBatch => Locks.guardedDownloadDataBatch
  | .tcpClientHandler9012 => Locks.tcpClientHandler9012
  | .sendSingleFrame canId => Locks.sendSingleFrame canId
  | .axicanDataSendThread canId => Locks.axicanDataSendThread canId
  | .axicanDataProcessThread => Locks.axicanDataProcessThread
  | .processAndSendResponse canId => Locks.processAndSendResponse canId
  | .alongDataTidThread canId => Locks.alongDataTidThread canId
  | .bufferReportThread => Locks.bufferReportThread

theorem Routine.exists_rank (r : Routine) : ∃ k, Disciplined Mutex.rank k r.body := by
  cases r with
  | sendEvent => exact ⟨_, sendEvent_disciplined⟩
  | adjustTcpBufferTotal => exact ⟨_, adjustTcpBufferTotal_disciplined⟩
  | updateTcpBufferUsage => exact ⟨_, updateTcpBufferUsage_disciplined⟩
  | sendReceivedCanFrameToPc => exact ⟨_, sendReceivedCanFrameToPc_disciplined⟩
  | sendCanConfigResponse => exact ⟨_, uploadOnce_disciplined⟩
  | sendCanInfoResponse => exact ⟨_, sendCanInfoResponse_disciplined⟩
  | sendCanSendResponse => exact ⟨_, uploadOnce_disciplined⟩
  | sendCanTransmitResponse => exact ⟨_, uploadOnce_disciplined⟩
  | sendStartStopResponse => exact ⟨_, sendStartStopResponse_disciplined⟩
  | sendBroadcastConfigResponse => exact ⟨_, sendBroadcastConfigResponse_disciplined⟩
  | sendVersionQueryResponse => exact ⟨_, uploadOnce_disciplined⟩
  | sendCanTxStatus => exact ⟨_, uploadOnce_disciplined⟩
  | handleNormalMode => exact ⟨_, uploadOnce_disciplined⟩
  | getBroadcastStoreMask => exact ⟨_, getBroadcastStoreMask_disciplined⟩
  | processBroadcastPps => exact ⟨_, processBroadcastPps_disciplined⟩
  | ppsIrqThread => exact ⟨_, ppsIrqThread_disciplined⟩
  | sendBroadcastGroupForChannel canId => exact ⟨_, sendBroadcastGroupForChannel_disciplined canId⟩
  | takeBroadcastGroup canId => exact ⟨_, takeBroadcastGroup_disciplined canId⟩
  | broadcastCanSendThread canId => exact ⟨_, broadcastCanSendThread_disciplined canId⟩
  | handleCanConfig => exact ⟨_, handleCanConfig_disciplined⟩
  | handleCanInfoQuery => exact ⟨_, handleCanInfoQuery_disciplined⟩
  | handleCanBufQuery => exact ⟨_, handleCanBufQuery_disciplined⟩
  | handleVersionQuery => exact ⟨_, handleVersionQuery_disciplined⟩
  | handleBroadcastConfig => exact ⟨_, handleBroadcastConfig_disciplined⟩
  | handleCanStartStop => exact ⟨_, handleCanStartStop_disciplined⟩
  | tcpClientHandler9009 => exact ⟨_, tcpClientHandler9009_disciplined⟩
  | tcpClientHandler9010 => exact ⟨_, tcpClientHandler9010_disciplined⟩
  | tcpClientHandler9011 => exact ⟨_, tcpClientHandler9011_disciplined⟩
  | processDownloadDataBatch => exact ⟨_, processDownloadDataBatch_disciplined⟩
  | guardedDownloadDataBatch => exact ⟨_, guardedDownloadDataBatch_disciplined⟩
  | tcpClientHandler9012 => exact ⟨_, tcpClientHandler9012_disciplined⟩
  | sendSingleFrame canId => exact ⟨_, sendSingleFrame_disciplined canId⟩
  | axicanDataSendThread canId => exact ⟨_, axicanDataSendThread_disciplined canId⟩
  | axicanDataProcessThread => exact ⟨_, axicanDataProcessThread_disciplined⟩
  | processAndSendResponse canId => exact ⟨_, processAndSendResponse_disciplined canId⟩
  | alongDataTidThread canId => exact ⟨_, alongDataTidThread_disciplined canId⟩
  | bufferReportThread => exact ⟨_, bufferReportThread_disciplined⟩

theorem Routine.disciplined (r : Routine) : Disciplined Mutex.rank 0 r.body := by
  obtain ⟨k, hk⟩ := r.exists_rank
  exact hk.mono (Nat.zero_le k)

/-- Every thread has its own list of functions to run, one after the other. -/
def start {ι : Type} (jobs : ι → List Routine) : ι → Thread Mutex :=
  fun i => ⟨block ((jobs i).map fun r => .call r.body), [], []⟩

-- Between two functions of its list a thread holds nothing.
theorem block_disciplined (rs : List Routine) :
    Disciplined Mutex.rank 0 (block (rs.map fun r => .call r.body)) := by
  induction rs with
  | nil => exact ⟨.inl rfl, rfl⟩
  | cons r rs ih =>
      rw [List.map_cons, Disciplined, wp_block_cons,
        r.disciplined.wp_call (le_refl 0) (by simp)]
      exact ih

theorem orderly_of_reachable {ι : Type} {jobs : ι → List Routine} {s : ι → Thread Mutex}
    (hrun : Relation.ReflTransGen Moves (start jobs) s) : Orderly Mutex.rank s := by
  refine Orderly.run (fun i => ⟨0, ?_⟩) hrun
  exact (block_disciplined (jobs i)).keeps []

/-- Threads that run any of the functions in any order never wait for each other in a circle, and
every function returns on every path with exactly the mutexes it was entered with. -/
theorem no_circular_wait_and_balanced :
    (∀ (ι : Type) (jobs : ι → List Routine) (s : ι → Thread Mutex),
      Relation.ReflTransGen Moves (start jobs) s →
        ∀ i, ¬ Relation.TransGen (WaitsFor s) i i) ∧
      ∀ (r : Routine) (held held' : List Mutex), Returns r.body held held' → held' = held := by
  refine ⟨fun ι jobs s hrun i => ?_, fun r held held' hret => ?_⟩
  · exact (orderly_of_reachable hrun).no_wait_cycle i
  · exact r.disciplined.returns hret

/-- Finitely many threads are never all blocked: as long as one is not done, one can move. -/
theorem some_thread_moves {ι : Type} [Finite ι] {jobs : ι → List Routine}
    {s : ι → Thread Mutex} (hrun : Relation.ReflTransGen Moves (start jobs) s)
    (hbusy : ∃ i, ¬ (s i).Done) : ∃ i t', Thread.Step (Free s) (s i) t' :=
  (orderly_of_reachable hrun).progress hbusy

end CanGateway.Locks
