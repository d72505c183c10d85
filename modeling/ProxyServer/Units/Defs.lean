import ProxyServer.Runtime

/-! Connection states, command words and the read cache of a unit. -/

namespace ProxyServer.Units

/-- `CConnState`. -/
inductive ConnState
  | idle
  | fatalError
  | dataError
  | connecting
  | disconnect
  | connected
  | dataSending
  | dataRecving
  | sendDone
  | recvDone
  | appendSending
  | appendDone
  deriving DecidableEq, Repr

/-- The number behind a state: `send` and `send_to_cgi` return `CONN_DATA_SENDING`. -/
def ConnState.code : ConnState → Int
  | .idle => 0
  | .fatalError => 1
  | .dataError => 2
  | .connecting => 3
  | .disconnect => 4
  | .connected => 5
  | .dataSending => 6
  | .dataRecving => 7
  | .sendDone => 8
  | .recvDone => 9
  | .appendSending => 10
  | .appendDone => 11

/-- `TDecodeStatus`. -/
inductive DecodeStatus
  | fatalError
  | dataError
  | waitHead
  | waitContent
  | headDone
  | contentDone
  | done
  | disconnectByUser
  deriving DecidableEq, Repr

/-- `ConnType`; `CONN_CLINET` is a logged-in client. -/
inductive ConnType
  | client
  | other
  deriving DecidableEq, Repr

/-- `MAX_WEB_RECV_LEN`. -/
def maxWebRecvLen : Nat := 102400

-----------------------------------------------------------------------------------------
-- Answers of the operating system
-----------------------------------------------------------------------------------------

/-- What `::send` answers to a non-empty buffer. At most the buffer is accepted. -/
inductive SendAnswer
  | accepted (count : Nat)
  | transient
  | error
  deriving DecidableEq, Repr

/-- What `::recv` answers. -/
inductive RecvAnswer
  | data (chunk : List UInt8)
  | closed
  | transient
  | error
  deriving DecidableEq, Repr

-----------------------------------------------------------------------------------------
-- Command words
-----------------------------------------------------------------------------------------

def clientPacket : Int := 0x0001
def clientPacket2 : Int := 0x0004
def clientClosePacket : Int := 0x0002
def serverClosePacket : Int := 0x0003
def sysReloadConfig : Int := 0x0010
def sysReloadIpMap : Int := 0x0011
def sysResetConnectTimer : Int := 0x0012
def sysOpenDebug : Int := 0x000D
def clientCmdClientLogin : Int := 0x0101
def cmdGetNewRoom : Int := 0x0117
def clientCmdRequestListRoom : Int := 0x011D
def clientCmdEnterRoom : Int := 0x0125
def serverCmdLoginSuccess : Int := 0x0201
def serverCmdKickOut : Int := 0x0203
def serverCmdEnterRoom : Int := 0x0212
def serverCmdSetIp : Int := 0x0301
def cmdGetRoomLeverNum : Int := 0x0311
def cmdRequireIpPort : Int := 0x0604
def cmdSeparate : Int := 0x0800
def clientCommandLogin : Int := 0x1001
def serverCommandLogoutSuccess : Int := 0x2013
def clientCommandBreakTime : Int := 0x1016
def serverGetPlayerCount : Int := 0x3018
def serverCommandBreakTime : Int := 0x2017
def serverCommandChangeGameserver : Int := 0x7213
def serverBroadcastInfo : Int := 0x7050
def serverBroadcastInfoNew : Int := 0x7054
def clinetRequestBroadcastInfo : Int := 0x7055

-----------------------------------------------------------------------------------------
-- Read caches and frame headers
-----------------------------------------------------------------------------------------

/-- Where a unit of a larger state keeps its read cache `_r`. -/
structure ReadCache (σ : Type) where
  data : σ → List UInt8
  replace : List UInt8 → σ → σ
  data_replace : ∀ bytes state, data (replace bytes state) = bytes

namespace ReadCache

variable {σ : Type} (cache : ReadCache σ)

/-- `_r.append`. -/
def append (bytes : List UInt8) : StateT σ (Except Fault) Unit :=
  modify (fun state => cache.replace (cache.data state ++ bytes) state)

/-- `_r.skip`. -/
def skip (length : Nat) : StateT σ (Except Fault) Unit :=
  modify (fun state => cache.replace ((cache.data state).drop length) state)

end ReadCache

/-- `sizeof(struct TPkgHeader)`. -/
def headLen : Nat := 9

/-- `ntohs(pHeader->length)`. -/
def contentLength (data : List UInt8) : Nat :=
  WordBytes.ofBytes (data.take 2)

/-- Bytes behind a complete header do not change its length field. -/
theorem contentLength_append {buffered : List UInt8} (more : List UInt8)
    (header : headLen ≤ buffered.length)
    : contentLength (buffered ++ more) = contentLength buffered := by
  unfold headLen at header
  unfold contentLength
  rw [List.take_append_of_le_length (by omega)]

end ProxyServer.Units
