import ProxyServer.Packets.CodeByte
import ProxyServer.System.Events

/-! What the check code of a packet decides.
Every caller of `DecryptBuffer` drops its result, so a packet is handled as it would be with
any other check code, and with the fitting one in particular.
-/

namespace ProxyServer.System

open Packets ProxyServer.Units
open FaultState PairedRuns

-----------------------------------------------------------------------------------------
-- Strings that handlers read on behind
-----------------------------------------------------------------------------------------

/-- The program leaves the cursor behind the header. -/
def Stays {α : Type} (program : PacketM 8192 α) (packet : NETInputPacket) : Prop :=
  ∀ value next, Yields program packet value next → 9 ≤ next.nBufPos

/-- What the handler of a client's command reads up to a string behind which it reads on. -/
def clientString (cmd : Int) : PacketM 8192 (List UInt8) :=
  if cmd = sysResetConnectTimer then
    InputPacket.readString
  else if cmd = serverBroadcastInfo ∨ cmd = sysOpenDebug then
    decryptedThen InputPacket.readString
  else
    pure []

/-- What the handler of a room assignment reads up to the address. -/
def roomString (cmd : Int) : PacketM 8192 (List UInt8) :=
  if cmd = serverCmdLoginSuccess then
    decryptedThen do
      let levelCount ← InputPacket.readInt
      skipInts levelCount.toNat
      let tid ← InputPacket.readInt
      if 0 < tid then InputPacket.readString else pure []
  else if cmd = serverCmdEnterRoom then
    decryptedThen do
      let res ← InputPacket.readShort
      if res = 0 then pure [] else InputPacket.readString
  else if cmd = cmdGetNewRoom then
    decryptedThen do
      let _ ← InputPacket.readInt
      InputPacket.readString
  else
    pure []

/-- What `SERVER_COMMAND_CHANGE_GAMESERVER` reads up to the address. -/
def serverString : PacketM 8192 (List UInt8) :=
  decryptedThen do
    let _uid ← InputPacket.readInt
    InputPacket.readString

/-- What is left of a program after its first step stays behind the header, too. -/
theorem Stays.step {α β : Type} {first : PacketM 8192 α} {rest : α → PacketM 8192 β}
    {packet middle : NETInputPacket} {value : α} (stays : Stays (first >>= rest) packet)
    (run : Yields first packet value middle)
    : Stays (rest value) middle :=
  fun last next later => stays last next (yields_bind.mpr ⟨value, middle, run, later⟩)

-----------------------------------------------------------------------------------------
-- Reading
-----------------------------------------------------------------------------------------

theorem bufferSmall : 8192 < 2147483648 := by decide

theorem headerFits : packetHeaderSize ≤ 8192 := by decide

variable {α β : Type} {packet other : NETInputPacket}

/-- Programs that read alike go on alike. -/
theorem reading_same {program : PacketM 8192 α}
    {post : NETInputPacket → NETInputPacket → Prop}
    {rest : α × NETInputPacket → ProxyM β}
    (alike : Alike post (program packet) (program other))
    (goesOn
      : ∀ value next next',
          Yields program packet value next → post next next'
          → rest (value, next) = rest (value, next'))
    : (reading packet program >>= rest) = (reading other program >>= rest) := by
  rw [reading, reading]
  cases outcome : program packet with
  | error fault =>
      rw [outcome] at alike
      cases outcome' : program other with
      | error fault' => rfl
      | ok pair' =>
          rw [outcome'] at alike
          cases alike
  | ok pair =>
      rw [outcome] at alike
      cases outcome' : program other with
      | error fault' =>
          rw [outcome'] at alike
          cases alike
      | ok pair' =>
          rw [outcome'] at alike
          cases alike with
          | returned relates =>
              simp only [ofExcept, pure_bind]
              exact goesOn _ _ _ outcome relates

/-- Behind a string that stays behind the header, packets are read on alike. -/
theorem string_alike {rest : List UInt8 → PacketM 8192 α} (same : SamePayload packet other)
    (stays : Stays InputPacket.readString packet)
    (reads : ∀ text, Paired SamePayload (rest text) SamePayload)
    : Alike SamePayload ((InputPacket.readString >>= rest) packet)
        ((InputPacket.readString >>= rest) other) := by
  refine (readString_paired bufferSmall same).bind (fun ran _ after => ?_)
  exact reads _ ⟨after, stays _ _ ran⟩

theorem skipInts_paired (count : Nat)
    : Paired SamePayload (skipInts count) SamePayload := by
  induction count with
  | zero => exact Paired.pure ()
  | succ count ih => exact Paired.bind (readInt_paired bufferSmall) (fun _ => ih)

-----------------------------------------------------------------------------------------
-- Packets of helpers and game servers
-----------------------------------------------------------------------------------------

theorem readLoginSuccess_alike (same : SamePayload packet other)
    (stays : Stays (roomString serverCmdLoginSuccess) packet)
    : Alike SamePayload (readLoginSuccess packet) (readLoginSuccess other) := by
  rw [roomString, if_pos rfl] at stays
  refine EncryptDecrypt.decrypted_alike headerFits same (fun decrypts plain => ?_)
  have inside := stays.step decrypts
  refine (readInt_paired bufferSmall plain).bind (fun counts _ counted => ?_)
  refine (skipInts_paired _ counted).bind (fun skips _ skipped => ?_)
  refine (readInt_paired bufferSmall skipped).bind (fun {tid _ _} reads _ read => ?_)
  have address := ((inside.step counts).step skips).step reads
  by_cases room : 0 < tid
  · simp only [if_pos room] at address ⊢
    refine string_alike read address (fun ip => ?_)
    exact Paired.bind (readInt_paired bufferSmall) (fun _ => Paired.pure _)
  · simp only [if_neg room]
    exact .returned read

theorem readEnterRoom_alike (same : SamePayload packet other)
    (stays : Stays (roomString serverCmdEnterRoom) packet)
    : Alike SamePayload (readEnterRoom packet) (readEnterRoom other) := by
  rw [roomString, if_neg (by decide), if_pos rfl] at stays
  refine EncryptDecrypt.decrypted_alike headerFits same (fun decrypts plain => ?_)
  refine (readShort_paired bufferSmall plain).bind (fun {res _ _} reads _ read => ?_)
  have address := (stays.step decrypts).step reads
  by_cases refused : res = 0
  · simp only [if_pos refused]
    exact .returned read
  · simp only [if_neg refused] at address ⊢
    refine string_alike read address (fun ip => ?_)
    refine Paired.bind (readInt_paired bufferSmall) (fun _ => ?_)
    exact Paired.bind (readInt_paired bufferSmall) (fun _ => Paired.pure _)

theorem readNewRoom_alike (same : SamePayload packet other)
    (stays : Stays (roomString cmdGetNewRoom) packet)
    : Alike SamePayload (readNewRoom packet) (readNewRoom other) := by
  rw [roomString, if_neg (by decide), if_neg (by decide), if_pos rfl] at stays
  refine EncryptDecrypt.decrypted_alike headerFits same (fun decrypts plain => ?_)
  refine (readInt_paired bufferSmall plain).bind (fun reads _ read => ?_)
  have address := (stays.step decrypts).step reads
  refine string_alike read address (fun ip => ?_)
  exact Paired.bind (readInt_paired bufferSmall) (fun _ => Paired.pure _)

theorem readChangeGameserver_alike (same : SamePayload packet other)
    (stays : Stays serverString packet)
    : Alike SamePayload (readChangeGameserver packet) (readChangeGameserver other) := by
  refine EncryptDecrypt.decrypted_alike headerFits same (fun decrypts plain => ?_)
  refine (readInt_paired bufferSmall plain).bind (fun reads _ read => ?_)
  have address := (stays.step decrypts).step reads
  refine string_alike read address (fun ip => ?_)
  exact Paired.bind (readInt_paired bufferSmall) (fun _ => Paired.pure _)

/-- Room assignments do not depend on the check code. -/
theorem processRoom_same (same : SamePayload packet other) (sid : SessionId) (cmd : Int)
    (stays : Stays (roomString cmd) packet)
    : processRoom sid cmd packet = processRoom sid cmd other := by
  rw [processRoom, processRoom]
  by_cases loginSuccess : cmd = serverCmdLoginSuccess
  · subst loginSuccess
    rw [if_pos rfl, if_pos rfl]
    exact reading_same (readLoginSuccess_alike same stays) (fun _ _ _ _ _ => rfl)
  · rw [if_neg loginSuccess, if_neg loginSuccess]
    by_cases enterRoom : cmd = serverCmdEnterRoom
    · subst enterRoom
      rw [if_pos rfl, if_pos rfl]
      exact reading_same (readEnterRoom_alike same stays) (fun _ _ _ _ _ => rfl)
    · rw [if_neg enterRoom, if_neg enterRoom]
      by_cases newRoom : cmd = cmdGetNewRoom
      · subst newRoom
        rw [if_pos rfl, if_pos rfl]
        exact reading_same (readNewRoom_alike same stays) (fun _ _ _ _ _ => rfl)
      · rw [if_neg newRoom, if_neg newRoom]

theorem readPairs_paired (count : Nat)
    : Paired SamePayload (readPairs count) SamePayload := by
  induction count with
  | zero => exact Paired.pure []
  | succ count ih =>
      refine Paired.bind (readShort_paired bufferSmall) (fun _ => ?_)
      refine Paired.bind (readShort_paired bufferSmall) (fun _ => ?_)
      exact Paired.bind ih (fun _ => Paired.pure _)

/-- Level counts do not depend on the check code. -/
theorem storeLevelCounts_same (same : SamePayload packet other)
    : storeLevelCounts packet = storeLevelCounts other := by
  have reads : Paired SamePayload readLevelCounts SamePayload :=
    EncryptDecrypt.decrypted_paired headerFits
      (Paired.bind (readShort_paired bufferSmall) (fun count => readPairs_paired count.toNat))
  exact reading_same (reads same) (fun _ _ _ _ _ => rfl)

/-- Changes of the game server do not depend on the check code. -/
theorem settleOn_same (same : SamePayload packet other) (sid : SessionId)
    (stays
      : packet.getCmdType = serverCommandChangeGameserver → Stays serverString packet)
    : settleOn sid packet = settleOn sid other := by
  rw [settleOn, settleOn, same.getCmdType]
  by_cases logout : packet.getCmdType = serverCommandLogoutSuccess
  · rw [if_pos logout, if_pos logout]
  · rw [if_neg logout, if_neg logout]
    by_cases change : packet.getCmdType = serverCommandChangeGameserver
    · rw [if_pos change, if_pos change]
      exact reading_same (readChangeGameserver_alike same (stays change))
        (fun _ _ _ _ _ => rfl)
    · rw [if_neg change, if_neg change]

-----------------------------------------------------------------------------------------
-- Packets of clients
-----------------------------------------------------------------------------------------

theorem decryptedString_paired
    : Paired SamePayload (decryptedThen InputPacket.readString : PacketM 8192 (List UInt8))
        SameButCode :=
  EncryptDecrypt.decrypted_paired headerFits (readString_paired bufferSmall)

theorem procGetUserCount_same (same : SamePayload packet other) (sid : SessionId)
    : procGetUserCount sid packet = procGetUserCount sid other :=
  reading_same (decryptedString_paired same) (fun _ _ _ _ _ => rfl)

theorem handleClientBroadcast_same (same : SamePayload packet other)
    : handleClientBroadcast packet = handleClientBroadcast other :=
  reading_same (decryptedString_paired same) (fun _ _ _ _ _ => rfl)

theorem handleSystemBroadcast_same (same : SamePayload packet other)
    (stays : Stays (clientString serverBroadcastInfo) packet)
    : handleSystemBroadcast packet = handleSystemBroadcast other := by
  rw [clientString, if_neg (by decide), if_pos (Or.inl rfl)] at stays
  refine reading_same (decryptedString_paired same) (fun key next next' ran after => ?_)
  have behind : SamePayload next next' := ⟨after, stays _ _ ran⟩
  refine bind_congr (fun proxy => if_congr Iff.rfl ?_ rfl)
  refine reading_same (readShort_paired bufferSmall behind) (fun type _ _ _ read => ?_)
  exact reading_same (readString_paired bufferSmall read) (fun _ _ _ _ _ => rfl)

/-- A command of the administrator reads behind his flag. -/
theorem asAdmin_same {fields : PacketM 8192 (List UInt8)}
    {command : NETInputPacket → ProxyM Unit}
    (reads : Alike SameButCode (fields packet) (fields other))
    (commands
      : ∀ flag next next',
          Yields fields packet flag next → SameButCode next next'
          → command next = command next')
    : asAdmin packet fields command = asAdmin other fields command := by
  refine reading_same reads (fun flag next next' ran after => if_congr Iff.rfl ?_ rfl)
  exact congrArg (fun run : ProxyM Unit => run >>= fun _ => pure (0 : Int))
    (commands flag next next' ran after)

theorem handleSysCmd_same (same : SamePayload packet other) {cmd : Int}
    (sys : isSysCmd cmd = true) (stays : Stays (clientString cmd) packet)
    : handleSysCmd cmd packet = handleSysCmd cmd other := by
  have plain := readString_paired bufferSmall same
  rw [handleSysCmd, handleSysCmd]
  by_cases config : cmd = sysReloadConfig
  · rw [if_pos config, if_pos config]
    exact asAdmin_same plain (fun _ _ _ _ _ => rfl)
  · rw [if_neg config, if_neg config]
    by_cases ipMap : cmd = sysReloadIpMap
    · rw [if_pos ipMap, if_pos ipMap]
      exact asAdmin_same plain (fun _ _ _ _ _ => rfl)
    · rw [if_neg ipMap, if_neg ipMap]
      by_cases timer : cmd = sysResetConnectTimer
      · rw [if_pos timer, if_pos timer]
        rw [clientString, if_pos timer] at stays
        refine asAdmin_same plain (fun flag next next' ran after => ?_)
        have behind : SamePayload next next' := ⟨after, stays _ _ ran⟩
        exact reading_same (readInt_paired bufferSmall behind) (fun _ _ _ _ _ => rfl)
      · rw [if_neg timer, if_neg timer]
        have debug : cmd = sysOpenDebug := by simpa [isSysCmd, config, ipMap, timer] using sys
        rw [clientString, if_neg timer, if_pos (Or.inr debug)] at stays
        refine asAdmin_same (decryptedString_paired same) (fun flag next next' ran after => ?_)
        have behind : SamePayload next next' := ⟨after, stays _ _ ran⟩
        exact reading_same (readInt_paired bufferSmall behind) (fun _ _ _ _ _ => rfl)

theorem sendIPSetPacket_same (same : SamePayload packet other) (sid : SessionId) (cmd : Int)
    : sendIPSetPacket sid packet cmd = sendIPSetPacket sid other cmd := by
  have reads : Paired SamePayload (decryptedThen readTableAndUser) SamePayload :=
    EncryptDecrypt.decrypted_paired headerFits
      (Paired.bind (readInt_paired bufferSmall) (fun _ =>
        Paired.bind (readInt_paired bufferSmall) (fun _ => Paired.pure _)))
  exact if_congr Iff.rfl (reading_same (reads same) (fun _ _ _ _ _ => rfl)) rfl

theorem handleGameCmd_same (same : SamePayload packet other) (sid : SessionId) (cmd : Int)
    (pData : List UInt8)
    : handleGameCmd sid packet cmd pData = handleGameCmd sid other cmd pData := by
  rw [handleGameCmd, handleGameCmd, sendIPSetPacket_same same]

theorem login_same (same : SamePayload packet other) (sid : SessionId)
    : login sid packet = login sid other := by
  have reads : Paired SamePayload (decryptedThen readLogin) SamePayload :=
    EncryptDecrypt.decrypted_paired headerFits
      (Paired.bind (readInt_paired bufferSmall) (fun _ =>
        Paired.bind (readShort_paired bufferSmall) (fun _ => Paired.pure _)))
  exact reading_same (reads same) (fun _ _ _ _ _ => rfl)

theorem chooseByServerId_same (same : SamePayload packet other)
    : chooseByServerId packet = chooseByServerId other :=
  reading_same (EncryptDecrypt.decrypted_paired headerFits (readShort_paired bufferSmall) same)
    (fun _ _ _ _ _ => rfl)

theorem chooseByLevel_same (same : SamePayload packet other)
    : chooseByLevel packet = chooseByLevel other :=
  reading_same (EncryptDecrypt.decrypted_paired headerFits (readInt_paired bufferSmall) same)
    (fun _ _ _ _ _ => rfl)

/-- The loop over the levels asked for, by induction over their number. -/
theorem writeLevelCounts_same (same : SamePayload packet other) (count : Nat)
    (resPacket : NETOutputPacket)
    : writeLevelCounts count packet resPacket = writeLevelCounts count other resPacket := by
  induction count generalizing packet other resPacket with
  | zero => rfl
  | succ count ih =>
      refine bind_congr (fun answers => ?_)
      refine reading_same (readShort_paired bufferSmall same) (fun level _ _ _ read => ?_)
      exact bind_congr (fun userCount => ih read _)

theorem levelCountReply_same (same : SamePayload packet other)
    : levelCountReply packet = levelCountReply other := by
  refine reading_same
    (EncryptDecrypt.decrypted_paired headerFits (readShort_paired bufferSmall) same)
    (fun count next next' _ read => ?_)
  dsimp only
  rw [writeLevelCounts_same read]

theorem processGetLevelCount_same (same : SamePayload packet other) (sid : SessionId)
    : processGetLevelCount sid packet = processGetLevelCount sid other := by
  rw [processGetLevelCount, processGetLevelCount, levelCountReply_same same]

theorem ofExcept_ok {result : Except Fault α} {value : α} (ends : result = .ok value)
    (rest : α → ProxyM β)
    : (ofExcept result >>= rest) = rest value := by
  rw [ends, ofExcept]
  simp only [pure_bind]

theorem encrypted_congr {left right : NETOutputPacket}
    (again : EncryptDecrypt.encryptBuffer right = EncryptDecrypt.encryptBuffer left)
    : encrypted right = encrypted left := by
  rw [encrypted, encrypted, again]

/-- A decrypted packet that is encrypted again gets its check code anew. -/
theorem encryptedAgain_same (same : SameButCode packet other) (stale : NETInputPacket)
    (rest : List UInt8 → ProxyM β)
    : (ofExcept packet.contents >>= fun decrypted =>
        encrypted ((OutputPacket.ofStale stale).copy decrypted).2 >>= rest)
      = (ofExcept other.contents >>= fun decrypted =>
        encrypted ((OutputPacket.ofStale stale).copy decrypted).2 >>= rest) := by
  rcases contents_same same stale with ⟨fault, fault'⟩ | ⟨bytes, bytes', ends, ends', copies⟩
  · rw [fault, fault']
  · have again := EncryptDecrypt.encryptBuffer_copy_same headerFits copies
    rw [ofExcept_ok ends, ofExcept_ok ends', encrypted_congr again]

theorem procUserGetNewRoom2_same (same : SamePayload packet other) (sid : SessionId)
    : procUserGetNewRoom2 sid packet = procUserGetNewRoom2 sid other := by
  refine reading_same
    (EncryptDecrypt.decrypted_paired headerFits (readShort_paired bufferSmall) same)
    (fun level next next' _ read => ?_)
  refine bind_congr (fun found => ?_)
  cases found with
  | none => rfl
  | some pHelperUnit =>
      exact bind_congr (fun answers => encryptedAgain_same read.toSameButCode answers.stale _)

theorem procUserGetNewRoom_same (same : SamePayload packet other) (sid : SessionId)
    : procUserGetNewRoom sid packet = procUserGetNewRoom sid other := by
  rw [procUserGetNewRoom, procUserGetNewRoom, procUserGetNewRoom2_same same]

theorem chooseHelper_same (same : SamePayload packet other) (sid : SessionId) (cmd : Int)
    : chooseHelper sid cmd packet = chooseHelper sid cmd other := by
  rw [chooseHelper, chooseHelper, chooseByServerId_same same, procUserGetNewRoom_same same,
    chooseByLevel_same same, processGetLevelCount_same same, chooseAtLogin, chooseAtLogin,
    login_same same]

/-- What a client's frame does does not depend on its check code. -/
theorem actOn_same (same : SamePayload packet other) (sid : SessionId) (pData : List UInt8)
    (stays : Stays (clientString packet.getCmdType) packet)
    : actOn sid packet pData = actOn sid other pData := by
  rw [actOn, actOn, same.getCmdType, procGetUserCount_same same,
    handleClientBroadcast_same same, handleGameCmd_same same,
    chooseHelper_same same]
  refine if_congr Iff.rfl rfl (if_congr Iff.rfl rfl ?_)
  by_cases broadcast : packet.getCmdType = serverBroadcastInfo
  · rw [if_pos broadcast, if_pos broadcast]
    rw [broadcast] at stays
    exact handleSystemBroadcast_same same stays
  · rw [if_neg broadcast, if_neg broadcast]
    refine if_congr Iff.rfl rfl (if_congr Iff.rfl rfl ?_)
    by_cases sys : isSysCmd packet.getCmdType = true
    · rw [if_pos sys, if_pos sys, handleSysCmd_same same sys stays]
    · rw [if_neg sys, if_neg sys]

-----------------------------------------------------------------------------------------
-- Frames with a wrong check code
-----------------------------------------------------------------------------------------

/-- Two packets are handled alike, unless a string of negative length lets the first be read
on in its header.
-/
structure HandledAlike (packet other : NETInputPacket) : Prop where
  client
    : ∀ sid pData,
        Stays (clientString packet.getCmdType) packet
        → actOn sid packet pData = actOn sid other pData
  room
    : ∀ sid cmd,
        Stays (roomString cmd) packet
        → processRoom sid cmd packet = processRoom sid cmd other
  levelCounts : storeLevelCounts packet = storeLevelCounts other
  game
    : ∀ sid,
        (packet.getCmdType = serverCommandChangeGameserver → Stays serverString packet)
        → settleOn sid packet = settleOn sid other

theorem SamePayload.handledAlike (same : SamePayload packet other)
    : HandledAlike packet other where
  client := fun sid pData stays => actOn_same same sid pData stays
  room := fun sid cmd stays => processRoom_same same sid cmd stays
  levelCounts := storeLevelCounts_same same
  game := fun sid stays => settleOn_same same sid stays

/-- `HandleInputBuf` acts on the copied frame, and both back-end units on copies, too. What
they do with a copy they do with the copy of the frame with any other check code, and one of
these codes is the one that `DecryptBuffer` accepts.
-/
theorem check_code_unheeded (stale : NETInputPacket) (frame : List UInt8)
    : (∀ sid,
        handleInputBuf sid frame
          = (do
            note (.handled sid frame)
            let reqPacket := copied (← ask).stale frame
            actOn sid reqPacket frame))
      ∧ (∀ sid, settleGameFrame sid frame = (do settleOn sid (← get).tranPacket))
      ∧ (∀ code, HandledAlike (copied stale frame) (copied stale (frame.set 8 code)))
      ∧ (packetHeaderSize ≤ frame.length ∧ frame.length ≤ 8192
        → ∃ code, ∀ result next,
            Yields EncryptDecrypt.decryptBuffer (copied stale (frame.set 8 code)) result next
            → result ≠ -1) := by
  refine ⟨fun sid => rfl, fun sid => rfl,
    fun code => ?_, fun ⟨complete, fits⟩ => fitting_code stale complete fits⟩
  rcases copy_set_same stale frame code with equal | same
  · rw [copied, copied, equal]
    exact ⟨fun _ _ _ => rfl, fun _ _ _ => rfl, rfl, fun _ _ => rfl⟩
  · exact SamePayload.handledAlike same

/-- `DecryptBuffer` returns -1 for the frame. -/
def Damaged (frame : List UInt8) : Prop :=
  ∀ stale, ∃ next, Yields EncryptDecrypt.decryptBuffer (copied stale frame) (-1) next

/-- A login whose check code is wrong. -/
def damagedLogin : List UInt8 :=
  (loginFrame 7).set 8 0

/-- Whether a run ends with a user in the first session. -/
def entersUser (uid : Int) : Except Fault (Int × Proxy) → Bool
  | .ok (_, next) => (next.session 1).webUnit.uid = uid
  | .error _ => false

theorem damagedLogin_damaged : Damaged damagedLogin := by
  intro stale
  have fits : damagedLogin.length ≤ 8192 := by decide +kernel
  have same : copied stale damagedLogin = copied default damagedLogin := by
    rw [copied, copied, PacketBase.copy_fits fits, PacketBase.copy_fits fits]
  have returns : endsIn (fun result _ => decide (result = -1))
      (EncryptDecrypt.decryptBuffer (copied default damagedLogin)) = true := by
    decide +kernel
  rw [same]
  obtain ⟨result, next, outcome, failed⟩ := endsIn_run returns
  obtain rfl : result = -1 := of_decide_eq_true failed
  exact ⟨next, outcome⟩

theorem entersUser_run {uid : Int} {outcome : Except Fault (Int × Proxy)}
    (entered : entersUser uid outcome = true)
    : ∃ ret next, outcome = .ok (ret, next) ∧ (next.session 1).webUnit.uid = uid := by
  cases outcome with
  | error fault => cases entered
  | ok result => exact ⟨result.1, result.2, rfl, of_decide_eq_true entered⟩

/-- A damaged frame can log a user in. -/
theorem damaged_login_enters
    : ¬∀ (start next : Proxy) (sid : SessionId) (frame : List UInt8) (ret : Int),
        start.Reached
        → Damaged frame
        → Yields (handleInputBuf sid frame) start ret next
        → (next.session sid).webUnit.uid = (start.session sid).webUnit.uid := by
  intro unmoved
  obtain ⟨proxy, reached, entered⟩ := Proxy.unused_unused.run
    [Event.calmly (.accept 1 5 0)]
    (fun proxy =>
      (proxy.session 1).webUnit.uid = 0 ∧ entersUser 7 (handleInputBuf 1 damagedLogin proxy))
    (by decide +kernel)
  obtain ⟨before, entered⟩ := of_decide_eq_true entered
  obtain ⟨ret, next, run, after⟩ := entersUser_run entered
  have same := unmoved proxy next 1 damagedLogin ret reached damagedLogin_damaged run
  rw [before, after] at same
  cases same

end ProxyServer.System
