import ProxyServer.System.Parts

/-! Loading `server.xml`: `CIncoming::InitHelperUnit` when the proxy starts, and
`CClientUnit::ResetHelperUnit` and `ResetIpMap` while it runs.
-/

namespace ProxyServer.System

open Packets ProxyServer.Units
open FaultState Footprint

-----------------------------------------------------------------------------------------
-- Helper units
-----------------------------------------------------------------------------------------

/-- `delete` of a `CHelperUnit`. -/
def deleteHelper (hid : HelperId) : ProxyM Unit := do
  let answers ← ask
  modify (Proxy.updateHelper hid (fun helper =>
    { live := false, unit := helper.unit.resetHelper answers.backend, timer := false }))

/-- Empties `m_levelmap`, `m_svidlist` and `m_helpermap`, deleting the helper units. -/
def clearHelpers : ProxyM Unit := do
  let proxy ← get
  proxy.pool.helpermap.toList.forM (fun iterHelper => deleteHelper iterHelper.2)
  modify (fun proxy =>
    {
      proxy with
      pool := { proxy.pool with levelmap := ∅, svidlist := [], helpermap := ∅ }
    })

/-- The helper unit of a server, created at its first mention. -/
def helperOf (svid : Int) : ProxyM HelperId := do
  match ← findHelper svid with
  | some hid => pure hid
  | none => do
      let hid := (← get).helperCount
      modify (Proxy.updateHelper hid (fun _ =>
        { live := true, unit := BackendUnit.create .helper [] 0, timer := false }))
      modify (fun proxy =>
        {
          proxy with
          helperCount := hid + 1
          pool := { proxy.pool with helpermap := proxy.pool.helpermap.insert svid hid }
        })
      pure hid

/-- What a `Server` element adds. -/
def addServer (server : Element) : ProxyM Unit := do
  let svid := atoi (server.getAttrib "svid")
  let level := atoi (server.getAttrib "level")
  let hid ← helperOf svid
  modify (Proxy.updateBackend (fun unit =>
    { unit with addr := server.getAttrib "ip", port := atoi (server.getAttrib "port") })
    (.helper hid))
  modify (fun proxy =>
    {
      proxy with
      pool := {
        proxy.pool with
        svidlist := proxy.pool.svidlist ++ [svid]
        levelmap :=
          proxy.pool.levelmap.insert level ((proxy.pool.levelmap.getD level []) ++ [svid])
      }
    })

/-- Replaces `m_cmdlist` by the commands of `Cmd` elements. -/
def setCmdList (cmds : List Element) : ProxyM Unit :=
  modify (fun proxy =>
    {
      proxy with
      pool := {
        proxy.pool with
        cmdlist := cmds.map (fun cmd => atoi (cmd.getAttrib "value"))
      }
    })

/-- What is read from a `Node` element: the position behind it, or nothing if it is broken. -/
def readNode (node : Markup) : ProxyM (Option Markup) :=
  match node.intoElem.bind (·.findElem "ServerList") |>.bind (·.intoElem) with
  | none => pure none
  | some list => do
      (list.eachElem "Server").forM addServer
      match list.outOfElem.bind (·.findElem "CmdList") |>.bind (·.intoElem) with
      | none => pure none
      | some cmds => do
          setCmdList (cmds.eachElem "Cmd")
          pure cmds.outOfElem

/-- `ResetHelperUnit` from the `Node` element on. -/
def loadNode (node : Markup) : ProxyM Int := do
  clearHelpers
  match ← readNode node with
  | none => pure (-1)
  | some _ => pure 0

/-- The position inside the `SYSTEM` element. -/
def systemElem (serverXml : Option Element) : Option Markup :=
  (Markup.load serverXml).bind (·.findElem "SYSTEM") |>.bind (·.intoElem)

/-- `ResetHelperUnit`; a document without a `Node` element changes nothing. -/
def resetHelperUnit : ProxyM Int := do
  let answers ← ask
  match systemElem answers.serverXml with
  | none => pure (-1)
  | some system =>
      match system.findElem "Node" with
      | none => pure 0
      | some node => loadNode node

-----------------------------------------------------------------------------------------
-- Addresses
-----------------------------------------------------------------------------------------

/-- What an `IP` element adds to `m_ipmap`. -/
def addIp (ip : Element) : ProxyM Unit :=
  modify (fun proxy =>
    {
      proxy with
      pool := {
        proxy.pool with
        ipmap :=
          Function.update proxy.pool.ipmap (ip.getAttrib "eth0") (some (ip.getAttrib "eth1"))
      }
    })

/-- `ResetIpMap`. -/
def resetIpMap : ProxyM Int := do
  let answers ← ask
  match systemElem answers.serverXml with
  | none => pure (-1)
  | some system =>
      match system.findElem "IPMap" with
      | none => pure 0
      | some ipMap =>
          match ipMap.intoElem with
          | none => pure (-1)
          | some ips => do
              (ips.eachElem "IP").forM addIp
              pure 0

-----------------------------------------------------------------------------------------
-- Starting
-----------------------------------------------------------------------------------------

/-- The vectors of `m_levelmap` and `m_svidlist` are emptied first. -/
def clearLists : ProxyM Unit :=
  modify (fun proxy =>
    {
      proxy with
      pool :=
        { proxy.pool with levelmap := proxy.pool.levelmap.map (fun _ _ => []), svidlist := [] }
    })

/-- `split_str` at commas: `strtok_r` finds no empty parts. -/
def splitStr (ps_str : List UInt8) : List (List UInt8) :=
  (ps_str.splitOn 44).filter (fun part => part ≠ [])

def setWhitelist (whitelist : List Int) : ProxyM Unit :=
  modify (fun proxy => { proxy with pool := { proxy.pool with whitelist := whitelist } })

/-- The commands of the `CmdList` elements inside `WhiteCmdList`. -/
def whiteCmds (lists : List Element) : List Int :=
  lists.flatMap (fun list => (splitStr (list.getAttrib "cmds")).map atoi)

/-- `InitHelperUnit` from the `WhiteCmdList` element on. -/
def initWhitelist (markup : Markup) : ProxyM Int := do
  setWhitelist []
  match (markup.findElem "WhiteCmdList").bind (·.intoElem) with
  | none => pure (-1)
  | some lists => do
      setWhitelist (whiteCmds (lists.eachElem "CmdList"))
      pure 0

/-- `InitHelperUnit` behind the `Node` element, if there is one. -/
def initIpMap (markup : Markup) : ProxyM Int :=
  match markup.outOfElem.bind (·.findElem "IPMap") |>.bind (·.intoElem) with
  | none => pure (-1)
  | some ips => do
      (ips.eachElem "IP").forM addIp
      match ips.outOfElem with
      | none => pure (-1)
      | some markup => initWhitelist markup

/-- The `Node` element of `InitHelperUnit`; without one the position stays. -/
def initNode (system : Markup) : ProxyM (Option Markup) :=
  match system.findElem "Node" with
  | none => pure (some system)
  | some node => readNode node

/-- `InitHelperUnit`. -/
def initHelperUnit : ProxyM Int := do
  clearLists
  let answers ← ask
  match systemElem answers.serverXml with
  | none => pure (-1)
  | some system => do
      match ← initNode system with
      | none => pure (-1)
      | some markup => initIpMap markup

-----------------------------------------------------------------------------------------
-- What loading can change
-----------------------------------------------------------------------------------------

section Within

variable {rules : Conduct Proxy Fault}

/-- The parts in which new helper units and deleted ones are seen. -/
def reloadParts : Set Part :=
  {.scratch, .routing} ∪ Set.range Part.helper ∪ Set.range Part.retired

/-- A change of the tables of helpers. -/
theorem routing_within (frees : Frees reloadParts rules) {update : Proxy → Proxy}
    (confined : ∀ proxy, Unchanged Proxy.view {.routing} proxy (update proxy))
    : Within rules (modify update : ProxyM Unit) :=
  have inside : .routing ∈ reloadParts := by simp [reloadParts]
  frees.allows.modify inside confined

/-- A change of a helper unit that does not delete it. -/
theorem helper_within (frees : Frees reloadParts rules) (hid : HelperId)
    {change : Helper → Helper} (kept : ∀ helper, helper.live = true → (change helper).live = true)
    : Within rules (modify (Proxy.updateHelper hid change) : ProxyM Unit) :=
  have inside : .helper hid ∈ reloadParts := by simp [reloadParts]
  frees.allows.modify inside (fun proxy => Proxy.confined_helper hid proxy (kept _))

theorem setCmdList_within (frees : Frees reloadParts rules) (cmds : List Element)
    : Within rules (setCmdList cmds) := by
  refine routing_within frees (fun proxy part outside => ?_)
  cases part <;> first | rfl | exact absurd rfl outside

theorem deleteHelper_within (frees : Frees reloadParts rules) (hid : HelperId)
    : Within rules (deleteHelper hid) := by
  have scratch : Frees {.scratch} rules := frees.mono (by simp [reloadParts])
  have inside : .retired hid ∈ reloadParts := by simp [reloadParts]
  refine Within.bind (ask_within scratch) (fun answers => ?_)
  exact frees.allows.modify inside (Proxy.confined_retired hid _)

theorem clearHelpers_within (frees : Frees reloadParts rules)
    : Within rules clearHelpers := by
  refine Within.bind Within.get (fun proxy => ?_)
  refine Within.bind (Within.forM (fun iter _ => deleteHelper_within frees iter.2)) ?_
  refine fun _ => routing_within frees ?_
  intro proxy part outside
  cases part <;> first | rfl | exact absurd rfl outside

theorem addServer_within (frees : Frees reloadParts rules) (server : Element)
    : Within rules (addServer server) := by
  have finds : Within rules (helperOf (atoi (server.getAttrib "svid"))) := by
    refine Within.bind (findHelper_within _) (fun found => ?_)
    cases found with
    | some hid => exact Within.pure _
    | none =>
        refine Within.bind Within.get (fun proxy => ?_)
        refine Within.bind (helper_within frees _ (fun _ _ => rfl)) (fun _ => ?_)
        refine Within.bind (routing_within frees ?_) (fun _ => Within.pure _)
        intro proxy part outside
        cases part <;> first | rfl | exact absurd rfl outside
  refine Within.bind finds (fun hid => ?_)
  have places : Within rules (modify (Proxy.updateBackend (fun unit =>
      { unit with addr := server.getAttrib "ip", port := atoi (server.getAttrib "port") })
      (.helper hid)) : ProxyM Unit) := helper_within frees hid (fun _ => id)
  refine Within.bind places (fun _ => routing_within frees ?_)
  intro proxy part outside
  cases part <;> first | rfl | exact absurd rfl outside

theorem readNode_within (frees : Frees reloadParts rules) (node : Markup)
    : Within rules (readNode node) := by
  rw [readNode]
  split
  · exact Within.pure _
  · refine Within.bind (Within.forM (fun server _ => addServer_within frees server)) ?_
    intro _
    split
    · exact Within.pure _
    · exact Within.bind (setCmdList_within frees _) (fun _ => Within.pure _)

theorem loadNode_within (frees : Frees reloadParts rules) (node : Markup)
    : Within rules (loadNode node) := by
  refine Within.bind (clearHelpers_within frees) (fun _ => ?_)
  refine Within.bind (readNode_within frees node) (fun read => ?_)
  cases read with
  | none => exact Within.pure _
  | some _ => exact Within.pure _

theorem resetHelperUnit_within (frees : Frees reloadParts rules)
    : Within rules resetHelperUnit := by
  have scratch : Frees {.scratch} rules := frees.mono (by simp [reloadParts])
  refine Within.bind (ask_within scratch) (fun answers => ?_)
  split
  · exact Within.pure _
  · split
    · exact Within.pure _
    · exact loadNode_within frees _

theorem addIp_within (frees : Frees {.directory} rules) (ip : Element)
    : Within rules (addIp ip) := by
  refine frees.allows.modify rfl (fun proxy part outside => ?_)
  cases part <;> first | rfl | exact absurd rfl outside

theorem resetIpMap_within (frees : Frees {.scratch, .directory} rules)
    : Within rules resetIpMap := by
  refine Within.bind (ask_within (frees.mono (by simp))) (fun answers => ?_)
  split
  · exact Within.pure _
  · split
    · exact Within.pure _
    · split
      · exact Within.pure _
      · have adds := addIp_within (frees.mono (by simp))
        exact Within.bind (Within.forM (fun ip _ => adds ip)) (fun _ => Within.pure _)

/-- The parts in which starting is seen. -/
def initParts : Set Part := {.directory} ∪ reloadParts

theorem initWhitelist_within (frees : Frees reloadParts rules) (markup : Markup)
    : Within rules (initWhitelist markup) := by
  have sets : ∀ whitelist, Within rules (setWhitelist whitelist) := by
    refine fun whitelist => routing_within frees (fun proxy part outside => ?_)
    cases part <;> first | rfl | exact absurd rfl outside
  refine Within.bind (sets _) (fun _ => ?_)
  split
  · exact Within.pure _
  · exact Within.bind (sets _) (fun _ => Within.pure _)

theorem initIpMap_within (frees : Frees initParts rules) (markup : Markup)
    : Within rules (initIpMap markup) := by
  have adds := addIp_within (frees.mono (by simp [initParts]))
  rw [initIpMap]
  split
  · exact Within.pure _
  · refine Within.bind (Within.forM (fun ip _ => adds ip)) (fun _ => ?_)
    split
    · exact Within.pure _
    · exact initWhitelist_within (frees.mono (by simp [initParts])) _

theorem initHelperUnit_within (frees : Frees initParts rules)
    : Within rules initHelperUnit := by
  have reload : Frees reloadParts rules := frees.mono (by simp [initParts])
  have scratch : Frees {.scratch} rules :=
    frees.mono (by simp [initParts, reloadParts])
  have nodes : ∀ system, Within rules (initNode system) := by
    intro system
    rw [initNode]
    split
    · exact Within.pure _
    · exact readNode_within reload _
  have clears : Within rules clearLists := by
    refine routing_within reload (fun proxy part outside => ?_)
    cases part <;> first | rfl | exact absurd rfl outside
  refine Within.bind clears (fun _ => Within.bind (ask_within scratch) (fun answers => ?_))
  split
  · exact Within.pure _
  · refine Within.bind (nodes _) (fun read => ?_)
    cases read with
    | none => exact Within.pure _
    | some markup => exact initIpMap_within frees markup

end Within

end ProxyServer.System
