import ProxyServer.System.Routing

/-! What loading a configuration leaves: starting the proxy and reloading it build the same tables
from the same document, whatever was there before a reload.
-/

namespace ProxyServer.System

open Packets ProxyServer.Units
open FaultState Footprint

-----------------------------------------------------------------------------------------
-- Tables of servers
-----------------------------------------------------------------------------------------

/-- What the tables say of servers, without the helper units that stand for them. -/
structure ServerTables where
  svidlist : List Int
  levelmap : Std.TreeMap Int (List Int)
  address : Int → Option (List UInt8 × Int)

namespace ServerTables

def empty : ServerTables := ⟨[], ∅, fun _ => none⟩

/-- One more server: it is listed once more for its level and for all, and its address replaces
an earlier one.
-/
def add (tables : ServerTables) (server : Element) : ServerTables :=
  let svid := atoi (server.getAttrib "svid")
  let level := atoi (server.getAttrib "level")
  {
    svidlist := tables.svidlist ++ [svid]
    levelmap := tables.levelmap.insert level ((tables.levelmap.getD level []) ++ [svid])
    address :=
      Function.update tables.address svid
        (some (server.getAttrib "ip", atoi (server.getAttrib "port")))
  }

end ServerTables

/-- The address and port of a helper unit. -/
def Proxy.addressOf (proxy : Proxy) (hid : HelperId) : List UInt8 × Int :=
  ((proxy.helper hid).unit.addr, (proxy.helper hid).unit.port)

def Proxy.serverTables (proxy : Proxy) : ServerTables where
  svidlist := proxy.pool.svidlist
  levelmap := proxy.pool.levelmap
  address := fun svid => proxy.pool.helpermap[svid]?.map proxy.addressOf

/-- Each helper unit in the table has been created, for one server. -/
structure Separate (proxy : Proxy) : Prop where
  created
    : ∀ (svid : Int) (hid : HelperId), proxy.pool.helpermap[svid]? = some hid
      → hid < proxy.helperCount
  apart
    : ∀ (svid svid' : Int) (hid : HelperId), proxy.pool.helpermap[svid]? = some hid
      → proxy.pool.helpermap[svid']? = some hid → svid = svid'

theorem separate_of_empty {proxy : Proxy} (helpermap : proxy.pool.helpermap = ∅)
    : Separate proxy := by
  constructor
  · intro svid hid entry
    rw [helpermap, Std.TreeMap.getElem?_emptyc] at entry
    cases entry
  · intro svid svid' hid entry
    rw [helpermap, Std.TreeMap.getElem?_emptyc] at entry
    cases entry

-----------------------------------------------------------------------------------------
-- Loading servers
-----------------------------------------------------------------------------------------

section Loading

variable {start next : Proxy}

/-- The helper unit of a server is its own, and the other servers keep theirs. -/
structure Found (svid : Int) (hid : HelperId) (start next : Proxy) : Prop where
  entry : next.pool.helpermap[svid]? = some hid
  separate : Separate next
  svidlist : next.pool.svidlist = start.pool.svidlist
  levelmap : next.pool.levelmap = start.pool.levelmap
  address
    : ∀ other, other ≠ svid → next.serverTables.address other = start.serverTables.address other

/-- A new helper unit is one server's own. -/
theorem found_enter {svid : Int} (separate : Separate start)
    (missing : start.pool.helpermap[svid]? = none) {helper : HelperId → Helper}
    (others : ∀ hid, hid ≠ start.helperCount → helper hid = start.helper hid)
    : Found svid start.helperCount start {
        start with
        helper := helper
        helperCount := start.helperCount + 1
        pool := {
          start.pool with helpermap := start.pool.helpermap.insert svid start.helperCount
        }
      } := by
  have kept : ∀ other : Int, other ≠ svid
      → (start.pool.helpermap.insert svid start.helperCount)[other]?
        = start.pool.helpermap[other]? := by
    intro other different
    rw [Std.TreeMap.getElem?_insert, if_neg]
    rw [compare_eq_iff_eq]
    exact fun same => different same.symm
  have entries : ∀ (other : Int) (hid : HelperId),
      (start.pool.helpermap.insert svid start.helperCount)[other]? = some hid
      → other = svid ∧ hid = start.helperCount
        ∨ start.pool.helpermap[other]? = some hid ∧ hid < start.helperCount := by
    intro other hid entry
    by_cases same : other = svid
    · subst same
      rw [Std.TreeMap.getElem?_insert_self] at entry
      exact Or.inl ⟨rfl, (Option.some.inj entry).symm⟩
    · rw [kept other same] at entry
      exact Or.inr ⟨entry, separate.created other hid entry⟩
  refine ⟨Std.TreeMap.getElem?_insert_self, ⟨?_, ?_⟩, rfl, rfl, ?_⟩
  · intro other hid entry
    rcases entries other hid entry with ⟨-, rfl⟩ | ⟨-, older⟩
    · exact Nat.lt_succ_self _
    · exact Nat.lt_succ_of_lt older
  · intro one another hid entry entry'
    rcases entries one hid entry with ⟨rfl, rfl⟩ | ⟨old, older⟩
    · rcases entries another _ entry' with ⟨rfl, -⟩ | ⟨-, younger⟩
      · rfl
      · exact absurd younger (lt_irrefl _)
    · rcases entries another hid entry' with ⟨-, rfl⟩ | ⟨old', -⟩
      · exact absurd older (lt_irrefl _)
      · exact separate.apart one another hid old old'
  · intro other different
    change Option.map _ (start.pool.helpermap.insert svid start.helperCount)[other]? = _
    rw [kept other different]
    refine Option.map_congr (fun hid entry => ?_)
    have older := separate.created other hid entry
    exact congrArg (fun helper : Helper => (helper.unit.addr, helper.unit.port))
      (others hid (Nat.ne_of_lt older))

theorem helperOf_finds {svid : Int} {hid : HelperId} (separate : Separate start)
    (run : Yields (helperOf svid) start hid next)
    : Found svid hid start next := by
  rcases yields_helperOf run with ⟨entry, rfl⟩ | ⟨missing, rfl, helper, -, others, rfl⟩
  · exact ⟨entry, separate, rfl, rfl, fun _ _ => rfl⟩
  · exact found_enter separate missing others

/-- A helper unit gets its server's address, and the others keep theirs. -/
theorem addressOf_place (hid other : HelperId) (ip : List UInt8) (port : Int)
    : (start.updateBackend (fun unit => { unit with addr := ip, port := port })
          (.helper hid)).addressOf other
        = if other = hid then (ip, port) else start.addressOf other := by
  split
  · rename_i same
    subst same
    exact congrArg (fun helper : Helper => (helper.unit.addr, helper.unit.port))
      (Proxy.updateHelper_same ..)
  · rename_i different
    exact congrArg (fun helper : Helper => (helper.unit.addr, helper.unit.port))
      (Function.update_of_ne different ..)

/-- Loading a server adds it to the tables. -/
theorem addServer_adds {server : Element} (separate : Separate start)
    (run : Yields (addServer server) start () next)
    : next.serverTables = start.serverTables.add server ∧ Separate next := by
  obtain ⟨hid, found, finds, rest⟩ := yields_bind.mp run
  have finds := helperOf_finds separate finds
  obtain ⟨_, placed, places, lists⟩ := yields_bind.mp rest
  rw [yields_modify.mp lists, yields_modify.mp places]
  refine ⟨?_, finds.separate.created, finds.separate.apart⟩
  have address : ∀ svid, found.pool.helpermap[svid]?.map (found.updateBackend (fun unit =>
        { unit with addr := server.getAttrib "ip", port := atoi (server.getAttrib "port") })
        (.helper hid)).addressOf
      = (start.serverTables.add server).address svid := by
    intro svid
    by_cases same : svid = atoi (server.getAttrib "svid")
    · subst same
      rw [finds.entry, Option.map_some, addressOf_place, if_pos rfl]
      change _ = Function.update start.serverTables.address _ _ _
      rw [Function.update_self]
    · have before : (start.serverTables.add server).address svid
          = found.serverTables.address svid :=
        (Function.update_of_ne same ..).trans (finds.address svid same).symm
      rw [before]
      refine Option.map_congr (fun other entry => ?_)
      rw [addressOf_place, if_neg]
      rintro rfl
      exact same (finds.separate.apart _ _ other entry finds.entry)
  change ServerTables.mk _ _ _ = ServerTables.mk _ _ _
  rw [ServerTables.mk.injEq]
  refine ⟨?_, ?_, funext address⟩
  · exact congrArg (fun svidlist => svidlist ++ _) finds.svidlist
  · exact congrArg (fun levelmap : Std.TreeMap Int (List Int) =>
      levelmap.insert (atoi (server.getAttrib "level"))
        (levelmap.getD (atoi (server.getAttrib "level")) []
          ++ [atoi (server.getAttrib "svid")])) finds.levelmap

/-- Loading servers adds them one after the other. -/
theorem addServers_add {servers : List Element} (separate : Separate start)
    (run : Yields (servers.forM addServer) start () next)
    : next.serverTables = servers.foldl ServerTables.add start.serverTables
      ∧ Separate next := by
  induction servers generalizing start with
  | nil =>
      obtain ⟨-, rfl⟩ := yields_pure.mp run
      exact ⟨rfl, separate⟩
  | cons server servers ih =>
      obtain ⟨_, added, adds, rest⟩ := yields_bind.mp run
      obtain ⟨tables, separate⟩ := addServer_adds separate adds
      obtain ⟨tables', separate⟩ := ih separate rest
      rw [tables] at tables'
      exact ⟨tables', separate⟩

-----------------------------------------------------------------------------------------
-- Loading a document
-----------------------------------------------------------------------------------------

/-- The commands of a `Node` element that is read to its end. -/
def loadedCmds (node : Markup) : List Element :=
  match ((serverList node).bind (·.outOfElem)).bind (·.findElem "CmdList")
      |>.bind (·.intoElem) with
  | none => []
  | some cmds => cmds.eachElem "Cmd"

/-- What a `Node` element that is read to its end leaves of the empty tables. -/
structure FilledFrom (node : Markup) (proxy : Proxy) : Prop where
  servers : proxy.serverTables = (loadedServers node).foldl ServerTables.add ServerTables.empty
  cmdlist : proxy.pool.cmdlist = (loadedCmds node).map (fun cmd => atoi (cmd.getAttrib "value"))

/-- Without helper units and lists the tables are empty. -/
theorem serverTables_empty (helpermap : start.pool.helpermap = ∅)
    (svidlist : start.pool.svidlist = []) (levelmap : start.pool.levelmap = ∅)
    : start.serverTables = ServerTables.empty := by
  rw [Proxy.serverTables, ServerTables.empty, svidlist, levelmap, helpermap]
  congr 1

/-- A `Node` element that is read to its end fills empty tables. -/
theorem readNode_fills {node markup : Markup} (helpermap : start.pool.helpermap = ∅)
    (svidlist : start.pool.svidlist = []) (levelmap : start.pool.levelmap = ∅)
    (run : Yields (readNode node) start (some markup) next)
    : FilledFrom node next := by
  have position : (node.intoElem.bind (·.findElem "ServerList")).bind (·.intoElem)
      = serverList node := rfl
  rw [readNode, position] at run
  cases listed : serverList node with
  | none =>
      rw [listed] at run
      obtain ⟨read, -⟩ := yields_pure.mp run
      cases read
  | some list =>
      rw [listed] at run
      obtain ⟨_, loaded, loads, rest⟩ := yields_bind.mp run
      obtain ⟨tables, -⟩ := addServers_add (separate_of_empty helpermap) loads
      rw [serverTables_empty helpermap svidlist levelmap] at tables
      split at rest
      · obtain ⟨read, -⟩ := yields_pure.mp rest
        cases read
      · rename_i cmds found
        obtain ⟨_, commanded, sets, ends⟩ := yields_bind.mp rest
        obtain ⟨-, rfl⟩ := yields_pure.mp ends
        rw [yields_modify.mp sets]
        have servers : loadedServers node = list.eachElem "Server" := by
          rw [loadedServers, listed]
        have commands : loadedCmds node = cmds.eachElem "Cmd" := by
          rw [loadedCmds, listed]
          change (match (list.outOfElem.bind (·.findElem "CmdList")).bind (·.intoElem) with
            | none => []
            | some cmds => cmds.eachElem "Cmd") = _
          rw [found]
        exact ⟨by rw [servers]; exact tables, by rw [commands]⟩

/-- The tables of servers and commands and the addresses are the same. -/
def SameServers (start next : Proxy) : Prop :=
  next.serverTables = start.serverTables ∧ next.pool.cmdlist = start.pool.cmdlist

instance : IsPreorder Proxy SameServers where
  refl := fun _ => ⟨rfl, rfl⟩
  trans := fun _ _ _ first second =>
    ⟨second.1.trans first.1, second.2.trans first.2⟩

/-- The rest of a document is about other tables. -/
theorem initIpMap_sameServers (markup : Markup)
    : Within (Conduct.relating SameServers) (initIpMap markup) := by
  have adds : ∀ ip, Within (Conduct.relating SameServers) (addIp ip) :=
    fun ip => Within.modify (fun _ => ⟨rfl, rfl⟩)
  have sets : ∀ whitelist, Within (Conduct.relating SameServers) (setWhitelist whitelist) :=
    fun whitelist => Within.modify (fun _ => ⟨rfl, rfl⟩)
  rw [initIpMap]
  split
  · exact Within.pure _
  · refine Within.bind (Within.forM (fun ip _ => adds ip)) (fun _ => ?_)
    split
    · exact Within.pure _
    · refine Within.bind (sets _) (fun _ => ?_)
      split
      · exact Within.pure _
      · exact Within.bind (sets _) (fun _ => Within.pure _)

variable {system node : Markup}

/-- A reload that succeeds with a `Node` element fills the tables from it, whatever was in them. -/
theorem resetHelperUnit_fills
    (entered : systemElem (start.world start.asked).serverXml = some system)
    (found : system.findElem "Node" = some node) (run : Yields resetHelperUnit start 0 next)
    : FilledFrom node next := by
  obtain ⟨answers, asked, asks, rest⟩ := yields_bind.mp run
  obtain ⟨rfl, rfl⟩ := yields_ask asks
  rw [entered] at rest
  dsimp only at rest
  rw [found] at rest
  obtain ⟨_, cleared, clears, rest⟩ := yields_bind.mp rest
  obtain ⟨read, loaded, reads, ends⟩ := yields_bind.mp rest
  obtain ⟨tables, -⟩ := yields_clearHelpers clears
  cases read with
  | none =>
      obtain ⟨failed, -⟩ := yields_pure.mp ends
      exact absurd failed (by decide)
  | some markup =>
      obtain ⟨-, rfl⟩ := yields_pure.mp ends
      exact readNode_fills (congrArg Prod.fst tables) (congrArg (fun tables => tables.2.1) tables)
        (congrArg (fun tables => tables.2.2.2.1) tables) reads

/-- A start that succeeds with a `Node` element fills the tables from it. -/
theorem initHelperUnit_fills (unused : start.Unused)
    (entered : systemElem (start.world start.asked).serverXml = some system)
    (found : system.findElem "Node" = some node) (run : Yields initHelperUnit start 0 next)
    : FilledFrom node next := by
  obtain ⟨_, cleared, clears, rest⟩ := yields_bind.mp run
  have clears := yields_modify.mp clears
  have levelmap : cleared.pool.levelmap = ∅ := by
    rw [clears]
    dsimp only
    rw [unused.levelmap]
    rfl
  have world : cleared.world cleared.asked = start.world start.asked := by rw [clears]
  have helpermap : cleared.pool.helpermap = ∅ := by
    rw [clears]
    exact unused.helpermap
  have svidlist : cleared.pool.svidlist = [] := by rw [clears]
  clear clears
  obtain ⟨answers, asked, asks, rest⟩ := yields_bind.mp rest
  obtain ⟨rfl, rfl⟩ := yields_ask asks
  rw [world, entered] at rest
  obtain ⟨read, loaded, reads, rest⟩ := yields_bind.mp rest
  rw [initNode, found] at reads
  cases read with
  | none =>
      obtain ⟨failed, -⟩ := yields_pure.mp rest
      exact absurd failed (by decide)
  | some markup =>
      have reads : Yields (readNode node) { cleared with asked := cleared.asked + 1 }
        (some markup) loaded := reads
      have filled :=
        @readNode_fills { cleared with asked := cleared.asked + 1 } loaded node markup
          helpermap svidlist levelmap reads
      obtain ⟨servers, cmdlist⟩ := (initIpMap_sameServers markup).related rest
      exact ⟨servers.trans filled.servers, cmdlist.trans filled.cmdlist⟩

end Loading

/-- A reload from a document with a `Node` element leaves the lists, commands and addresses of
servers that a start with the same document leaves, in whatever state it is made.
-/
theorem reload_like_start {running reloaded start started : Proxy}
    {serverXml : Option Element} {system node : Markup} (unused : start.Unused)
    (document : (running.world running.asked).serverXml = serverXml)
    (document' : (start.world start.asked).serverXml = serverXml)
    (entered : systemElem serverXml = some system)
    (found : system.findElem "Node" = some node)
    (reloads : Yields resetHelperUnit running 0 reloaded)
    (starts : Yields initHelperUnit start 0 started)
    : reloaded.pool.svidlist = started.pool.svidlist
      ∧ reloaded.pool.levelmap = started.pool.levelmap
      ∧ reloaded.pool.cmdlist = started.pool.cmdlist
      ∧ ∀ svid : Int, reloaded.pool.helpermap[svid]?.map reloaded.addressOf
          = started.pool.helpermap[svid]?.map started.addressOf := by
  have filled : FilledFrom node reloaded :=
    resetHelperUnit_fills (by rw [document]; exact entered) found reloads
  have filled' : FilledFrom node started :=
    initHelperUnit_fills unused (by rw [document']; exact entered) found starts
  have tables : reloaded.serverTables = started.serverTables :=
    filled.servers.trans filled'.servers.symm
  refine ⟨congrArg ServerTables.svidlist tables, congrArg ServerTables.levelmap tables,
    filled.cmdlist.trans filled'.cmdlist.symm, fun svid => ?_⟩
  exact congrFun (congrArg ServerTables.address tables) svid

/-- A proxy reloads the document it was started with. -/
theorem reload_like_start_again
    : ∃ reloaded started : Proxy, reloaded.pool.svidlist = [1]
        ∧ started.pool.svidlist = [1]
        ∧ reloaded.pool.helpermap[(1 : Int)]?.map reloaded.addressOf
          = started.pool.helpermap[(1 : Int)]?.map started.addressOf := by
  let again (started : Proxy) : Proxy := { started with world := fun _ => calm, asked := 0 }
  have both : endsIn
      (fun ret started => endsIn
        (fun ret' reloaded => decide (ret = 0 ∧ ret' = 0 ∧ reloaded.pool.svidlist = [1]))
        (resetHelperUnit (again started)))
      (initHelperUnit Proxy.unused) = true := by
    decide +kernel
  obtain ⟨ret, started, starts, reloadsToo⟩ := endsIn_run both
  obtain ⟨ret', reloaded, reloads, ended⟩ := endsIn_run reloadsToo
  obtain ⟨rfl, rfl, svidlist⟩ := of_decide_eq_true ended
  obtain ⟨same, -, -, addresses⟩ :=
    @reload_like_start _ reloaded Proxy.unused started calm.serverXml _ _
      Proxy.unused_unused rfl rfl rfl rfl reloads starts
  exact ⟨reloaded, started, svidlist, same.symm.trans svidlist, addresses 1⟩

end ProxyServer.System
