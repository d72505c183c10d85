import ProxyServer.System.Visits

/-! Reloads that fail. `ResetHelperUnit` empties the tables before it knows that the document is
complete, so most of its failures leave something else behind than they found.
-/

namespace ProxyServer.System

open Packets ProxyServer.Units
open FaultState Footprint

/-- The tables that a reload is about and all helper units are the same. -/
structure HelpersKept (start next : Proxy) : Prop where
  levelmap : next.pool.levelmap = start.pool.levelmap
  svidlist : next.pool.svidlist = start.pool.svidlist
  helpermap : next.pool.helpermap = start.pool.helpermap
  cmdlist : next.pool.cmdlist = start.pool.cmdlist
  helper : ∀ hid, next.helper hid = start.helper hid

/-- There is nothing to lose: the tables of servers are empty. -/
structure NoServers (proxy : Proxy) : Prop where
  levelmap : proxy.pool.levelmap = ∅
  svidlist : proxy.pool.svidlist = []
  helpermap : proxy.pool.helpermap = ∅

/-- A document is refused before its `Node` element, or it lists no server and there are none. -/
def ReloadSpares (serverXml : Option Element) (proxy : Proxy) : Prop :=
  ∀ system ∈ systemElem serverXml, ∀ node ∈ system.findElem "Node",
    NoServers proxy ∧ loadedServers node = []

/-- Emptied tables are the ones before if those were empty. -/
theorem clearHelpers_kept {start next : Proxy} (run : Yields clearHelpers start () next)
    : HelpersKept start next ↔ NoServers start := by
  obtain ⟨tables, helper⟩ := yields_clearHelpers run
  have helpermap : next.pool.helpermap = ∅ := congrArg Prod.fst tables
  have svidlist : next.pool.svidlist = [] := congrArg (fun tables => tables.2.1) tables
  have cmdlist : next.pool.cmdlist = start.pool.cmdlist :=
    congrArg (fun tables => tables.2.2.1) tables
  have levelmap : next.pool.levelmap = ∅ := congrArg (fun tables => tables.2.2.2.1) tables
  constructor
  · rintro kept
    exact ⟨kept.levelmap.symm.trans levelmap, kept.svidlist.symm.trans svidlist,
      kept.helpermap.symm.trans helpermap⟩
  · rintro none
    exact ⟨levelmap.trans none.levelmap.symm, svidlist.trans none.svidlist.symm,
      helpermap.trans none.helpermap.symm, cmdlist, fun hid => congrFun (helper none.helpermap) hid⟩

/-- Loading a server gives it a helper unit that was not there before. -/
theorem addServers_kept {start cleared next : Proxy} {servers : List Element}
    (routed : Routed 0 start) (clears : Yields clearHelpers start () cleared)
    (fills : Yields (servers.forM addServer) cleared () next) (kept : HelpersKept start next)
    : servers = [] := by
  by_contra listed
  obtain ⟨filled, some⟩ := addServers_routed servers (clearHelpers_routed clears) fills
  obtain ⟨svid, inside⟩ := List.exists_mem_of_ne_nil _ (some listed)
  obtain ⟨hid, entry⟩ := filled.listed svid inside
  have new := (filled.created svid hid entry).1
  rw [kept.helpermap] at entry
  have old := (routed.created svid hid entry).2
  exact absurd new (not_le.mpr old)

/-- A failed reload keeps the tables and the helper units exactly if its document is refused
before its `Node` element, or lists no server while there are none.
-/
theorem failed_reload_keeps_iff {start next : Proxy} (visited : start.Visited)
    (run : Yields resetHelperUnit start (-1) next)
    : HelpersKept start next ↔ ReloadSpares (start.world start.asked).serverXml start := by
  rcases yields_resetHelperUnit run with ⟨nodeless, rfl⟩ | reloaded
  · constructor
    · intro _ system entered node found
      rw [nodeless system entered] at found
      cases found
    · exact fun _ => ⟨rfl, rfl, rfl, rfl, fun _ => rfl⟩
  · obtain ⟨system, entered, node, found, cleared, filled, clears, fills, outcome⟩ := reloaded
    obtain rfl : next = filled := by
      rcases outcome with ⟨-, same⟩ | ⟨succeeded, -⟩
      · exact same
      · cases succeeded
    have routed : Routed 0 { start with asked := start.asked + 1 } := visited.routed.same rfl
    constructor
    · rintro ⟨levelmap, svidlist, helpermap, cmdlist, helper⟩ system' entered' node' found'
      have kept : HelpersKept { start with asked := start.asked + 1 } next :=
        ⟨levelmap, svidlist, helpermap, cmdlist, helper⟩
      obtain rfl := Option.some.inj (entered.symm.trans entered')
      obtain rfl := Option.some.inj (found.symm.trans found')
      have empty := addServers_kept routed clears fills kept
      rw [empty] at fills
      obtain ⟨-, rfl⟩ := yields_pure.mp fills
      obtain ⟨levelmap, svidlist, helpermap⟩ := (clearHelpers_kept clears).mp kept
      exact ⟨⟨levelmap, svidlist, helpermap⟩, empty⟩
    · intro spares
      obtain ⟨none, empty⟩ := spares system entered node found
      rw [empty] at fills
      obtain ⟨-, rfl⟩ := yields_pure.mp fills
      obtain ⟨levelmap, svidlist, helpermap, cmdlist, helper⟩ :=
        (clearHelpers_kept clears).mpr ⟨none.levelmap, none.svidlist, none.helpermap⟩
      exact ⟨levelmap, svidlist, helpermap, cmdlist, helper⟩

/-- A document that breaks off behind its list of servers. -/
def brokenXml : Element :=
  .mk "SYSTEM" [] [.mk "Node" [] [.mk "ServerList" [] []]]

/-- A proxy that is about to load a document. -/
def aboutToLoad (serverXml : Option Element) (proxy : Proxy) : Proxy :=
  { proxy with world := fun _ => { calm with serverXml := serverXml }, asked := 0 }

theorem aboutToLoad_visited {proxy : Proxy} (reached : proxy.Reached)
    (serverXml : Option Element)
    : (aboutToLoad serverXml proxy).Visited := by
  let answered : Proxy := { proxy with world := fun _ => { calm with serverXml := serverXml } }
  have world : Proxy.Changes .world proxy answered := by
    intro part outside
    cases part <;> first | rfl | exact absurd rfl outside
  have scratch : Proxy.Changes .scratch answered (aboutToLoad serverXml proxy) := by
    intro part outside
    cases part <;> first | rfl | exact absurd rfl outside
  have visited : answered.Visited :=
    (Proxy.Visited.between reached).around (show Part.world.around from trivial) world
  exact visited.around (show Part.scratch.around from trivial) scratch

/-- Whether a load of the document fails and ends with the given list of servers. -/
def failsWith (svidlist : List Int) (serverXml : Option Element) (proxy : Proxy) : Bool :=
  match resetHelperUnit (aboutToLoad serverXml proxy) with
  | .ok (ret, next) => ret = -1 ∧ next.pool.svidlist = svidlist
  | .error _ => false

theorem yields_of_failsWith {svidlist : List Int} {serverXml : Option Element}
    {proxy : Proxy} (fails : failsWith svidlist serverXml proxy = true)
    : ∃ next, Yields resetHelperUnit (aboutToLoad serverXml proxy) (-1) next
        ∧ next.pool.svidlist = svidlist := by
  cases outcome : resetHelperUnit (aboutToLoad serverXml proxy) with
  | error fault => simp [failsWith, outcome] at fails
  | ok result =>
      obtain ⟨ret, next⟩ := result
      rw [failsWith, outcome] at fails
      obtain ⟨rfl, listed⟩ := of_decide_eq_true fails
      exact ⟨next, outcome, listed⟩

/-- A broken document leaves a proxy with a user online without its only server. -/
theorem failed_reload_loses_servers
    : ∃ start next : Proxy, start.Visited ∧ Yields resetHelperUnit start (-1) next
        ∧ start.pool.svidlist = [1] ∧ next.pool.svidlist = [] := by
  let events : List Event := [.accept 1 33 0, .clientFrame 1 (loginFrame 7)]
  obtain ⟨proxy, reached, checked⟩ := Proxy.unused_unused.run (events.map Event.calmly)
    (fun proxy => proxy.pool.svidlist = [1] ∧ failsWith [] (some brokenXml) proxy)
    (by decide +kernel)
  obtain ⟨listed, fails⟩ := of_decide_eq_true checked
  obtain ⟨next, run, lost⟩ := yields_of_failsWith fails
  exact ⟨_, next, aboutToLoad_visited reached _, run, listed, lost⟩

/-- A file that cannot be read changes nothing. -/
theorem failed_reload_keeps_unread
    : ∃ start next : Proxy, start.pool.svidlist = [1] ∧ HelpersKept start next := by
  obtain ⟨proxy, reached, checked⟩ := Proxy.unused_unused.run []
    (fun proxy => proxy.pool.svidlist = [1] ∧ failsWith [1] none proxy) (by decide +kernel)
  obtain ⟨listed, fails⟩ := of_decide_eq_true checked
  obtain ⟨next, run, -⟩ := yields_of_failsWith fails
  have settled := failed_reload_keeps_iff (aboutToLoad_visited reached none) run
  exact ⟨aboutToLoad none proxy, next, listed, settled.mpr nofun⟩

end ProxyServer.System
