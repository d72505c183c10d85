import ProxyServer.System.Routing

/-! The servers that can be chosen: each one in the list of all servers or in the list of a level
has a live helper unit, however often and however far the configuration is loaded again.
-/

namespace ProxyServer.System

open Packets ProxyServer.Units
open FaultState Footprint Reachability

-----------------------------------------------------------------------------------------
-- Servers with live helper units
-----------------------------------------------------------------------------------------

/-- The server is a key of `m_helpermap`, bound to a live helper unit. -/
def Proxy.Helped (proxy : Proxy) (svid : Int) : Prop :=
  ∃ hid, proxy.pool.helpermap[svid]? = some hid ∧ (proxy.helper hid).live = true

/-- `m_svidlist` and the vectors of `m_levelmap`. -/
def Proxy.Offers (proxy : Proxy) (v : List Int) : Prop :=
  v = proxy.pool.svidlist ∨ ∃ level : Int, proxy.pool.levelmap[level]? = some v

/-- Every server that is offered is a key of the table, and the helper units in it are live. -/
structure Attended (proxy : Proxy) : Prop where
  offered
    : ∀ v, proxy.Offers v → ∀ svid ∈ v, ∃ hid, proxy.pool.helpermap[svid]? = some hid
  live
    : ∀ (svid : Int) (hid : HelperId), proxy.pool.helpermap[svid]? = some hid
      → (proxy.helper hid).live = true

theorem Attended.helped {proxy : Proxy} (attended : Attended proxy) {v : List Int}
    (offers : proxy.Offers v) {svid : Int} (inside : svid ∈ v)
    : proxy.Helped svid := by
  obtain ⟨hid, entry⟩ := attended.offered v offers svid inside
  exact ⟨hid, entry, attended.live svid hid entry⟩

/-- The same tables, with no helper unit deleted. -/
theorem Attended.same {start next : Proxy} (attended : Attended start)
    (tables : next.view .routing = start.view .routing)
    (kept : ∀ hid, (start.helper hid).live = true → (next.helper hid).live = true)
    : Attended next := by
  have helpermap : next.pool.helpermap = start.pool.helpermap := congrArg Prod.fst tables
  have svidlist : next.pool.svidlist = start.pool.svidlist :=
    congrArg (fun tables => tables.2.1) tables
  have levelmap : next.pool.levelmap = start.pool.levelmap :=
    congrArg (fun tables => tables.2.2.2.1) tables
  constructor
  · intro v offers
    rw [Proxy.Offers, svidlist, levelmap] at offers
    rw [helpermap]
    exact attended.offered v offers
  · intro svid hid entry
    rw [helpermap] at entry
    exact kept hid (attended.live svid hid entry)

theorem looksAtHelpers_attended : LooksAtHelpers (Conduct.sustaining Attended) :=
  ⟨fun _ _ tables _ kept attended => attended.same tables kept, fun _ => trivial,
    fun _ => trivial⟩

-----------------------------------------------------------------------------------------
-- Loading
-----------------------------------------------------------------------------------------

section Loading

variable {start next : Proxy}

/-- The empty tables offer no server. -/
theorem attended_of_empty (helpermap : start.pool.helpermap = ∅)
    (svidlist : start.pool.svidlist = [])
    (levelmap : start.pool.levelmap = ∅)
    : Attended start := by
  constructor
  · rintro v (rfl | ⟨level, entry⟩) svid inside
    · rw [svidlist] at inside
      cases inside
    · rw [levelmap, Std.TreeMap.getElem?_emptyc] at entry
      cases entry
  · intro svid hid entry
    rw [helpermap, Std.TreeMap.getElem?_emptyc] at entry
    cases entry

/-- A new helper unit is live, and the others keep their servers. -/
theorem Attended.enter (attended : Attended start) {svid : Int} {hid : HelperId}
    {helper : HelperId → Helper}
    (live : (helper hid).live = true)
    (kept : ∀ other, (start.helper other).live = true → (helper other).live = true)
    (count : Nat)
    : Attended {
        start with
        helper := helper
        helperCount := count
        pool := { start.pool with helpermap := start.pool.helpermap.insert svid hid }
      } := by
  constructor
  · intro v offers other inside
    dsimp only
    rw [Std.TreeMap.getElem?_insert]
    split
    · exact ⟨_, rfl⟩
    · exact attended.offered v offers other inside
  · intro other hid' entry
    dsimp only at entry
    rw [Std.TreeMap.getElem?_insert] at entry
    split at entry
    · obtain rfl := Option.some.inj entry
      exact live
    · exact kept hid' (attended.live other hid' entry)

theorem helperOf_attended (svid : Int)
    : Holds Attended (helperOf svid)
        (fun hid proxy => Attended proxy ∧ proxy.pool.helpermap[svid]? = some hid) := by
  intro start hid next attended run
  rcases yields_helperOf run with ⟨entry, rfl⟩ | ⟨-, rfl, helper, live, others, rfl⟩
  · exact ⟨attended, entry⟩
  · refine ⟨attended.enter live (fun other alive => ?_) _, Std.TreeMap.getElem?_insert_self⟩
    by_cases same : other = start.helperCount
    · rw [same]
      exact live
    · rw [others other same]
      exact alive

/-- A server is listed for its level and for all, behind those before it. -/
theorem addServer_attended (server : Element)
    : Holds Attended (addServer server) (fun _ => Attended) := by
  intro start _ next attended run
  obtain ⟨hid, found, finds, rest⟩ := yields_bind.mp run
  obtain ⟨attended, entry⟩ := helperOf_attended _ attended finds
  obtain ⟨_, placed, places, lists⟩ := yields_bind.mp rest
  have kept : Attended placed := by
    rw [yields_modify.mp places]
    refine attended.same rfl (fun other live => ?_)
    by_cases same : other = hid
    · subst same
      exact (congrArg Helper.live (Proxy.updateHelper_same ..)).trans live
    · exact (congrArg Helper.live (Function.update_of_ne same ..)).trans live
  have entered : placed.pool.helpermap[atoi (server.getAttrib "svid")]? = some hid := by
    rw [yields_modify.mp places]
    exact entry
  have added : ∀ svid, svid = atoi (server.getAttrib "svid")
      → ∃ hid, placed.pool.helpermap[svid]? = some hid := by
    rintro svid rfl
    exact ⟨hid, entered⟩
  rw [yields_modify.mp lists]
  refine ⟨?_, kept.live⟩
  rintro v (rfl | ⟨level, leveled⟩) svid inside
  · rcases List.mem_append.mp inside with before | last
    · exact kept.offered _ (Or.inl rfl) svid before
    · exact added svid (List.mem_singleton.mp last)
  · dsimp only at leveled
    rw [Std.TreeMap.getElem?_insert] at leveled
    split at leveled
    · obtain rfl := Option.some.inj leveled
      rcases List.mem_append.mp inside with before | last
      · rw [Std.TreeMap.getD_eq_getD_getElem?] at before
        cases earlier : placed.pool.levelmap[atoi (server.getAttrib "level")]? with
        | none =>
            rw [earlier] at before
            cases before
        | some others =>
            rw [earlier] at before
            exact kept.offered others (Or.inr ⟨_, earlier⟩) svid before
      · exact added svid (List.mem_singleton.mp last)
    · exact kept.offered v (Or.inr ⟨level, leveled⟩) svid inside

theorem addServers_attended (servers : List Element)
    : Holds Attended (servers.forM addServer) (fun _ => Attended) := by
  induction servers with
  | nil => exact Holds.pure (fun _ attended => attended)
  | cons server servers ih => exact Holds.bind (addServer_attended server) (fun _ => ih)

theorem setCmdList_attended {cmds : List Element} (attended : Attended start)
    (run : Yields (setCmdList cmds) start () next)
    : Attended next := by
  rw [yields_modify.mp run]
  exact ⟨attended.offered, attended.live⟩

theorem readNode_attended (node : Markup)
    : Within (Conduct.sustaining Attended) (readNode node) := by
  refine within_relating (fun run attended => ?_)
  obtain ⟨loaded, loads, outcome⟩ := yields_readNode run
  have attended := addServers_attended _ attended loads
  rcases outcome with ⟨-, rfl⟩ | ⟨-, cmds, sets⟩
  · exact attended
  · exact setCmdList_attended attended sets

/-- A reload ends with all offered servers helped, whatever was deleted and wherever it broke
off.
-/
theorem resetHelperUnit_attended
    : Within (Conduct.sustaining Attended) resetHelperUnit := by
  refine within_relating (fun run attended => ?_)
  rcases yields_resetHelperUnit run with ⟨-, rfl⟩ | loaded
  · exact attended.same rfl (fun _ => id)
  · obtain ⟨_, _, _, _, cleared, filled, clears, fills, outcome⟩ := loaded
    obtain ⟨tables, -⟩ := yields_clearHelpers clears
    have cleared : Attended cleared :=
      attended_of_empty (congrArg Prod.fst tables)
        (congrArg (fun tables => tables.2.1) tables)
        (congrArg (fun tables => tables.2.2.2.1) tables)
    have attended := addServers_attended _ cleared fills
    rcases outcome with ⟨-, rfl⟩ | ⟨-, cmds, sets⟩
    · exact attended
    · exact setCmdList_attended attended sets

theorem initIpMap_attended (markup : Markup)
    : Within (Conduct.sustaining Attended) (initIpMap markup) := by
  have adds : ∀ ip, Within (Conduct.sustaining Attended) (addIp ip) :=
    addIp_within (looksAtHelpers_attended.frees (by rintro _ ⟨⟩; exact ⟨nofun, nofun, nofun⟩))
  have sets : ∀ whitelist, Within (Conduct.sustaining Attended) (setWhitelist whitelist) :=
    fun whitelist => Within.modify (fun _ attended => ⟨attended.offered, attended.live⟩)
  rw [initIpMap]
  split
  · exact Within.pure _
  · refine Within.bind (Within.forM (fun ip _ => adds ip)) (fun _ => ?_)
    split
    · exact Within.pure _
    · refine Within.bind (sets _) (fun _ => ?_)
      split
      · exact Within.pure _
      · exact Within.bind (sets _) (fun _ => Within.pure _)

/-- The lists are emptied, the table stays. -/
theorem clearLists_attended : Within (Conduct.sustaining Attended) clearLists := by
  refine Within.modify (fun proxy attended => ⟨?_, attended.live⟩)
  rintro v (rfl | ⟨level, entry⟩) svid inside
  · cases inside
  · dsimp only at entry
    rw [Std.TreeMap.getElem?_map] at entry
    obtain ⟨_, -, rfl⟩ := Option.map_eq_some_iff.mp entry
    cases inside

/-- Starting adds servers to empty tables. -/
theorem initHelperUnit_attended (unused : start.Unused) {ret : Int}
    (run : Yields initHelperUnit start ret next)
    : Attended next := by
  have scratch : Frees {.scratch} (Conduct.sustaining Attended) :=
    looksAtHelpers_attended.frees (by rintro _ ⟨⟩; exact ⟨nofun, nofun, nofun⟩)
  have inits : Within (Conduct.sustaining Attended) initHelperUnit := by
    refine Within.bind clearLists_attended (fun _ => ?_)
    refine Within.bind (ask_within scratch) (fun answers => ?_)
    split
    · exact Within.pure _
    · rename_i system _
      have nodes : Within (Conduct.sustaining Attended) (initNode system) := by
        rw [initNode]
        split
        · exact Within.pure _
        · exact readNode_attended _
      refine Within.bind nodes (fun read => ?_)
      cases read with
      | none => exact Within.pure _
      | some markup => exact initIpMap_attended markup
  exact inits.related run
    (attended_of_empty unused.helpermap unused.svidlist unused.levelmap)

end Loading

-----------------------------------------------------------------------------------------
-- Starting, reloads and everything in between
-----------------------------------------------------------------------------------------

/-- The states behind `InitHelperUnit` and any number of reloads, each with a configuration of its
own and any result. Events of the proxy come in between, and on the way of an event what neither
changes the tables nor deletes a helper unit.
-/
inductive Loaded : Proxy → Prop
  | init {start next : Proxy} {ret : Int} (unused : start.Unused)
    (run : Yields initHelperUnit start ret next)
    : Loaded next
  | reset {start next : Proxy} {ret : Int} (loaded : Loaded start) (world : Nat → Answers)
    (run : Yields resetHelperUnit { start with world := world, asked := 0 } ret next)
    : Loaded next
  | event {start next : Proxy} {label : Event × (Nat → Answers)} (loaded : Loaded start)
    (step : Event.Step start label next)
    : Loaded next
  | between {start next : Proxy} (loaded : Loaded start)
    (tables : next.view .routing = start.view .routing)
    (kept : ∀ hid, (start.helper hid).live = true → (next.helper hid).live = true)
    : Loaded next

theorem attended_permits : PermitsAll (Conduct.sustaining Attended) := by
  have scratch : Frees {.scratch} (Conduct.sustaining Attended) :=
    looksAtHelpers_attended.frees (by rintro _ ⟨⟩; exact ⟨nofun, nofun, nofun⟩)
  have loopNum : Frees {.loopNum} (Conduct.sustaining Attended) :=
    looksAtHelpers_attended.frees (by rintro _ ⟨⟩; exact ⟨nofun, nofun, nofun⟩)
  exact looksAtHelpers_attended.permits (nextSvid_within loopNum (fun _ => trivial))
    (anySvid_within scratch (fun _ => trivial)) resetHelperUnit_attended

theorem Loaded.attended {proxy : Proxy} (loaded : Loaded proxy) : Attended proxy := by
  induction loaded with
  | init unused run => exact initHelperUnit_attended unused run
  | reset _ world run ih =>
      exact resetHelperUnit_attended.related run (ih.same rfl (fun _ => id))
  | @event start next label _ step ih =>
      have before : Attended { start with world := label.2, asked := 0 } :=
        ih.same rfl (fun _ => id)
      exact (attended_permits.perform label.1).related step.2 before
  | between _ tables kept ih => exact ih.same tables kept

/-- A choice among offered servers leaves the tables alone and chooses one of them. -/
theorem chosen_offered {v : List Int} {proxy chosen : Proxy} {svid : Int}
    (run : Yields (loopSvid v) proxy svid chosen ∨ Yields (randomSvid v) proxy svid chosen)
    : svid ∈ v ∧ chosen.view .routing = proxy.view .routing ∧ chosen.helper = proxy.helper := by
  by_cases some : v = []
  · subst some
    rcases run with loops | draws
    · obtain ⟨_, looked, -, rest⟩ := yields_bind.mp loops
      obtain ⟨_, turned, -, ends⟩ := yields_bind.mp rest
      exact (not_yields_throw ends).elim
    · obtain ⟨_, asked, -, ends⟩ := yields_bind.mp draws
      exact (not_yields_throw ends).elim
  · rcases run with loops | draws
    · obtain ⟨inside, loopNum, rfl⟩ := (loopSvid_delivers some proxy).of_yields loops
      exact ⟨inside, rfl, rfl⟩
    · obtain ⟨inside, rfl⟩ := (randomSvid_delivers some proxy).of_yields draws
      exact ⟨inside, rfl, rfl⟩

/-- However often the configuration was loaded, every offered server is bound to a live helper
unit, and a search for one chosen by `LoopSvid` or `RandomSvid` finds it.
-/
theorem loaded_offers_helped {proxy : Proxy} (loaded : Loaded proxy)
    : (∀ v, proxy.Offers v → ∀ svid ∈ v, proxy.Helped svid)
      ∧ ∀ v svid chosen found next, proxy.Offers v
          → Yields (loopSvid v) proxy svid chosen ∨ Yields (randomSvid v) proxy svid chosen
          → Yields (findHelper svid) chosen found next
          → ∃ hid, found = some hid ∧ (next.helper hid).live = true := by
  have attended := loaded.attended
  refine ⟨fun v offers svid inside => attended.helped offers inside, ?_⟩
  intro v svid chosen found next offers chooses finds
  obtain ⟨inside, tables, helper⟩ := chosen_offered chooses
  obtain ⟨rfl, rfl⟩ := yields_findHelper finds
  obtain ⟨hid, entry, live⟩ := attended.helped offers inside
  have helpermap : next.pool.helpermap = proxy.pool.helpermap := congrArg Prod.fst tables
  refine ⟨hid, ?_, ?_⟩
  · rw [helpermap]
    exact entry
  · rw [helper]
    exact live

/-- A `server.xml` with a server but without a `CmdList`. -/
def serversOnlyXml : Element :=
  .mk "SYSTEM" [] [.mk "Node" [] [.mk "ServerList" [] [onlyServer]]]

/-- A reload that breaks off behind its servers keeps them helped. -/
theorem loaded_offers_helped_broken
    : ∃ proxy, Loaded proxy ∧ proxy.pool.svidlist = [1] ∧ proxy.Helped 1 := by
  let handed (idle : Proxy) : Proxy :=
    { idle with world := fun _ => { calm with serverXml := some serversOnlyXml }, asked := 0 }
  have both : endsIn
      (fun _ idle => endsIn
        (fun ret final => decide (ret = -1 ∧ final.pool.svidlist = [1]))
        (resetHelperUnit (handed idle)))
      (initHelperUnit Proxy.unused) = true := by
    decide +kernel
  obtain ⟨started, idle, init, breaks⟩ := endsIn_run both
  obtain ⟨ret, final, reset, ended⟩ := endsIn_run breaks
  obtain ⟨-, svidlist⟩ := of_decide_eq_true ended
  have loaded : Loaded final := Loaded.reset (Loaded.init Proxy.unused_unused init) _ reset
  refine ⟨final, loaded, svidlist, ?_⟩
  exact (loaded_offers_helped loaded).1 _ (Or.inl rfl) 1 (by rw [svidlist]; simp)

end ProxyServer.System
