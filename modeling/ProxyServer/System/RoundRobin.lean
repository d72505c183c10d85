import ProxyServer.Library.Rotation
import ProxyServer.System.Routing

/-! `TGlobal::LoopSvid` goes round a list of servers, from wherever its counter stands. -/

namespace ProxyServer.System

open ProxyServer.Units FaultState Rotation

/-- A call of `LoopSvid` advances the counter and takes the server at its position. -/
theorem loopSvid_advances {v : List Int} (some : v ≠ []) (start : Proxy)
    : ∃ inside : (advance v.length start.global.loopNum).toNat < v.length,
        Yields (loopSvid v) start (v[(advance v.length start.global.loopNum).toNat]) {
          start with
          global := {
            start.global with loopNum := advance v.length start.global.loopNum
          }
        } := by
  have length : 0 < v.length := List.length_pos_iff.mpr some
  obtain ⟨-, inside⟩ := advance_inside start.global.loopNum length
  refine ⟨inside, ?_⟩
  refine yields_bind.mpr ⟨_, _, yields_get.mpr ⟨rfl, rfl⟩, ?_⟩
  refine yields_bind.mpr ⟨(), _, yields_modify.mpr rfl, ?_⟩
  have found := List.getElem?_eq_getElem inside
  split
  · rename_i svid taken
    obtain rfl := Option.some.inj (found.symm.trans taken)
    exact yields_pure.mpr ⟨rfl, rfl⟩
  · rename_i outside
    cases found.symm.trans outside

/-- Calls of `LoopSvid` of a list one after another, with the position and the server that each
of them takes. In between, anything but the counter may change.
-/
inductive LoopSvidCalls (v : List Int) : Proxy → List (Int × Int) → Proxy → Prop
  | none {proxy} : LoopSvidCalls v proxy [] proxy
  | call {before start svid next calls last}
    (counter : start.global.loopNum = before.global.loopNum)
    (run : Yields (loopSvid v) start svid next)
    (later : LoopSvidCalls v next calls last)
    : LoopSvidCalls v before ((next.global.loopNum, svid) :: calls) last

/-- The calls take the positions of a counter that goes round, by induction on the calls. -/
theorem LoopSvidCalls.positions {v : List Int} (some : v ≠ []) {before last : Proxy}
    {calls : List (Int × Int)} (made : LoopSvidCalls v before calls last)
    : calls.map (fun call => call.1.toNat)
        = Rotation.positions v.length calls.length before.global.loopNum
      ∧ ∀ call ∈ calls, 0 ≤ call.1 ∧ v[call.1.toNat]? = Option.some call.2 := by
  induction made with
  | none => exact ⟨rfl, nofun⟩
  | @call before start svid next calls last counter run later ih =>
      obtain ⟨inside, advances⟩ := loopSvid_advances some start
      obtain ⟨rfl, rfl⟩ := advances.unique run
      obtain ⟨positions, taken⟩ := ih
      obtain ⟨nonneg, -⟩ :=
        advance_inside start.global.loopNum (List.length_pos_iff.mpr some)
      refine ⟨?_, ?_⟩
      · rw [List.map_cons, positions, ← counter]
        rfl
      · intro call member
        rcases List.mem_cons.mp member with rfl | later
        · exact ⟨nonneg, List.getElem?_eq_getElem inside⟩
        · exact taken call later

/-- Whatever its counter holds, `LoopSvid` of some servers takes one of them, and in as many
calls as there are servers each position of the list is taken once.
-/
theorem loopSvid_round {v : List Int} (some : v ≠ [])
    : (∀ start : Proxy, ∃ svid next,
        Yields (loopSvid v) start svid next ∧ 0 ≤ next.global.loopNum
          ∧ v[next.global.loopNum.toNat]? = Option.some svid)
      ∧ ∀ before calls last, LoopSvidCalls v before calls last → calls.length = v.length
        → (∀ call ∈ calls, 0 ≤ call.1 ∧ v[call.1.toNat]? = Option.some call.2)
          ∧ (calls.map (fun call => call.1.toNat)).Perm (List.range v.length) := by
  have length : 0 < v.length := List.length_pos_iff.mpr some
  refine ⟨fun start => ?_, fun before calls last made round => ?_⟩
  · obtain ⟨inside, advances⟩ := loopSvid_advances some start
    obtain ⟨nonneg, -⟩ := advance_inside start.global.loopNum length
    exact ⟨_, _, advances, nonneg, List.getElem?_eq_getElem inside⟩
  · obtain ⟨positions, taken⟩ := made.positions some
    refine ⟨taken, ?_⟩
    rw [positions, round]
    exact positions_perm length before.global.loopNum

/-- A counter left over from a longer list. -/
theorem loopSvid_round_left_over
    : ∃ calls last, LoopSvidCalls [31, 32]
          { Proxy.unused with global := ⟨[], 1, 7, 0, 0⟩ } calls last
        ∧ (calls.map (fun call => call.1.toNat)).Perm (List.range 2) := by
  have some : [31, 32] ≠ ([] : List Int) := List.cons_ne_nil 31 [32]
  obtain ⟨_, first⟩ := loopSvid_advances some
    { Proxy.unused with global := ⟨[], 1, 7, 0, 0⟩ }
  obtain ⟨_, second⟩ := loopSvid_advances some
    { Proxy.unused with global := ⟨[], 1, 0, 0, 0⟩ }
  have made := LoopSvidCalls.call rfl first (.call rfl second .none)
  exact ⟨_, _, made, ((loopSvid_round some).2 _ _ _ made rfl).2⟩

end ProxyServer.System
