import ProxyServer.System.Routing
import ProxyServer.System.UserTable

/-! The states in which single frames are handled. An event may bring several frames, so these
are more than the states between events; what holds in all of them is carried from frame to
frame.
-/

namespace ProxyServer.System

open Packets ProxyServer.Units
open FaultState Footprint

/-- A part that an event changes around the frames it brings. -/
def Part.around : Part → Prop
  | .client _ | .received _ | .decoder _ | .helper _ | .scratch | .world => True
  | _ => False

/-- A state in which a frame can be handled: one between events, or one behind what an event
has done so far.
-/
inductive Proxy.Visited : Proxy → Prop
  | between {proxy} (reached : proxy.Reached) : Visited proxy
  | around {part start next} (earlier : Visited start) (around : part.around)
    (changes : Proxy.Changes part start next)
    : Visited next
  | policy {sid start next} (earlier : Visited start)
    (alive : (start.session sid).live = true) (run : Yields (onPolicy sid) start () next)
    : Visited next
  | frame {sid pData start ret next} (earlier : Visited start)
    (alive : (start.session sid).live = true)
    (run : Yields (handleInputBuf sid pData) start ret next)
    : Visited next
  | order {order start valid next} (earlier : Visited start)
    (run : Yields (obey order) start valid next)
    : Visited next

namespace Proxy.Visited

variable {proxy : Proxy}

/-- The accounts are orderly wherever a frame is handled. -/
theorem orderly (visited : proxy.Visited) : Orderly proxy := by
  induction visited with
  | between reached => exact reached_orderly reached
  | @around part start next _ around changes ih =>
      have quiet : part.quiet := by
        cases part <;> first | exact around.elim | exact trivial
      rw [Orderly, changes.accounts quiet]
      exact ih
  | policy _ alive run ih => exact (onPolicy_serving.related run ⟨ih, alive⟩).toOrderly
  | frame _ alive run ih =>
      exact ((handleInputBuf_serving _).related run ⟨ih, alive⟩).toOrderly
  | order _ run ih =>
      have levelCounts : Frees {.levelCounts} (Conduct.sustaining Orderly) :=
        frees_orderly (by rintro _ ⟨⟩; exact trivial)
      exact (obey_within levelCounts packetForUser_orderly closeUser_orderly _).related run ih

/-- The listed servers have helper units wherever a frame is handled. -/
theorem routed (visited : proxy.Visited) : Routed 0 proxy := by
  have grants := routed_permits.toPermits.grants
  induction visited with
  | between reached => exact reached_routed reached
  | @around part start next _ around changes ih =>
      have outside : .routing ∉ part.seen := by
        cases part <;> first | exact around.elim | simp [Part.seen]
      exact ih.same (changes.unchanged .routing outside)
  | @policy sid _ _ _ alive run ih =>
      have policies : Frees {.connType sid, .noted (.policy sid)}
          (Conduct.sustaining (Routed 0)) := by
        apply grants.free
        rintro part (rfl | rfl)
        all_goals exact trivial
      exact (onPolicy_within (grants.uses sid) policies).related run ih
  | frame _ _ run ih => exact (grants.frames _ _).related run ih
  | order _ run ih => exact (grants.obey _).related run ih

/-- While the frames of a client are read, his session is live in visited states. -/
theorem webRead (sid : SessionId) (recv : RecvAnswer)
    : Within
        (Conduct.sustaining (fun proxy => proxy.Visited ∧ (proxy.session sid).live = true))
        (webRead sid recv) := by
  let Attending (proxy : Proxy) : Prop := proxy.Visited ∧ (proxy.session sid).live = true
  have uses : Within (Conduct.sustaining Attending) (useSession sid) := by
    refine within_relating (fun run attending => ?_)
    obtain ⟨-, rfl⟩ := yields_useSession attending.2 run
    exact attending
  have frees : Frees {.scratch, .client sid, .received sid, .decoder sid}
      (Conduct.sustaining Attending) := by
    refine frees_relating (fun part inside start next changes attending => ?_)
    have around : part.around ∧ .identity sid ∉ part.seen := by
      rcases inside with rfl | rfl | rfl | rfl
      all_goals exact ⟨trivial, nofun⟩
    have identity : (next.session sid).identity = (start.session sid).identity :=
      changes.unchanged (.identity sid) around.2
    exact ⟨attending.1.around around.1 changes, (congrArg Prod.fst identity).trans attending.2⟩
  refine webRead_within uses (frees.mono (by simp [Set.insert_subset_iff]))
    (frees.mono (by simp)) ?_ ?_ recv
  · refine fun pData => within_relating (fun run attending => ?_)
    have serving := (handleInputBuf_serving pData).related run
      ⟨attending.1.orderly, attending.2⟩
    exact ⟨attending.1.frame attending.2 run, serving.alive⟩
  · refine within_relating (fun run attending => ?_)
    have serving := onPolicy_serving.related run ⟨attending.1.orderly, attending.2⟩
    exact ⟨attending.1.policy attending.2 run, serving.alive⟩

/-- The frames of a helper are handled in visited states. -/
theorem helperPackages (hid : HelperId)
    : Within (Conduct.sustaining Visited) (helperProcessPkg hid) := by
  have frees : Frees {.scratch, .helper hid} (Conduct.sustaining Visited) := by
    refine frees_relating (fun part inside start next changes visited => ?_)
    have around : part.around := by
      rcases inside with rfl | rfl
      all_goals exact trivial
    exact visited.around around changes
  have scratch : Frees {.scratch} (Conduct.sustaining Visited) := frees.mono (by simp)
  have helper : Frees {(BackendId.helper hid).part} (Conduct.sustaining Visited) :=
    frees.mono (by simp [BackendId.part])
  apply processPkg_within frees.endless
  · exact fun bytes proxy => helper.backend ⟨rfl, id, Or.inl rfl⟩
  · intro frame
    refine Within.bind (ask_within scratch) (fun tran => ?_)
    refine Within.bind (ask_within scratch) (fun temp => ?_)
    refine Within.bind (ofExcept_within frees _) (fun order => ?_)
    exact within_relating (fun run visited => visited.order run)
  · exact fun _ => Within.pure _

end Proxy.Visited

end ProxyServer.System
