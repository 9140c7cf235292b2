import Varnish.Center.Worker

/-!
# The backend connection is open exactly where it is used

`cnt_fetch` opens the backend connection (`wrk->vbc`) with `FetchHdr`. `FetchBody`, which
`cnt_fetchbody` and `cnt_streambody` call, reads the body over it, and `VDI_CloseFd`, which
`cnt_fetch`, `cnt_fetchbody` and a restart from a `cnt_prepresp` that streams call, closes it:
both need it open. `BackendAt` (`wreach_backend`) says where the connection may be open;
`OpenAt` says where it must be, and what `prepresp` needs for that: the object of a cache hit
is not busy.

* `wreach_vbc_iff`: at every dispatch of one worker, over every sequence of sessions it serves,
  the worker holds a backend connection exactly at `fetchbody`, at `streambody`, and at a
  `prepresp` whose busyobj says to stream an object that is a pass or still busy. Every
  `FetchBody` and every `VDI_CloseFd` finds the connection open, and none outlives the delivery
  that reads it. A `prepresp` with the busyobj of an earlier attempt that streamed
  (`staleStreamRun`) holds none; it stops at `AssertObjCorePassOrBusy` on the cache hit it
  delivers before it could stream or close.
-/

namespace Varnish.Center

/-- What the steps that use the backend connection find: an open one at `fetchbody` and
`streambody`; at `prepresp`, an open one exactly when the busyobj says to stream an object that
is a pass or still busy; and at `hit`, an object that is neither, as `HSH_Lookup` found it. -/
def OpenAt : Step → St → Prop
  | .fetchbody, s | .streambody, s => s.wrk.vbc = true
  | .prepresp, s =>
    s.wrk.vbc = (s.wrk.busyobj.any (·.doStream) && s.wrk.obj.all (passOrBusy ·.objcore))
  | .hit, s => s.wrk.obj.all (!passOrBusy ·.objcore) = true
  | _, _ => True

@[simp] theorem fetchbodyAlloc_vbc (o : Oracle) (s : St) (hint : Option Hint) :
    (fetchbodyAlloc o s hint).vbc = s.wrk.vbc := by
  unfold fetchbodyAlloc stvNewObject; split_ifs <;> rfl

section Handlers

variable (p : Params) (o : Oracle) (s : St)

/-- A hit of `cnt_lookup` holds the object `HSH_Lookup` found not busy. -/
theorem cntLookup_openAt :
    (cntLookup o s).Sat (fun s' _ => s'.sp.step = .hit → OpenAt .hit s') fun _ _ => True :=
  cntLookup_sat (fun _ => trivial) fun _ _ _ _ _ _ _ =>
    ⟨fun _ hs _ h => (by simp [hs] at h), fun _ _ hs h => (by simp [hs] at h),
      fun hb _ _ _ => by simp [OpenAt, hb]⟩

/-- `cnt_fetch` goes on to `fetchbody` with the connection `FetchHdr` opened. -/
theorem cntFetch_openAt :
    (cntFetch o s).Sat (fun s' _ => s'.sp.step = .fetchbody → OpenAt .fetchbody s')
      fun _ _ => True := by
  have hc : ∀ (t : St) cs, (fetchCleanup t cs).Sat
      (fun s' _ => s'.sp.step = .fetchbody → OpenAt .fetchbody s') fun _ _ => True :=
    fun t cs => (fetchCleanup_step t cs).imp
      (fun _ _ h hs => by rcases h with h | h <;> rw [hs] at h <;> cases h) fun _ _ _ => trivial
  unfold cntFetch
  simp only [sat_ensure]
  intro _
  split
  · trivial
  simp only [sat_ensure, sat_ite]
  intro _ _ _ _ _
  split
  · exact hc _ _
  · intro _
    split
    · exact fun _ => rfl
    · simp only [sat_ensure, sat_cont]
      exact fun _ _ => rfl
    · exact hc _ _

/-- `cnt_fetchbody` goes on to `prepresp` with the connection open exactly when the delivery
streams: it checked the object is a pass or busy, and `FetchBody` closes the connection of a
delivery that does not stream. -/
theorem cntFetchbody_openAt (hv : s.wrk.vbc = true) :
    (cntFetchbody p o s).Sat (fun s' _ => s'.sp.step = .prepresp → OpenAt .prepresp s')
      fun _ _ => True := by
  unfold cntFetchbody
  split
  · trivial
  simp only [sat_ensure]
  intro _
  split
  · exact fun h => by simp at h
  · simp only [sat_ensure, sat_ite, sat_cont]
    intro hpb
    split_ifs with hst
    · intro _; simpa [OpenAt, hv, hst] using hpb
    · intro _ _; simp [OpenAt, fetchBody, hst]
    · intro _ h; cases h

/-- `cnt_hit` delivers the object it found, which is no busy one, with no connection. -/
theorem cntHit_openAt (hw : Unconnected s.wrk) (hO : OpenAt .hit s) :
    (cntHit o s).Sat (fun s' _ => s'.sp.step = .prepresp → OpenAt .prepresp s')
      fun _ _ => True :=
  cntHit_sat fun ob _ hob _ _ _ =>
    have hpb : passOrBusy ob.objcore = false := by simpa [OpenAt, hob] using hO
    ⟨fun _ _ _ _ => by simp [OpenAt, hw.1, hob, hpb], fun _ h => by simp at h,
      fun _ h => by simp at h, fun _ h => by simp at h⟩

/-- `vcl_error`'s delivery goes to `prepresp` on the fresh busyobj of `cnt_error`, which does
not stream, with no connection. -/
theorem errorRespond_openAt {w : Wrk} {ob : Object} {cs : List Call} (hw : Unconnected w)
    (hbo : w.busyobj = some {}) :
    (errorRespond p o s w ob cs).Sat (fun s' _ => s'.sp.step = .prepresp → OpenAt .prepresp s')
      fun _ _ => True := by
  unfold errorRespond
  simp only [sat_ensure, sat_ite, sat_cont]
  split_ifs
  · exact fun h => by simp at h
  · exact fun _ _ => by simp [OpenAt, hw.1, hbo]

theorem cntError_openAt (hw : Unconnected s.wrk) (hobj : s.wrk.obj = none) :
    (cntError p o s).Sat (fun s' _ => s'.sp.step = .prepresp → OpenAt .prepresp s')
      fun _ _ => True := by
  unfold cntError
  rw [hobj]
  dsimp only
  split
  · exact fun h => by simp at h
  · exact errorRespond_openAt p o s (errorAlloc_unconnected hw) (errorAlloc_busyobj o s.wrk)

/-- `cnt_prepresp` streams only an object that is a pass or busy, so over the connection it
holds. -/
theorem cntPrepresp_openAt (hO : OpenAt .prepresp s) :
    (cntPrepresp p o s).Sat (fun s' _ => s'.sp.step = .streambody → OpenAt .streambody s')
      fun _ _ => True :=
  cntPrepresp_sat fun ob hob _ =>
    ⟨fun hst hpb _ => by simpa [OpenAt, hob, hst, hpb] using hO, fun _ h => by simp at h,
      fun _ _ _ _ h => by simp at h⟩

end Handlers

/-- The entry of `CNT_Session` enters at a step that needs nothing of the connection. -/
theorem sessionEnter_openAt {o : Oracle} {s s' : St} {cs : List Call}
    (h : sessionEnter o s = .cont s' cs) : OpenAt s'.sp.step s' := by
  obtain ⟨hent, -, -, -, -, hsp⟩ := sessionEnter_cont h
  rcases hsp with hsp | hsp <;> rw [hsp]
  · simp only [entrance, Bool.or_eq_true, beq_iff_eq] at hent
    rcases hent with ((h | h) | h) | h <;> rw [h] <;> trivial
  · trivial

/-- Every dispatch goes on with what `OpenAt` says of its successor. -/
theorem dispatch_openAt {p : Params} {o : Oracle} {s s' : St} {cs : List Call}
    (hO : OpenAt s.sp.step s) (hB : BackendAt s.sp.step s.wrk) (hE : EntryAt s.sp.step s)
    (h : dispatch p o s = .cont s' cs) : OpenAt s'.sp.step s' := by
  have e := dispatch_edge h
  generalize hst : s.sp.step = st at e hO hB hE
  generalize s.sp.restarts = r at e
  generalize s'.sp.restarts = r' at e
  generalize hst' : s'.sp.step = st' at e ⊢
  cases e <;> simp only [OpenAt] <;> rw [dispatch, hst] at h
  case lookupHit => exact (cntLookup_openAt o s).of_cont h hst'
  case fetchFetchbody => exact (cntFetch_openAt o s).of_cont h hst'
  case fetchbodyPrepresp => exact (cntFetchbody_openAt p o s hO).of_cont h hst'
  case hitPrepresp => exact (cntHit_openAt o s hB hO).of_cont h hst'
  case errorPrepresp => exact (cntError_openAt p o s hB hE.2).of_cont h hst'
  case preprespStreambody => exact (cntPrepresp_openAt p o s hO).of_cont h hst'

/-- At every dispatch of one worker, the connection is where `OpenAt` says. -/
theorem wreach_openAt {p : Params} {s : St} (h : WReach p s) : OpenAt s.sp.step s := by
  induction h with
  | start _ henter => exact sessionEnter_openAt henter
  | dispatch hw hd ih =>
    exact dispatch_openAt ih (wreach_backend hw) (reach_entry (wreach_reach hw)) hd
  | next _ _ _ henter => exact sessionEnter_openAt henter

/-- **The backend connection is open exactly where it is used**: at every dispatch of one
worker, over every sequence of sessions it serves, the worker holds a backend connection
exactly at `fetchbody`, at `streambody`, and at a `prepresp` whose busyobj says to stream an
object that is a pass or still busy. -/
theorem wreach_vbc_iff {p : Params} {s : St} (h : WReach p s) :
    s.wrk.vbc = true ↔ s.sp.step = .fetchbody ∨ s.sp.step = .streambody ∨
      s.sp.step = .prepresp ∧ s.wrk.busyobj.any (·.doStream) = true ∧
        s.wrk.obj.all (passOrBusy ·.objcore) = true := by
  have hO := wreach_openAt h
  have hB := wreach_backend h
  generalize s.sp.step = st at hO hB ⊢
  cases st
  case fetchbody => simpa using hO
  case streambody => simpa using hO
  case prepresp => simp only [OpenAt] at hO; simp [hO]
  all_goals simp [hB.1]

/-- A request on a new connection that `vcl_recv` and `vcl_pass` pass and `vcl_fetch` delivers
with `beresp.do_stream` set, up to `cnt_streambody`. -/
def streamRun : List Oracle :=
  [{}, {}, {}, { verdict := .pass }, { verdict := .pass }, { verdict := .deliver, doStream := true },
    {}, {}]

/-- The request of `streamRun` at `cnt_streambody`, reading its body over the connection. -/
def streamState : St :=
  ⟨{ step := .streambody, xid := 1, director := true, vcl := true, errCode := 200,
      sendbody := true },
    { obj := some { xid := 1, response := 200, storage := some .transient },
      busyobj := some { doStream := true, isGunzip := true, ttl := -1 }, vbc := true,
      resMode := { chunked := true }, bereqWs := true, berespWs := true, respWs := true }, 1⟩

theorem wreach_vbc_iff_stream :
    WReach {} streamState ∧
      (streamState.wrk.vbc = true ↔ streamState.sp.step = .fetchbody ∨
        streamState.sp.step = .streambody ∨
        streamState.sp.step = .prepresp ∧ streamState.wrk.busyobj.any (·.doStream) = true ∧
          streamState.wrk.obj.all (passOrBusy ·.objcore) = true) :=
  have h : WReach {} streamState :=
    @wreach_loop {} streamRun _ _ [] [.stvNewObject (some .transient)] (wreach_accept {})
      (by decide)
  ⟨h, wreach_vbc_iff h⟩

end Varnish.Center
