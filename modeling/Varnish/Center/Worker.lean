import Varnish.Center.Entry

/-!
# One worker, session after session

A worker thread runs `CNT_Session` for one session after another, and its scratch (`struct
worker`) carries over from the session it lets go of to the next: `CNT_Session` checks only
`wrk->obj` and `wrk->objcore` on the way out. `WReach` is the set of states at which one worker
dispatches a handler, over every sequence of sessions it serves; `wreach_reach` shows that each
of them is a state of a session (`Reach`), so everything proved over `Reach` holds for it.

The backend connection is worker scratch: `cnt_fetch` opens it (`wrk->vbc`, with
`wrk->do_close`), and `VDI_CloseFd` or `FetchBody` closes it. `BackendAt` says where it may be
open: at `fetchbody`, and at `prepresp` and `streambody` of a delivery that streams.

* `wreach_backend`: at every dispatch of one worker, the backend connection is open only where
  `BackendAt` allows;
* `wreach_entryChecks`: at every dispatch of one worker, the entry checks of the handlers on
  the session and the worker hold, but for `AZ(wrk->h_content_length)` and
  `AZ(wrk->storage_hint)` of `cnt_fetch`, which `passStorageRun` fails.
-/

namespace Varnish.Center

/-! ## The runs of one worker -/

/-- A session a worker can take up: a new one from the acceptor, or one that some worker let go
of, coming back at the step `resumeStep` names. -/
inductive Incoming (p : Params) : Sess → Prop
  /-- The acceptor hands over a new session. -/
  | accept {sp : Sess} : Accepted sp → Incoming p sp
  /-- The waiter or the hash layer hands back a session a worker let go of. -/
  | resume {s s' : St} {o : Oracle} {cs : List Call} {st : Step} {n : Nat} :
      Reach p s → dispatch p o s = .release s' cs → resumeStep s'.sp = some st →
      Incoming p (handback s'.sp st n)

/-- The states at which one worker dispatches a handler, over the sessions it serves one after
another. -/
inductive WReach (p : Params) : St → Prop
  /-- A new worker, its scratch empty, takes up a session. -/
  | start {sp : Sess} {x : UInt32} {o : Oracle} {s : St} {cs : List Call} :
      Incoming p sp → sessionEnter o ⟨sp, {}, x⟩ = .cont s cs → WReach p s
  /-- A handler returns `0`. -/
  | dispatch {s s' : St} {o : Oracle} {cs : List Call} :
      WReach p s → dispatch p o s = .cont s' cs → WReach p s'
  /-- A handler returns `1`, and the worker takes up the next session with its scratch as the
  last one left it. -/
  | next {s s' s'' : St} {o o' : Oracle} {cs cs' : List Call} {sp : Sess} {x : UInt32} :
      WReach p s → dispatch p o s = .release s' cs → Incoming p sp →
      sessionEnter o' ⟨sp, s'.wrk, x⟩ = .cont s'' cs' → WReach p s''

/-- A session a worker takes up is a session in its life, whatever the worker. -/
theorem Incoming.reach {p : Params} {sp : Sess} {w : Wrk} {x : UInt32} {o : Oracle} {s : St}
    {cs : List Call} (h : Incoming p sp) (henter : sessionEnter o ⟨sp, w, x⟩ = .cont s cs) :
    Reach p s := by
  cases h with
  | accept hacc => exact .accept hacc henter
  | resume hr hd hst => exact .resume hr hd hst henter

/-- **The runs of one worker are runs of its sessions**: every state at which a worker
dispatches is a state of the session it serves. -/
theorem wreach_reach {p : Params} {s : St} (h : WReach p s) : Reach p s := by
  induction h with
  | start hin henter => exact hin.reach henter
  | dispatch _ hd ih => exact ih.dispatch hd
  | next _ _ hin henter => exact hin.reach henter

/-- A new worker takes up a new connection. -/
theorem wreach_accept (p : Params) : WReach p ⟨{}, {}, 0⟩ :=
  @WReach.start p {} 0 {} _ _
    (.accept ⟨rfl, rfl, rfl, rfl, rfl, rfl, rfl, rfl, rfl, rfl, rfl⟩) rfl

/-- Every state the loop of one worker goes on with is one it dispatches at. -/
theorem wreach_loop {p : Params} {os : List Oracle} {s s' : St} {cs cs' : List Call}
    (h : WReach p s) (hl : loop p os s cs = .cont s' cs') : WReach p s' := by
  induction os generalizing s cs with
  | nil => cases hl; exact h
  | cons o os ih =>
    simp only [loop] at hl
    split at hl
    · exact ih (h.dispatch ‹_›) hl
    · unfold sessionExit ensure at hl; split_ifs at hl
    · cases hl

/-! ## The backend connection -/

/-- The worker holds no backend connection: `wrk->vbc` is `NULL` and `wrk->do_close` is 0. -/
def Unconnected (w : Wrk) : Prop := w.vbc = false ∧ w.doClose = false

/-- Where the backend connection may be open: at `fetchbody`, at `streambody`, and at
`prepresp` only when the delivery streams. -/
def BackendAt : Step → Wrk → Prop
  | .fetchbody, _ | .streambody, _ => True
  | .prepresp, w => (w.vbc || w.doClose) = true → w.busyobj.any (·.doStream) = true
  | _, w => Unconnected w

/-- A worker with no backend connection is where every step allows. -/
theorem backendAt_of_unconnected {w : Wrk} (h : Unconnected w) (st : Step) : BackendAt st w := by
  cases st <;> first | exact h | trivial | exact fun hc => by simp [h.1, h.2] at hc

/-- A handler that neither opens nor keeps a backend connection. -/
def Outcome.Unconnected (out : Outcome) : Prop :=
  out.Sat (fun s _ => Varnish.Center.Unconnected s.wrk) fun s _ => Varnish.Center.Unconnected s.wrk

/-- A handler leaves the backend connection open only where its successor allows, and lets a
session go with none. -/
def Outcome.Closes (out : Outcome) : Prop :=
  out.Sat (fun s _ => BackendAt s.sp.step s.wrk) fun s _ => Varnish.Center.Unconnected s.wrk

theorem Outcome.Unconnected.closes {out : Outcome} (h : out.Unconnected) : out.Closes :=
  Outcome.Sat.imp h (fun _ _ hs => backendAt_of_unconnected hs _) fun _ _ hs => hs

@[simp] theorem unconnected_vdiCloseFd (w : Wrk) : Unconnected (vdiCloseFd w) := ⟨rfl, rfl⟩

@[simp] theorem unconnected_fetchBody (w : Wrk) : Unconnected (fetchBody w) := ⟨rfl, rfl⟩

theorem errorAlloc_unconnected {o : Oracle} {w : Wrk} (h : Unconnected w) :
    Unconnected (errorAlloc o w) := by
  unfold errorAlloc stvNewObject newBusyObj; split_ifs <;> exact h

section Handlers

variable (p : Params) (o : Oracle) {s : St}

theorem cntFirst_unconnected (h : Unconnected s.wrk) : (cntFirst p s).Unconnected := by
  simp only [Outcome.Unconnected, cntFirst, sat_ensure, sat_cont]
  exact fun _ _ _ => h

theorem cntWait_unconnected (h : Unconnected s.wrk) : (cntWait p o s).Unconnected := by
  unfold Outcome.Unconnected cntWait
  simp only [sat_ensure, sat_ite, sat_cont, sat_release]
  intro _ _ _ _
  split_ifs <;> exact h

theorem cntStart_unconnected (h : Unconnected s.wrk) : (cntStart o s).Unconnected :=
  cntStart_sat fun _ _ _ _ _ _ _ _ _ _ _ => h

theorem cntRecv_unconnected (h : Unconnected s.wrk) : (cntRecv p o s).Unconnected :=
  cntRecv_sat fun _ _ _ _ _ _ _ _ => h

theorem cntLookup_unconnected (h : Unconnected s.wrk) : (cntLookup o s).Unconnected :=
  cntLookup_sat (fun _ => h) fun _ _ _ _ _ _ _ =>
    ⟨fun _ _ _ => h, fun _ _ _ => h, fun _ _ _ => h⟩

theorem cntHit_unconnected (h : Unconnected s.wrk) : (cntHit o s).Unconnected := by
  unfold Outcome.Unconnected cntHit
  split
  · trivial
  simp only [sat_ensure]
  intro _
  split
  · trivial
  simp only [sat_ensure, sat_ite, sat_cont]
  intro _
  split_ifs
  · exact fun _ _ => h
  · split <;> first | exact h | trivial

theorem cntMiss_unconnected (h : Unconnected s.wrk) : (cntMiss o s).Unconnected := by
  unfold Outcome.Unconnected cntMiss
  simp only [sat_ensure]
  intro _ _ _ _
  split <;> first | exact h | trivial

theorem cntPass_unconnected (h : Unconnected s.wrk) : (cntPass o s).Unconnected := by
  unfold Outcome.Unconnected cntPass
  simp only [sat_ensure, sat_ite, sat_cont]
  intro _ _
  split_ifs
  exacts [h, fun _ => h]

theorem cntPipe_unconnected (h : Unconnected s.wrk) : (cntPipe o s).Unconnected := by
  unfold Outcome.Unconnected cntPipe
  simp only [sat_ensure, sat_ite, sat_cont]
  intro _
  split_ifs
  exacts [trivial, fun _ => h]

theorem cntDeliver_unconnected (h : Unconnected s.wrk) : (cntDeliver s).Unconnected := by
  unfold Outcome.Unconnected cntDeliver
  split
  exacts [trivial, h]

theorem errorRespond_unconnected (w : Wrk) (ob : Object) (cs : List Call) (h : Unconnected w) :
    (errorRespond p o s w ob cs).Unconnected := by
  unfold Outcome.Unconnected errorRespond
  simp only [sat_ensure, sat_ite, sat_cont]
  split_ifs
  exacts [h, fun _ => h]

theorem cntError_unconnected (h : Unconnected s.wrk) : (cntError p o s).Unconnected := by
  unfold cntError
  split
  · exact errorRespond_unconnected _ _ _ _ _ h
  · dsimp only
    split
    · exact errorAlloc_unconnected h
    · exact errorRespond_unconnected _ _ _ _ _ (errorAlloc_unconnected h)

theorem cntDone_unconnected (h : Unconnected s.wrk) : (cntDone p o s).Unconnected := by
  apply cntDone_sat
  · exact fun _ _ _ => h
  · rintro - - - sp rfl
    exact ⟨fun _ => h, fun _ => ⟨fun _ => h, h, h⟩⟩

theorem fetchCleanup_unconnected (h : Unconnected s.wrk) (cs : List Call) :
    (fetchCleanup s cs).Unconnected := by
  unfold Outcome.Unconnected fetchCleanup
  simp only [sat_ensure]
  intro _
  split <;> first | exact h | trivial

/-- `cnt_fetch` opens the connection for `fetchbody`, and closes it on every other way out. -/
theorem cntFetch_closes (h : Unconnected s.wrk) : (cntFetch o s).Closes := by
  unfold Outcome.Closes cntFetch
  simp only [sat_ensure]
  intro _
  split
  · trivial
  simp only [sat_ensure, sat_ite]
  intro _ _ _ _ _
  split
  · exact (fetchCleanup_unconnected (by exact h) _).closes
  · intro _
    split
    · trivial
    · simp only [sat_ensure, sat_cont]
      exact fun _ => trivial
    · exact (fetchCleanup_unconnected (by simp) _).closes

/-- `cnt_fetchbody` keeps the connection only for a delivery that streams. -/
theorem cntFetchbody_closes : (cntFetchbody p o s).Closes := by
  unfold Outcome.Closes cntFetchbody
  split
  · trivial
  simp only [sat_ensure]
  intro _
  split
  · exact unconnected_vdiCloseFd _
  · simp only [sat_ensure, sat_ite, sat_cont]
    intro _
    split_ifs with hstream
    · exact fun _ => by simpa using hstream
    · exact fun _ => backendAt_of_unconnected ⟨rfl, rfl⟩ _
    · exact fun _ => ⟨rfl, rfl⟩

theorem cntStreambody_closes : (cntStreambody o s).Closes := by
  unfold Outcome.Closes cntStreambody
  simp only [sat_ensure]
  intro _
  split
  · trivial
  · simp only [sat_ensure, sat_cont]
    exact fun _ _ => ⟨rfl, rfl⟩

/-- `cnt_prepresp` goes on to `deliver` only without a connection, and a restart closes one. -/
theorem cntPrepresp_closes (h : BackendAt .prepresp s.wrk) : (cntPrepresp p o s).Closes := by
  have hoff : s.wrk.busyobj.any (·.doStream) = false → Unconnected s.wrk := fun hs => by
    have : (s.wrk.vbc || s.wrk.doClose) = false := by
      cases hc : (s.wrk.vbc || s.wrk.doClose)
      · rfl
      · simp [h hc] at hs
    simpa using this
  apply cntPrepresp_sat
  refine fun _ _ _ => ⟨fun _ _ => trivial, hoff, fun _ _ bo hbo => ?_⟩
  unfold preprespDrop
  split_ifs with hst
  · exact ⟨rfl, rfl⟩
  · exact hoff (by simp [hbo, hst])

end Handlers

/-- Every dispatch leaves the backend connection open only where its successor allows. -/
theorem dispatch_closes (p : Params) (o : Oracle) {s : St} (h : BackendAt s.sp.step s.wrk) :
    (dispatch p o s).Closes := by
  unfold dispatch
  split <;> rename_i hs <;> rw [hs] at h
  · exact (cntWait_unconnected p o h).closes
  · exact (cntFirst_unconnected p h).closes
  · exact (cntRecv_unconnected p o h).closes
  · exact (cntStart_unconnected o h).closes
  · exact (cntPipe_unconnected o h).closes
  · exact (cntPass_unconnected o h).closes
  · exact (cntLookup_unconnected o h).closes
  · exact (cntMiss_unconnected o h).closes
  · exact (cntHit_unconnected o h).closes
  · exact cntFetch_closes o h
  · exact cntFetchbody_closes p o
  · exact cntStreambody_closes o
  · exact cntPrepresp_closes p o h
  · exact (cntDeliver_unconnected h).closes
  · exact (cntError_unconnected p o h).closes
  · exact (cntDone_unconnected p o h).closes

/-- **A worker holds a backend connection only from `cnt_fetch` to the end of the body**: at
every dispatch of one worker, over every sequence of sessions it serves, `wrk->vbc` and
`wrk->do_close` are clear but at `fetchbody`, `streambody`, and a `prepresp` that streams. -/
theorem wreach_backend {p : Params} {s : St} (h : WReach p s) : BackendAt s.sp.step s.wrk := by
  induction h with
  | start _ henter =>
    obtain ⟨-, -, -, hw, -⟩ := sessionEnter_cont henter
    rw [hw]
    exact backendAt_of_unconnected ⟨rfl, rfl⟩ _
  | dispatch _ hd ih => exact (dispatch_closes _ _ ih).of_cont hd
  | next _ hd _ henter ih =>
    obtain ⟨-, -, -, hw, -⟩ := sessionEnter_cont henter
    rw [hw]
    exact backendAt_of_unconnected ((dispatch_closes _ _ ih).of_release hd) _

/-! ## The entry checks -/

/-- The entry checks of the handlers on the session and the worker: at `cnt_fetch` a director
and no backend connection, at `cnt_recv` no object and no director, at `cnt_miss` no object and
a busy objcore, at `cnt_pass` no object, at `cnt_hit` an object whose objcore is no hit-for-pass
marker, at `cnt_start` no restart, no VCL and no object, at `cnt_wait` no VCL and no object, and
at `cnt_done` no object and no backend connection. `cnt_fetch` also checks
`AZ(wrk->h_content_length)` and `AZ(wrk->storage_hint)`, which are not among them. -/
def EntryChecks : Step → St → Prop
  | .fetch, s => s.sp.director = true ∧ s.wrk.vbc = false ∧ s.wrk.doClose = false
  | .recv, s => s.wrk.obj = none ∧ s.sp.director = false
  | .miss, s => s.wrk.obj = none ∧ s.wrk.objcore.isSome
  | .pass, s => s.wrk.obj = none
  | .hit, s => ∃ ob oc, s.wrk.obj = some ob ∧ ob.objcore = some oc ∧ oc.pass = false
  | .start, s => s.sp.restarts = 0 ∧ s.sp.vcl = false ∧ s.wrk.obj = none
  | .wait, s => s.sp.vcl = false ∧ s.wrk.obj = none
  | .done, s => s.wrk.obj = none ∧ s.wrk.vbc = false
  | _, _ => True

/-- **The entry checks of the handlers hold for one worker, session after session**, but for
the two of `cnt_fetch` on the scratch of an earlier fetch, `AZ(wrk->h_content_length)` and
`AZ(wrk->storage_hint)`. -/
theorem wreach_entryChecks {p : Params} {s : St} (h : WReach p s) : EntryChecks s.sp.step s := by
  have he := reach_entry (wreach_reach h)
  have hb := wreach_backend h
  generalize s.sp.step = st at he hb
  cases st
  case fetch => exact ⟨he.1.2, hb.1, hb.2⟩
  case recv => exact ⟨he.2.2, he.2.1⟩
  case miss => exact ⟨he.2.1, he.2.2.1⟩
  case pass => exact he.2
  case hit => exact he.2
  case start => exact ⟨he.1.1, he.1.2.1, he.2⟩
  case wait => exact ⟨he.1.2.1, he.2⟩
  case done => exact ⟨he, hb.1⟩
  all_goals trivial

/-- The first request of a new worker's first session at `cnt_fetch`, passed by `vcl_recv`. -/
def passFetchState : St :=
  ⟨{ step := .fetch, xid := 1, director := true, vcl := true, handling := .pass,
      sendbody := true }, { busyobj := some {}, bereqWs := true }, 1⟩

theorem wreach_entryChecks_fetch :
    WReach {} passFetchState ∧ EntryChecks passFetchState.sp.step passFetchState :=
  have h : WReach {} passFetchState :=
    @wreach_loop {} [{}, {}, {}, { verdict := .pass }, { verdict := .pass }] _ _ [] []
      (wreach_accept {}) (by decide)
  ⟨h, wreach_entryChecks h⟩

end Varnish.Center
