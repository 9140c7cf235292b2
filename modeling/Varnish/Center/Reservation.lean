import Varnish.Center.Graph

/-!
# The workspace reservations of a session

Three handlers reserve the session workspace. `cnt_first` (`HTC_Init`) and `cnt_done`
(`HTC_Reinit`) reserve `http_req_size` bytes of it for the receive buffer, and `HTC_Complete`
ends that reservation, keeping the request, once a whole request is in the buffer: in `cnt_wait`,
in `cnt_done`, or on the waiter, which hands the session back in `start` (`handback`). An error
of `HTC_Rx` in `cnt_wait` discards it. `cnt_lookup` reserves the rest of the workspace for the
vary specification `HSH_Lookup` may write (`lookupReserve`). When the session parks on the
waiting list of a busy objhead, `sp->hash_objhead` is set and the reservation stays, for the
return from the waiting list to use; every other exit gives it back, keeping only a vary
specification for the busyobj of a miss.

* `cntLookup_reservation`: from any state, every non-parking exit of `cnt_lookup` gives the
  reservation back once, keeps `[vary_b, vary_l)` exactly for a miss with a vary specification,
  and clears the vary pointers (`LookupExit`); a park keeps the reservation.
* `reach_reservation`: over every run, with any number of park and resume cycles and of
  hand-overs to the waiter, a reservation is outstanding at a dispatch exactly at `cnt_wait` or
  while the session is parked, and on a session a handler lets go exactly while the waiter holds
  it or it is parked (`Reservation`); inside `cnt_lookup` one is always outstanding.
  `parkedLookupState` is a session back from the waiting list.
* `firstWaitState_reserved`: a new connection at its first `cnt_wait` holds the reservation of its
  receive buffer, outside `cnt_lookup` and not parked.
* `fullWorkspaceRun_varyWrite`: a request whose `vcl_recv` fills the workspace up to two bytes
  reaches `cnt_lookup`, which clears a byte at the end of its reservation.
-/

namespace Varnish.Center

/-! ## The reservation between dispatches -/

/-- The reservation discipline of the session workspace between dispatches, where `rx` says that
the session holds its receive buffer: a reservation is outstanding exactly when it does or it is
parked on a waiting list (`sp->hash_objhead`), only `cnt_lookup` parks a session, and the vary
pointers are `NULL` while it is not parked. -/
structure Reservation (rx : Prop) (sp : Sess) : Prop where
  reserved : sp.ws.r.isSome = true ↔ rx ∨ sp.hashObjhead = true
  parked : sp.hashObjhead = true → sp.step = .lookup
  clear : sp.hashObjhead = false → sp.varyB = none ∧ sp.varyL = none ∧ sp.varyE = none

/-- No reservation, not parked, the vary pointers `NULL`: the session workspace at every step
but `wait` and `lookup`. -/
def Unreserved (sp : Sess) : Prop :=
  sp.ws.r = none ∧ sp.hashObjhead = false ∧
    sp.varyB = none ∧ sp.varyL = none ∧ sp.varyE = none

/-- The receive buffer reserved, not parked, the vary pointers `NULL`: the session workspace at
`wait` and on the waiter. -/
def RxHeld (sp : Sess) : Prop :=
  sp.ws.r.isSome = true ∧ sp.hashObjhead = false ∧
    sp.varyB = none ∧ sp.varyL = none ∧ sp.varyE = none

theorem Unreserved.reservation {rx : Prop} {sp : Sess} (h : Unreserved sp) (hrx : ¬rx) :
    Reservation rx sp :=
  ⟨by simp [h.1, h.2.1, hrx], fun hp => absurd hp (by simp [h.2.1]), fun _ => h.2.2⟩

theorem RxHeld.reservation {rx : Prop} {sp : Sess} (h : RxHeld sp) (hrx : rx) :
    Reservation rx sp :=
  ⟨by simp [h.1, hrx], fun hp => absurd hp (by simp [h.2.1]), fun _ => h.2.2⟩

theorem Reservation.not_parked {rx : Prop} {sp : Sess} (h : Reservation rx sp)
    (hs : sp.step ≠ .lookup) : sp.hashObjhead = false :=
  Bool.eq_false_iff.mpr fun hp => hs (h.parked hp)

theorem Reservation.unreserved {rx : Prop} {sp : Sess} (h : Reservation rx sp) (hrx : ¬rx)
    (hs : sp.step ≠ .lookup) : Unreserved sp := by
  have hp := h.not_parked hs
  exact ⟨by simpa [hp, hrx] using h.reserved, hp, h.clear hp⟩

theorem Reservation.rxHeld {rx : Prop} {sp : Sess} (h : Reservation rx sp) (hrx : rx)
    (hs : sp.step ≠ .lookup) : RxHeld sp := by
  have hp := h.not_parked hs
  exact ⟨h.reserved.mpr (.inl hrx), hp, h.clear hp⟩

/-- The session a worker takes back keeps `Reservation` for the step it comes back at: the
waiter, holding the receive buffer, ends its reservation as it hands the session back in
`start`, and a parked session comes back in `lookup` as it parked. -/
theorem Reservation.resume {sp : Sess} {st : Step} (n : Nat)
    (h : Reservation (resumeStep sp = some .start) sp) (hst : resumeStep sp = some st) :
    Reservation ((handback sp st n).step = .wait) (handback sp st n) := by
  rcases resumeStep_some hst with ⟨-, rfl⟩ | rfl
  · refine ⟨?_, fun _ => rfl, h.clear⟩
    simpa [handback, hst] using h.reserved
  · have hp : sp.hashObjhead = false := Bool.eq_false_iff.mpr fun hp => by
      simp [resumeStep, h.parked hp] at hst
    have hu : Unreserved (handback sp .start n) := ⟨by simp [handback], hp, h.clear hp⟩
    exact hu.reservation (by simp)

/-! ## One dispatch of `cnt_lookup` -/

/-- A non-parking exit of `cnt_lookup` that found `lk`, from the reservation `R` it made or
kept: `R` was outstanding, the session is not parked, the vary pointers are `NULL`, and `R` is
given back once: a miss with a vary specification of `n` bytes keeps `[vary_b, vary_b + n)`
allocated as the new busyobj's vary (`WS_ReleaseP` at `vary_l`), every other exit discards the
whole reservation (`WS_Release`). Both leave no reservation outstanding. -/
def LookupExit (lk : HshLookup) (R : Ws) (s : St) : Prop :=
  R.r.isSome = true ∧ s.sp.hashObjhead = false ∧
    s.sp.varyB = none ∧ s.sp.varyL = none ∧ s.sp.varyE = none ∧
    match lk with
    | .found oc _ (some n) =>
      if oc.busy then s.sp.ws = wsReleaseP R (R.f + n) ∧ s.wrk.busyobj.bind (·.vary) = some R.f
      else s.sp.ws = wsRelease R
    | _ => s.sp.ws = wsRelease R

theorem LookupExit.unreserved {lk : HshLookup} {R : Ws} {s : St} (h : LookupExit lk R s) :
    Unreserved s.sp := by
  obtain ⟨-, hp, hb, hl, he, hws⟩ := h
  refine ⟨?_, hp, hb, hl, he⟩
  split at hws
  · split_ifs at hws
    · rw [hws.1]; rfl
    · rw [hws]; rfl
  · rw [hws]; rfl


/-- **What `cnt_lookup` does with the reservation**: past its checks, every exit that does not
park is a `LookupExit`, and a park keeps the reservation, outstanding, with the session parked
in the step it was dispatched in. -/
theorem cntLookup_reservation (o : Oracle) (s : St) :
    (cntLookup o s).Sat (fun s' _ => LookupExit o.lookup (lookupReserve s.sp).ws s')
      fun s' _ => (lookupReserve s.sp).ws.r.isSome = true ∧ s'.sp.hashObjhead = true ∧
        s'.sp.ws = (lookupReserve s.sp).ws ∧ s'.sp.step = s.sp.step := by
  have hR : (!s.sp.hashObjhead || s.sp.ws.r.isSome) = true →
      (lookupReserve s.sp).ws.r.isSome = true := by
    cases hp : s.sp.hashObjhead <;> simp [lookupReserve, hp, wsReserve]
  unfold cntLookup
  simp only [sat_ensure]
  intro _ _ _ _ hr
  have hR := hR hr
  split
  · exact ⟨hR, rfl, rfl, rfl⟩
  · rename_i oc ob varyLen hlk
    rw [hlk]
    split_ifs with hbusy
    · refine ⟨hR, rfl, rfl, rfl, rfl, ?_⟩
      cases varyLen <;> simp [hbusy, lookupMissWs]
    all_goals
      refine ⟨hR, rfl, rfl, rfl, rfl, ?_⟩
      cases varyLen <;> simp [hbusy]

/-- A request on a new connection whose `vcl_recv` takes all but two bytes of the workspace and
looks it up: `cnt_lookup` clears `vary_b[2]` at the end of its reservation. -/
def fullWorkspaceRun : List Oracle :=
  [{}, {}, {}, { verdict := .lookup, wsTake := 65534 }]

theorem fullWorkspaceRun_varyWrite :
    (match loop {} fullWorkspaceRun ⟨{}, {}, 0⟩ [] with
      | .cont s _ => (s.sp.step, varyWrite s.sp, (lookupReserve s.sp).varyE)
      | _ => (.first, 0, none)) = (.lookup, 65536, some 65536) := by
  decide

/-! ## The handlers that hold no reservation -/

/-- The steps whose handler reserves or gives back a reservation: `first`, `wait`, `lookup` and
`done`. -/
def reserves : Step → Bool
  | .first | .wait | .lookup | .done => true
  | _ => false

theorem reserves_eq_false {st : Step} (hl : st ≠ .lookup) (hw : st ≠ .wait) (hf : st ≠ .first)
    (hd : st ≠ .done) : reserves st = false := by
  cases st <;> first | rfl | contradiction

/-- The handlers that let a session go are among those that `reserve`. -/
theorem releases_of_reserves {st : Step} (h : reserves st = false) : releases st = false := by
  cases st <;> first | rfl | cases h

/-- Only `cnt_first` and `cnt_done` go on to `cnt_wait`. -/
theorem Edge.into_wait {m r r' : Nat} {st : Step} (e : Edge m st r .wait r') :
    st = .first ∨ st = .done := by
  cases e <;> simp

/-- A handler that neither reserves, parks nor sets a vary pointer. -/
def Outcome.Unreserved (out : Outcome) : Prop :=
  out.Sat (fun s _ => Varnish.Center.Unreserved s.sp) fun s _ => Varnish.Center.Unreserved s.sp

theorem unreserved_doneClose {sp : Sess} (h : Unreserved sp) : Unreserved (doneClose sp).1 := by
  unfold doneClose; split <;> (try split) <;> exact h

section Handlers

variable (p : Params) (o : Oracle) {s : St}

theorem cntStart_unreserved (h : Unreserved s.sp) : (cntStart o s).Unreserved := by
  unfold Outcome.Unreserved cntStart
  simp only [sat_ensure, sat_ite, sat_cont]
  intro _ _ _ _
  split_ifs
  · exact h
  · exact h
  · split
    · exact h
    · split_ifs <;> exact h

theorem cntRecv_unreserved (h : Unreserved s.sp) : (cntRecv p o s).Unreserved := by
  unfold Outcome.Unreserved cntRecv
  simp only [sat_ensure, sat_ite, sat_cont]
  intro _ _ _
  split
  · exact h
  · intro _
    split <;> (try split) <;> first | exact h | trivial

theorem cntHit_unreserved (h : Unreserved s.sp) : (cntHit o s).Unreserved := by
  unfold Outcome.Unreserved cntHit
  split
  · trivial
  simp only [sat_ensure]
  intro _
  split
  · trivial
  simp only [sat_ensure, sat_ite, sat_cont]
  intro _
  split_ifs
  · exact fun _ _ => h
  · split <;> first | exact h | trivial

theorem cntMiss_unreserved (h : Unreserved s.sp) : (cntMiss o s).Unreserved := by
  unfold Outcome.Unreserved cntMiss
  simp only [sat_ensure]
  intro _ _ _ _
  split <;> first | exact h | trivial

theorem cntPass_unreserved (h : Unreserved s.sp) : (cntPass o s).Unreserved := by
  unfold Outcome.Unreserved cntPass
  simp only [sat_ensure, sat_ite, sat_cont]
  intro _ _
  split_ifs
  exacts [h, fun _ => h]

theorem cntPipe_unreserved (h : Unreserved s.sp) : (cntPipe o s).Unreserved := by
  unfold Outcome.Unreserved cntPipe
  simp only [sat_ensure, sat_ite, sat_cont]
  intro _
  split_ifs
  exacts [trivial, fun _ => h]

theorem fetchCleanup_unreserved (h : Unreserved s.sp) (cs : List Call) :
    (fetchCleanup s cs).Unreserved := by
  unfold Outcome.Unreserved fetchCleanup
  simp only [sat_ensure]
  intro _
  split <;> first | exact h | trivial

theorem cntFetch_unreserved (h : Unreserved s.sp) : (cntFetch o s).Unreserved := by
  unfold cntFetch
  simp only [Outcome.Unreserved, sat_ensure]
  intro _
  split
  · trivial
  simp only [sat_ensure, sat_ite]
  intro _ _ _ _ _
  split
  · exact fetchCleanup_unreserved (by exact h) _
  · intro _
    split
    · exact h
    · simp only [sat_ensure, sat_cont]
      exact fun _ => h
    · exact fetchCleanup_unreserved (by exact h) _

theorem cntFetchbody_unreserved (h : Unreserved s.sp) : (cntFetchbody p o s).Unreserved := by
  unfold Outcome.Unreserved cntFetchbody
  split
  · trivial
  simp only [sat_ensure]
  intro _
  split
  · exact h
  · simp only [sat_ensure, sat_ite, sat_cont]
    intro _
    split_ifs <;> first | exact h | exact fun _ => h

theorem cntStreambody_unreserved (h : Unreserved s.sp) : (cntStreambody o s).Unreserved := by
  unfold Outcome.Unreserved cntStreambody
  simp only [sat_ensure]
  intro _
  split
  · trivial
  · simp only [sat_ensure, sat_cont]
    exact fun _ _ => h

theorem cntPrepresp_unreserved (h : Unreserved s.sp) : (cntPrepresp p o s).Unreserved :=
  cntPrepresp_sat fun _ _ _ => ⟨fun _ _ => h, fun _ => h, fun _ _ _ _ => h⟩

theorem cntDeliver_unreserved (h : Unreserved s.sp) : (cntDeliver s).Unreserved := by
  unfold Outcome.Unreserved cntDeliver
  split
  exacts [trivial, h]

theorem errorRespond_unreserved (w : Wrk) (ob : Object) (cs : List Call) (h : Unreserved s.sp) :
    (errorRespond p o s w ob cs).Unreserved := by
  unfold Outcome.Unreserved errorRespond
  simp only [sat_ensure, sat_ite, sat_cont]
  split_ifs
  exacts [h, fun _ => h]

theorem cntError_unreserved (h : Unreserved s.sp) : (cntError p o s).Unreserved := by
  unfold cntError
  split
  · exact errorRespond_unreserved _ _ _ _ _ h
  · dsimp only
    split
    · exact h
    · exact errorRespond_unreserved _ _ _ _ _ h

end Handlers

/-- Every dispatch at a step that does not `reserve` keeps the session unreserved. -/
theorem dispatch_unreserved (p : Params) (o : Oracle) {s : St} (h : Unreserved s.sp)
    (hs : reserves s.sp.step = false) : (dispatch p o s).Unreserved := by
  unfold dispatch
  split <;> rename_i hst <;> rw [hst] at hs <;> cases hs
  · exact cntRecv_unreserved p o h
  · exact cntStart_unreserved o h
  · exact cntPipe_unreserved o h
  · exact cntPass_unreserved o h
  · exact cntMiss_unreserved o h
  · exact cntHit_unreserved o h
  · exact cntFetch_unreserved o h
  · exact cntFetchbody_unreserved p o h
  · exact cntStreambody_unreserved o h
  · exact cntPrepresp_unreserved p o h
  · exact cntDeliver_unreserved h
  · exact cntError_unreserved p o h

/-! ## The receive buffer -/

section Handlers

variable (p : Params) (o : Oracle) {s : St}

/-- `cnt_first` reserves the receive buffer (`HTC_Init`) and goes on to `cnt_wait`. -/
theorem cntFirst_reservation (h : Unreserved s.sp) :
    (cntFirst p s).Sat (fun s' _ => RxHeld s'.sp ∧ s'.sp.step = .wait) fun _ _ => False := by
  simp only [cntFirst, sat_ensure, sat_cont]
  exact fun _ _ _ => ⟨⟨by simp, h.2.1, h.2.2⟩, trivial⟩

/-- `cnt_wait` hands a session holding its receive buffer to the waiter as it is, or ends the
reservation: `HTC_Complete` keeps the request, an error of `HTC_Rx` discards it. -/
theorem cntWait_reservation (h : RxHeld s.sp) :
    (cntWait p o s).Sat (fun s' _ => Unreserved s'.sp ∧ s'.sp.step ≠ .wait)
      fun s' _ => RxHeld s'.sp ∧ s'.sp.step = s.sp.step :=
  cntWait_sat fun _ _ _ _ =>
    ⟨⟨h, rfl⟩, fun _ => ⟨⟨by simp, h.2.1, h.2.2⟩, by simp⟩, fun _ => ⟨⟨rfl, h.2.1, h.2.2⟩, by simp⟩⟩

/-- `cnt_done` reserves the receive buffer anew (`HTC_Reinit`) for a connection it keeps: the
session goes on holding it to `cnt_wait`, goes to the waiter holding it, or, with a request
already received, goes on to `cnt_start` without it. A session it lets go otherwise holds no
reservation. -/
theorem cntDone_reservation (h : Unreserved s.sp) (hs : s.sp.step = .done) :
    (cntDone p o s).Sat (fun s' _ => Reservation (s'.sp.step = .wait) s'.sp)
      fun s' _ => Reservation (resumeStep s'.sp = some .start) s'.sp := by
  apply cntDone_sat
  · intro _ _ hesi
    exact Unreserved.reservation h (by simp [resumeStep, hs, Nat.pos_iff_ne_zero.mp hesi])
  · rintro - - he sp hsp
    have hu : Unreserved sp := by rw [← hsp]; exact unreserved_doneClose h
    have hst : sp.step = .done ∧ sp.esiLevel = 0 := by rw [← hsp]; exact ⟨by simpa, by simpa⟩
    have hrx : ∀ st, RxHeld
        { sp with ws := htcReserve (wsReset sp.ws sp.wsSes) p.httpReqSize, step := st } :=
      fun _ => ⟨by simp, hu.2.1, hu.2.2⟩
    refine ⟨fun hfd => hu.reservation (by simp [resumeStep, hst.1, Int.not_le.mpr hfd]),
      fun hfd => ⟨fun _ => Unreserved.reservation ⟨by simp, hu.2.1, hu.2.2⟩ (by simp),
        (hrx _).reservation rfl, (hrx _).reservation (by simp [resumeStep, hst.1, hst.2, hfd])⟩⟩

end Handlers

/-! ## Every run -/

/-- Every dispatch keeps `Reservation`: at its successor the receive buffer is held at
`cnt_wait`, and on a session it lets go while the waiter holds it, to hand it back in
`start`. -/
theorem dispatch_reservation (p : Params) (o : Oracle) {s : St}
    (h : Reservation (s.sp.step = .wait) s.sp) :
    (dispatch p o s).Sat (fun s' _ => Reservation (s'.sp.step = .wait) s'.sp)
      fun s' _ => Reservation (resumeStep s'.sp = some .start) s'.sp := by
  by_cases hl : s.sp.step = .lookup
  · have hd : dispatch p o s = cntLookup o s := by simp only [dispatch, hl]
    rw [hd]
    refine ((cntLookup_reservation o s).and (hd ▸ dispatch_moves p o s)).imp ?_ ?_
    · rintro s' - ⟨he, e⟩
      refine he.unreserved.reservation fun hw => ?_
      rw [hl, hw] at e
      rcases e.into_wait with h | h <;> cases h
    · rintro s' - ⟨⟨hR, hp, hws, -⟩, -, hst, -⟩
      refine ⟨by simp [hws, hR, hp], fun _ => hst.trans hl, fun hp' => absurd hp (by simp [hp'])⟩
  by_cases hw : s.sp.step = .wait
  · have hd : dispatch p o s = cntWait p o s := by simp only [dispatch, hw]
    rw [hd]
    refine (cntWait_reservation p o (h.rxHeld hw hl)).imp (fun _ _ hu => hu.1.reservation hu.2)
      fun _ _ hr => hr.1.reservation ?_
    simp [resumeStep, hr.2, hw]
  have hu := h.unreserved hw hl
  by_cases hf : s.sp.step = .first
  · have hd : dispatch p o s = cntFirst p s := by simp only [dispatch, hf]
    rw [hd]
    exact (cntFirst_reservation p hu).imp (fun _ _ hr => hr.1.reservation hr.2) fun _ _ => False.elim
  by_cases hdn : s.sp.step = .done
  · have hd : dispatch p o s = cntDone p o s := by simp only [dispatch, hdn]
    rw [hd]
    exact cntDone_reservation p o hu hdn
  have hr := reserves_eq_false hl hw hf hdn
  refine ((dispatch_unreserved p o hu hr).and (dispatch_moves p o s)).imp ?_ ?_
  · rintro s' - ⟨hu', e⟩
    refine hu'.reservation fun hw' => ?_
    rw [hw'] at e
    exact e.into_wait.elim hf hdn
  · rintro s' - ⟨-, hrel, -⟩
    rw [releases_of_reserves hr] at hrel
    cases hrel

/-- The entry of `CNT_Session` keeps `Reservation`: it closes only sessions entered in `first`
or `start`, which hold no reservation. -/
theorem sessionEnter_reservation (o : Oracle) {s : St} (h : Reservation (s.sp.step = .wait) s.sp) :
    (sessionEnter o s).Sat (fun s' _ => Reservation (s'.sp.step = .wait) s'.sp)
      fun _ _ => True := by
  unfold sessionEnter
  simp only [sat_ensure]
  intro _ _ _
  split
  · split
    · rename_i hst
      have hw : s.sp.step ≠ .wait := fun hw => by simp [hw] at hst
      have hl : s.sp.step ≠ .lookup := fun hl => by simp [hl] at hst
      exact Unreserved.reservation (by exact h.unreserved hw hl) (by simp)
    · exact h
  · exact h

/-- **The workspace reservations over every run**: at every dispatch, after any number of
waiting-list park and resume cycles and of hand-overs to the waiter, the session workspace holds
a reservation exactly at `cnt_wait`, where it is the receive buffer, or while the session is
parked (`Reservation`); a session a handler lets go holds one exactly while the waiter holds it,
to hand it back in `start`, or it is parked. A dispatch of `cnt_lookup` works inside an
outstanding reservation, keeps it when it parks, and on every other exit gives it back once and
clears the vary pointers (`LookupExit`). -/
theorem reach_reservation {p : Params} {s : St} (h : Reach p s) :
    Reservation (s.sp.step = .wait) s.sp ∧
      (∀ o s' cs, dispatch p o s = .release s' cs →
        Reservation (resumeStep s'.sp = some .start) s'.sp) ∧
      (s.sp.step = .lookup → (lookupReserve s.sp).ws.r.isSome = true ∧
        ∀ o, (dispatch p o s).Sat (fun s' _ => LookupExit o.lookup (lookupReserve s.sp).ws s')
          fun s' _ => s'.sp.hashObjhead = true ∧ s'.sp.ws = (lookupReserve s.sp).ws) := by
  have hinv : Reservation (s.sp.step = .wait) s.sp := by
    induction h with
    | accept hacc henter =>
      exact (sessionEnter_reservation _ (Unreserved.reservation ⟨hacc.reserved,
        hacc.hashObjhead, hacc.varyB, hacc.varyL, hacc.varyE⟩ (by simp [hacc.step]))).of_cont
        henter
    | dispatch _ hd ih => exact (dispatch_reservation _ _ ih).of_cont hd
    | resume _ hd hst henter ih =>
      exact (sessionEnter_reservation _
        (((dispatch_reservation _ _ ih).of_release hd).resume _ hst)).of_cont henter
  refine ⟨hinv, fun o _ _ hd => (dispatch_reservation p o hinv).of_release hd,
    fun hs => ⟨?_, ?_⟩⟩
  · cases hp : s.sp.hashObjhead
    · simp [lookupReserve, hp, wsReserve]
    · simpa [lookupReserve, hp] using hinv.reserved
  · intro o
    have hd : dispatch p o s = cntLookup o s := by simp only [dispatch, hs]
    rw [hd]
    exact (cntLookup_reservation o s).imp (fun _ _ he => he) fun _ _ hp => ⟨hp.2.1, hp.2.2.1⟩

/-- `lookupState` parked on a waiting list and handed back to a worker, holding the rest of its
workspace reserved. -/
def parkedLookupState : St :=
  ⟨{ step := .lookup, xid := 1, director := true, vcl := true, handling := .hash,
      hashObjhead := true, varyB := some 0, varyE := some 65536, ws := { r := some 65536 } },
    {}, 1⟩

theorem reach_reservation_parked :
    Reach {} parkedLookupState ∧ Reservation (parkedLookupState.sp.step = .wait)
      parkedLookupState.sp ∧
      (∀ o s' cs, dispatch {} o parkedLookupState = .release s' cs →
        Reservation (resumeStep s'.sp = some .start) s'.sp) ∧
      (parkedLookupState.sp.step = .lookup →
        (lookupReserve parkedLookupState.sp).ws.r.isSome = true ∧
        ∀ o, (dispatch {} o parkedLookupState).Sat
          (fun s' _ => LookupExit o.lookup (lookupReserve parkedLookupState.sp).ws s')
          fun s' _ => s'.sp.hashObjhead = true ∧
            s'.sp.ws = (lookupReserve parkedLookupState.sp).ws) :=
  have h : Reach {} parkedLookupState :=
    @Reach.resume {} lookupState parkedLookupState parkedLookupState { lookup := .park } {} [] []
      .lookup {} 1 0 (@reach_loop {} [{}, {}, {}, { verdict := .lookup }] _ _ [] []
        (reach_accept {}) (by decide)) (by decide) rfl (by decide)
  ⟨h, reach_reservation h⟩

/-- A new connection at its first `cnt_wait`, holding the receive buffer `cnt_first` reserved. -/
def firstWaitState : St := ⟨{ step := .wait, ws := { r := some 32768 } }, {}, 0⟩

theorem firstWaitState_reserved :
    Reach {} firstWaitState ∧ firstWaitState.sp.step ≠ .lookup ∧
      firstWaitState.sp.hashObjhead = false ∧ firstWaitState.sp.ws.r.isSome = true :=
  ⟨@reach_loop {} [{}] _ _ [] [] (reach_accept {}) (by decide), by decide, rfl, rfl⟩

end Varnish.Center
