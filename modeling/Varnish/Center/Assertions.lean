import Varnish.Center.Client
import Varnish.Center.Objects
import Varnish.Center.Reservation
import Varnish.Center.Worker

/-!
# The assertions that can fail

`cache_center.c` asserts, at the entry of every handler and around its calls, what it expects
of the session and the worker, and stops with `WRONG` or `INCOMPL` on a verdict it does not
handle. For the runs of one worker (`WReach`) under the verdicts each hook may return
(`legalVerdict`, after §4 of the spec), all of them hold but the nine of `crashes`:

* at `cnt_hit`, `AZ(wrk->bereq->ws)` and `AZ(wrk->beresp->ws)`: when both allocations of
  `cnt_fetchbody` fail, the backend request and response stay set up, and a restart from
  `vcl_error` does not clear them, so a cache hit of the restarted request fails
  (`staleBereqRun`);
* `INCOMPL`, at `cnt_miss` for `restart` and at `cnt_pipe` for `error`;
* at `cnt_fetch`, `AZ(wrk->h_content_length)` and `AZ(wrk->storage_hint)`, which the same failed
  allocation leaves set (`passStorageRun`);
* at `cnt_prepresp`, `AssertObjCorePassOrBusy` and the read of a NULL `wrk->busyobj`, on the
  busyobj of an earlier attempt (`staleStreamRun`, `hitRestartNullRun`);
* on the way out of `CNT_Session` after `cnt_done`, `AZ(wrk->objcore)` (`outOfStorageRun`).

The other assertions rest on the entry checks (`EntryAt`), the objects the worker holds (`Held`),
its backend connection (`BackendAt`), and `Sound`: a session from the acceptor has ESI level 0
and no xid between requests, a fetch works on a fresh busyobj and a busy objcore, and the
workspace is reserved only at `cnt_wait` and while parked.

* `wreach_crashes`: at every dispatch of one worker, under a legal verdict, a turn of the loop of
  `CNT_Session`, the exit checks included, stops only at an assertion `crashes` names for its
  step.
-/

namespace Varnish.Center

/-! ## Legal verdicts and the assertions that fail -/

/-- The verdicts each policy hook may return, after §4 of the spec: `vcl_recv` `lookup`, `pipe`,
`pass` or `error` with `vcl_hash` returning `hash`; `vcl_hit` `deliver`, `pass`, `error` or
`restart`; `vcl_miss` `fetch`, `pass`, `error` or the unimplemented `restart`; `vcl_pass` `pass`
or `error`; `vcl_pipe` `pipe` or `error`; `vcl_fetch` `hit_for_pass`, `deliver`, `restart` or
`error`; `vcl_deliver` and `vcl_error` `deliver` or `restart`. A step without a hook takes
any. -/
def legalVerdict (st : Step) (o : Oracle) : Bool :=
  match st with
  | .recv => [Handling.lookup, .pipe, .pass, .error].contains o.verdict && o.hashVerdict == .hash
  | .hit => [Handling.deliver, .pass, .error, .restart].contains o.verdict
  | .miss => [Handling.fetch, .pass, .error, .restart].contains o.verdict
  | .pass => [Handling.pass, .error].contains o.verdict
  | .pipe => [Handling.pipe, .error].contains o.verdict
  | .fetch => [Handling.hitForPass, .deliver, .restart, .error].contains o.verdict
  | .prepresp | .error => [Handling.deliver, .restart].contains o.verdict
  | _ => true

/-- The assertions that can fail at each step, `cnt_done`'s including the exit checks of
`CNT_Session` after it. -/
def crashes : Step → List String
  | .hit => ["AZ(wrk->bereq->ws)", "AZ(wrk->beresp->ws)"]
  | .miss | .pipe => ["INCOMPL"]
  | .fetch => ["AZ(wrk->h_content_length)", "AZ(wrk->storage_hint)"]
  | .prepresp => ["AssertObjCorePassOrBusy(wrk->obj->objcore)", "NULL wrk->busyobj"]
  | .done => ["AZ(wrk->objcore)"]
  | _ => []

/-- Every assertion the outcome stops at has its message in `ok`. -/
def Outcome.FailsOnly (ok : List String) : Outcome → Prop
  | .abort why => why ∈ ok
  | _ => True

section FailsOnly

variable {ok : List String}

@[simp] theorem failsOnly_cont {s : St} {cs : List Call} :
    (Outcome.cont s cs).FailsOnly ok = True := rfl

@[simp] theorem failsOnly_release {s : St} {cs : List Call} :
    (Outcome.release s cs).FailsOnly ok = True := rfl

@[simp] theorem failsOnly_abort {why : String} : (Outcome.abort why).FailsOnly ok = (why ∈ ok) :=
  rfl

@[simp] theorem failsOnly_ensure {c : Bool} {why : String} {k : Outcome} :
    (ensure c why k).FailsOnly ok = if c then k.FailsOnly ok else why ∈ ok := by
  cases c <;> rfl

@[simp] theorem failsOnly_ite {c : Prop} [Decidable c] {a b : Outcome} :
    (if c then a else b).FailsOnly ok = if c then a.FailsOnly ok else b.FailsOnly ok :=
  apply_ite _ _ _ _

end FailsOnly

/-! ## What the assertions rest on -/

/-- What a fetch works on, beyond the entry checks: at `miss` and `fetch` an absent or busy
objcore and the fresh busyobj of the attempt (`do_esi` clear), at `fetchbody` an absent or busy
objcore, and at `streambody` an object whose objcore is absent or busy. -/
def FetchAt : Step → St → Prop
  | .miss, s | .fetch, s =>
    passOrBusy s.wrk.objcore = true ∧ s.wrk.busyobj.all (!·.doEsi) = true
  | .fetchbody, s => passOrBusy s.wrk.objcore = true
  | .streambody, s => s.wrk.obj.all (passOrBusy ·.objcore) = true
  | _, _ => True

/-- What the assertions of the handlers rest on beyond `EntryAt`, `Held` and `BackendAt`: a
session from the acceptor is no ESI include, has no xid between requests, fetches as `FetchAt`
says, and keeps its workspace as `Reservation` says. -/
structure Sound (s : St) : Prop where
  esiLevel : s.sp.esiLevel = 0
  idle : s.sp.step = .first ∨ s.sp.step = .wait → s.sp.xid = 0
  fetch : FetchAt s.sp.step s
  reservation : Reservation (s.sp.step = .wait) s.sp

@[simp] theorem passOrBusy_markPass (oc : Option ObjCore) :
    passOrBusy (oc.map fun oc => { oc with pass := true }) = passOrBusy oc := by
  cases oc <;> rfl

section Handlers

variable (p : Params) (o : Oracle) (s : St)

/-- A miss of `cnt_lookup` holds the busy objcore `HSH_Lookup` inserted and a new busyobj. -/
theorem cntLookup_fetchAt :
    (cntLookup o s).Sat (fun s' _ => s'.sp.step = .miss → FetchAt .miss s') fun _ _ => True := by
  unfold cntLookup
  simp only [sat_ensure, sat_ite, sat_cont, sat_release]
  intro _ _ _ _ _
  split
  · trivial
  · split_ifs with hb
    · exact fun _ => ⟨by simp [hb], rfl⟩
    all_goals exact fun h => by simp at h

theorem cntMiss_fetchAt (hF : FetchAt .miss s) :
    (cntMiss o s).Sat (fun s' _ => s'.sp.step = .fetch → FetchAt .fetch s') fun _ _ => True := by
  unfold cntMiss
  simp only [sat_ensure]
  intro _ _ _ _
  split
  · exact fun h => by simp at h
  · exact fun h => by simp at h
  · exact fun _ => hF
  all_goals trivial

/-- `cnt_pass` starts a fetch with a fresh busyobj and no objcore. -/
theorem cntPass_fetchAt (hoc : s.wrk.objcore = none) :
    (cntPass o s).Sat (fun s' _ => s'.sp.step = .fetch → FetchAt .fetch s') fun _ _ => True := by
  unfold cntPass
  simp only [sat_ensure, sat_ite, sat_cont]
  intro _ _
  split_ifs
  · exact fun h => by simp at h
  · exact fun _ _ => ⟨by simp [newBusyObj, hoc], rfl⟩

/-- `cnt_fetch` goes on to `fetchbody` with the objcore it checked, marked when `vcl_fetch`
returns `hit_for_pass`. -/
theorem cntFetch_fetchAt (hF : FetchAt .fetch s) :
    (cntFetch o s).Sat (fun s' _ => s'.sp.step = .fetchbody → FetchAt .fetchbody s')
      fun _ _ => True := by
  have hc : ∀ (t : St) cs, (fetchCleanup t cs).Sat
      (fun s' _ => s'.sp.step = .fetchbody → FetchAt .fetchbody s') fun _ _ => True :=
    fun t cs => (fetchCleanup_step t cs).imp
      (fun _ _ h hs => by rcases h with h | h <;> rw [hs] at h <;> cases h) fun _ _ _ => trivial
  unfold cntFetch
  simp only [sat_ensure]
  intro _
  split
  · trivial
  simp only [sat_ensure, sat_ite]
  intro _ _ _ _ _
  split
  · exact hc _ _
  · intro _
    split
    · exact fun _ => (passOrBusy_markPass s.wrk.objcore).trans hF.1
    · simp only [sat_ensure, sat_cont]
      exact fun h _ => h
    · exact hc _ _

/-- `cnt_prepresp` streams only an object whose objcore is absent or busy. -/
theorem cntPrepresp_fetchAt :
    (cntPrepresp p o s).Sat (fun s' _ => s'.sp.step = .streambody → FetchAt .streambody s')
      fun _ _ => True :=
  cntPrepresp_sat fun ob hob _ =>
    ⟨fun _ hp _ => by simpa [hob] using hp, fun _ h => by simp at h,
      fun _ _ _ _ h => by simp at h⟩

/-- `cnt_start` keeps the ESI level, and never lets the session go. -/
theorem cntStart_esiLevel :
    (cntStart o s).Sat (fun s' _ => s'.sp.esiLevel = s.sp.esiLevel) fun _ _ => False := by
  unfold cntStart
  simp only [sat_ensure, sat_ite, sat_cont]
  intro _ _ _ _
  split_ifs <;> (try split) <;> (try split_ifs) <;> exact rfl

end Handlers

/-- Every dispatch of a session that is no ESI include keeps it so. -/
theorem dispatch_esiLevel (p : Params) (o : Oracle) (s : St) (he : s.sp.esiLevel = 0) :
    (dispatch p o s).Sat (fun s' _ => s'.sp.esiLevel = 0) fun s' _ => s'.sp.esiLevel = 0 := by
  by_cases hd : s.sp.step = .done
  · simp only [dispatch, hd]
    refine cntDone_sat (fun _ _ h => absurd he (Nat.pos_iff_ne_zero.1 h)) fun _ _ _ sp hsp => ?_
    have hsp : sp.esiLevel = 0 := by rw [← hsp, doneClose_esiLevel]; exact he
    exact ⟨fun _ => hsp, fun _ => ⟨fun _ => hsp, hsp, hsp⟩⟩
  by_cases hi : includeStep s.sp.step
  · exact (dispatch_keepsClient p o hi fun h => absurd h hd).imp
      (fun _ _ h => h.1.esiLevel.trans he) fun _ _ h => h.1.esiLevel.trans he
  unfold dispatch
  split <;> rename_i hst <;> rw [hst] at hi
  · exact cntWait_sat fun _ _ _ _ => ⟨he, fun _ => he, fun _ => he⟩
  · simp [cntFirst, he]
  · exact absurd rfl hi
  · exact (cntStart_esiLevel o s).imp (fun _ _ h => h.trans he) fun _ _ h => h.elim
  · exact cntPipe_sat fun _ _ => he
  all_goals exact absurd rfl hi

/-- A session goes on to `first` or `wait` only with no xid. -/
theorem dispatch_idleXid {p : Params} {o : Oracle} {s s' : St} {cs : List Call} (hS : Sound s)
    (h : dispatch p o s = .cont s' cs) : s'.sp.step = .first ∨ s'.sp.step = .wait → s'.sp.xid = 0 := by
  have e := dispatch_edge h
  generalize hst : s.sp.step = st at e
  generalize s.sp.restarts = r at e
  generalize s'.sp.restarts = r' at e
  generalize s'.sp.step = st' at e ⊢
  cases e <;> simp only [reduceCtorEq, or_self, false_or, or_false, false_implies,
    true_implies] <;> rw [dispatch, hst] at h
  case firstWait => exact ((cntFirst_xid p s).of_cont h).trans (hS.idle (.inl hst))
  case doneWait => exact (cntDone_xid p o s).of_cont h

/-- A session goes on to the steps of a fetch with what `FetchAt` says. -/
theorem dispatch_fetchAt {p : Params} {o : Oracle} {s s' : St} {cs : List Call} (hS : Sound s)
    (hH : Held s) (h : dispatch p o s = .cont s' cs) : FetchAt s'.sp.step s' := by
  have e := dispatch_edge h
  have hF := hS.fetch
  have hH : HeldAt s.sp.step s := hH
  generalize hst : s.sp.step = st at e hF hH
  generalize s.sp.restarts = r at e
  generalize s'.sp.restarts = r' at e
  generalize hst' : s'.sp.step = st' at e ⊢
  cases e <;> simp only [FetchAt] <;> rw [dispatch, hst] at h
  case lookupMiss => exact (cntLookup_fetchAt o s).of_cont h hst'
  case missFetch => exact (cntMiss_fetchAt o s hF).of_cont h hst'
  case passFetch => exact (cntPass_fetchAt o s hH.1).of_cont h hst'
  case fetchFetchbody => exact (cntFetch_fetchAt o s hF).of_cont h hst'
  case preprespStreambody => exact (cntPrepresp_fetchAt p o s).of_cont h hst'

/-- Every dispatch keeps `Sound`, and lets a session go with ESI level 0 and its workspace as
`Reservation` says. -/
theorem dispatch_sound (p : Params) (o : Oracle) {s : St} (hS : Sound s) (hH : Held s) :
    (dispatch p o s).Sat (fun s' _ => Sound s')
      fun s' _ => s'.sp.esiLevel = 0 ∧ Reservation (resumeStep s'.sp = some .start) s'.sp := by
  have he := dispatch_esiLevel p o s hS.esiLevel
  have hr := dispatch_reservation p o hS.reservation
  cases h : dispatch p o s with
  | cont s' cs =>
    exact ⟨he.of_cont h, dispatch_idleXid hS h, dispatch_fetchAt hS hH h, hr.of_cont h⟩
  | release s' cs => exact ⟨he.of_release h, hr.of_release h⟩
  | abort => trivial

/-- The entry of `CNT_Session` keeps `Sound` for a session it enters at `first`, `start`,
`lookup` or `recv`. -/
theorem sessionEnter_sound {o : Oracle} {s s' : St} {cs : List Call}
    (h : sessionEnter o s = .cont s' cs) (he : s.sp.esiLevel = 0)
    (hx : s.sp.step = .first → s.sp.xid = 0) (hr : Reservation (s.sp.step = .wait) s.sp) :
    Sound s' := by
  obtain ⟨hent, -, -, -, -, hsp⟩ := sessionEnter_cont h
  have hres := (sessionEnter_reservation o hr).of_cont h
  rcases hsp with hsp | hsp
  · simp only [entrance, Bool.or_eq_true, beq_iff_eq] at hent
    refine ⟨by rw [hsp]; exact he, fun hs => ?_, ?_, hres⟩
    · rw [hsp] at hs ⊢
      exact hx (hs.resolve_right fun hw => by simp [hw] at hent)
    · rw [hsp]
      rcases hent with ((h | h) | h) | h <;> rw [h] <;> trivial
  · refine ⟨by rw [hsp]; exact he, fun hs => by rw [hsp] at hs; simp at hs, by rw [hsp]; trivial,
      hres⟩

/-- Over the whole life of a session, `Sound` holds at every dispatch. -/
theorem reach_sound {p : Params} {s : St} (h : Reach p s) : Sound s := by
  induction h with
  | accept hacc henter =>
    exact sessionEnter_sound henter hacc.esiLevel (fun _ => hacc.xid) (Unreserved.reservation
      ⟨hacc.reserved, hacc.hashObjhead, hacc.varyB, hacc.varyL, hacc.varyE⟩ (by simp [hacc.step]))
  | dispatch hr hd ih => exact (dispatch_sound _ _ ih (reach_held hr)).of_cont hd
  | resume hr hd hst henter ih =>
    obtain ⟨he, hres⟩ := (dispatch_sound _ _ ih (reach_held hr)).of_release hd
    refine sessionEnter_sound henter he (fun hs => ?_) ?_
    · rcases resumeStep_some hst with ⟨-, rfl⟩ | rfl <;> simp at hs
    · exact hres.resume _ hst

/-! ## Every handler fails only where `crashes` says -/

section Handlers

variable (p : Params) (o : Oracle) (s : St)

theorem cntFirst_failsOnly (hx : s.sp.xid = 0) (hr : s.sp.restarts = 0)
    (he : s.sp.esiLevel = 0) : (cntFirst p s).FailsOnly (crashes .first) := by
  simp [cntFirst, hx, hr, he]

theorem cntWait_failsOnly (hv : s.sp.vcl = false) (hobj : s.wrk.obj = none)
    (he : s.sp.esiLevel = 0) (hx : s.sp.xid = 0) : (cntWait p o s).FailsOnly (crashes .wait) := by
  unfold cntWait
  simp only [hv, hobj, he, hx, failsOnly_ensure, failsOnly_ite, beq_self_eq_true,
    Option.isNone_none, Bool.not_false, ↓reduceIte]
  split_ifs <;> trivial

theorem cntStart_failsOnly (hr : s.sp.restarts = 0) (hobj : s.wrk.obj = none)
    (hv : s.sp.vcl = false) (he : s.sp.esiLevel = 0) :
    (cntStart o s).FailsOnly (crashes .start) := by
  unfold cntStart
  simp only [hr, hobj, hv, he, failsOnly_ensure, failsOnly_ite, beq_self_eq_true,
    Option.isNone_none, Bool.not_false, ↓reduceIte]
  split_ifs
  · trivial
  · trivial
  · split
    · trivial
    · split_ifs <;> trivial

/-- `cnt_recv` pipes a request of ESI level 0, so its `INCOMPL` does not fire. -/
theorem cntRecv_failsOnly (hv : s.sp.vcl = true) (hobj : s.wrk.obj = none)
    (hd : s.sp.director = false) (he : s.sp.esiLevel = 0) (hl : legalVerdict .recv o) :
    (cntRecv p o s).FailsOnly (crashes .recv) := by
  simp only [legalVerdict, Bool.and_eq_true, beq_iff_eq] at hl
  obtain ⟨hv', hh⟩ := hl
  simp [cntRecv, hv, hobj, hd, he, hh]
  intro _
  revert hv'
  split <;> simp_all

/-- `cnt_lookup` finds the workspace as `Reservation` says: unreserved with the vary pointers
clear, or reserved and parked. -/
theorem cntLookup_failsOnly (hv : s.sp.vcl = true) (hr : Reservation (s.sp.step = .wait) s.sp) :
    (cntLookup o s).FailsOnly (crashes .lookup) := by
  have hc : (s.sp.hashObjhead || s.sp.varyB.isNone) = true ∧
      (s.sp.hashObjhead || s.sp.varyL.isNone) = true ∧
      (s.sp.hashObjhead || s.sp.varyE.isNone) = true ∧
      (!s.sp.hashObjhead || s.sp.ws.r.isSome) = true := by
    cases hp : s.sp.hashObjhead
    · obtain ⟨hb, hl, he⟩ := hr.clear hp
      simp [hb, hl, he]
    · simp [hr.reserved, hp]
  unfold cntLookup
  simp only [hv, hc.1, hc.2.1, hc.2.2.1, hc.2.2.2, failsOnly_ensure, ↓reduceIte]
  split
  · trivial
  · split_ifs <;> trivial

/-- `cnt_hit` fails only on a backend request or response left set up. -/
theorem cntHit_failsOnly (hE : EntryAt .hit s) (hl : legalVerdict .hit o) :
    (cntHit o s).FailsOnly (crashes .hit) := by
  obtain ⟨⟨hv, -⟩, ob, oc, hob, hoc, hpass⟩ := hE
  simp only [legalVerdict] at hl
  simp [cntHit, hob, hv, hoc, hpass, crashes]
  split <;> simp_all

/-- `cnt_miss` fails only on the unimplemented `restart`. -/
theorem cntMiss_failsOnly (hE : EntryAt .miss s) (hl : legalVerdict .miss o) :
    (cntMiss o s).FailsOnly (crashes .miss) := by
  obtain ⟨⟨hv, -⟩, hobj, hoc, hbo⟩ := hE
  simp only [legalVerdict] at hl
  unfold cntMiss
  simp only [hv, hobj, hoc, hbo, vclCall_handling, failsOnly_ensure, Option.isNone_none,
    ↓reduceIte]
  split <;> simp_all [crashes]

theorem cntPass_failsOnly (hv : s.sp.vcl = true) (hobj : s.wrk.obj = none)
    (hl : legalVerdict .pass o) : (cntPass o s).FailsOnly (crashes .pass) := by
  simp only [legalVerdict] at hl
  unfold cntPass
  simp only [hv, hobj, vclCall_handling, failsOnly_ensure, failsOnly_ite, Option.isNone_none,
    ↓reduceIte]
  split_ifs <;> simp_all

/-- `cnt_pipe` fails only on an `error` from `vcl_pipe`, which it does not implement. -/
theorem cntPipe_failsOnly (hv : s.sp.vcl = true) (hl : legalVerdict .pipe o) :
    (cntPipe o s).FailsOnly (crashes .pipe) := by
  simp only [legalVerdict] at hl
  unfold cntPipe
  simp only [hv, vclCall_handling, failsOnly_ensure, failsOnly_ite, ↓reduceIte]
  split_ifs <;> simp_all [crashes]

/-- The clean-up of `cnt_fetch` on a closed backend connection, after a `restart` or an
`error`. -/
theorem fetchCleanup_failsOnly {ok : List String} {t : St} {cs : List Call}
    (hvbc : t.wrk.vbc = false) (hh : t.sp.handling = .restart ∨ t.sp.handling = .error) :
    (fetchCleanup t cs).FailsOnly ok := by
  unfold fetchCleanup
  simp only [hvbc, failsOnly_ensure, Bool.not_false, ↓reduceIte]
  rcases hh with hh | hh <;> simp only [hh] <;> trivial

/-- `cnt_fetch` fails only on the scratch an earlier fetch left in the worker; it runs on a
fresh busyobj and an absent or busy objcore. -/
theorem cntFetch_failsOnly (hE : EntryAt .fetch s) (hw : Unconnected s.wrk)
    (hoc : passOrBusy s.wrk.objcore = true) (hesi : s.wrk.busyobj.all (!·.doEsi) = true)
    (hl : legalVerdict .fetch o) : (cntFetch o s).FailsOnly (crashes .fetch) := by
  obtain ⟨⟨hv, hd⟩, -, hbo⟩ := hE
  obtain ⟨bo, hbo⟩ := Option.isSome_iff_exists.1 hbo
  simp only [hbo, Option.all_some, Bool.not_eq_true'] at hesi
  simp only [legalVerdict] at hl
  unfold cntFetch
  simp only [hv, hbo, hd, hw.1, hw.2, hesi, failsOnly_ensure, failsOnly_ite, Bool.not_false,
    ↓reduceIte]
  split_ifs
  · exact fetchCleanup_failsOnly rfl (.inr rfl)
  · simp only [vclCall_handling]
    split
    · trivial
    · simp [hoc]
    · exact fetchCleanup_failsOnly rfl (by simp_all)
  all_goals simp [crashes]

/-- `cnt_fetchbody` allocates its object with the absent or busy objcore of the fetch. -/
theorem cntFetchbody_failsOnly (hE : EntryAt .fetchbody s)
    (hoc : passOrBusy s.wrk.objcore = true) : (cntFetchbody p o s).FailsOnly (crashes .fetchbody) := by
  obtain ⟨⟨-, hd⟩, hbo, hh⟩ := hE
  obtain ⟨bo, hbo⟩ := Option.isSome_iff_exists.1 hbo
  have hh' : (s.sp.handling == .hitForPass || s.sp.handling == .deliver) = true := by
    rcases hh with hh | hh <;> simp [hh]
  unfold cntFetchbody
  simp only [hbo, hh', failsOnly_ensure, ↓reduceIte]
  split
  · trivial
  · rename_i ob hob
    rw [fetchbodyObject_objcore, (fetchbodyAlloc_some hob).2.1, hoc]
    simp only [hd, failsOnly_ite, failsOnly_ensure, ↓reduceIte]
    split_ifs <;> trivial

/-- `cnt_streambody` delivers an object with an absent or busy objcore. -/
theorem cntStreambody_failsOnly (hE : EntryAt .streambody s)
    (hoc : s.wrk.obj.all (passOrBusy ·.objcore) = true) :
    (cntStreambody o s).FailsOnly (crashes .streambody) := by
  obtain ⟨hd, hobj, hbo⟩ := hE
  obtain ⟨ob, hob⟩ := Option.isSome_iff_exists.1 hobj
  simp only [hob, Option.all_some] at hoc
  unfold cntStreambody
  simp only [hbo, hob, hoc, hd, failsOnly_ensure, ↓reduceIte]
  trivial

/-- `cnt_prepresp` fails only on the busyobj of an earlier attempt. -/
theorem cntPrepresp_failsOnly (hE : EntryAt .prepresp s) (hl : legalVerdict .prepresp o) :
    (cntPrepresp p o s).FailsOnly (crashes .prepresp) := by
  obtain ⟨hv, hobj, -⟩ := hE
  obtain ⟨ob, hob⟩ := Option.isSome_iff_exists.1 hobj
  simp only [legalVerdict] at hl
  unfold cntPrepresp
  simp only [hob, hv, vclCall_handling, failsOnly_ensure, failsOnly_ite, ↓reduceIte]
  split
  · split
    · simp only [failsOnly_ite, failsOnly_ensure]
      split_ifs <;> simp [crashes]
    · simp only [failsOnly_ite, failsOnly_ensure]
      split_ifs <;> (try split) <;> simp [crashes]
    · simp_all
  · simp [crashes]

theorem cntDeliver_failsOnly (hobj : s.wrk.obj.isSome) :
    (cntDeliver s).FailsOnly (crashes .deliver) := by
  obtain ⟨ob, hob⟩ := Option.isSome_iff_exists.1 hobj
  simp [cntDeliver, hob]

/-- `vcl_error`'s `restart` over the cap is a delivery, so its assertion holds. -/
theorem errorRespond_failsOnly {ok : List String} {w : Wrk} {ob : Object} {cs : List Call}
    (hl : legalVerdict .error o) : (errorRespond p o s w ob cs).FailsOnly ok := by
  have hh : errorHandling o.verdict = .deliver := by
    simp [legalVerdict] at hl
    rcases hl with h | h <;> simp [errorHandling, h]
  unfold errorRespond
  simp only [vclCall_handling, hh, failsOnly_ite, failsOnly_ensure, beq_self_eq_true, ↓reduceIte]
  split_ifs <;> trivial

theorem cntError_failsOnly (hl : legalVerdict .error o) :
    (cntError p o s).FailsOnly (crashes .error) := by
  unfold cntError
  split
  · exact errorRespond_failsOnly p o s hl
  · dsimp only
    split
    · trivial
    · exact errorRespond_failsOnly p o s hl

theorem cntDone_failsOnly (hobj : s.wrk.obj = none) (hvbc : s.wrk.vbc = false) :
    (cntDone p o s).FailsOnly (crashes .done) := by
  simp [cntDone, hobj, hvbc]

end Handlers

/-- Every handler, on what the entry checks, `Sound` and `BackendAt` say of its session and
worker, and under a legal verdict, fails only at an assertion `crashes` names for its step. -/
theorem dispatch_failsOnly (p : Params) (o : Oracle) {s : St} (hE : EntryAt s.sp.step s)
    (hS : Sound s) (hB : BackendAt s.sp.step s.wrk) (hl : legalVerdict s.sp.step o) :
    (dispatch p o s).FailsOnly (crashes s.sp.step) := by
  have hF := hS.fetch
  unfold dispatch
  split <;> rename_i hst <;> rw [hst] at hE hF hB hl ⊢
  · exact cntWait_failsOnly p o s hE.1.2.1 hE.2 hS.esiLevel (hS.idle (.inr hst))
  · exact cntFirst_failsOnly p s (hS.idle (.inl hst)) hE.1.1 hS.esiLevel
  · exact cntRecv_failsOnly p o s hE.1 hE.2.2 hE.2.1 hS.esiLevel hl
  · exact cntStart_failsOnly o s hE.1.1 hE.2 hE.1.2.1 hS.esiLevel
  · exact cntPipe_failsOnly o s hE.1.1 hl
  · exact cntPass_failsOnly o s hE.1.1 hE.2 hl
  · exact cntLookup_failsOnly o s hE.1.1 hS.reservation
  · exact cntMiss_failsOnly o s hE hl
  · exact cntHit_failsOnly o s hE hl
  · exact cntFetch_failsOnly o s hE hB hF.1 hF.2 hl
  · exact cntFetchbody_failsOnly p o s hE hF
  · exact cntStreambody_failsOnly o s hE hF
  · exact cntPrepresp_failsOnly p o s hE hl
  · exact cntDeliver_failsOnly s hE
  · exact cntError_failsOnly p o s hl
  · exact cntDone_failsOnly p o s hE hB.1

/-- A session is let go with no object: `cnt_wait` and `cnt_done` check that it holds none, and
`cnt_lookup` parks a request that holds none. -/
theorem dispatch_release_obj {p : Params} {o : Oracle} {s s' : St} {cs : List Call}
    (hE : EntryAt s.sp.step s) (h : dispatch p o s = .release s' cs) : s'.wrk.obj = none := by
  have hrel := (dispatch_release h).1
  generalize hst : s.sp.step = st at hE hrel
  rw [dispatch, hst] at h
  cases st <;> simp only [releases, Bool.false_eq_true] at hrel
  case wait =>
    exact (cntWait_sat (P := fun _ _ => True) (Q := fun s' _ => s'.wrk.obj = none) fun _ hobj _ _ =>
      ⟨hobj, fun _ => trivial, fun _ => trivial⟩).of_release h
  case lookup =>
    exact (cntLookup_sat (P := fun _ _ => True) (Q := fun s' _ => s'.wrk.obj = none) (fun _ => hE.2) fun _ _ _ _ _ _ _ =>
      ⟨fun _ _ _ => trivial, fun _ _ _ => trivial, fun _ _ _ => trivial⟩).of_release h
  case done =>
    exact (cntDone_sat (P := fun _ _ => True) (Q := fun s' _ => s'.wrk.obj = none) (fun hobj _ _ => hobj) fun hobj _ _ _ _ =>
      ⟨fun _ => hobj, fun _ => ⟨fun _ => trivial, trivial, hobj⟩⟩).of_release h

/-! ## One worker fails only where `crashes` says -/

/-- **The assertions that fail**: at every dispatch of one worker, session after session, under
a verdict its hook may return, a turn of the loop of `CNT_Session`, with the checks on the way
out of it, stops only at an assertion that `crashes` names for the step. -/
theorem wreach_crashes {p : Params} {o : Oracle} {s : St} {cs : List Call} (h : WReach p s)
    (hl : legalVerdict s.sp.step o) : (loop p [o] s cs).FailsOnly (crashes s.sp.step) := by
  have hr := wreach_reach h
  have hE := reach_entry hr
  have hd := dispatch_failsOnly p o hE (reach_sound hr) (wreach_backend h) hl
  have hkeep := dispatch_held p o (reach_held hr)
  have hH : HeldAt s.sp.step s := reach_held hr
  simp only [loop]
  cases hdis : dispatch p o s with
  | cont => trivial
  | abort => rw [hdis] at hd; exact hd
  | release s' c =>
    have hrel := (dispatch_release hdis).1
    simp only [sessionExit, dispatch_release_obj hE hdis, hkeep.of_release hdis,
      Option.isNone_none, failsOnly_ensure, failsOnly_release, ↓reduceIte]
    generalize s.sp.step = st at hH hrel ⊢
    cases st <;> simp only [releases, Bool.false_eq_true] at hrel
    case done => simp [crashes]
    all_goals
      have hoc : s.wrk.objcore = none := hH
      simp [hoc]

/-- The request of `staleBereqRun` at `cnt_hit`: restarted by `vcl_error` after both
allocations of `cnt_fetchbody` failed, it holds a cached object with the backend request and
response still set up. -/
def staleBereqState : St :=
  ⟨{ step := .hit, xid := 1, restarts := 1, director := true, vcl := true, handling := .hash,
      errCode := 503 },
    { obj := some { objcore := some ⟨false, false⟩, len := 10 }, busyobj := some {},
      storageHint := some .transient, bereqWs := true, berespWs := true }, 1⟩

/-- A request on a new connection that `vcl_recv` and `vcl_pass` pass and `vcl_fetch` delivers,
whose object `cnt_fetchbody` cannot allocate; `vcl_error` restarts it, and `vcl_recv` looks it
up, `HSH_Lookup` finds it in the cache and `vcl_hit` delivers it. -/
def staleBereqRun : List Oracle :=
  [{}, {}, {}, { verdict := .pass }, { verdict := .pass }, { verdict := .deliver },
    { newObject := false, newObjectTransient := false }, { verdict := .restart },
    { verdict := .lookup }, { lookup := .found ⟨false, false⟩ { len := 10 } none },
    { verdict := .deliver }]

theorem wreach_crashes_staleBereq :
    WReach {} staleBereqState ∧ legalVerdict staleBereqState.sp.step { verdict := .deliver } ∧
      (loop {} [{ verdict := .deliver }] staleBereqState []).FailsOnly
        (crashes staleBereqState.sp.step) :=
  have h : WReach {} staleBereqState :=
    @wreach_loop {} (staleBereqRun.take 10) _ _ []
      [.stvNewObject (some .transient), .stvNewObject (some .transient), .vdiCloseFd,
        .stvNewObject none, .hshDeref] (wreach_accept {}) (by decide)
  ⟨h, rfl, wreach_crashes h rfl⟩

/- `vcl_hit`'s `deliver` stops at the backend request left set up. -/
example : cntSession {} {} staleBereqRun ⟨{}, {}, 0⟩ = .abort "AZ(wrk->bereq->ws)" := by decide

end Varnish.Center
