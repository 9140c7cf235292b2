import Varnish.Center.Fetch

/-!
# The delivery handlers

`cnt_prepresp` chooses the framing of the response (`responseMode`) and runs `vcl_deliver`;
`cnt_deliver` sends a stored object; `cnt_error` synthesises an error response; `cnt_done`
ends the request and decides the fate of the connection.
-/

namespace Varnish.Center

/-- The first part of `wrk->res_mode` in `cnt_prepresp`: `RES_LEN` when the length is known, then
ESI, ESI child and gunzip delivery, each of which clears `RES_LEN`. -/
def resModeBase (p : Params) (o : Oracle) (sp : Sess) (w : Wrk) (ob : Object) : ResMode :=
  let m : ResMode := if w.busyobj.isNone then { len := true } else {}
  let m := match w.busyobj with
    | some bo =>
      if (w.hContentLength || !bo.doStream) && !bo.doGzip && !bo.doGunzip then
        { m with len := true }
      else m
    | none => m
  let m := if !sp.disableEsi && ob.esidata then { m with len := false, esi := true } else m
  let m := if 0 < sp.esiLevel then { m with len := false, esiChild := true } else m
  if p.httpGzipSupport && ob.gziped && !o.reqGzip then { m with len := false, gunzip := true }
  else m

/-- The framing `cnt_prepresp` chooses in `wrk->res_mode`, in the order of the code: when
`resModeBase` sets none of `RES_LEN`, `RES_CHUNKED` and `RES_EOF`, an empty object that is not
streamed gets a length, a request that wants no body nothing, and the others chunked encoding
from HTTP/1.1 on and the end of the connection before it. -/
def responseMode (p : Params) (o : Oracle) (sp : Sess) (w : Wrk) (ob : Object) : ResMode :=
  let m := resModeBase p o sp w ob
  if m.len || m.chunked || m.eof then m
  else if ob.len == 0 && !w.busyobj.any (·.doStream) then { m with len := true }
  else if !sp.wantbody then m
  else if 11 ≤ sp.http.protover then { m with chunked := true }
  else { m with eof := true }

/-- `sp->doclose` after the framing is chosen: a response delimited by the end of the
connection closes it. -/
def eofDoclose (m : ResMode) (doclose : Option String) : Option String :=
  if m.eof then some "EOF mode" else doclose

/-- How a restart from `vcl_deliver` lets go of the object: a streaming fetch closes the backend
connection and drops the object, which it still holds busy; a stored object is dereferenced. -/
def preprespDrop (w : Wrk) (bo : BusyObj) : Wrk × List Call :=
  if bo.doStream then ((hshDrop (vdiCloseFd w)).1, .vdiCloseFd :: (hshDrop (vdiCloseFd w)).2)
  else ({ w with obj := none }, [.hshDeref])

@[simp] theorem preprespDrop_objcore (w : Wrk) (bo : BusyObj) :
    (preprespDrop w bo).1.objcore = w.objcore := by
  unfold preprespDrop; split <;> rfl

@[simp] theorem preprespDrop_obj (w : Wrk) (bo : BusyObj) : (preprespDrop w bo).1.obj = none := by
  unfold preprespDrop; split <;> rfl

/-- `cnt_prepresp`: choose the framing, run `vcl_deliver`, and go to `streambody` for a
streaming fetch, to `deliver` otherwise; a restart under the cap drops the object. -/
def cntPrepresp (p : Params) (o : Oracle) (s : St) : Outcome :=
  match s.wrk.obj with
  | none => .abort "CHECK_OBJ_NOTNULL(wrk->obj)"
  | some ob =>
    ensure s.sp.vcl "CHECK_OBJ_NOTNULL(sp->vcl)" <|
    let stream := s.wrk.busyobj.any (·.doStream)
    ensure (!stream || passOrBusy ob.objcore) "AssertObjCorePassOrBusy(wrk->obj->objcore)" <|
    let m := responseMode p o s.sp s.wrk ob
    let sp := vclCall o { s.sp with doclose := eofDoclose m s.sp.doclose }
    let w := { s.wrk with resMode := m, respWs := true }
    let route : Outcome :=
      if stream then
        ensure (passOrBusy ob.objcore) "AssertObjCorePassOrBusy(wrk->obj->objcore)" <|
        .cont ⟨{ sp with step := .streambody }, w, s.xids⟩ []
      else .cont ⟨{ sp with step := .deliver }, w, s.xids⟩ []
    match sp.handling with
    | .deliver => route
    | .restart =>
      if p.maxRestarts ≤ sp.restarts then route
      else
        match w.busyobj with
        | none => .abort "NULL wrk->busyobj"
        | some bo =>
          .cont ⟨{ sp with restarts := sp.restarts + 1, director := false, step := .recv },
            { (preprespDrop w bo).1 with hContentLength := false, bereqWs := false,
                                         berespWs := false, respWs := false }, s.xids⟩
            (preprespDrop w bo).2
    | _ => .abort "Illegal action in vcl_deliver{}"

/-- **What `cnt_prepresp` can do**, said once: on an object it holds and with the VCL, it
chooses the framing and runs `vcl_deliver`; it goes on to `streambody` for a streaming fetch whose
objcore is absent or busy, to `deliver` without streaming, and on a restart under the cap to
`recv`, letting go of the object as `preprespDrop` says. -/
theorem cntPrepresp_sat {p : Params} {o : Oracle} {s : St} {P Q : St → List Call → Prop}
    (h : ∀ ob, s.wrk.obj = some ob → s.sp.vcl = true →
      let m := responseMode p o s.sp s.wrk ob
      let sp := vclCall o { s.sp with doclose := eofDoclose m s.sp.doclose }
      let w := { s.wrk with resMode := m, respWs := true }
      (s.wrk.busyobj.any (·.doStream) = true → passOrBusy ob.objcore = true →
        P ⟨{ sp with step := .streambody }, w, s.xids⟩ []) ∧
      (s.wrk.busyobj.any (·.doStream) = false →
        P ⟨{ sp with step := .deliver }, w, s.xids⟩ []) ∧
      (o.verdict = .restart → s.sp.restarts < p.maxRestarts →
        ∀ bo, s.wrk.busyobj = some bo →
        P ⟨{ sp with restarts := s.sp.restarts + 1, director := false, step := .recv },
          { (preprespDrop w bo).1 with hContentLength := false, bereqWs := false,
                                       berespWs := false, respWs := false }, s.xids⟩
          (preprespDrop w bo).2)) :
    (cntPrepresp p o s).Sat P Q := by
  unfold cntPrepresp
  split
  · trivial
  rename_i ob hob
  simp only [sat_ensure, vclCall_handling, vclCall_restarts]
  intro hvcl _
  obtain ⟨hstream, hdeliver, hrestart⟩ := h ob hob hvcl
  split
  · simp only [sat_ensure, sat_ite, sat_cont]
    split
    exacts [hstream ‹_›, hdeliver (Bool.eq_false_iff.mpr ‹_›)]
  · simp only [sat_ensure, sat_ite, sat_cont]
    split
    · split
      exacts [hstream ‹_›, hdeliver (Bool.eq_false_iff.mpr ‹_›)]
    · split
      · trivial
      · exact hrestart ‹_› (by omega) _ ‹_›
  · trivial

/-- `cnt_deliver`: write the stored object and let it go. -/
def cntDeliver (s : St) : Outcome :=
  match s.wrk.obj with
  | none => .abort "NULL wrk->obj"
  | some _ =>
    .cont ⟨{ s.sp with director := false, restarts := 0, step := .done },
      { s.wrk with obj := none, respWs := false }, s.xids⟩ [.hshDeref]

/-- The allocation of `cnt_error`: a new busyobj, then `STV_NewObject` with no hint, and when
that fails, on transient storage. -/
def errorAlloc (o : Oracle) (w : Wrk) : Wrk :=
  let w := stvNewObject (newBusyObj w) none o.newObject
  if o.newObject then w else stvNewObject w (some .transient) o.newObjectTransient

/-- An object `cnt_error` allocates takes over the worker's objcore. -/
theorem errorAlloc_some {o : Oracle} {w : Wrk} {ob : Object} (h : (errorAlloc o w).obj = some ob) :
    (errorAlloc o w).objcore = none ∧ ob.objcore = w.objcore := by
  unfold errorAlloc stvNewObject newBusyObj at *
  split_ifs at h ⊢ <;> cases h <;> simp

/-- `cnt_error` works with a fresh busyobj. -/
@[simp] theorem errorAlloc_busyobj (o : Oracle) (w : Wrk) : (errorAlloc o w).busyobj = some {} := by
  unfold errorAlloc stvNewObject newBusyObj; split_ifs <;> rfl

/-- When both allocations fail, the worker keeps its objcore. -/
theorem errorAlloc_none {o : Oracle} {w : Wrk} (h : (errorAlloc o w).obj = none) :
    (errorAlloc o w).objcore = w.objcore := by
  unfold errorAlloc stvNewObject newBusyObj at *
  split_ifs at h ⊢
  simp_all

/-- The `STV_NewObject` calls of `cnt_error`. -/
def errorAllocCalls (o : Oracle) : List Call :=
  if o.newObject then [.stvNewObject none]
  else [.stvNewObject none, .stvNewObject (some .transient)]

/-- The status `cnt_error` sends: `err_code`, or `501` when that is no three-digit code. -/
def errorStatus (code : Nat) : Nat :=
  if code < 100 || 999 < code then 501 else code

/-- The verdict of `vcl_error` once a restart over the cap is turned into a delivery. -/
def errorHandling (h : Handling) : Handling :=
  if h == .restart then .deliver else h

/-- The part of `cnt_error` after the object exists: fill in its status, run `vcl_error`; a
restart under the cap drops it, otherwise it is delivered and the connection closed. -/
def errorRespond (p : Params) (o : Oracle) (s : St) (w : Wrk) (ob : Object)
    (calls : List Call) : Outcome :=
  let code := errorStatus s.sp.errCode
  let w := { w with obj := some { ob with response := code, reason := s.sp.errReason,
                                          len := o.bodyLen } }
  let sp := vclCall o { s.sp with errCode := code }
  if sp.handling == .restart && sp.restarts < p.maxRestarts then
    .cont ⟨{ sp with director := false, restarts := sp.restarts + 1, step := .recv },
      (hshDrop w).1, s.xids⟩ (calls ++ (hshDrop w).2)
  else
    ensure (errorHandling sp.handling == .deliver) "assert(sp->handling == VCL_RET_DELIVER)" <|
    .cont ⟨{ sp with handling := errorHandling sp.handling, doclose := some "error",
                     wantbody := true, errCode := 0, errReason := none, step := .prepresp },
      { w with bereqWs := false }, s.xids⟩ calls

/-- `cnt_error`: allocate an object for the error response unless the worker holds one (with a
fallback to transient storage, and `"Out of objects"` when both fail), then respond. -/
def cntError (p : Params) (o : Oracle) (s : St) : Outcome :=
  match s.wrk.obj with
  | some ob => errorRespond p o s s.wrk ob []
  | none =>
    let w := errorAlloc o s.wrk
    match w.obj with
    | none =>
      .cont ⟨{ s.sp with doclose := some "Out of objects", director := false, step := .done },
        { w with hContentLength := false, berespWs := false, bereqWs := false }, s.xids⟩
        (errorAllocCalls o)
    | some ob => errorRespond p o s w { ob with xid := s.sp.xid } (errorAllocCalls o)

/-- The `ReqEnd` record of `cnt_done`, written for a request that had an xid. -/
def reqEndCalls (sp : Sess) : List Call :=
  if sp.xid == 0 then [] else [.reqEnd sp.xid]

/-- The orderly close of `cnt_done`: `SES_Close` with `sp->doclose`, when one is set on an open
connection. -/
def doneClose (sp : Sess) : Sess × List Call :=
  match sp.doclose with
  | some r => if 0 ≤ sp.fd then (sesClose sp, [.sesClose r]) else (sp, [])
  | none => (sp, [])

@[simp] theorem doneClose_step (sp : Sess) : (doneClose sp).1.step = sp.step := by
  unfold doneClose; split <;> (try split) <;> rfl

@[simp] theorem doneClose_restarts (sp : Sess) : (doneClose sp).1.restarts = sp.restarts := by
  unfold doneClose; split <;> (try split) <;> rfl

@[simp] theorem doneClose_vcl (sp : Sess) : (doneClose sp).1.vcl = sp.vcl := by
  unfold doneClose; split <;> (try split) <;> rfl

@[simp] theorem doneClose_director (sp : Sess) : (doneClose sp).1.director = sp.director := by
  unfold doneClose; split <;> (try split) <;> rfl

@[simp] theorem doneClose_esiLevel (sp : Sess) : (doneClose sp).1.esiLevel = sp.esiLevel := by
  unfold doneClose; split <;> (try split) <;> rfl

/-- A connection that stays open after `cnt_done`'s close had no `doclose`. -/
theorem doneClose_open {sp : Sess} (h : 0 ≤ (doneClose sp).1.fd) : sp.doclose = none := by
  unfold doneClose at h
  split at h
  · split at h
    · simp at h
    · simp only at h; omega
  · assumption

/-- `cnt_done`: end the request (its `ReqEnd` record when it had an xid), hand the VCL back,
and close the connection, or reset the workspace, reserve the receive buffer again
(`HTC_Reinit`) and go on with a request already received, wait for one, or park the session on
the waiter. -/
def cntDone (p : Params) (o : Oracle) (s : St) : Outcome :=
  ensure s.wrk.obj.isNone "AZ(wrk->obj)" <|
  ensure (!s.wrk.vbc) "AZ(wrk->vbc)" <|
  let sp := { s.sp with director := false, restarts := 0 }
  let w := { s.wrk with busyobj := none }
  if 0 < sp.esiLevel then .release ⟨sp, w, s.xids⟩ []
  else
    let w := { w with vcl := w.vcl || sp.vcl }
    let close := doneClose { sp with vcl := false, xid := 0, hashAlwaysMiss := false,
                                     hashIgnoreBusy := false }
    let sp := close.1
    let calls := reqEndCalls s.sp ++ close.2
    if sp.fd < 0 then .release ⟨sp, w, s.xids⟩ (calls ++ [.sesDelete])
    else
      let sp := { sp with ws := htcReserve (wsReset sp.ws sp.wsSes) p.httpReqSize }
      if o.htcReinit == 1 then
        .cont ⟨{ sp with ws := htcRelease sp.ws o.rxLen, step := .start }, w, s.xids⟩ calls
      else if o.rxbufPending || 0 < p.sessionLinger then
        .cont ⟨{ sp with step := .wait }, w, s.xids⟩ calls
      else .release ⟨sp, w, s.xids⟩ (calls ++ [.poolWait])

/-- **What `cnt_done` can do**, said once: with no object and no backend connection, it lets
an ESI subrequest go; otherwise it closes the session as `doneClose` says and lets it go when
the descriptor is gone; or it reserves the receive buffer anew and goes on with a pipelined
request (`start`), which ends the reservation, waits for one (`wait`), or hands the session to
the waiter. -/
theorem cntDone_sat {p : Params} {o : Oracle} {s : St} {P Q : St → List Call → Prop}
    (hesi : s.wrk.obj = none → s.wrk.vbc = false → 0 < s.sp.esiLevel →
      Q ⟨{ s.sp with director := false, restarts := 0 }, { s.wrk with busyobj := none },
        s.xids⟩ [])
    (hrest : s.wrk.obj = none → s.wrk.vbc = false → s.sp.esiLevel = 0 →
      ∀ sp, (doneClose { s.sp with director := false, restarts := 0, vcl := false, xid := 0,
                                   hashAlwaysMiss := false, hashIgnoreBusy := false }).1 = sp →
      let w := { s.wrk with busyobj := none, vcl := s.wrk.vcl || s.sp.vcl }
      let calls := reqEndCalls s.sp ++
        (doneClose { s.sp with director := false, restarts := 0, vcl := false, xid := 0,
                               hashAlwaysMiss := false, hashIgnoreBusy := false }).2
      let ws := htcReserve (wsReset sp.ws sp.wsSes) p.httpReqSize
      (sp.fd < 0 → Q ⟨sp, w, s.xids⟩ (calls ++ [.sesDelete])) ∧
      (0 ≤ sp.fd →
        (∀ n, P ⟨{ sp with ws := htcRelease ws n, step := .start }, w, s.xids⟩ calls) ∧
        P ⟨{ sp with ws := ws, step := .wait }, w, s.xids⟩ calls ∧
        Q ⟨{ sp with ws := ws }, w, s.xids⟩ (calls ++ [.poolWait]))) :
    (cntDone p o s).Sat P Q := by
  unfold cntDone
  simp only [sat_ensure, Option.isNone_iff_eq_none, Bool.not_eq_true']
  intro hobj hvbc
  by_cases hesi' : 0 < s.sp.esiLevel
  · rw [if_pos hesi']; exact hesi hobj hvbc hesi'
  rw [if_neg hesi']
  generalize doneClose _ = close at hrest ⊢
  have h := hrest hobj hvbc (by omega) _ rfl
  by_cases hfd : close.1.fd < 0
  · rw [if_pos hfd]; exact h.1 hfd
  rw [if_neg hfd]
  have h := h.2 (Int.not_lt.mp hfd)
  split_ifs
  exacts [h.1 _, h.2.1, h.2.2]

end Varnish.Center
