import Varnish.Center.State

/-!
# The request handlers

The handlers of `cache_center.c` from the first byte of a request to the choice between the
cache and the backend: `cnt_first`, `cnt_wait`, `cnt_start`, `cnt_recv`, `cnt_lookup`,
`cnt_hit`, `cnt_miss`, `cnt_pass` and `cnt_pipe`. Each is translated branch by branch, its
assertions included; a hook verdict the handler does not name ends in its `WRONG` message.

`cnt_lookup` is split in two: `lookupReserve`, the reservation of the workspace for the vary
specification, and the rest; `varyWrite` is the address of the byte it clears.
-/

namespace Varnish.Center

/-- `cnt_first`: record the session watermark, reserve the receive buffer (`HTC_Init`) and wait
for a request. -/
def cntFirst (p : Params) (s : St) : Outcome :=
  ensure (s.sp.xid == 0) "assert(sp->xid == 0)" <|
  ensure (s.sp.restarts == 0) "assert(sp->restarts == 0)" <|
  ensure (s.sp.esiLevel == 0) "AZ(sp->esi_level)" <|
  .cont { s with sp := { s.sp with wsSes := s.sp.ws.f, ws := htcReserve s.sp.ws p.httpReqSize,
                                   step := .wait } } []

/-- The value of `i` in `cnt_wait`: `HTC_Complete`; when it has no request yet and lingering is
on, `poll` the socket and, unless it timed out, `HTC_Rx`. -/
def waitResult (p : Params) (o : Oracle) : Int :=
  if o.htcComplete == 0 && 0 < p.sessionLinger then
    if o.poll != 0 then o.htcRx else 0
  else o.htcComplete

/-- Why `cnt_wait` closes the session on the error `i`. -/
def waitCloseReason (o : Oracle) (i : Int) : String :=
  if i == -2 then "overflow"
  else if i == -1 && o.rxbufEmpty && o.errnoEof then "EOF" else "error"

/-- `cnt_wait`: a complete request goes to `start`, its bytes kept out of the receive buffer
(`HTC_Complete`); a timeout hands the session to the waiter with the buffer still reserved; an
error of `HTC_Rx`, which gives the buffer back, closes the session. -/
def cntWait (p : Params) (o : Oracle) (s : St) : Outcome :=
  ensure (!s.sp.vcl) "AZ(sp->vcl)" <|
  ensure s.wrk.obj.isNone "AZ(wrk->obj)" <|
  ensure (s.sp.esiLevel == 0) "AZ(sp->esi_level)" <|
  ensure (s.sp.xid == 0) "assert(sp->xid == 0)" <|
  let i := waitResult p o
  if i == 0 then .release s [.poolWait]
  else if i == 1 then
    .cont { s with sp := { s.sp with ws := htcRelease s.sp.ws o.rxLen, step := .start } } []
  else
    .cont { s with sp := { sesClose s.sp with ws := wsRelease s.sp.ws, step := .done } }
      [.sesClose (waitCloseReason o i)]

/-- **What `cnt_wait` can do**, said once: on an idle session with no object and no xid, it
hands the session to the waiter as it is, goes on to `start` with the request it received, or
gives the receive buffer back, closes the session and goes to `done`. -/
theorem cntWait_sat {p : Params} {o : Oracle} {s : St} {P Q : St → List Call → Prop}
    (h : s.sp.vcl = false → s.wrk.obj = none → s.sp.esiLevel = 0 → s.sp.xid = 0 →
      Q s [.poolWait] ∧
        (∀ n, P { s with sp := { s.sp with ws := htcRelease s.sp.ws n, step := .start } } []) ∧
        ∀ r, P { s with sp := { sesClose s.sp with ws := wsRelease s.sp.ws, step := .done } }
          [.sesClose r]) :
    (cntWait p o s).Sat P Q := by
  unfold cntWait
  simp only [sat_ensure, sat_ite, sat_cont, sat_release, beq_iff_eq, Option.isNone_iff_eq_none,
    Bool.not_eq_true']
  intro h1 h2 h3 h4
  obtain ⟨hherd, hstart, hclose⟩ := h h1 h2 h3 h4
  split_ifs
  exacts [hherd, hstart _, hclose _]

/-- `cnt_start`: assign the xid `++xids` of the shared counter as it reads it, borrow the VCL,
dissect the request, handle `Expect:`. -/
def cntStart (o : Oracle) (s : St) : Outcome :=
  ensure (s.sp.restarts == 0) "AZ(sp->restarts)" <|
  ensure s.wrk.obj.isNone "AZ(wrk->obj)" <|
  ensure (!s.sp.vcl) "AZ(sp->vcl)" <|
  ensure (s.sp.esiLevel == 0) "AZ(sp->esi_level)" <|
  let xids := o.xidsRead.getD s.xids + 1
  let s : St := ⟨{ s.sp with xid := xids, vcl := true, http := o.req },
    { s.wrk with vcl := false }, xids⟩
  if o.dissect == 400 then
    .cont { s with sp := { sesClose s.sp with step := .done } } [.sesClose "junk"]
  else
    let sp := { s.sp with wsReq := s.sp.ws.f }
    if o.dissect != 0 then
      .cont { s with sp := { sp with errCode := o.dissect, step := .error } } []
    else
      let sp := { sp with doclose := o.doConnection }
      match sp.http.expect with
      | none => .cont { s with sp := { sp with step := .recv } } []
      | some e =>
        if e.toLower != "100-continue" then
          .cont { s with sp := { sp with errCode := 417, step := .error } } []
        else
          let sp := { sp with http := { sp.http with expect := none } }
          .cont { s with sp := { sp with step := .recv } } []

/-- **What `cnt_start` can do**, said once: past its checks on an idle session with no object,
it takes the xid after the counter it reads, holds the VCL, keeps the restart counter and the director, leaves the
worker as it was but for its VCL reference, and goes to `done` after closing a junk request, or
to `error` or `recv` with no calls. -/
theorem cntStart_sat {o : Oracle} {s : St} {P Q : St → List Call → Prop}
    (h : s.sp.restarts = 0 → s.wrk.obj = none → s.sp.vcl = false → s.sp.esiLevel = 0 →
      ∀ sp cs, sp.xid = o.xidsRead.getD s.xids + 1 → sp.vcl = true →
        sp.restarts = s.sp.restarts →
        sp.director = s.sp.director →
        (sp.step = .done ∧ cs = [.sesClose "junk"] ∨ (sp.step = .error ∨ sp.step = .recv) ∧
          cs = []) →
        P ⟨sp, { s.wrk with vcl := false }, o.xidsRead.getD s.xids + 1⟩ cs) :
    (cntStart o s).Sat P Q := by
  unfold cntStart
  simp only [sat_ensure, sat_ite, sat_cont, beq_iff_eq, Option.isNone_iff_eq_none,
    Bool.not_eq_true']
  intro h1 h2 h3 h4
  have k := h h1 h2 h3 h4
  split_ifs
  · exact k _ _ rfl rfl rfl rfl (.inl ⟨rfl, rfl⟩)
  · exact k _ _ rfl rfl rfl rfl (.inr ⟨.inl rfl, rfl⟩)
  · split
    · exact k _ _ rfl rfl rfl rfl (.inr ⟨.inr rfl, rfl⟩)
    · split_ifs
      exacts [k _ _ rfl rfl rfl rfl (.inr ⟨.inl rfl, rfl⟩),
        k _ _ rfl rfl rfl rfl (.inr ⟨.inr rfl, rfl⟩)]

/-- The status `cnt_recv` gives a request over the restart cap: the one a hook set, else 503. -/
def restartsErrCode (code : Nat) : Nat := if code == 0 then 503 else code

/-- `cnt_recv`: run `vcl_recv`, enforce `max_restarts`, run `vcl_hash`, and go where
`vcl_recv` said. -/
def cntRecv (p : Params) (o : Oracle) (s : St) : Outcome :=
  ensure s.sp.vcl "CHECK_OBJ_NOTNULL(sp->vcl)" <|
  ensure s.wrk.obj.isNone "AZ(wrk->obj)" <|
  ensure (!s.sp.director) "AZ(sp->director)" <|
  let sp := vclCall o
    { s.sp with director := true, disableEsi := o.disableEsi, hashAlwaysMiss := o.hashAlwaysMiss,
                hashIgnoreBusy := o.hashIgnoreBusy, ws := wsTake s.sp.ws o.wsTake }
  if p.maxRestarts ≤ sp.restarts then
    .cont { s with sp := { sp with errCode := restartsErrCode sp.errCode, step := .error } } []
  else
    ensure (o.hashVerdict == .hash) "assert(sp->handling == VCL_RET_HASH)" <|
    let sp' := { sp with handling := .hash, wantbody := sp.http.method != "HEAD",
                         sendbody := false }
    match sp.handling with
    | .lookup => .cont { s with sp := { sp' with step := .lookup } } []
    | .pipe =>
      if 0 < sp.esiLevel then .abort "INCOMPL"
      else .cont { s with sp := { sp' with step := .pipe } } []
    | .pass => .cont { s with sp := { sp' with step := .pass } } []
    | .error => .cont { s with sp := { sp' with step := .error } } []
    | _ => .abort "Illegal action in vcl_recv{}"

/-- **What `cnt_recv` can do**, said once: with the VCL, no object and no director, it runs
`vcl_recv` and takes a director; over the cap it goes to `error`, under it to `lookup`, `pipe`,
`pass` or `error` as `vcl_recv` said, with the worker as it was and no calls. -/
theorem cntRecv_sat {p : Params} {o : Oracle} {s : St} {P Q : St → List Call → Prop}
    (h : s.sp.vcl = true → s.wrk.obj = none → s.sp.director = false →
      ∀ sp, sp.vcl = true → sp.director = true → sp.restarts = s.sp.restarts →
        (sp.step = .error ∨ s.sp.restarts < p.maxRestarts ∧
          (sp.step = .lookup ∨ sp.step = .pipe ∨ sp.step = .pass ∨ sp.step = .error)) →
        P ⟨sp, s.wrk, s.xids⟩ []) :
    (cntRecv p o s).Sat P Q := by
  unfold cntRecv
  simp only [sat_ensure, sat_ite, sat_cont, vclCall_restarts, Option.isNone_iff_eq_none,
    Bool.not_eq_true']
  intro hv ho hd
  have k := h hv ho hd
  split
  · exact k _ hv rfl rfl (.inl rfl)
  · intro _
    split
    · exact k _ hv rfl rfl (.inr ⟨by omega, .inl rfl⟩)
    · split
      exacts [trivial, k _ hv rfl rfl (.inr ⟨by omega, .inr (.inl rfl)⟩)]
    · exact k _ hv rfl rfl (.inr ⟨by omega, .inr (.inr (.inl rfl))⟩)
    · exact k _ hv rfl rfl (.inl rfl)
    · trivial

/-- The start of `cnt_lookup`: a fresh entry reserves the rest of the workspace, a return from
the waiting list keeps its reservation; `vary_b` and `vary_e` bound it. -/
def lookupReserve (sp : Sess) : Sess :=
  let ws := if sp.hashObjhead then sp.ws else wsReserve sp.ws
  { sp with ws, varyB := some ws.f, varyE := ws.r }

/-- The address of the byte `cnt_lookup` clears, `sp->vary_b[2]`. -/
def varyWrite (sp : Sess) : Nat := (lookupReserve sp).ws.f + 2

/-- The workspace after a miss in `cnt_lookup`: the vary specification `HSH_Lookup` wrote,
`[vary_b, vary_l)`, stays allocated; without one the reservation is given back. -/
def lookupMissWs (sp : Sess) : Ws :=
  match sp.varyL with
  | some l => wsReleaseP sp.ws l
  | none => wsRelease sp.ws

/-- `cnt_lookup`: look the digest up; park on a busy objhead, or go to `miss` with the busy
objcore `HSH_Lookup` inserted, or to `hit`, or to `pass` on a hit-for-pass object. -/
def cntLookup (o : Oracle) (s : St) : Outcome :=
  ensure s.sp.vcl "CHECK_OBJ_NOTNULL(sp->vcl)" <|
  ensure (s.sp.hashObjhead || s.sp.varyB.isNone) "AZ(sp->vary_b)" <|
  ensure (s.sp.hashObjhead || s.sp.varyL.isNone) "AZ(sp->vary_l)" <|
  ensure (s.sp.hashObjhead || s.sp.varyE.isNone) "AZ(sp->vary_e)" <|
  ensure (!s.sp.hashObjhead || s.sp.ws.r.isSome) "AN(sp->ws->r)" <|
  let sp := lookupReserve s.sp
  match o.lookup with
  | .park => .release { s with sp := { sp with hashObjhead := true } } []
  | .found oc ob varyLen =>
    let sp := { sp with hashObjhead := false, varyL := varyLen.map (sp.ws.f + ·) }
    if oc.busy then
      .cont ⟨{ sp with ws := lookupMissWs sp, varyB := none, varyL := none, varyE := none,
                       step := .miss },
        { s.wrk with objcore := some oc,
                     busyobj := some { vary := sp.varyL.map fun _ => sp.ws.f } }, s.xids⟩ []
    else
      let sp := { sp with ws := wsRelease sp.ws, varyB := none, varyL := none, varyE := none }
      if oc.pass then
        .cont ⟨{ sp with step := .pass }, { s.wrk with obj := none, objcore := none }, s.xids⟩
          [.hshDeref]
      else
        .cont ⟨{ sp with step := .hit },
          { s.wrk with obj := some { ob with objcore := some oc } }, s.xids⟩ []

/-- **What `cnt_lookup` can do**, said once: with the VCL, it parks the session on a busy
object, or goes on with what `HSH_Lookup` found, keeping the VCL, the director and the restart
counter: to `miss` with the busy objcore and a new busyobj, to `pass` dropping a hit-for-pass
object, or to `hit` with the object. -/
theorem cntLookup_sat {o : Oracle} {s : St} {P Q : St → List Call → Prop}
    (hpark : s.sp.vcl = true →
      Q { s with sp := { lookupReserve s.sp with hashObjhead := true } } [])
    (hfound : s.sp.vcl = true → ∀ (oc : ObjCore) (ob : Object) (sp : Sess),
      sp.vcl = s.sp.vcl → sp.director = s.sp.director → sp.restarts = s.sp.restarts →
      (oc.busy = true → sp.step = .miss → ∀ bo,
        P ⟨sp, { s.wrk with objcore := some oc, busyobj := some bo }, s.xids⟩ []) ∧
      (oc.busy = false → oc.pass = true → sp.step = .pass →
        P ⟨sp, { s.wrk with obj := none, objcore := none }, s.xids⟩ [.hshDeref]) ∧
      (oc.busy = false → oc.pass = false → sp.step = .hit →
        P ⟨sp, { s.wrk with obj := some { ob with objcore := some oc } }, s.xids⟩ [])) :
    (cntLookup o s).Sat P Q := by
  unfold cntLookup
  simp only [sat_ensure, sat_ite, sat_cont, sat_release]
  intro hv _ _ _ _
  split
  · exact hpark hv
  · rename_i oc ob _ _
    have k := hfound hv oc ob
    split_ifs with hbusy hpass
    · refine (k _ ?_ ?_ ?_).1 hbusy ?_ _ <;> rfl
    · refine (k _ ?_ ?_ ?_).2.1 (by simpa using hbusy) hpass ?_ <;> rfl
    · refine (k _ ?_ ?_ ?_).2.2 (by simpa using hbusy) (by simpa using hpass) ?_ <;> rfl

/-- `cnt_hit`: run `vcl_hit` on the object found; anything but `deliver` drops it. -/
def cntHit (o : Oracle) (s : St) : Outcome :=
  match s.wrk.obj with
  | none => .abort "CHECK_OBJ_NOTNULL(wrk->obj)"
  | some ob =>
    ensure s.sp.vcl "CHECK_OBJ_NOTNULL(sp->vcl)" <|
    match ob.objcore with
    | none => .abort "NULL wrk->obj->objcore"
    | some oc =>
      ensure (!oc.pass) "assert(!(wrk->obj->objcore->flags & OC_F_PASS))" <|
      let sp := vclCall o s.sp
      if sp.handling == .deliver then
        ensure (!s.wrk.bereqWs) "AZ(wrk->bereq->ws)" <|
        ensure (!s.wrk.berespWs) "AZ(wrk->beresp->ws)" <|
        .cont { s with sp := { sp with step := .prepresp } } []
      else
        let w := { s.wrk with obj := none, objcore := none, busyobj := none }
        match sp.handling with
        | .pass => .cont ⟨{ sp with step := .pass }, w, s.xids⟩ [.hshDeref]
        | .error => .cont ⟨{ sp with step := .error }, w, s.xids⟩ [.hshDeref]
        | .restart =>
          .cont ⟨{ sp with director := false, restarts := sp.restarts + 1, step := .recv }, w,
            s.xids⟩ [.hshDeref]
        | _ => .abort "Illegal action in vcl_hit{}"

/-- **What `cnt_hit` can do**, said once: on an object it holds, with an objcore that is no
hit-for-pass marker, and with the VCL, it runs `vcl_hit`; it goes on to `prepresp` with the
object when the backend request and response are gone, and otherwise drops the object, the
objcore and the busyobj for `pass`, `error` or a restart. -/
theorem cntHit_sat {o : Oracle} {s : St} {P Q : St → List Call → Prop}
    (h : ∀ ob oc, s.wrk.obj = some ob → ob.objcore = some oc → oc.pass = false →
      s.sp.vcl = true →
      let w := { s.wrk with obj := none, objcore := none, busyobj := none }
      (o.verdict = .deliver → s.wrk.bereqWs = false → s.wrk.berespWs = false →
        P { s with sp := { vclCall o s.sp with step := .prepresp } } []) ∧
      (o.verdict = .pass → P ⟨{ vclCall o s.sp with step := .pass }, w, s.xids⟩ [.hshDeref]) ∧
      (o.verdict = .error → P ⟨{ vclCall o s.sp with step := .error }, w, s.xids⟩ [.hshDeref]) ∧
      (o.verdict = .restart →
        P ⟨{ vclCall o s.sp with director := false, restarts := s.sp.restarts + 1, step := .recv },
          w, s.xids⟩ [.hshDeref])) :
    (cntHit o s).Sat P Q := by
  unfold cntHit
  split
  · trivial
  rename_i ob hob
  simp only [sat_ensure]
  intro hv
  split
  · trivial
  rename_i oc hoc
  simp only [sat_ensure, sat_ite, sat_cont, vclCall_handling, beq_iff_eq, Bool.not_eq_true']
  intro hp
  obtain ⟨hd, hpass, herr, hres⟩ := h ob oc hob hoc hp hv
  split_ifs with hdel
  · simpa using hd hdel
  · split <;> rename_i hv'
    exacts [hpass hv', herr hv', hres hv', trivial]

/-- `cnt_miss`: build the backend request and run `vcl_miss`; `pass` and `error` drop the busy
objcore, `restart` is not implemented. -/
def cntMiss (o : Oracle) (s : St) : Outcome :=
  ensure s.sp.vcl "CHECK_OBJ_NOTNULL(sp->vcl)" <|
  ensure s.wrk.obj.isNone "AZ(wrk->obj)" <|
  ensure s.wrk.objcore.isSome "AN(wrk->objcore)" <|
  ensure s.wrk.busyobj.isSome "CHECK_OBJ_NOTNULL(wrk->busyobj)" <|
  let w := { s.wrk with bereqWs := true }
  let sp := vclCall o s.sp
  match sp.handling with
  | .error => .cont ⟨{ sp with step := .error }, { w with objcore := none, bereqWs := false },
      s.xids⟩ [.hshDeref]
  | .pass => .cont ⟨{ sp with step := .pass }, { w with objcore := none }, s.xids⟩ [.hshDeref]
  | .fetch => .cont ⟨{ sp with step := .fetch }, w, s.xids⟩ []
  | .restart => .abort "INCOMPL"
  | _ => .abort "Illegal action in vcl_miss{}"

/-- `cnt_pass`: build the pass request and run `vcl_pass`; `pass` creates a fresh busyobj for
the fetch. -/
def cntPass (o : Oracle) (s : St) : Outcome :=
  ensure s.sp.vcl "CHECK_OBJ_NOTNULL(sp->vcl)" <|
  ensure s.wrk.obj.isNone "AZ(wrk->obj)" <|
  let sp := vclCall o s.sp
  if sp.handling == .error then
    .cont ⟨{ sp with step := .error }, { s.wrk with bereqWs := false }, s.xids⟩ []
  else
    ensure (sp.handling == .pass) "assert(sp->handling == VCL_RET_PASS)" <|
    .cont ⟨{ sp with sendbody := true, step := .fetch },
      newBusyObj { s.wrk with bereqWs := true }, s.xids⟩ []

/-- `cnt_pipe`: run `vcl_pipe` and hand the connection to `PipeSession`, which shuttles bytes
until one end closes. -/
def cntPipe (o : Oracle) (s : St) : Outcome :=
  ensure s.sp.vcl "CHECK_OBJ_NOTNULL(sp->vcl)" <|
  let sp := vclCall o s.sp
  if sp.handling == .error then .abort "INCOMPL"
  else
    ensure (sp.handling == .pipe) "assert(sp->handling == VCL_RET_PIPE)" <|
    .cont ⟨{ sesClose sp with step := .done }, { s.wrk with bereqWs := false }, s.xids⟩
      [.pipeSession]

/-- **What `cnt_pipe` can do**, said once: with the VCL and a `pipe` verdict, it runs
`PipeSession`, which closes the connection, and goes to `done`. -/
theorem cntPipe_sat {o : Oracle} {s : St} {P Q : St → List Call → Prop}
    (h : s.sp.vcl = true → o.verdict = .pipe →
      P ⟨{ sesClose (vclCall o s.sp) with step := .done }, { s.wrk with bereqWs := false },
        s.xids⟩ [.pipeSession]) :
    (cntPipe o s).Sat P Q := by
  unfold cntPipe
  simp only [sat_ensure, sat_ite, sat_cont, vclCall_handling, beq_iff_eq]
  intro hv
  split_ifs
  exacts [trivial, h hv]

end Varnish.Center
