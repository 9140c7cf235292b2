import Varnish.Center.Request

/-!
# The fetch handlers

`cnt_fetch` reads the backend response headers and runs `vcl_fetch`; `cnt_fetchbody` decides
how the body is stored, allocates the object and, unless it streams, fetches the body;
`cnt_streambody` fetches a streamed body while it is delivered.

The encoding negotiation of `cnt_fetchbody` is `negotiate`; `negotiate_eq` gives its result in
closed form.
-/

namespace Varnish.Center

/-- The result of `FetchHdr`, retried once when the first attempt says the recycled
connection was closed (`1`). -/
def fetchHdrResult (o : Oracle) : Int :=
  if o.fetchHdr == 1 then o.fetchHdrRetry else o.fetchHdr

/-- The calls of `cnt_fetch`'s clean-up: `HSH_Deref` of the busy objcore, if one is held. -/
def derefObjcore (w : Wrk) (calls : List Call) : List Call :=
  if w.objcore.isSome then calls ++ [.hshDeref] else calls

/-- The end of `cnt_fetch` when the body is not fetched: give up the busy objcore, clear the
request's fetch state and go on as `sp->handling` says. -/
def fetchCleanup (s : St) (calls : List Call) : Outcome :=
  ensure (!s.wrk.vbc) "AZ(wrk->vbc)" <|
  let w := { s.wrk with objcore := none, bereqWs := false, berespWs := false,
                        hContentLength := false, storageHint := none }
  let sp := { s.sp with director := false }
  match sp.handling with
  | .restart =>
    .cont ⟨{ sp with restarts := sp.restarts + 1, step := .recv }, w, s.xids⟩
      (derefObjcore s.wrk calls)
  | .error => .cont ⟨{ sp with step := .error }, w, s.xids⟩ (derefObjcore s.wrk calls)
  | _ => .abort "Illegal action in vcl_fetch{}"

/-- The clean-up of `cnt_fetch` goes on only to `recv` or `error`. -/
theorem fetchCleanup_step (s : St) (calls : List Call) :
    (fetchCleanup s calls).Sat (fun s' _ => s'.sp.step = .recv ∨ s'.sp.step = .error)
      fun _ _ => True := by
  unfold fetchCleanup
  simp only [sat_ensure]
  intro _
  split
  exacts [.inl rfl, .inr rfl, trivial]

/-- The busyobj `vcl_fetch` sees and leaves: `RFC2616_Ttl`'s TTL, negative for a pass, then
`beresp.ttl` and `beresp.do_*` as the hook set them. -/
def fetchBusyobj (o : Oracle) (w : Wrk) (bo : BusyObj) : BusyObj :=
  let ttl : Int := if w.objcore.isNone then -1 else o.rfcTtl
  { bo with ttl := o.vclTtl.getD ttl, doStream := o.doStream, doGzip := o.doGzip,
            doGunzip := o.doGunzip, doEsi := o.doEsi }

/-- `cnt_fetch`: fetch the backend response headers, note the TTL (negative for a pass) and run
`vcl_fetch`, which may set `beresp.do_*`, `beresp.ttl` and `beresp.storage`. -/
def cntFetch (o : Oracle) (s : St) : Outcome :=
  ensure s.sp.vcl "CHECK_OBJ_NOTNULL(sp->vcl)" <|
  match s.wrk.busyobj with
  | none => .abort "CHECK_OBJ_NOTNULL(wrk->busyobj)"
  | some bo =>
    ensure s.sp.director "AN(sp->director)" <|
    ensure (!s.wrk.vbc) "AZ(wrk->vbc)" <|
    ensure (!s.wrk.hContentLength) "AZ(wrk->h_content_length)" <|
    ensure (!s.wrk.doClose) "AZ(wrk->do_close)" <|
    ensure s.wrk.storageHint.isNone "AZ(wrk->storage_hint)" <|
    let w := { s.wrk with berespWs := true }
    if fetchHdrResult o != 0 then
      fetchCleanup ⟨{ s.sp with handling := .error, errCode := 503 }, w, s.xids⟩ []
    else
      let w := { w with vbc := true, hContentLength := o.contentLength, doClose := o.doClose }
      ensure (!bo.doEsi) "AZ(wrk->busyobj->do_esi)" <|
      let sp := vclCall o { s.sp with errCode := o.status }
      let w := { w with busyobj := some (fetchBusyobj o w bo), storageHint := o.storage }
      match sp.handling with
      | .hitForPass =>
        .cont ⟨{ sp with step := .fetchbody },
          { w with objcore := w.objcore.map fun oc => { oc with pass := true } }, s.xids⟩ []
      | .deliver =>
        ensure (passOrBusy w.objcore) "AssertObjCorePassOrBusy(wrk->objcore)" <|
        .cont ⟨{ sp with step := .fetchbody }, w, s.xids⟩ []
      | _ => fetchCleanup ⟨sp, vdiCloseFd w, s.xids⟩ [.vdiCloseFd]

/-- The encoding negotiation of `cnt_fetchbody`: which of `beresp.do_gzip` and
`beresp.do_gunzip` survive the backend `Content-Encoding:` (`gzip`, absent, or other), and the
body filter they select, ESI first. -/
def negotiate (gzipSupport : Bool) (ce : Option String) (bo : BusyObj) : BusyObj :=
  let bo := if gzipSupport then bo else { bo with doGzip := false, doGunzip := false }
  let bo := { bo with isGzip := ce.any fun c : String => c.toLower == "gzip",
                      isGunzip := ce.isNone }
  let bo := if bo.doGunzip && !bo.isGzip then { bo with doGunzip := false } else bo
  let bo := if bo.doGzip && !bo.isGunzip then { bo with doGzip := false } else bo
  let vfp : Option Vfp := if bo.doEsi then some .esi else if bo.doGunzip then some .gunzip
    else if bo.doGzip then some .gzip else if bo.isGzip then some .testgzip else bo.vfp
  { bo with vfp }

/-- The filter `cnt_fetchbody` installs: ESI first, then gunzip, gzip and the gzip test. -/
def vfpFor (doEsi doGunzip doGzip isGzip : Bool) (vfp : Option Vfp) : Option Vfp :=
  if doEsi then some .esi else if doGunzip then some .gunzip else if doGzip then some .gzip
  else if isGzip then some .testgzip else vfp

/-- What the negotiation computes: gzip only with `http_gzip_support` and a response without
`Content-Encoding`, gunzip only with it and a gzip'ed response. -/
theorem negotiate_eq (g : Bool) (ce : Option String) (bo : BusyObj) :
    negotiate g ce bo =
      { bo with doGzip := g && bo.doGzip && ce.isNone,
                doGunzip := g && bo.doGunzip && ce.any (fun c => c.toLower == "gzip"),
                isGzip := ce.any (fun c => c.toLower == "gzip"), isGunzip := ce.isNone,
                vfp := vfpFor bo.doEsi
                  (g && bo.doGunzip && ce.any (fun c => c.toLower == "gzip"))
                  (g && bo.doGzip && ce.isNone) (ce.any (fun c => c.toLower == "gzip"))
                  bo.vfp } := by
  unfold negotiate vfpFor
  generalize ce.any (fun c => c.toLower == "gzip") = G
  generalize ce.isNone = N
  obtain ⟨_, gz, gu, _, _, _, _, _, _, _, _⟩ := bo
  cases g <;> cases gz <;> cases gu <;> cases G <;> cases N <;> rfl

@[simp] theorem negotiate_ttl (gzipSupport : Bool) (ce : Option String) (bo : BusyObj) :
    (negotiate gzipSupport ce bo).ttl = bo.ttl := by
  rw [negotiate_eq]

/-- The plan of `cnt_fetchbody` before the object exists: a pass gets a negative TTL whatever
VCL did, the encoding is negotiated, and ESI, an ESI child or a request without a body turn
streaming off. -/
def fetchbodyPlan (p : Params) (o : Oracle) (s : St) (bo : BusyObj) : BusyObj :=
  let bo := if s.wrk.objcore.isNone then { bo with ttl := -1 } else bo
  let bo := negotiate p.httpGzipSupport o.contentEncoding bo
  if bo.doEsi || 0 < s.sp.esiLevel || !s.sp.wantbody then { bo with doStream := false } else bo

/-- A pass is fetched with a negative TTL, whatever `vcl_fetch` set. -/
theorem fetchbodyPlan_ttl {p : Params} {o : Oracle} {s : St} {bo : BusyObj}
    (h : s.wrk.objcore = none) : (fetchbodyPlan p o s bo).ttl = -1 := by
  unfold fetchbodyPlan
  simp only [h, Option.isNone_none, ↓reduceIte]
  split_ifs <;> simp

/-- A plan that streams is for an object with no ESI processing, fetched for a request that wants
the body and is no ESI include. -/
theorem fetchbodyPlan_doStream {p : Params} {o : Oracle} {s : St} {bo : BusyObj}
    (h : (fetchbodyPlan p o s bo).doStream = true) :
    (fetchbodyPlan p o s bo).doEsi = false ∧ s.sp.esiLevel = 0 ∧ s.sp.wantbody = true := by
  unfold fetchbodyPlan at *
  dsimp only at h ⊢
  generalize negotiate p.httpGzipSupport o.contentEncoding _ = b at h ⊢
  by_cases hc : (b.doEsi || decide (0 < s.sp.esiLevel) || !s.sp.wantbody) = true
  · rw [if_pos hc] at h; cases h
  · rw [if_neg hc]
    simpa [and_assoc] using hc

/-- The storage hint of `cnt_fetchbody`: transient for a short-lived object or a pass, else
what `vcl_fetch` chose. -/
def fetchbodyHint (p : Params) (s : St) (bo : BusyObj) : Option Hint :=
  if bo.ttl < p.shortlived || s.wrk.objcore.isNone then some .transient else s.wrk.storageHint

/-- A pass is stored on transient storage. -/
theorem fetchbodyHint_pass {p : Params} {s : St} {bo : BusyObj} (h : s.wrk.objcore = none) :
    fetchbodyHint p s bo = some .transient := by
  simp [fetchbodyHint, h]

/-- The allocation of `cnt_fetchbody`: `STV_NewObject` under the hint, and when that fails, on
transient storage. The hint stays in `wrk->storage_hint`. -/
def fetchbodyAlloc (o : Oracle) (s : St) (hint : Option Hint) : Wrk :=
  let w := { s.wrk with storageHint := hint }
  if o.newObject then stvNewObject w hint true
  else stvNewObject w (some .transient) o.newObjectTransient

/-- An object `cnt_fetchbody` allocates takes over the worker's objcore, under the hint or on
transient storage. -/
theorem fetchbodyAlloc_some {o : Oracle} {s : St} {hint : Option Hint} {ob : Object}
    (h : (fetchbodyAlloc o s hint).obj = some ob) :
    (fetchbodyAlloc o s hint).objcore = none ∧ ob.objcore = s.wrk.objcore ∧
      (ob.storage = hint ∨ ob.storage = some .transient) := by
  unfold fetchbodyAlloc at *
  split_ifs at h ⊢ <;> obtain ⟨hok, rfl⟩ := stvNewObject_obj_eq_some h
  · exact ⟨by simp [hok], rfl, .inl rfl⟩
  · exact ⟨by simp [hok], rfl, .inr rfl⟩

/-- When both allocations fail, the worker keeps its objcore and the hint. -/
theorem fetchbodyAlloc_none {o : Oracle} {s : St} {hint : Option Hint}
    (h : (fetchbodyAlloc o s hint).obj = none) :
    (fetchbodyAlloc o s hint).objcore = s.wrk.objcore ∧
      (fetchbodyAlloc o s hint).storageHint = hint := by
  unfold fetchbodyAlloc at *
  split_ifs at h ⊢ <;> rw [stvNewObject_obj_eq_none h] <;> exact ⟨rfl, rfl⟩

/-- The `STV_NewObject` calls of `cnt_fetchbody`. -/
def fetchbodyAllocCalls (o : Oracle) (hint : Option Hint) : List Call :=
  if o.newObject then [.stvNewObject hint]
  else [.stvNewObject hint, .stvNewObject (some .transient)]

/-- The expiry after the allocation: a salvaged object is short-lived, with no grace or keep. -/
def fetchbodyExp (p : Params) (o : Oracle) (bo : BusyObj) : BusyObj :=
  if o.newObject then bo else { bo with ttl := min bo.ttl p.shortlived, grace := 0, keep := 0 }

/-- The salvage keeps a negative TTL. -/
theorem fetchbodyExp_ttl {p : Params} {o : Oracle} {bo : BusyObj} (h : bo.ttl = -1) :
    (fetchbodyExp p o bo).ttl = -1 := by
  unfold fetchbodyExp
  split_ifs
  · exact h
  · simp only [h]; omega

@[simp] theorem fetchbodyExp_doStream (p : Params) (o : Oracle) (bo : BusyObj) :
    (fetchbodyExp p o bo).doStream = bo.doStream := by
  unfold fetchbodyExp; split_ifs <;> rfl

@[simp] theorem fetchbodyExp_doEsi (p : Params) (o : Oracle) (bo : BusyObj) :
    (fetchbodyExp p o bo).doEsi = bo.doEsi := by
  unfold fetchbodyExp; split_ifs <;> rfl

/-- The object `cnt_fetchbody` fills in: gzip'ed when it is stored compressed, with the xid and
the backend status. -/
def fetchbodyObject (s : St) (bo : BusyObj) (ob : Object) : Object :=
  { ob with gziped := bo.doGzip || (bo.isGzip && !bo.doGunzip), xid := s.sp.xid,
            response := s.sp.errCode }

@[simp] theorem fetchbodyObject_objcore (s : St) (bo : BusyObj) (ob : Object) :
    (fetchbodyObject s bo ob).objcore = ob.objcore := rfl

@[simp] theorem fetchbodyObject_storage (s : St) (bo : BusyObj) (ob : Object) :
    (fetchbodyObject s bo ob).storage = ob.storage := rfl

/-- Streaming is off when a `304` can be sent instead. -/
def fetchbodyCond (o : Oracle) (s : St) (ob : Object) (bo : BusyObj) : BusyObj :=
  if ob.response == 200 && s.sp.http.conds && o.doCond then { bo with doStream := false } else bo

@[simp] theorem fetchbodyCond_doEsi (o : Oracle) (s : St) (ob : Object) (bo : BusyObj) :
    (fetchbodyCond o s ob bo).doEsi = bo.doEsi := by
  unfold fetchbodyCond; split <;> rfl

theorem fetchbodyCond_doStream {o : Oracle} {s : St} {ob : Object} {bo : BusyObj}
    (h : (fetchbodyCond o s ob bo).doStream = true) : bo.doStream = true := by
  unfold fetchbodyCond at h; split at h <;> simp_all

@[simp] theorem fetchbodyCond_ttl (o : Oracle) (s : St) (ob : Object) (bo : BusyObj) :
    (fetchbodyCond o s ob bo).ttl = bo.ttl := by
  unfold fetchbodyCond; split <;> rfl

/-- The end of a fetched body in `cnt_fetchbody`: a cacheable object is inserted in the expiry
lists and unbusied. -/
def fetchbodyPublish (ob : Object) : Object × List Call :=
  if ob.objcore.isSome then (hshUnbusy ob, [.expInsert, .hshUnbusy]) else (ob, [])

theorem fetchbodyPublish_of_none {ob : Object} (h : ob.objcore = none) :
    fetchbodyPublish ob = (ob, []) := by
  simp [fetchbodyPublish, h]

/-- `cnt_fetchbody`: negotiate the encoding, pick the storage, allocate the object (falling
back to short-lived transient storage), and fetch the body unless it streams. -/
def cntFetchbody (p : Params) (o : Oracle) (s : St) : Outcome :=
  match s.wrk.busyobj with
  | none => .abort "CHECK_OBJ_NOTNULL(wrk->busyobj)"
  | some bo =>
    ensure (s.sp.handling == .hitForPass || s.sp.handling == .deliver)
      "assert(sp->handling == VCL_RET_HIT_FOR_PASS || sp->handling == VCL_RET_DELIVER)" <|
    let bo := fetchbodyPlan p o s bo
    let hint := fetchbodyHint p s bo
    let w := fetchbodyAlloc o s hint
    let calls := fetchbodyAllocCalls o hint
    let bo := fetchbodyExp p o bo
    match w.obj with
    | none =>
      .cont ⟨{ s.sp with errCode := 503, step := .error },
        vdiCloseFd { w with busyobj := some bo }, s.xids⟩ (calls ++ [.vdiCloseFd])
    | some ob =>
      let ob := fetchbodyObject s bo ob
      let bo := fetchbodyCond o s ob bo
      let w := { w with obj := some ob, storageHint := none, busyobj := some bo }
      ensure (passOrBusy ob.objcore) "AssertObjCorePassOrBusy(wrk->obj->objcore)" <|
      if bo.doStream then .cont ⟨{ s.sp with step := .prepresp }, w, s.xids⟩ calls
      else
        let w := { fetchBody w with hContentLength := false, bereqWs := false, berespWs := false,
                                    busyobj := some { bo with vfp := none } }
        ensure s.sp.director "AN(sp->director)" <|
        if o.fetchBody then
          let ob := { ob with len := o.bodyLen, esidata := o.esidata }
          .cont ⟨{ s.sp with step := .prepresp }, { w with obj := some (fetchbodyPublish ob).1 },
            s.xids⟩ (calls ++ (fetchbodyPublish ob).2)
        else
          .cont ⟨{ s.sp with errCode := 503, step := .error }, (hshDrop w).1, s.xids⟩
            (calls ++ (hshDrop w).2)

/-- The end of `cnt_streambody`: a fetched, cacheable object is inserted and unbusied, and
then dropped from the worker; anything else closes the connection. -/
def streamEnd (o : Oracle) (sp : Sess) (ob : Object) : Option String × List Call :=
  if o.fetchBody && ob.objcore.isSome then (sp.doclose, [.expInsert, .hshUnbusy, .hshDeref])
  else (some "Stream error", [.hshDeref])

theorem streamEnd_of_none {o : Oracle} {sp : Sess} {ob : Object} (h : ob.objcore = none) :
    (streamEnd o sp ob).2 = [.hshDeref] := by
  simp [streamEnd, h]

/-- `cnt_streambody`: fetch the body while delivering it; publish the object when the fetch
succeeded and it is cacheable, otherwise close the connection (`"Stream error"`). -/
def cntStreambody (o : Oracle) (s : St) : Outcome :=
  ensure s.wrk.busyobj.isSome "CHECK_OBJ_NOTNULL(wrk->busyobj)" <|
  match s.wrk.obj with
  | none => .abort "NULL wrk->obj"
  | some ob =>
    ensure (passOrBusy ob.objcore) "AssertObjCorePassOrBusy(wrk->obj->objcore)" <|
    let w := { fetchBody s.wrk with
      hContentLength := false, bereqWs := false, berespWs := false,
      busyobj := s.wrk.busyobj.map fun bo : BusyObj => { bo with vfp := none } }
    ensure s.sp.director "AN(sp->director)" <|
    .cont ⟨{ s.sp with doclose := (streamEnd o s.sp ob).1, director := false, restarts := 0,
                       step := .done }, { w with obj := none, respWs := false }, s.xids⟩
      (streamEnd o s.sp ob).2

end Varnish.Center
