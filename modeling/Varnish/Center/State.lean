import Mathlib.Data.List.Basic

/-!
# The state of the session engine

`cache_center.c` pushes one client session through a fixed set of steps (`Step`), one handler
`cnt_*` a step, each handler mutating the session (`struct sess`, here `Sess`) and the scratch
of the worker thread that runs it (`struct worker`, here `Wrk`) and naming the next step. This
module holds that state, with the fields the handlers read or write and nothing else:

* `Sess`, `Wrk`, and the session workspace `Ws` with its reservation;
* the objects of the hash and storage layers the handlers hold: `ObjCore`, `Object`, and the
  `BusyObj` of a fetch in progress;
* `Oracle`: what one dispatch learns from outside the state engine, the verdict of the policy
  hook it runs and the result of every collaborator it calls. A theorem over every oracle is a
  theorem over every legal and illegal verdict and every collaborator outcome;
* `Outcome`: what a handler returns, `0` (`cont`), `1` (`release`), or a failed assertion
  (`abort`), with the calls into the hash, expiry, storage and session layers it made;
* `Outcome.Sat P Q`: `P` of the state a handler goes on with, `Q` of the one it lets go of; the
  invariants of the later modules are stated with it and proved by walking a handler's branches;
* the few collaborators whose effect on this state the handlers rely on (`wsReserve`,
  `htcReserve`, `stvNewObject`, `hshDrop`, ...), modelled from the spec.

Pointers become `Option`s or flags; a flag stands for a pointer the handlers only test against
`NULL`. The counter `xids` is the code's `unsigned`, a `UInt32`.
-/

namespace Varnish.Center

/-- The steps of `tbl/steps.h`, one for each handler `cnt_*`. -/
inductive Step
  | wait | first | recv | start | pipe | pass | lookup | miss | hit | fetch | fetchbody
  | streambody | prepresp | deliver | error | done
  deriving DecidableEq, Repr

/-- `VCL_RET_*`: what a policy hook leaves in `sp->handling`. -/
inductive Handling
  | deliver | error | fetch | hash | hitForPass | lookup | pass | pipe | restart
  deriving DecidableEq, Repr

/-- A storage hint: `TRANSIENT_STORAGE`, or a storage named by `beresp.storage`. -/
inductive Hint
  | transient
  | named (name : String)
  deriving DecidableEq, Repr

/-- The body filter a fetch installs in `busyobj->vfp`. -/
inductive Vfp
  | esi | gunzip | gzip | testgzip
  deriving DecidableEq, Repr

/-- The flags of an objcore the handlers test. -/
structure ObjCore where
  /-- `OC_F_BUSY`: a fetch for it is in progress. -/
  busy : Bool
  /-- `OC_F_PASS`: a hit-for-pass marker. -/
  pass : Bool
  deriving DecidableEq, Repr

/-- A cached or synthesised object, `struct object`. -/
structure Object where
  objcore : Option ObjCore := none
  gziped : Bool := false
  /-- `esidata != NULL`. -/
  esidata : Bool := false
  len : Nat := 0
  xid : UInt32 := 0
  /-- The status of the object's response headers. -/
  response : Nat := 0
  /-- The reason phrase; `none` is the default message of the status. -/
  reason : Option String := none
  /-- The storage hint `STV_NewObject` allocated it under. -/
  storage : Option Hint := none
  deriving DecidableEq, Repr

/-- `struct busyobj`: the record of a fetch, from the lookup or `cnt_pass` to the end of the
body. It starts zeroed, as `New_BusyObj` and the hash layer allocate it. -/
structure BusyObj where
  doStream : Bool := false
  doGzip : Bool := false
  doGunzip : Bool := false
  doEsi : Bool := false
  isGzip : Bool := false
  isGunzip : Bool := false
  vfp : Option Vfp := none
  /-- Start of the vary specification in the session workspace. -/
  vary : Option Nat := none
  ttl : Int := 0
  grace : Int := 0
  keep : Int := 0
  deriving DecidableEq, Repr

/-- The bits of `wrk->res_mode`. -/
structure ResMode where
  len : Bool := false
  chunked : Bool := false
  eof : Bool := false
  esi : Bool := false
  esiChild : Bool := false
  gunzip : Bool := false
  deriving DecidableEq, Repr

/-- A workspace, `struct ws`: memory `[s, e)`, free from `f`, reserved up to `r` while a
reservation is outstanding. -/
structure Ws where
  s : Nat := 0
  f : Nat := 0
  r : Option Nat := none
  e : Nat := 65536
  deriving DecidableEq, Repr

/-- The request facts the handlers read from `sp->http`. -/
structure Req where
  method : String := "GET"
  protover : Nat := 11
  /-- The request is conditional (`http->conds`). -/
  conds : Bool := false
  /-- The `Expect:` header. -/
  expect : Option String := none
  deriving DecidableEq, Repr

/-- `struct sess`: the session, which outlives requests and workers. -/
structure Sess where
  step : Step := .first
  xid : UInt32 := 0
  restarts : Nat := 0
  esiLevel : Nat := 0
  director : Bool := false
  vcl : Bool := false
  handling : Handling := .deliver
  errCode : Nat := 0
  errReason : Option String := none
  doclose : Option String := none
  wantbody : Bool := true
  sendbody : Bool := false
  disableEsi : Bool := false
  hashAlwaysMiss : Bool := false
  hashIgnoreBusy : Bool := false
  fd : Int := 0
  /-- `sp->hash_objhead != NULL`: the session waits on a busy objhead. -/
  hashObjhead : Bool := false
  varyB : Option Nat := none
  varyL : Option Nat := none
  varyE : Option Nat := none
  ws : Ws := {}
  wsSes : Nat := 0
  wsReq : Nat := 0
  http : Req := {}
  deriving DecidableEq, Repr

/-- `struct worker`: the scratch of the thread that runs a session. -/
structure Wrk where
  obj : Option Object := none
  objcore : Option ObjCore := none
  busyobj : Option BusyObj := none
  /-- `wrk->vbc != NULL`: a backend connection is held. -/
  vbc : Bool := false
  hContentLength : Bool := false
  doClose : Bool := false
  storageHint : Option Hint := none
  vcl : Bool := false
  resMode : ResMode := {}
  /-- `wrk->bereq->ws != NULL`, and the same for `beresp` and `resp`. -/
  bereqWs : Bool := false
  berespWs : Bool := false
  respWs : Bool := false
  deriving DecidableEq, Repr

/-- The state a dispatch reads and writes: the session, its worker, and the counter `xids` as
this worker last wrote it. The counter is global and unlocked: other workers move it between any
two dispatches, so `cnt_start` reads it from the oracle (`Oracle.xidsRead`). -/
structure St where
  sp : Sess
  wrk : Wrk
  xids : UInt32
  deriving DecidableEq, Repr

/-- The parameters of `cache_param` the handlers branch on. -/
structure Params where
  sessionLinger : Nat := 50
  maxRestarts : Nat := 4
  httpGzipSupport : Bool := true
  /-- `shortlived`, in whole seconds. -/
  shortlived : Nat := 10
  /-- `http_req_size`: the bytes `HTC_Init` and `HTC_Reinit` reserve for the receive buffer. -/
  httpReqSize : Nat := 32768
  deriving DecidableEq, Repr

/-- What `HSH_Lookup` does: park the session on the waiting list of a busy objhead, or return
an objcore (busy when it inserted it), with the object `oc_getobj` reads from it and the length
of the vary specification it wrote, if any. -/
inductive HshLookup
  | park
  | found (oc : ObjCore) (obj : Object) (varyLen : Option Nat)
  deriving DecidableEq, Repr

/-- The calls into the session, hash, expiry, storage and backend layers the handlers make,
and the `ReqEnd` record. -/
inductive Call
  | sesClose (reason : String)
  | sesDelete
  | poolWait
  | pipeSession
  | hshDeref
  | hshUnbusy
  | expInsert
  | stvNewObject (hint : Option Hint)
  | vdiCloseFd
  | reqEnd (xid : UInt32)
  deriving DecidableEq, Repr

/-- What one dispatch learns from outside: the verdict of its policy hook and what the hook
set, and the results of the collaborators it calls. The defaults are those of a request that
meets no error. -/
structure Oracle where
  /-- The verdict of the handler's hook (`vcl_recv`, `vcl_hit`, ..., `vcl_error`). -/
  verdict : Handling := .deliver
  /-- The verdict of `vcl_hash`. -/
  hashVerdict : Handling := .hash
  /-- An `error code "reason"` statement of the hook. -/
  vclError : Option (Nat × Option String) := none
  /-- Bytes the `recv` and `hash` hooks take from the session workspace. -/
  wsTake : Nat := 0
  disableEsi : Bool := false
  hashAlwaysMiss : Bool := false
  hashIgnoreBusy : Bool := false
  /-- `beresp.do_*`, `beresp.ttl` and `beresp.storage` as `vcl_fetch` leaves them. -/
  doStream : Bool := false
  doGzip : Bool := false
  doGunzip : Bool := false
  doEsi : Bool := false
  vclTtl : Option Int := none
  storage : Option Hint := none
  /-- `VTCP_blocking` fails, with `ECONNRESET` (`some true`) or another error. -/
  blocking : Option Bool := none
  htcComplete : Int := 1
  poll : Int := 0
  htcRx : Int := 0
  /-- `Tlen(sp->htc->rxbuf) == 0` and `errno` is `0` or `ECONNRESET`. -/
  rxbufEmpty : Bool := true
  errnoEof : Bool := true
  /-- `http_DissectRequest`'s result, the request, and `http_DoConnection`'s. -/
  dissect : Nat := 0
  req : Req := {}
  doConnection : Option String := none
  lookup : HshLookup := .park
  fetchHdr : Int := 0
  fetchHdrRetry : Int := 0
  /-- The backend response: status, a `Content-Length:`, close-delimited, `RFC2616_Ttl`. -/
  status : Nat := 200
  contentLength : Bool := false
  doClose : Bool := false
  rfcTtl : Int := 120
  /-- The backend `Content-Encoding:`. -/
  contentEncoding : Option String := none
  /-- `STV_NewObject` succeeds on the first call, and on the fallback to transient storage. -/
  newObject : Bool := true
  newObjectTransient : Bool := true
  /-- `RFC2616_Do_Cond`. -/
  doCond : Bool := false
  /-- `FetchBody` succeeds; the length and ESI data of the body. -/
  fetchBody : Bool := true
  bodyLen : Nat := 0
  esidata : Bool := false
  /-- `RFC2616_Req_Gzip`: the client accepts gzip. -/
  reqGzip : Bool := false
  htcReinit : Int := 0
  /-- `Tlen(sp->htc->rxbuf) != 0` after `HTC_Reinit`. -/
  rxbufPending : Bool := false
  /-- The bytes in the receive buffer when `HTC_Complete` finds a whole request there. -/
  rxLen : Nat := 0
  /-- The counter `xids` as `cnt_start` reads it, when other workers have moved it since this
  worker last wrote it; `none` when none has. -/
  xidsRead : Option UInt32 := none
  /-- A `set req.request` of the hook. -/
  reqMethod : Option String := none

/-- What a handler returns. -/
inductive Outcome
  /-- `return (0)`: run the step now in `sp->step`. -/
  | cont (s : St) (calls : List Call)
  /-- `return (1)`: the worker lets go of the session. -/
  | release (s : St) (calls : List Call)
  /-- An assertion, `WRONG` or `INCOMPL` fired. -/
  | abort (why : String)
  deriving DecidableEq, Repr

/-- `assert`, `AN`, `AZ`, `CHECK_OBJ_NOTNULL`: go on with `k` when `c` holds. -/
def ensure (c : Bool) (why : String) (k : Outcome) : Outcome :=
  if c then k else .abort why

@[simp] theorem ensure_true (why : String) (k : Outcome) : ensure true why k = k := rfl

@[simp] theorem ensure_false (why : String) (k : Outcome) : ensure false why k = .abort why := rfl

/-- An assertion stops with `why'` when it fails with that message, or when it holds and the
code after it stops with it. -/
theorem ensure_eq_abort {c : Bool} {why why' : String} {k : Outcome} :
    ensure c why k = .abort why' ↔
      (c = false ∧ why = why') ∨ (c = true ∧ k = .abort why') := by
  cases c <;> simp [ensure, eq_comm]

/-- `P` holds of the state an outcome goes on with, `Q` of the state it lets go of. -/
def Outcome.Sat (P Q : St → List Call → Prop) : Outcome → Prop
  | .cont s cs => P s cs
  | .release s cs => Q s cs
  | .abort _ => True

section Sat

variable {P Q : St → List Call → Prop}

@[simp] theorem sat_cont {s : St} {cs : List Call} : (Outcome.cont s cs).Sat P Q = P s cs := rfl

@[simp] theorem sat_release {s : St} {cs : List Call} :
    (Outcome.release s cs).Sat P Q = Q s cs := rfl

@[simp] theorem sat_abort {why : String} : (Outcome.abort why).Sat P Q = True := rfl

/-- A failed assertion satisfies everything, so only the branch past it is left to show. -/
@[simp] theorem sat_ensure {c : Bool} {why : String} {k : Outcome} :
    (ensure c why k).Sat P Q = (c = true → k.Sat P Q) := by
  cases c <;> simp [ensure]

@[simp] theorem sat_ite {c : Prop} [Decidable c] {a b : Outcome} :
    (if c then a else b).Sat P Q = if c then a.Sat P Q else b.Sat P Q :=
  apply_ite _ _ _ _

theorem Outcome.Sat.of_cont {out : Outcome} {s : St} {cs : List Call} (h : out.Sat P Q)
    (e : out = .cont s cs) : P s cs := by
  subst e; exact h

theorem Outcome.Sat.of_release {out : Outcome} {s : St} {cs : List Call} (h : out.Sat P Q)
    (e : out = .release s cs) : Q s cs := by
  subst e; exact h

theorem Outcome.Sat.imp {P' Q' : St → List Call → Prop} {out : Outcome} (h : out.Sat P Q)
    (hp : ∀ s cs, P s cs → P' s cs) (hq : ∀ s cs, Q s cs → Q' s cs) : out.Sat P' Q' := by
  cases out with
  | cont s cs => exact hp s cs h
  | release s cs => exact hq s cs h
  | abort => trivial

theorem Outcome.Sat.and {P' Q' : St → List Call → Prop} {out : Outcome} (h : out.Sat P Q)
    (h' : out.Sat P' Q') : out.Sat (fun s cs => P s cs ∧ P' s cs) fun s cs => Q s cs ∧ Q' s cs := by
  cases out with
  | cont s cs => exact ⟨h, h'⟩
  | release s cs => exact ⟨h, h'⟩
  | abort => trivial

end Sat

/-- `AssertObjCorePassOrBusy`: the objcore is absent (a pass) or busy. -/
def passOrBusy : Option ObjCore → Bool
  | none => true
  | some oc => oc.busy

/-! ## Collaborators -/

/-- Modelled from the spec: `WS_Reserve(ws, 0)` of `cache_ws.c` reserves all the free space. -/
def wsReserve (ws : Ws) : Ws := { ws with r := some ws.e }

/-- Modelled from the spec: `WS_Release(ws, 0)` gives the reservation back. -/
def wsRelease (ws : Ws) : Ws := { ws with r := none }

/-- Modelled from the spec: `WS_ReleaseP(ws, p)` keeps `[f, p)` allocated. -/
def wsReleaseP (ws : Ws) (p : Nat) : Ws := { ws with f := p, r := none }

/-- Modelled from the spec: `HTC_Init` and `HTC_Reinit` reserve `n` bytes of the session
workspace (`http_req_size`), or all that is free if less is, for the receive buffer at `f`. -/
def htcReserve (ws : Ws) (n : Nat) : Ws := { ws with r := some (min (ws.f + n) ws.e) }

/-- Modelled from the spec: `HTC_Complete`, finding a whole request in the `n` bytes received,
ends the reservation and keeps them (`WS_ReleaseP` at `rxbuf.e`). -/
def htcRelease (ws : Ws) (n : Nat) : Ws := wsReleaseP ws (min (ws.f + n) (ws.r.getD ws.e))

@[simp] theorem htcReserve_r_isSome (ws : Ws) (n : Nat) : (htcReserve ws n).r.isSome = true :=
  rfl

@[simp] theorem htcRelease_r (ws : Ws) (n : Nat) : (htcRelease ws n).r = none := rfl

/-- Modelled from the spec: `WS_Reset(ws, p)` rolls the workspace back to the mark `p`. -/
def wsReset (ws : Ws) (p : Nat) : Ws := { ws with f := p, r := none }

/-- Modelled from the spec: `WS_Alloc` calls of a policy hook take `n` bytes, as far as they
fit. -/
def wsTake (ws : Ws) (n : Nat) : Ws := { ws with f := min (ws.f + n) ws.e }

/-- Modelled from the spec: `SES_Close` closes the client connection. -/
def sesClose (sp : Sess) : Sess := { sp with fd := -1 }

/-- A policy hook `VCL_*_method`: it leaves its verdict in `sp->handling`, an `error`
statement sets `sp->err_code` and `sp->err_reason`, and `set req.request` rewrites the request
method. -/
def vclCall (o : Oracle) (sp : Sess) : Sess :=
  { sp with handling := o.verdict, errCode := (o.vclError.map Prod.fst).getD sp.errCode,
            errReason := (o.vclError.map Prod.snd).getD sp.errReason,
            http := { sp.http with method := o.reqMethod.getD sp.http.method } }

/-- Modelled from the spec: `STV_NewObject`, when it succeeds, returns a fresh object that
takes over the busy objcore held in `wrk->objcore`. -/
def stvNewObject (w : Wrk) (hint : Option Hint) (ok : Bool) : Wrk :=
  if ok then { w with obj := some { objcore := w.objcore, storage := hint }, objcore := none }
  else { w with obj := none }

/-- Modelled from the spec: `VDI_CloseFd` closes the backend connection. -/
def vdiCloseFd (w : Wrk) : Wrk := { w with vbc := false, doClose := false }

/-- Modelled from the spec: `FetchBody` reads the body into the object and closes or recycles
the backend connection. -/
def fetchBody (w : Wrk) : Wrk := { w with vbc := false, doClose := false }

/-- Modelled from the spec: `HSH_Unbusy` publishes the object: its objcore is no longer busy. -/
def hshUnbusy (ob : Object) : Object :=
  { ob with objcore := ob.objcore.map fun oc => { oc with busy := false } }

/-- Modelled from the spec: `HSH_Drop` throws the object away, publishing its busy objcore
(`HSH_Unbusy`) if it has one and dropping the reference (`HSH_Deref`). -/
def hshDrop (w : Wrk) : Wrk × List Call :=
  ({ w with obj := none },
    (if (w.obj.bind Object.objcore).isSome then [.hshUnbusy] else []) ++ [.hshDeref])

/-- Modelled from the spec: `New_BusyObj` gives the worker a fresh busyobj. -/
def newBusyObj (w : Wrk) : Wrk := { w with busyobj := some {} }

/-! ## Small lemmas -/

@[simp] theorem passOrBusy_none : passOrBusy none = true := rfl

@[simp] theorem passOrBusy_some (oc : ObjCore) : passOrBusy (some oc) = oc.busy := rfl

@[simp] theorem vclCall_step (o : Oracle) (sp : Sess) : (vclCall o sp).step = sp.step := rfl

@[simp] theorem vclCall_restarts (o : Oracle) (sp : Sess) :
    (vclCall o sp).restarts = sp.restarts := rfl

@[simp] theorem vclCall_handling (o : Oracle) (sp : Sess) :
    (vclCall o sp).handling = o.verdict := rfl

@[simp] theorem vclCall_doclose (o : Oracle) (sp : Sess) :
    (vclCall o sp).doclose = sp.doclose := rfl

@[simp] theorem vclCall_fd (o : Oracle) (sp : Sess) : (vclCall o sp).fd = sp.fd := rfl

@[simp] theorem vclCall_esiLevel (o : Oracle) (sp : Sess) :
    (vclCall o sp).esiLevel = sp.esiLevel := rfl

@[simp] theorem vclCall_wantbody (o : Oracle) (sp : Sess) :
    (vclCall o sp).wantbody = sp.wantbody := rfl

@[simp] theorem stvNewObject_objcore (w : Wrk) (hint : Option Hint) (ok : Bool) :
    (stvNewObject w hint ok).objcore = if ok then none else w.objcore := by
  unfold stvNewObject; split <;> rfl

theorem stvNewObject_obj_eq_some {w : Wrk} {hint : Option Hint} {ok : Bool} {ob : Object}
    (h : (stvNewObject w hint ok).obj = some ob) :
    ok = true ∧ ob = { objcore := w.objcore, storage := hint } := by
  cases ok
  · cases h
  · cases h; exact ⟨rfl, rfl⟩

theorem stvNewObject_obj_eq_none {w : Wrk} {hint : Option Hint} {ok : Bool}
    (h : (stvNewObject w hint ok).obj = none) :
    stvNewObject w hint ok = { w with obj := none } := by
  cases ok
  · rfl
  · cases h

@[simp] theorem sesClose_step (sp : Sess) : (sesClose sp).step = sp.step := rfl
@[simp] theorem sesClose_restarts (sp : Sess) : (sesClose sp).restarts = sp.restarts := rfl
@[simp] theorem sesClose_fd (sp : Sess) : (sesClose sp).fd = -1 := rfl

@[simp] theorem hshDrop_obj (w : Wrk) : (hshDrop w).1.obj = none := rfl

@[simp] theorem hshDrop_objcore (w : Wrk) : (hshDrop w).1.objcore = w.objcore := rfl

/-- Dropping an object with no objcore only dereferences it. -/
theorem hshDrop_of_none {w : Wrk} (h : w.obj.bind Object.objcore = none) :
    (hshDrop w).2 = [.hshDeref] := by
  simp [hshDrop, h]

end Varnish.Center
