import Varnish.Center.Deliver

/-!
# The dispatcher

`CNT_Session` checks that the session enters at one of four steps and that the worker holds no
object (`sessionEnter`), dispatches the handler of `sp->step` (`dispatch`) until one returns
`1`, and checks again on the way out (`sessionExit`). `loop` is that loop with one oracle per
dispatch; `cntSession` is the whole call.

A session lives across many calls of `CNT_Session`: it parks on the waiting list of a busy
objhead in `cnt_lookup` and comes back in `lookup`, and it is herded to the waiter by
`cnt_wait` or `cnt_done`, holding its receive buffer, and comes back in `start` once the waiter
has received a whole request (`handback`). `Reach` is the set of states at which a
handler is dispatched over the whole life of a session, every such cycle included; between two
calls the worker and the counter `xids` are whatever other sessions left.

`cliDebugXid` is the `debug.xid` command, which sets `xids` to any value.
-/

namespace Varnish.Center

/-- One turn of the loop of `CNT_Session`: the handler of `sp->step`. -/
def dispatch (p : Params) (o : Oracle) (s : St) : Outcome :=
  match s.sp.step with
  | .wait => cntWait p o s
  | .first => cntFirst p s
  | .recv => cntRecv p o s
  | .start => cntStart o s
  | .pipe => cntPipe o s
  | .pass => cntPass o s
  | .lookup => cntLookup o s
  | .miss => cntMiss o s
  | .hit => cntHit o s
  | .fetch => cntFetch o s
  | .fetchbody => cntFetchbody p o s
  | .streambody => cntStreambody o s
  | .prepresp => cntPrepresp p o s
  | .deliver => cntDeliver s
  | .error => cntError p o s
  | .done => cntDone p o s

/-- The steps at which `CNT_Session` may be entered. -/
def entrance (st : Step) : Bool :=
  st == .first || st == .start || st == .lookup || st == .recv

/-- The entry of `CNT_Session`: a session from the acceptor or the waiter is set to blocking
mode, and closed when that fails. -/
def sessionEnter (o : Oracle) (s : St) : Outcome :=
  ensure (entrance s.sp.step) "assert(sp->step == STP_FIRST || ...)" <|
  ensure s.wrk.obj.isNone "AZ(wrk->obj)" <|
  ensure s.wrk.objcore.isNone "AZ(wrk->objcore)" <|
  match o.blocking with
  | some reset =>
    if s.sp.step == .first || s.sp.step == .start then
      .cont { s with sp := { sesClose s.sp with step := .done } }
        [.sesClose (if reset then "remote closed" else "error")]
    else .cont s []
  | none => .cont s []

/-- The exit of `CNT_Session`: the worker holds no object and no objcore. -/
def sessionExit (s : St) (calls : List Call) : Outcome :=
  ensure s.wrk.obj.isNone "AZ(wrk->obj)" <|
  ensure s.wrk.objcore.isNone "AZ(wrk->objcore)" <|
  .release s calls

/-- The loop of `CNT_Session`, one oracle a dispatch: it ends when a handler returns `1`, an
assertion fires, or the oracles run out (`cont`, the session still running). -/
def loop (p : Params) : List Oracle → St → List Call → Outcome
  | [], s, cs => .cont s cs
  | o :: os, s, cs =>
    match dispatch p o s with
    | .cont s' c => loop p os s' (cs ++ c)
    | .release s' c => sessionExit s' (cs ++ c)
    | .abort why => .abort why

/-- The entry of `CNT_Session` checks the step and the worker, and leaves the state as it is or
closes a session the acceptor or the waiter handed over and sends it to `done`. -/
theorem sessionEnter_sat (o : Oracle) (s : St) :
    (sessionEnter o s).Sat
      (fun s' _ => entrance s.sp.step ∧ s.wrk.obj = none ∧ s.wrk.objcore = none ∧
        s'.wrk = s.wrk ∧ s'.xids = s.xids ∧
        (s'.sp = s.sp ∨ s'.sp = { sesClose s.sp with step := .done }))
      (fun _ _ => False) := by
  unfold sessionEnter
  simp only [sat_ensure, Option.isNone_iff_eq_none]
  intro he hobj hoc
  split
  · split
    · exact ⟨he, hobj, hoc, rfl, rfl, .inr rfl⟩
    · exact ⟨he, hobj, hoc, rfl, rfl, .inl rfl⟩
  · exact ⟨he, hobj, hoc, rfl, rfl, .inl rfl⟩

theorem sessionEnter_cont {o : Oracle} {s s' : St} {cs : List Call}
    (h : sessionEnter o s = .cont s' cs) :
    entrance s.sp.step ∧ s.wrk.obj = none ∧ s.wrk.objcore = none ∧ s'.wrk = s.wrk ∧
      s'.xids = s.xids ∧ (s'.sp = s.sp ∨ s'.sp = { sesClose s.sp with step := .done }) :=
  (sessionEnter_sat o s).of_cont h

@[simp] theorem loop_nil (p : Params) (s : St) (cs : List Call) : loop p [] s cs = .cont s cs :=
  rfl

theorem loop_cons_cont {p : Params} {o : Oracle} {os : List Oracle} {s s' : St}
    {cs c : List Call} (h : dispatch p o s = .cont s' c) :
    loop p (o :: os) s cs = loop p os s' (cs ++ c) := by
  simp [loop, h]

theorem loop_cons_release {p : Params} {o : Oracle} {os : List Oracle} {s s' : St}
    {cs c : List Call} (h : dispatch p o s = .release s' c) :
    loop p (o :: os) s cs = sessionExit s' (cs ++ c) := by
  simp [loop, h]

/-- An assertion that fired stays fired, whatever the later oracles say. -/
theorem loop_append_abort {p : Params} {os : List Oracle} {s : St} {cs : List Call} {why : String}
    (h : loop p os s cs = .abort why) (rest : List Oracle) :
    loop p (os ++ rest) s cs = .abort why := by
  induction os generalizing s cs with
  | nil => cases h
  | cons o os ih =>
    simp only [loop, List.cons_append] at h ⊢
    split at h
    exacts [ih h, h, h]

/-- `CNT_Session`: the entry with oracle `o`, then the loop. -/
def cntSession (p : Params) (o : Oracle) (os : List Oracle) (s : St) : Outcome :=
  match sessionEnter o s with
  | .cont s' cs => loop p os s' cs
  | r => r

/-- `cli_debug_xid`: `debug.xid` prints the counter, `debug.xid n` first stores `n` into the
`unsigned` counter. -/
def cliDebugXid (arg : Option Nat) (xids : UInt32) : UInt32 × String :=
  let x := match arg with
    | some n => UInt32.ofNat n
    | none => xids
  (x, "XID is " ++ toString x)

/-! ## The life of a session -/

/-- A session as the acceptor hands it to `CNT_Session`: in `first`, with every field the
handlers assert on at their zero value. -/
structure Accepted (sp : Sess) : Prop where
  step : sp.step = .first
  xid : sp.xid = 0
  restarts : sp.restarts = 0
  esiLevel : sp.esiLevel = 0
  vcl : sp.vcl = false
  director : sp.director = false
  hashObjhead : sp.hashObjhead = false
  varyB : sp.varyB = none
  varyL : sp.varyL = none
  varyE : sp.varyE = none
  reserved : sp.ws.r = none

/-- Where a session that a handler released comes back: the hash layer re-dispatches a session
parked on a busy objhead in `lookup`, the waiter a session it was handed in `start`; a closed
session, or an ESI child going back to its parent, does not come back. -/
def resumeStep (sp : Sess) : Option Step :=
  match sp.step with
  | .lookup => some .lookup
  | .wait => some .start
  | .done => if 0 ≤ sp.fd && sp.esiLevel == 0 then some .start else none
  | _ => none

/-- The session a worker takes back in `st`: the waiter hands a session over in `start` once
`HTC_Rx` has received a whole request of `n` bytes, which ends the reservation of the receive
buffer (`SES_Handle`); a session parked on a waiting list comes back as it parked. -/
def handback (sp : Sess) (st : Step) (n : Nat) : Sess :=
  { sp with ws := if st = .start then htcRelease sp.ws n else sp.ws, step := st }

@[simp] theorem handback_step (sp : Sess) (st : Step) (n : Nat) : (handback sp st n).step = st :=
  rfl

/-- Where a released session comes back: in `lookup`, from `lookup`, or in `start`. -/
theorem resumeStep_some {sp : Sess} {st : Step} (h : resumeStep sp = some st) :
    (sp.step = .lookup ∧ st = .lookup) ∨ st = .start := by
  unfold resumeStep at h
  split at h
  · exact .inl ⟨‹_›, (Option.some.inj h).symm⟩
  · exact .inr (Option.some.inj h).symm
  · split at h
    · exact .inr (Option.some.inj h).symm
    · cases h
  · cases h

/-- The states at which `CNT_Session` dispatches a handler, over the whole life of a session. -/
inductive Reach (p : Params) : St → Prop
  /-- The acceptor hands a new session to a worker. -/
  | accept {sp : Sess} {w : Wrk} {x : UInt32} {o : Oracle} {s : St} {cs : List Call} :
      Accepted sp → sessionEnter o ⟨sp, w, x⟩ = .cont s cs → Reach p s
  /-- A handler returns `0`. -/
  | dispatch {s s' : St} {o : Oracle} {cs : List Call} :
      Reach p s → dispatch p o s = .cont s' cs → Reach p s'
  /-- A handler returns `1`, and the session comes back on some worker. -/
  | resume {s s' s'' : St} {o o' : Oracle} {cs cs' : List Call} {st : Step} {w : Wrk}
      {x : UInt32} {n : Nat} :
      Reach p s → dispatch p o s = .release s' cs → resumeStep s'.sp = some st →
      sessionEnter o' ⟨handback s'.sp st n, w, x⟩ = .cont s'' cs' → Reach p s''

/-- A new connection, as the acceptor hands it over, is reachable. -/
theorem reach_accept (p : Params) : Reach p ⟨{}, {}, 0⟩ :=
  @Reach.accept p {} {} 0 {} _ _
    ⟨rfl, rfl, rfl, rfl, rfl, rfl, rfl, rfl, rfl, rfl, rfl⟩ rfl

/-- Every state the loop goes on with is reachable. -/
theorem reach_loop {p : Params} {os : List Oracle} {s s' : St} {cs cs' : List Call}
    (h : Reach p s) (hl : loop p os s cs = .cont s' cs') : Reach p s' := by
  induction os generalizing s cs with
  | nil => cases hl; exact h
  | cons o os ih =>
    simp only [loop] at hl
    split at hl
    · exact ih (h.dispatch ‹_›) hl
    · unfold sessionExit ensure at hl; split_ifs at hl
    · cases hl

end Varnish.Center
