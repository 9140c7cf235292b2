import Varnish.Center.Xid

/-!
# The client side of a request

The handlers from `cnt_recv` to `cnt_done` serve one request on the client connection, and
leave the client side of the session as they found it: the connection `sp->fd`, the xid, the
ESI level, and a decision to close the connection once one is made in `sp->doclose`
(`SameClient`). They make no call on the connection either (`Quiet`). Only `cnt_pipe`, whose
`PipeSession` closes the connection, and `cnt_done` at the end of a request, which is no ESI
include, act on it.

* `dispatch_keepsClient`: one lemma per handler, assembled; it is the one place the handlers
  are unfolded here.
* `esiInclude_quiet`: `ESI_Deliver` runs each `<esi:include>` as a request of its own on the
  same session, one ESI level down, entering `CNT_Session` in `recv` and again in `lookup`
  after each park on a busy object; neither entry sets blocking mode, the comment of
  `CNT_Session` says. Over every such run the include keeps the client side of the request
  that delivers it, never pipes, never calls on the connection, and gives the session back
  only from `done`, to `ESI_Deliver`, or parked in `lookup`.
* `loop_keepsClose`: once a request has decided to close the connection, every run keeps the
  decision and serves no further request: it gives the session back only parked in `lookup`,
  to `ESI_Deliver`, or from `cnt_done` with the connection closed and the session deleted.
* `cntSession_givesAwayLast`: `SES_Delete` and `Pool_Wait` give the session away, and after
  them "we can no longer touch sp", the comment of `CNT_Session` says. Every call of
  `CNT_Session` makes them only as its last act, so a deleted session is never dispatched
  again.
* `loop_reqEnd_once`: `cnt_done` writes `ReqEnd` for a request with an xid and clears the xid,
  and only `cnt_start` gives a new one; so a run writes at most one `ReqEnd` a request.
-/

namespace Varnish.Center

/-- The steps of a request, from `cnt_recv` to `cnt_done`: all but `first`, `wait` and `start`,
which are between requests. -/
def inRequest : Step → Bool
  | .first | .wait | .start => false
  | _ => true

/-- The steps of a request but `pipe`, which `cnt_recv` does not open to an ESI include. -/
def includeStep : Step → Bool
  | .first | .wait | .start | .pipe => false
  | _ => true

theorem inRequest_of_includeStep {st : Step} (h : includeStep st) : inRequest st := by
  cases st <;> first | rfl | cases h

/-- Of the steps of a request but `pipe`, only `done` and `lookup` let the session go. -/
theorem releases_of_includeStep {st : Step} (hr : releases st) (hi : includeStep st) :
    st = .done ∨ st = .lookup := by
  revert hr hi; cases st <;> decide

/-- The calls on the client connection and its log: `SES_Close`, `SES_Delete`, `Pool_Wait` and
the `ReqEnd` record. -/
@[simp] def Call.onClient : Call → Bool
  | .sesClose _ | .sesDelete | .poolWait | .reqEnd _ => true
  | _ => false

/-- Calls that leave the client connection alone. -/
def Quiet (cs : List Call) : Prop := ∀ c ∈ cs, c.onClient = false

/-- The client side of the session `sp` as a handler of a request leaves it in `sp'`: the same
connection, xid and ESI level, and a decision to close the connection kept once made. -/
structure SameClient (sp sp' : Sess) : Prop where
  fd : sp'.fd = sp.fd
  xid : sp'.xid = sp.xid
  esiLevel : sp'.esiLevel = sp.esiLevel
  doclose : sp.doclose.isSome → sp'.doclose.isSome

theorem SameClient.trans {sp sp' sp'' : Sess} (h : SameClient sp sp')
    (h' : SameClient sp' sp'') : SameClient sp sp'' :=
  ⟨h'.fd.trans h.fd, h'.xid.trans h.xid, h'.esiLevel.trans h.esiLevel, h'.doclose ∘ h.doclose⟩

/-! ## Calls that leave the connection alone -/

@[simp] theorem quiet_nil : Quiet [] := List.forall_mem_nil _

@[simp] theorem quiet_cons {c : Call} {cs : List Call} :
    Quiet (c :: cs) ↔ c.onClient = false ∧ Quiet cs :=
  List.forall_mem_cons

@[simp] theorem quiet_append {a b : List Call} : Quiet (a ++ b) ↔ Quiet a ∧ Quiet b :=
  List.forall_mem_append

@[simp] theorem quiet_hshDrop (w : Wrk) : Quiet (hshDrop w).2 := by
  unfold hshDrop; split <;> simp

@[simp] theorem quiet_derefObjcore (w : Wrk) (cs : List Call) :
    Quiet (derefObjcore w cs) ↔ Quiet cs := by
  unfold derefObjcore; split <;> simp

@[simp] theorem quiet_fetchbodyAllocCalls (o : Oracle) (hint : Option Hint) :
    Quiet (fetchbodyAllocCalls o hint) := by
  unfold fetchbodyAllocCalls; split <;> simp

@[simp] theorem quiet_errorAllocCalls (o : Oracle) : Quiet (errorAllocCalls o) := by
  unfold errorAllocCalls; split <;> simp

@[simp] theorem quiet_fetchbodyPublish (ob : Object) : Quiet (fetchbodyPublish ob).2 := by
  unfold fetchbodyPublish; split <;> simp

@[simp] theorem quiet_streamEnd (o : Oracle) (sp : Sess) (ob : Object) :
    Quiet (streamEnd o sp ob).2 := by
  unfold streamEnd; split <;> simp

@[simp] theorem quiet_preprespDrop (w : Wrk) (bo : BusyObj) : Quiet (preprespDrop w bo).2 := by
  unfold preprespDrop; split <;> simp

/-! ## Close decisions are only added -/

theorem eofDoclose_isSome {m : ResMode} {d : Option String} (h : d.isSome) :
    (eofDoclose m d).isSome := by
  unfold eofDoclose; split <;> simp [h]

theorem streamEnd_isSome {o : Oracle} {sp : Sess} {ob : Object} (h : sp.doclose.isSome) :
    (streamEnd o sp ob).1.isSome := by
  unfold streamEnd; split <;> simp [h]

@[simp] theorem doneClose_doclose (sp : Sess) : (doneClose sp).1.doclose = sp.doclose := by
  unfold doneClose; split <;> (try split) <;> rfl

/-! ## Every handler of a request keeps the client side -/

/-- What a handler of a request may do to the client side of the session `sp`: keep it, and
make no call on the connection; going on, it stays at the steps of a request, pipes only a
request that is no ESI include, and letting the session go, it stays at its step. -/
def Outcome.KeepsClient (sp : Sess) : Outcome → Prop :=
  Outcome.Sat
    (fun s' cs => SameClient sp s'.sp ∧ Quiet cs ∧
      (includeStep s'.sp.step ∨ s'.sp.step = .pipe ∧ sp.esiLevel = 0))
    (fun s' cs => SameClient sp s'.sp ∧ Quiet cs ∧ s'.sp.step = sp.step)

section Handlers

variable (p : Params) (o : Oracle) (s : St)

/-- `cnt_recv` pipes only a request that is no ESI include; an include gets `INCOMPL`. -/
theorem cntRecv_keepsClient : (cntRecv p o s).KeepsClient s.sp := by
  unfold cntRecv Outcome.KeepsClient
  simp only [sat_ensure, sat_ite, sat_cont]
  intro _ _ _
  split
  · exact ⟨⟨rfl, rfl, rfl, id⟩, quiet_nil, .inl rfl⟩
  · intro _
    split
    · exact ⟨⟨rfl, rfl, rfl, id⟩, quiet_nil, .inl rfl⟩
    · split
      · trivial
      · exact ⟨⟨rfl, rfl, rfl, id⟩, quiet_nil, .inr ⟨rfl, Nat.eq_zero_of_not_pos ‹_›⟩⟩
    · exact ⟨⟨rfl, rfl, rfl, id⟩, quiet_nil, .inl rfl⟩
    · exact ⟨⟨rfl, rfl, rfl, id⟩, quiet_nil, .inl rfl⟩
    · trivial

theorem cntLookup_keepsClient : (cntLookup o s).KeepsClient s.sp := by
  unfold cntLookup Outcome.KeepsClient
  simp only [sat_ensure, sat_ite, sat_cont, sat_release]
  intro _ _ _ _ _
  split
  · exact ⟨⟨rfl, rfl, rfl, id⟩, quiet_nil, rfl⟩
  · split_ifs
    · exact ⟨⟨rfl, rfl, rfl, id⟩, quiet_nil, .inl rfl⟩
    · exact ⟨⟨rfl, rfl, rfl, id⟩, by simp, .inl rfl⟩
    · exact ⟨⟨rfl, rfl, rfl, id⟩, quiet_nil, .inl rfl⟩

theorem cntHit_keepsClient : (cntHit o s).KeepsClient s.sp := by
  unfold cntHit Outcome.KeepsClient
  split
  · trivial
  simp only [sat_ensure, sat_ite, sat_cont]
  intro _
  split
  · trivial
  simp only [sat_ensure, sat_ite, sat_cont]
  intro _
  split_ifs
  · exact fun _ _ => ⟨⟨rfl, rfl, rfl, id⟩, quiet_nil, .inl rfl⟩
  · split
    exacts [⟨⟨rfl, rfl, rfl, id⟩, by simp, .inl rfl⟩, ⟨⟨rfl, rfl, rfl, id⟩, by simp, .inl rfl⟩,
      ⟨⟨rfl, rfl, rfl, id⟩, by simp, .inl rfl⟩, trivial]

theorem cntMiss_keepsClient : (cntMiss o s).KeepsClient s.sp := by
  unfold cntMiss Outcome.KeepsClient
  simp only [sat_ensure, sat_cont]
  intro _ _ _ _
  split
  exacts [⟨⟨rfl, rfl, rfl, id⟩, by simp, .inl rfl⟩, ⟨⟨rfl, rfl, rfl, id⟩, by simp, .inl rfl⟩,
    ⟨⟨rfl, rfl, rfl, id⟩, quiet_nil, .inl rfl⟩, trivial, trivial]

theorem cntPass_keepsClient : (cntPass o s).KeepsClient s.sp := by
  unfold cntPass Outcome.KeepsClient
  simp only [sat_ensure, sat_ite, sat_cont]
  intro _ _
  split_ifs
  exacts [⟨⟨rfl, rfl, rfl, id⟩, quiet_nil, .inl rfl⟩,
    fun _ => ⟨⟨rfl, rfl, rfl, id⟩, quiet_nil, .inl rfl⟩]

/-- The clean-up of `cnt_fetch` keeps the client side of `sp` whatever the handler changed
before it, as long as that kept it. -/
theorem fetchCleanup_keepsClient {sp : Sess} {t : St} {cs : List Call} (hk : SameClient sp t.sp)
    (hq : Quiet cs) : (fetchCleanup t cs).KeepsClient sp := by
  unfold fetchCleanup Outcome.KeepsClient
  simp only [sat_ensure, sat_cont]
  intro _
  split
  exacts [⟨⟨hk.fd, hk.xid, hk.esiLevel, hk.doclose⟩, by simpa, .inl rfl⟩,
    ⟨⟨hk.fd, hk.xid, hk.esiLevel, hk.doclose⟩, by simpa, .inl rfl⟩, trivial]

theorem cntFetch_keepsClient : (cntFetch o s).KeepsClient s.sp := by
  unfold cntFetch
  simp only [Outcome.KeepsClient, sat_ensure]
  intro _
  split
  · trivial
  simp only [sat_ensure, sat_ite]
  intro _ _ _ _ _
  split
  · exact fetchCleanup_keepsClient ⟨rfl, rfl, rfl, id⟩ quiet_nil
  · intro _
    split
    · exact ⟨⟨rfl, rfl, rfl, id⟩, quiet_nil, .inl rfl⟩
    · simp only [sat_ensure, sat_cont]
      exact fun _ => ⟨⟨rfl, rfl, rfl, id⟩, quiet_nil, .inl rfl⟩
    · exact fetchCleanup_keepsClient (t := ⟨_, _, _⟩) ⟨rfl, rfl, rfl, id⟩ (by simp)

theorem cntFetchbody_keepsClient : (cntFetchbody p o s).KeepsClient s.sp := by
  unfold cntFetchbody Outcome.KeepsClient
  split
  · trivial
  simp only [sat_ensure, sat_ite, sat_cont]
  intro _
  split
  · exact ⟨⟨rfl, rfl, rfl, id⟩, by simp, .inl rfl⟩
  · simp only [sat_ensure, sat_ite, sat_cont]
    intro _
    split_ifs
    exacts [⟨⟨rfl, rfl, rfl, id⟩, by simp, .inl rfl⟩,
      fun _ => ⟨⟨rfl, rfl, rfl, id⟩, by simp, .inl rfl⟩,
      fun _ => ⟨⟨rfl, rfl, rfl, id⟩, by simp, .inl rfl⟩]

/-- `cnt_streambody` adds `"Stream error"` to the close decisions. -/
theorem cntStreambody_keepsClient : (cntStreambody o s).KeepsClient s.sp := by
  unfold cntStreambody Outcome.KeepsClient
  simp only [sat_ensure]
  intro _
  split
  · trivial
  · simp only [sat_ensure, sat_cont]
    exact fun _ _ => ⟨⟨rfl, rfl, rfl, streamEnd_isSome⟩, by simp, .inl rfl⟩

/-- `cnt_prepresp` adds `"EOF mode"` to the close decisions. -/
theorem cntPrepresp_keepsClient : (cntPrepresp p o s).KeepsClient s.sp :=
  cntPrepresp_sat fun _ _ _ =>
    ⟨fun _ _ => ⟨⟨rfl, rfl, rfl, eofDoclose_isSome⟩, quiet_nil, .inl rfl⟩,
      fun _ => ⟨⟨rfl, rfl, rfl, eofDoclose_isSome⟩, quiet_nil, .inl rfl⟩,
      fun _ _ _ _ => ⟨⟨rfl, rfl, rfl, eofDoclose_isSome⟩, by simp, .inl rfl⟩⟩

theorem cntDeliver_keepsClient : (cntDeliver s).KeepsClient s.sp := by
  unfold cntDeliver Outcome.KeepsClient
  split
  exacts [trivial, ⟨⟨rfl, rfl, rfl, id⟩, by simp, .inl rfl⟩]

/-- The response of `cnt_error` closes the connection (`"error"`). -/
theorem errorRespond_keepsClient (w : Wrk) (ob : Object) {cs : List Call} (hq : Quiet cs) :
    (errorRespond p o s w ob cs).KeepsClient s.sp := by
  unfold errorRespond Outcome.KeepsClient
  simp only [sat_ensure, sat_ite, sat_cont]
  split_ifs
  · exact ⟨⟨rfl, rfl, rfl, id⟩, by simpa, .inl rfl⟩
  · exact fun _ => ⟨⟨rfl, rfl, rfl, fun _ => rfl⟩, hq, .inl rfl⟩

/-- `cnt_error` closes the connection when it is out of objects (`"Out of objects"`). -/
theorem cntError_keepsClient : (cntError p o s).KeepsClient s.sp := by
  unfold cntError
  split
  · exact errorRespond_keepsClient p o s _ _ quiet_nil
  · dsimp only
    split
    · exact ⟨⟨rfl, rfl, rfl, fun _ => rfl⟩, quiet_errorAllocCalls o, .inl rfl⟩
    · exact errorRespond_keepsClient p o s _ _ (quiet_errorAllocCalls o)

/-- `cnt_done` lets an ESI include go at once: "If we did an ESI include, don't mess up our
state". -/
theorem cntDone_keepsClient (h : 0 < s.sp.esiLevel) : (cntDone p o s).KeepsClient s.sp :=
  cntDone_sat (fun _ _ _ => ⟨⟨rfl, rfl, rfl, id⟩, quiet_nil, rfl⟩) fun _ _ h0 =>
    absurd h (by omega)

end Handlers

/-- **A dispatch of a request keeps its client side**: at a step of a request but `pipe`, and
at `done` only in an ESI include, the handler keeps the connection, the xid, the ESI level and
any close decision, makes no call on the connection, and goes on at a step of a request, piping
only a request that is no include, or lets the session go where it is. -/
theorem dispatch_keepsClient (p : Params) (o : Oracle) {s : St} (hs : includeStep s.sp.step)
    (hd : s.sp.step = .done → 0 < s.sp.esiLevel) : (dispatch p o s).KeepsClient s.sp := by
  unfold dispatch
  split <;> rename_i hst
  · rw [hst] at hs; cases hs
  · rw [hst] at hs; cases hs
  · exact cntRecv_keepsClient p o s
  · rw [hst] at hs; cases hs
  · rw [hst] at hs; cases hs
  · exact cntPass_keepsClient o s
  · exact cntLookup_keepsClient o s
  · exact cntMiss_keepsClient o s
  · exact cntHit_keepsClient o s
  · exact cntFetch_keepsClient o s
  · exact cntFetchbody_keepsClient p o s
  · exact cntStreambody_keepsClient o s
  · exact cntPrepresp_keepsClient p o s
  · exact cntDeliver_keepsClient s
  · exact cntError_keepsClient p o s
  · exact cntDone_keepsClient p o s (hd hst)

/-! ## ESI includes -/

/-- An include, and a session back from the waiting list, enter `CNT_Session` with no blocking
mode set: the state is left as it is, with no call. -/
theorem sessionEnter_request {o : Oracle} {s : St}
    (hs : s.sp.step = .recv ∨ s.sp.step = .lookup) :
    (sessionEnter o s).Sat (fun s' cs => s' = s ∧ cs = []) fun _ _ => False := by
  unfold sessionEnter
  simp only [sat_ensure]
  intro _ _ _
  split
  · rw [if_neg (by rcases hs with hs | hs <;> simp [hs])]
    exact ⟨rfl, rfl⟩
  · exact ⟨rfl, rfl⟩

/-- An include parked in `lookup` comes back in `lookup`; one let go from `done` does not come
back. -/
theorem resumeStep_include {sp : Sess} {st : Step} (h : 0 < sp.esiLevel)
    (hs : includeStep sp.step) (hr : resumeStep sp = some st) :
    sp.step = .lookup ∧ st = .lookup := by
  unfold resumeStep at hr
  split at hr
  · exact ⟨‹_›, (Option.some.inj hr).symm⟩
  · rename_i hw; rw [hw] at hs; cases hs
  · simp only [Bool.and_eq_true, decide_eq_true_eq, beq_iff_eq] at hr
    split at hr
    · omega
    · cases hr
  · cases hr

/-- A dispatch over an include, one ESI level down: it keeps the client side and goes on at a
step of a request but `pipe`, or lets the session go where it is. -/
theorem dispatch_include (p : Params) (o : Oracle) {s : St} (h : 0 < s.sp.esiLevel)
    (hs : includeStep s.sp.step) :
    (dispatch p o s).Sat (fun s' cs => SameClient s.sp s'.sp ∧ Quiet cs ∧ includeStep s'.sp.step)
      fun s' cs => SameClient s.sp s'.sp ∧ Quiet cs ∧ s'.sp.step = s.sp.step :=
  (dispatch_keepsClient p o hs fun _ => h).imp
    (fun _ _ ⟨hk, hq, hst⟩ => ⟨hk, hq, hst.resolve_right fun hp => by omega⟩) fun _ _ => id

/-- The states at which `CNT_Session` dispatches a handler over the include that `ESI_Deliver`
started with session `sp`. -/
inductive EsiReach (p : Params) (sp : Sess) : St → Prop
  /-- `ESI_Deliver` calls `CNT_Session` in `recv`, one ESI level down. -/
  | enter {w : Wrk} {x : UInt32} {o : Oracle} {s : St} {cs : List Call} :
      sp.step = .recv → 0 < sp.esiLevel → sessionEnter o ⟨sp, w, x⟩ = .cont s cs →
      EsiReach p sp s
  /-- A handler returns `0`. -/
  | dispatch {s s' : St} {o : Oracle} {cs : List Call} :
      EsiReach p sp s → dispatch p o s = .cont s' cs → EsiReach p sp s'
  /-- A handler returns `1`, and the session comes back on some worker. -/
  | resume {s s' s'' : St} {o o' : Oracle} {cs cs' : List Call} {st : Step} {w : Wrk}
      {x : UInt32} {n : Nat} :
      EsiReach p sp s → dispatch p o s = .release s' cs → resumeStep s'.sp = some st →
      sessionEnter o' ⟨handback s'.sp st n, w, x⟩ = .cont s'' cs' → EsiReach p sp s''

/-- Every state an include reaches keeps the client side of the session it started with, at a
step of a request but `pipe`, one ESI level down. -/
theorem esiReach_keeps {p : Params} {sp : Sess} {s : St} (h : EsiReach p sp s) :
    SameClient sp s.sp ∧ includeStep s.sp.step ∧ 0 < sp.esiLevel := by
  induction h with
  | enter hs hl he =>
    obtain ⟨rfl, -⟩ := (sessionEnter_request (.inl hs)).of_cont he
    exact ⟨⟨rfl, rfl, rfl, id⟩, by rw [hs]; rfl, hl⟩
  | dispatch _ hd ih =>
    obtain ⟨hk, hi, hl⟩ := ih
    obtain ⟨hk', -, hi'⟩ := (dispatch_include _ _ (hk.esiLevel ▸ hl) hi).of_cont hd
    exact ⟨hk.trans hk', hi', hl⟩
  | resume _ hd hr he ih =>
    obtain ⟨hk, hi, hl⟩ := ih
    obtain ⟨hk', -, hst⟩ := (dispatch_include _ _ (hk.esiLevel ▸ hl) hi).of_release hd
    have hk'' := hk.trans hk'
    obtain ⟨-, rfl⟩ := resumeStep_include (hk''.esiLevel ▸ hl) (hst ▸ hi) hr
    obtain ⟨rfl, -⟩ := (sessionEnter_request (.inr rfl)).of_cont he
    exact ⟨⟨hk''.fd, hk''.xid, hk''.esiLevel, hk''.doclose⟩, rfl, hl⟩

/-- The loop over an include: it goes on at states the include reaches, and lets the session go
only from `done` or `lookup`, never having called on the client connection. -/
theorem esiReach_loop {p : Params} {sp : Sess} {os : List Oracle} {s : St} {cs : List Call}
    (h : EsiReach p sp s) (hq : Quiet cs) :
    (loop p os s cs).Sat (fun s' cs' => EsiReach p sp s' ∧ Quiet cs')
      fun s' cs' =>
        SameClient sp s'.sp ∧ (s'.sp.step = .done ∨ s'.sp.step = .lookup) ∧ Quiet cs' := by
  induction os generalizing s cs with
  | nil => exact ⟨h, hq⟩
  | cons o os ih =>
    obtain ⟨hk, hi, hl⟩ := esiReach_keeps h
    have hd := dispatch_include p o (hk.esiLevel ▸ hl) hi
    unfold loop
    split
    · rename_i s' c hc
      exact ih (h.dispatch hc) (quiet_append.2 ⟨hq, (hd.of_cont hc).2.1⟩)
    · rename_i s' c hc
      obtain ⟨hk', hc', hst⟩ := hd.of_release hc
      have hst' : s'.sp.step = .done ∨ s'.sp.step = .lookup :=
        hst ▸ releases_of_includeStep (dispatch_release hc).1 hi
      unfold sessionExit
      simp only [sat_ensure, sat_release]
      exact fun _ _ => ⟨hk.trans hk', hst', quiet_append.2 ⟨hq, hc'⟩⟩
    · trivial

/-- **An ESI include keeps to its request**: over every call of `CNT_Session` for the include,
its first in `recv` and those after each park in `lookup`, and whatever the hooks and the
collaborators return, the include keeps the client connection, the xid, the ESI level and any
close decision of the request that delivers it, and stays at the steps of a request but `pipe`;
its handlers never close, delete or herd the connection and never write `ReqEnd`; and it gives
the session back only from `done`, to `ESI_Deliver`, or parked in `lookup`. -/
theorem esiInclude_quiet {p : Params} {sp : Sess} {s : St} (h : EsiReach p sp s) :
    (SameClient sp s.sp ∧ includeStep s.sp.step) ∧ ∀ os cs, Quiet cs →
      (loop p os s cs).Sat (fun s' cs' => EsiReach p sp s' ∧ Quiet cs')
        fun s' cs' =>
          SameClient sp s'.sp ∧ (s'.sp.step = .done ∨ s'.sp.step = .lookup) ∧ Quiet cs' :=
  ⟨(esiReach_keeps h).imp_right And.left, fun _ _ => esiReach_loop h⟩

/-- An include one ESI level down from the first request on a connection. -/
def includeSess : Sess := { step := .recv, esiLevel := 1, xid := 1, vcl := true }

theorem esiInclude_quiet_enter :
    (SameClient includeSess includeSess ∧ includeStep includeSess.step) ∧
      ∀ os cs, Quiet cs → (loop {} os ⟨includeSess, {}, 0⟩ cs).Sat
        (fun s' cs' => EsiReach {} includeSess s' ∧ Quiet cs')
        fun s' cs' => SameClient includeSess s'.sp ∧
          (s'.sp.step = .done ∨ s'.sp.step = .lookup) ∧ Quiet cs' :=
  esiInclude_quiet (@EsiReach.enter {} includeSess {} 0 {} _ _ rfl (by decide) rfl)

/- An include that hits the cache: `recv`, `lookup`, `hit`, `prepresp`, `deliver` and `done`
dereference the object once and hand the session back to `ESI_Deliver`. -/
example : (match loop {} [{ verdict := .lookup }, { lookup := .found ⟨false, false⟩ {} none },
      {}, {}, {}, {}] ⟨includeSess, {}, 0⟩ [] with
    | .release s cs => (s.sp.step, s.sp.esiLevel, s.sp.xid, cs)
    | _ => (.first, 0, 0, [])) = (.done, 1, 1, [.hshDeref]) := by
  decide

/-! ## The close decision -/

/-- How a request with a close decision lets the session go: parked in `lookup`, or from
`done`, to `ESI_Deliver` or with the connection closed and the session deleted. -/
def ClosedAt (s : St) (cs : List Call) : Prop :=
  s.sp.step = .lookup ∨ s.sp.step = .done ∧ (0 < s.sp.esiLevel ∨ s.sp.fd < 0 ∧ .sesDelete ∈ cs)

/-- `PipeSession` closes the connection, and `cnt_pipe` goes to `done`. -/
theorem cntPipe_doclose (o : Oracle) (s : St) :
    (cntPipe o s).Sat (fun s' _ => s'.sp.doclose = s.sp.doclose ∧ s'.sp.step = .done)
      fun _ _ => False := by
  unfold cntPipe
  simp only [sat_ensure, sat_ite, sat_cont]
  intro _
  split_ifs
  exacts [trivial, fun _ => ⟨rfl, trivial⟩]

/-- `cnt_done` with a close decision, in a request that is no include, closes the connection
(`SES_Close`, unless it is closed already) and deletes the session; it never goes on. -/
theorem cntDone_doclose (p : Params) (o : Oracle) {s : St} (hs : s.sp.step = .done)
    (hc : s.sp.doclose.isSome) (he : s.sp.esiLevel = 0) :
    (cntDone p o s).Sat (fun _ _ => False)
      fun s' cs => s'.sp.doclose.isSome ∧ ClosedAt s' cs := by
  apply cntDone_sat
  · intro _ _ h; omega
  · rintro - - - sp rfl
    refine ⟨fun hfd => ⟨by simpa using hc, .inr ⟨by simpa using hs, .inr ⟨hfd, by simp⟩⟩⟩,
      fun hfd => ?_⟩
    have := doneClose_open hfd
    simp only at this
    simp [this] at hc

/-- One dispatch of a request with a close decision keeps it: it goes on at a step of a request
with the decision still made, or lets the session go as `ClosedAt` says. -/
theorem dispatch_doclose (p : Params) (o : Oracle) {s : St} (hc : s.sp.doclose.isSome)
    (hs : inRequest s.sp.step) :
    (dispatch p o s).Sat (fun s' _ => s'.sp.doclose.isSome ∧ inRequest s'.sp.step)
      fun s' cs => s'.sp.doclose.isSome ∧ ClosedAt s' cs := by
  by_cases hp : s.sp.step = .pipe
  · simp only [dispatch, hp]
    exact (cntPipe_doclose o s).imp (fun _ _ h => ⟨h.1 ▸ hc, by rw [h.2]; rfl⟩)
      fun _ _ => False.elim
  by_cases he : s.sp.step = .done ∧ s.sp.esiLevel = 0
  · simp only [dispatch, he.1]
    exact (cntDone_doclose p o he.1 hc he.2).imp (fun _ _ => False.elim) fun _ _ => id
  have hi : includeStep s.sp.step := by
    revert hs hp; cases s.sp.step <;> decide
  have hk := dispatch_keepsClient p o hi fun hd => Nat.pos_of_ne_zero fun h0 => he ⟨hd, h0⟩
  cases hd : dispatch p o s with
  | cont s' c =>
    obtain ⟨hk', -, hst⟩ := hk.of_cont hd
    refine ⟨hk'.doclose hc, ?_⟩
    rcases hst with hst | ⟨hst, -⟩
    exacts [inRequest_of_includeStep hst, by rw [hst]; rfl]
  | release s' c =>
    obtain ⟨hk', -, hst⟩ := hk.of_release hd
    obtain ⟨hr, -⟩ := dispatch_release hd
    refine ⟨hk'.doclose hc, ?_⟩
    rw [ClosedAt, hst, hk'.esiLevel]
    rcases releases_of_includeStep hr hi with h | h
    exacts [.inr ⟨h, .inl (Nat.pos_of_ne_zero fun h0 => he ⟨h, h0⟩)⟩, .inl h]
  | abort => trivial

theorem ClosedAt.append {s : St} {cs : List Call} (h : ClosedAt s cs) (cs₀ : List Call) :
    ClosedAt s (cs₀ ++ cs) :=
  h.imp_right (And.imp_right (Or.imp_right (And.imp_right (List.mem_append_right cs₀))))

/-- **A close decision is never forgotten**: once a request has decided to close the client
connection (`Connection: close` at `cnt_start`, an error response, EOF framing, a stream error,
or out of objects), every run of the loop of `CNT_Session`, whatever the hooks and the
collaborators return and restarts included, keeps `sp->doclose` set and stays within the
request, serving no further request on the connection; it lets the session go only parked in
`lookup`, where it comes back as it left (`sessionEnter_request`), from an ESI include's
`done` to `ESI_Deliver`, or from `cnt_done` with the connection closed and `SES_Delete`
called. -/
theorem loop_keepsClose {p : Params} {s : St} (hc : s.sp.doclose.isSome)
    (hs : inRequest s.sp.step) :
    ∀ os cs, (loop p os s cs).Sat (fun s' _ => s'.sp.doclose.isSome ∧ inRequest s'.sp.step)
      fun s' cs' => s'.sp.doclose.isSome ∧ ClosedAt s' cs' := by
  intro os
  induction os generalizing s with
  | nil => exact fun _ => ⟨hc, hs⟩
  | cons o os ih =>
    intro cs
    have hd := dispatch_doclose p o hc hs
    unfold loop
    split
    · rename_i s' c h
      obtain ⟨hc', hs'⟩ := hd.of_cont h
      exact ih hc' hs' _
    · rename_i s' c h
      obtain ⟨hc', hr⟩ := hd.of_release h
      unfold sessionExit
      simp only [sat_ensure, sat_release]
      exact fun _ _ => ⟨hc', hr.append cs⟩
    · trivial

/-- An error response on its way to the client, on an open connection. -/
def errorRespState : St :=
  ⟨{ step := .prepresp, xid := 1, vcl := true, fd := 3, doclose := some "error" },
    { obj := some {} }, 1⟩

theorem loop_keepsClose_error :
    (loop {} [{}, {}, {}] errorRespState []).Sat
      (fun s' _ => s'.sp.doclose.isSome ∧ inRequest s'.sp.step)
      fun s' cs' => s'.sp.doclose.isSome ∧ ClosedAt s' cs' :=
  loop_keepsClose (s := errorRespState) rfl rfl _ _

/- The error response is delivered, and `cnt_done` writes `ReqEnd`, closes the connection and
deletes the session. -/
example : (match loop {} [{}, {}, {}] errorRespState [] with
    | .release s cs => (s.sp.fd, cs)
    | _ => (0, [])) = (-1, [.hshDeref, .reqEnd 1, .sesClose "error", .sesDelete]) := by
  decide

/-! ## Giving the session away -/

/-- The calls that give the session away: `SES_Delete` frees it, `Pool_Wait` hands it to the
waiter. -/
@[simp] def Call.handsOff : Call → Bool
  | .sesDelete | .poolWait => true
  | _ => false

/-- Calls that keep the session. -/
def Kept (cs : List Call) : Prop := ∀ c ∈ cs, c.handsOff = false

@[simp] theorem kept_nil : Kept [] := List.forall_mem_nil _

@[simp] theorem kept_cons {c : Call} {cs : List Call} :
    Kept (c :: cs) ↔ c.handsOff = false ∧ Kept cs :=
  List.forall_mem_cons

@[simp] theorem kept_append {a b : List Call} : Kept (a ++ b) ↔ Kept a ∧ Kept b :=
  List.forall_mem_append

theorem Quiet.kept {cs : List Call} (h : Quiet cs) : Kept cs := fun c hc => by
  have := h c hc; cases c <;> simp_all

@[simp] theorem kept_reqEndCalls (sp : Sess) : Kept (reqEndCalls sp) := by
  unfold reqEndCalls; split <;> simp

@[simp] theorem kept_doneClose (sp : Sess) : Kept (doneClose sp).2 := by
  unfold doneClose; split <;> (try split) <;> simp

/-- How a call of `CNT_Session` may give the session away: only when it lets it go, as its last
call; a deleted session does not come back, and one handed to the waiter comes back in
`start`. -/
def GivenAway (s : St) (cs : List Call) : Prop :=
  ∃ cs₀, Kept cs₀ ∧ (cs = cs₀ ∨ cs = cs₀ ++ [.sesDelete] ∧ resumeStep s.sp = none ∨
    cs = cs₀ ++ [.poolWait] ∧ resumeStep s.sp = some .start)

theorem GivenAway.append {s : St} {cs : List Call} (h : GivenAway s cs) {cs₀ : List Call}
    (h₀ : Kept cs₀) : GivenAway s (cs₀ ++ cs) := by
  obtain ⟨cs₁, h₁, h⟩ := h
  refine ⟨cs₀ ++ cs₁, kept_append.2 ⟨h₀, h₁⟩, ?_⟩
  rcases h with rfl | ⟨rfl, hr⟩ | ⟨rfl, hr⟩
  exacts [.inl rfl, .inr (.inl ⟨by simp, hr⟩), .inr (.inr ⟨by simp, hr⟩)]

/-- A dispatch that gives the session away only as its last call, when it lets it go. -/
def Outcome.GivesAwayLast (out : Outcome) : Prop := out.Sat (fun _ cs => Kept cs) GivenAway

theorem Outcome.KeepsClient.givesAwayLast {sp : Sess} {out : Outcome} (h : out.KeepsClient sp) :
    out.GivesAwayLast :=
  h.imp (fun _ _ h => h.2.1.kept) fun _ _ h => ⟨_, h.2.1.kept, .inl rfl⟩

section Handlers

variable (p : Params) (o : Oracle) (s : St)

/-- `cnt_wait` hands an idle session to the waiter, which brings it back in `start`. -/
theorem cntWait_givesAwayLast (hs : s.sp.step = .wait) : (cntWait p o s).GivesAwayLast :=
  cntWait_sat fun _ _ _ _ =>
    ⟨⟨[], kept_nil, .inr (.inr ⟨rfl, by simp [resumeStep, hs]⟩)⟩, fun _ => kept_nil, fun _ => by simp⟩

theorem cntStart_givesAwayLast : (cntStart o s).GivesAwayLast :=
  cntStart_sat fun _ _ _ _ _ _ _ _ _ _ hc => by
    rcases hc with ⟨-, rfl⟩ | ⟨-, rfl⟩ <;> simp

theorem cntPipe_givesAwayLast : (cntPipe o s).GivesAwayLast :=
  cntPipe_sat fun _ _ => by simp

/-- `cnt_done`, at the end of a request that is no ESI include, deletes a closed session, which
does not come back, or hands an open one to the waiter. -/
theorem cntDone_givesAwayLast (hs : s.sp.step = .done) (he : s.sp.esiLevel = 0) :
    (cntDone p o s).GivesAwayLast := by
  apply cntDone_sat
  · intro _ _ h; omega
  · rintro - - - sp hsp
    replace hsp : sp.step = .done ∧ sp.esiLevel = 0 := by rw [← hsp]; exact ⟨by simpa, by simpa⟩
    refine ⟨fun hfd => ⟨_, by simp, .inr (.inl ⟨rfl, ?_⟩)⟩, fun hfd => ⟨by simp, by simp,
      ⟨_, by simp, .inr (.inr ⟨rfl, ?_⟩)⟩⟩⟩
    · simp [resumeStep, hsp.1, Int.not_le.mpr hfd]
    · simp [resumeStep, hsp.1, hsp.2, hfd]

end Handlers

/-- **A dispatch gives the session away only as its last act**: whatever the step, the hooks
and the collaborators, a handler that goes on keeps the session, and one that lets it go calls
`SES_Delete` or `Pool_Wait` at most once, last. -/
theorem dispatch_givesAwayLast (p : Params) (o : Oracle) (s : St) :
    (dispatch p o s).GivesAwayLast := by
  by_cases hi : includeStep s.sp.step
  · by_cases he : s.sp.step = .done ∧ s.sp.esiLevel = 0
    · simp only [dispatch, he.1]
      exact cntDone_givesAwayLast p o s he.1 he.2
    · exact (dispatch_keepsClient p o hi fun hd =>
        Nat.pos_of_ne_zero fun h0 => he ⟨hd, h0⟩).givesAwayLast
  unfold dispatch
  split <;> rename_i hst <;> rw [hst] at hi
  · exact cntWait_givesAwayLast p o s hst
  · simp [Outcome.GivesAwayLast, cntFirst]
  · exact absurd rfl hi
  · exact cntStart_givesAwayLast o s
  · exact cntPipe_givesAwayLast o s
  all_goals exact absurd rfl hi

/-- The entry of `CNT_Session` keeps the session. -/
theorem sessionEnter_kept (o : Oracle) (s : St) :
    (sessionEnter o s).Sat (fun _ cs => Kept cs) fun _ _ => False := by
  unfold sessionEnter
  simp only [sat_ensure]
  intro _ _ _
  split
  · split <;> simp
  · exact kept_nil

/-- The loop of `CNT_Session` gives the session away only as its last act. -/
theorem loop_givesAwayLast {p : Params} {os : List Oracle} {s : St} {cs : List Call}
    (hk : Kept cs) : (loop p os s cs).Sat (fun _ cs => Kept cs) GivenAway := by
  induction os generalizing s cs with
  | nil => exact hk
  | cons o os ih =>
    have hd := dispatch_givesAwayLast p o s
    unfold loop
    split
    · rename_i s' c h
      exact ih (kept_append.2 ⟨hk, hd.of_cont h⟩)
    · rename_i s' c h
      unfold sessionExit
      simp only [sat_ensure, sat_release]
      exact fun _ _ => (hd.of_release h).append hk
    · trivial

/-- **`CNT_Session` gives the session away only as its last act**: over every call, from any
state and whatever the hooks and the collaborators return, no handler that goes on has called
`SES_Delete` or `Pool_Wait` ("Once done is set, we can no longer touch sp"), and a call that
lets the session go has called one of them at most once, last: a session it deleted is never
dispatched again, and one it handed to the waiter comes back in `start`. -/
theorem cntSession_givesAwayLast (p : Params) (o : Oracle) (os : List Oracle) (s : St) :
    (cntSession p o os s).Sat (fun _ cs => Kept cs) GivenAway := by
  unfold cntSession
  have he := sessionEnter_kept o s
  split
  · rename_i s' cs h
    exact loop_givesAwayLast (he.of_cont h)
  · exact he.imp (fun _ _ h => h) fun _ _ h => h.elim

/-! ## One `ReqEnd` per request -/

/-- The `ReqEnd` record. -/
@[simp] def Call.isReqEnd : Call → Bool
  | .reqEnd _ => true
  | _ => false

/-- The number of `ReqEnd` records among the calls. -/
def reqEnds (cs : List Call) : Nat := cs.countP Call.isReqEnd

/-- The `ReqEnd` a request with xid `x` still owes: one unless `x` is 0. -/
def owed (x : UInt32) : Nat := if x = 0 then 0 else 1

/-- The requests a dispatch opens: one at `cnt_start`. -/
def opens : Step → Nat
  | .start => 1
  | _ => 0

@[simp] theorem reqEnds_nil : reqEnds [] = 0 := rfl

@[simp] theorem reqEnds_cons (c : Call) (cs : List Call) :
    reqEnds (c :: cs) = reqEnds cs + if c.isReqEnd then 1 else 0 := by
  simp [reqEnds, List.countP_cons]

@[simp] theorem reqEnds_append (a b : List Call) : reqEnds (a ++ b) = reqEnds a + reqEnds b :=
  List.countP_append _ _ _

theorem Quiet.reqEnds_eq_zero {cs : List Call} (h : Quiet cs) : reqEnds cs = 0 :=
  List.countP_eq_zero.2 fun c hc => by have := h c hc; cases c <;> simp_all

@[simp] theorem owed_zero : owed 0 = 0 := rfl

theorem owed_le_one (x : UInt32) : owed x ≤ 1 := by
  unfold owed; split <;> omega

@[simp] theorem reqEnds_reqEndCalls (sp : Sess) : reqEnds (reqEndCalls sp) = owed sp.xid := by
  unfold reqEndCalls owed; split <;> simp_all

@[simp] theorem reqEnds_doneClose (sp : Sess) : reqEnds (doneClose sp).2 = 0 := by
  unfold doneClose; split <;> (try split) <;> simp

/-- A dispatch that writes at most the `ReqEnd` its request owes, and owes one more only when it
opens a request; one that lets the session go opens none. -/
def Outcome.EndsOnce (s : St) : Outcome → Prop :=
  Outcome.Sat (fun s' cs => reqEnds cs + owed s'.sp.xid ≤ owed s.sp.xid + opens s.sp.step)
    fun s' cs => reqEnds cs + owed s'.sp.xid ≤ owed s.sp.xid

/-- A dispatch that keeps the xid and writes no `ReqEnd`. -/
theorem endsOnce_le {x x' : UInt32} {cs : List Call} (h : x' = x) (hc : reqEnds cs = 0)
    (k : Nat) : reqEnds cs + owed x' ≤ owed x + k := by
  rw [hc, h]; omega

theorem Outcome.KeepsClient.endsOnce {s : St} {out : Outcome} (h : out.KeepsClient s.sp) :
    out.EndsOnce s :=
  h.imp (fun _ _ h => endsOnce_le h.1.xid h.2.1.reqEnds_eq_zero _)
    fun _ _ h => endsOnce_le h.1.xid h.2.1.reqEnds_eq_zero 0

section Handlers

variable (p : Params) (o : Oracle) (s : St)

theorem cntWait_endsOnce : (cntWait p o s).EndsOnce s :=
  cntWait_sat fun _ _ _ _ =>
    ⟨endsOnce_le rfl (by rfl) 0, fun _ => endsOnce_le rfl (by rfl) _,
      fun _ => endsOnce_le rfl (by rfl) _⟩

/-- `cnt_start` opens a request, which owes its `ReqEnd` when its xid is not 0. -/
theorem cntStart_endsOnce (hs : s.sp.step = .start) : (cntStart o s).EndsOnce s :=
  cntStart_sat fun _ _ _ _ sp _ _ _ _ _ hc => by
    have := owed_le_one sp.xid
    rcases hc with ⟨-, rfl⟩ | ⟨-, rfl⟩ <;> simp [hs, opens] <;> omega

theorem cntPipe_endsOnce : (cntPipe o s).EndsOnce s :=
  cntPipe_sat fun _ _ => endsOnce_le rfl (by rfl) _

/-- `cnt_done`, at the end of a request that is no ESI include, writes the `ReqEnd` the
request owes and clears the xid. -/
theorem cntDone_endsOnce (he : s.sp.esiLevel = 0) : (cntDone p o s).EndsOnce s := by
  apply cntDone_sat
  · intro _ _ h; omega
  · rintro - - - sp hsp
    have hx : sp.xid = 0 := by rw [← hsp]; simp
    refine ⟨fun _ => ?_, fun _ => ⟨?_, ?_, ?_⟩⟩ <;> simp [hx]

end Handlers

/-- Every dispatch writes at most the `ReqEnd` it owes, and owes one more only at `cnt_start`. -/
theorem dispatch_endsOnce (p : Params) (o : Oracle) (s : St) : (dispatch p o s).EndsOnce s := by
  by_cases hi : includeStep s.sp.step
  · by_cases he : s.sp.step = .done ∧ s.sp.esiLevel = 0
    · simp only [dispatch, he.1]
      exact cntDone_endsOnce p o s he.2
    · exact (dispatch_keepsClient p o hi fun hd =>
        Nat.pos_of_ne_zero fun h0 => he ⟨hd, h0⟩).endsOnce
  unfold dispatch
  split <;> rename_i hst <;> rw [hst] at hi
  · exact cntWait_endsOnce p o s
  · simp only [Outcome.EndsOnce, cntFirst, sat_ensure, sat_cont]
    exact fun _ _ _ => endsOnce_le rfl (by rfl) _
  · exact absurd rfl hi
  · exact cntStart_endsOnce o s hst
  · exact cntPipe_endsOnce o s
  all_goals exact absurd rfl hi

/-- The requests a run of the loop opens: one for each `cnt_start` it goes on from. -/
def opensRun (p : Params) : List Oracle → St → Nat
  | [], _ => 0
  | o :: os, s =>
    match dispatch p o s with
    | .cont s' _ => opens s.sp.step + opensRun p os s'
    | _ => 0

/-- **At most one `ReqEnd` per request**: from any state, whatever the hooks and the
collaborators return, a run of the loop of `CNT_Session` writes at most one `ReqEnd` record for
the request it starts in, if that request has an xid, and one for each request it opens at
`cnt_start`; the request it stops in, if it has an xid, still owes its own. No `ReqEnd` is
written twice for a request, restarts and ESI includes included. -/
theorem loop_reqEnd_once {p : Params} {os : List Oracle} {s : St} {cs : List Call} :
    (loop p os s cs).Sat
      (fun s' cs' => reqEnds cs' + owed s'.sp.xid ≤ reqEnds cs + owed s.sp.xid + opensRun p os s)
      fun s' cs' => reqEnds cs' + owed s'.sp.xid ≤ reqEnds cs + owed s.sp.xid + opensRun p os s := by
  induction os generalizing s cs with
  | nil => exact Nat.le_refl _
  | cons o os ih =>
    have hd := dispatch_endsOnce p o s
    cases h : dispatch p o s with
    | cont s' c =>
      have hc : reqEnds c + owed s'.sp.xid ≤ owed s.sp.xid + opens s.sp.step := hd.of_cont h
      simp only [loop, opensRun, h]
      refine ih.imp (fun _ _ k => ?_) fun _ _ k => ?_ <;>
        rw [reqEnds_append] at k <;> omega
    | release s' c =>
      have hc : reqEnds c + owed s'.sp.xid ≤ owed s.sp.xid := hd.of_release h
      simp only [loop, opensRun, h, sessionExit, sat_ensure, sat_release, reqEnds_append]
      exact fun _ _ => by omega
    | abort => simp only [loop, h]; trivial

end Varnish.Center
