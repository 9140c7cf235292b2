import Varnish.Center.Client

/-!
# The client connection is closed once

`SES_Close` closes the client's descriptor and sets `sp->fd` to -1. `cnt_done` calls it only
when `sp->fd >= 0`; `cnt_wait`, `cnt_start` and the entry of `CNT_Session` call it without a
check, on a session between requests, whose connection is open (`OpenBetween`): `cnt_done`
goes on to the next request only on an open connection. `cnt_pipe`'s `PipeSession` closes the
connection itself, and the handlers of a request leave `sp->fd` alone (`SameClient`).

`openConn` is 1 on an open connection and 0 on a closed one; a dispatch never adds to its
`SES_Close` calls and `openConn` together (`dispatch_closesOnce`).

* `loop_closesOnce`: a run of the loop of `CNT_Session` calls `SES_Close` at most once, only on
  an open connection, and leaves it closed; from a state past a close or `PipeSession` it calls
  none. After the close the session only goes to `cnt_done`, which deletes it
  (`loop_keepsClose`), so no descriptor is closed twice.
-/

namespace Varnish.Center

/-- A call of `SES_Close`. -/
@[simp] def Call.isSesClose : Call → Bool
  | .sesClose _ => true
  | _ => false

/-- The number of `SES_Close` calls among the calls. -/
def sesCloses (cs : List Call) : Nat := cs.countP Call.isSesClose

/-- 1 while the descriptor `fd` is open, 0 once `SES_Close` has set it to -1. -/
def openConn (fd : Int) : Nat := if 0 ≤ fd then 1 else 0

/-- Between requests (at `first`, `wait` and `start`) the connection is open. -/
def OpenBetween (sp : Sess) : Prop := inRequest sp.step = false → 0 ≤ sp.fd

instance (sp : Sess) : Decidable (OpenBetween sp) := inferInstanceAs (Decidable (_ → _))

@[simp] theorem sesCloses_nil : sesCloses [] = 0 := rfl

@[simp] theorem sesCloses_cons (c : Call) (cs : List Call) :
    sesCloses (c :: cs) = sesCloses cs + if c.isSesClose then 1 else 0 := by
  simp [sesCloses, List.countP_cons]

@[simp] theorem sesCloses_append (a b : List Call) :
    sesCloses (a ++ b) = sesCloses a + sesCloses b :=
  List.countP_append _ _ _

@[simp] theorem openConn_closed : openConn (-1) = 0 := rfl

theorem openConn_le_one (fd : Int) : openConn fd ≤ 1 := by
  unfold openConn; split <;> omega

theorem Quiet.sesCloses_eq_zero {cs : List Call} (h : Quiet cs) : sesCloses cs = 0 :=
  List.countP_eq_zero.2 fun c hc => by have := h c hc; cases c <;> simp_all

@[simp] theorem sesCloses_reqEndCalls (sp : Sess) : sesCloses (reqEndCalls sp) = 0 := by
  unfold reqEndCalls; split <;> rfl

/-- The close of `cnt_done` closes an open connection once, and a closed one not at all. -/
theorem doneClose_closes (sp : Sess) :
    sesCloses (doneClose sp).2 + openConn (doneClose sp).1.fd = openConn sp.fd := by
  unfold doneClose openConn
  split
  · split <;> simp_all
  · simp

theorem openBetween_of_inRequest {sp : Sess} (h : inRequest sp.step = true) :
    OpenBetween sp := fun h' => by rw [h] at h'; cases h'

/-- A dispatch that neither closes the connection nor leaves it open between requests when it
was closed: its `SES_Close` calls and the connection it leaves open are at most the connection
it found open. -/
def Outcome.ClosesOnce (sp : Sess) : Outcome → Prop :=
  Outcome.Sat (fun s' cs => sesCloses cs + openConn s'.sp.fd ≤ openConn sp.fd ∧ OpenBetween s'.sp)
    fun s' cs => sesCloses cs + openConn s'.sp.fd ≤ openConn sp.fd

/-- A dispatch that keeps the descriptor and calls no `SES_Close`. -/
theorem closesOnce_le {fd fd' : Int} {cs : List Call} (h : fd' = fd) (hc : sesCloses cs = 0) :
    sesCloses cs + openConn fd' ≤ openConn fd := by
  rw [hc, h, Nat.zero_add]

/-- A dispatch that closes an open connection. -/
theorem closesOnce_close {fd : Int} (h : 0 ≤ fd) (r : String) :
    sesCloses [.sesClose r] + openConn (-1) ≤ openConn fd := by
  simp [openConn, h]

theorem Outcome.KeepsClient.closesOnce {sp : Sess} {out : Outcome} (h : out.KeepsClient sp) :
    out.ClosesOnce sp :=
  h.imp
    (fun _ _ h => ⟨closesOnce_le h.1.fd h.2.1.sesCloses_eq_zero, openBetween_of_inRequest <| by
      rcases h.2.2 with h | ⟨h, -⟩
      · exact inRequest_of_includeStep h
      · rw [h]; rfl⟩)
    fun _ _ h => closesOnce_le h.1.fd h.2.1.sesCloses_eq_zero

section Handlers

variable (p : Params) (o : Oracle) (s : St)

theorem cntFirst_closesOnce (ho : OpenBetween s.sp) (hs : s.sp.step = .first) :
    (cntFirst p s).ClosesOnce s.sp := by
  simp only [Outcome.ClosesOnce, cntFirst, sat_ensure, sat_cont]
  exact fun _ _ _ => ⟨closesOnce_le rfl (by rfl), fun _ => ho (by rw [hs]; rfl)⟩

/-- `cnt_wait` closes the connection it finds open between requests. -/
theorem cntWait_closesOnce (ho : OpenBetween s.sp) (hs : s.sp.step = .wait) :
    (cntWait p o s).ClosesOnce s.sp :=
  have hfd : 0 ≤ s.sp.fd := ho (by rw [hs]; rfl)
  cntWait_sat fun _ _ _ _ => ⟨closesOnce_le rfl (by rfl), fun _ => ⟨closesOnce_le rfl (by rfl), fun _ => hfd⟩,
    fun r => ⟨closesOnce_close hfd r, openBetween_of_inRequest rfl⟩⟩

/-- `cnt_start` closes a junk request's connection, which it finds open between requests. -/
theorem cntStart_closesOnce (ho : OpenBetween s.sp) (hs : s.sp.step = .start) :
    (cntStart o s).ClosesOnce s.sp := by
  have hfd : 0 ≤ s.sp.fd := ho (by rw [hs]; rfl)
  unfold cntStart Outcome.ClosesOnce
  simp only [sat_ensure, sat_ite, sat_cont]
  intro _ _ _ _
  split_ifs
  · exact ⟨closesOnce_close hfd _, openBetween_of_inRequest rfl⟩
  · exact ⟨closesOnce_le rfl (by rfl), openBetween_of_inRequest rfl⟩
  · split
    · exact ⟨closesOnce_le rfl (by rfl), openBetween_of_inRequest rfl⟩
    · split_ifs
      · exact ⟨closesOnce_le rfl (by rfl), openBetween_of_inRequest rfl⟩
      · exact ⟨closesOnce_le rfl (by rfl), openBetween_of_inRequest rfl⟩

/-- `PipeSession` closes the connection with no `SES_Close`. -/
theorem cntPipe_closesOnce : (cntPipe o s).ClosesOnce s.sp :=
  cntPipe_sat fun _ _ => ⟨by simp, openBetween_of_inRequest rfl⟩

/-- `cnt_done`, at the end of a request that is no ESI include, closes an open connection with
a reason to close, and goes on to the next request only on an open one. -/
theorem cntDone_closesOnce (he : s.sp.esiLevel = 0) : (cntDone p o s).ClosesOnce s.sp := by
  apply cntDone_sat
  · intro _ _ h; omega
  · rintro - - - sp hsp
    have hc := doneClose_closes { s.sp with
      director := false, restarts := 0, vcl := false, xid := 0, hashAlwaysMiss := false,
      hashIgnoreBusy := false }
    rw [hsp] at hc
    dsimp only at hc
    refine ⟨fun _ => ?_, fun h => ⟨fun _ => ⟨?_, fun _ => h⟩, ⟨?_, fun _ => h⟩, ?_⟩⟩ <;>
      simp only [sesCloses_append, sesCloses_reqEndCalls, sesCloses_cons, sesCloses_nil,
        Call.isSesClose, Bool.false_eq_true, ite_false] <;> omega

end Handlers

/-- Every dispatch from a session whose connection is open between requests keeps it so, and
calls `SES_Close` only on an open connection, which it leaves closed. -/
theorem dispatch_closesOnce (p : Params) (o : Oracle) (s : St) (ho : OpenBetween s.sp) :
    (dispatch p o s).ClosesOnce s.sp := by
  by_cases hi : includeStep s.sp.step
  · by_cases he : s.sp.step = .done ∧ s.sp.esiLevel = 0
    · simp only [dispatch, he.1]
      exact cntDone_closesOnce p o s he.2
    · exact (dispatch_keepsClient p o hi fun hd =>
        Nat.pos_of_ne_zero fun h0 => he ⟨hd, h0⟩).closesOnce
  unfold dispatch
  split <;> rename_i hst <;> rw [hst] at hi
  · exact cntWait_closesOnce p o s ho hst
  · exact cntFirst_closesOnce p s ho hst
  · exact absurd rfl hi
  · exact cntStart_closesOnce o s ho hst
  · exact cntPipe_closesOnce o s
  all_goals exact absurd rfl hi

/-- **A connection is closed at most once**: from any state whose connection is open between
requests, whatever the hooks and the collaborators return, a run of the loop of `CNT_Session`
calls `SES_Close` at most once, and only if the connection was open; when it does, the
connection is closed at the end. From a state past `PipeSession` or a close, it calls none. -/
theorem loop_closesOnce {p : Params} {os : List Oracle} {s : St} {cs : List Call}
    (ho : OpenBetween s.sp) :
    (loop p os s cs).Sat
      (fun s' cs' => sesCloses cs' + openConn s'.sp.fd ≤ sesCloses cs + openConn s.sp.fd)
      fun s' cs' => sesCloses cs' + openConn s'.sp.fd ≤ sesCloses cs + openConn s.sp.fd := by
  induction os generalizing s cs with
  | nil => exact Nat.le_refl _
  | cons o os ih =>
    have hd := dispatch_closesOnce p o s ho
    cases h : dispatch p o s with
    | cont s' c =>
      obtain ⟨hc, ho'⟩ := hd.of_cont h
      simp only [loop, h]
      refine (ih ho').imp (fun _ _ k => ?_) fun _ _ k => ?_ <;>
        rw [sesCloses_append] at k <;> omega
    | release s' c =>
      have hc := hd.of_release h
      simp only [loop, h, sessionExit, sat_ensure, sat_release, sesCloses_append]
      exact fun _ _ => by omega
    | abort => simp only [loop, h]; trivial

/-- A request with xid 1 that `vcl_recv` pipes, on descriptor 3. -/
def pipeState : St := ⟨{ step := .pipe, xid := 1, vcl := true, fd := 3 }, {}, 1⟩

theorem loop_closesOnce_pipe :
    OpenBetween pipeState.sp ∧
      (loop {} [{ verdict := .pipe }, {}] pipeState []).Sat
        (fun s' cs' => sesCloses cs' + openConn s'.sp.fd ≤ sesCloses [] + openConn pipeState.sp.fd)
        fun s' cs' => sesCloses cs' + openConn s'.sp.fd ≤ sesCloses [] + openConn pipeState.sp.fd :=
  ⟨by decide, loop_closesOnce (s := pipeState) (by decide)⟩

/- `PipeSession` closes the connection, and `cnt_done` deletes the session without a close. -/
example : (match loop {} [{ verdict := .pipe }, {}] pipeState [] with
    | .release s cs => (s.sp.fd, cs)
    | _ => (0, [])) = (-1, [.pipeSession, .reqEnd 1, .sesDelete]) := by decide

end Varnish.Center
