import Mathlib.Logic.Relation
import Varnish.Center.Session

/-!
# The step graph

The DOT comments of `cache_center.c` draw the session engine as a graph of steps. `Edge` is that
graph with the restart counter on every edge: which steps follow which, which edges add a
restart, which reset the counter, and which are taken only under `max_restarts`. It follows the
handlers where they and the drawing differ: the drawing has a restart out of `vcl_pass` and an
error out of `vcl_deliver`, but `cnt_pass` stops at its assertion on the first and
`cnt_prepresp` at `WRONG` on the second.

Each handler gets one lemma stating that it moves along `Edge` (`*_moves`), proved by walking
its branches with `Outcome.Sat`; every result about steps and restarts is derived from those
lemmas and never unfolds a handler again.

* `dispatch_moves`: every dispatch moves along `Edge`, or lets the session go from `wait`,
  `lookup` or `done` at the same step with no more restarts; `dispatch_edge` and
  `dispatch_release` are its two halves.
* `loop_path`: the loop of `CNT_Session` refines the graph: a run that goes on has moved the
  step and the counter along a path of `Edge`.
-/

namespace Varnish.Center

/-- The step graph of `cache_center.c`, with the restart counter before and after each edge;
`m` is `max_restarts`. -/
inductive Edge (m : Nat) : Step → Nat → Step → Nat → Prop
  -- `cnt_first`, `cnt_wait`; `cnt_start` asserts that no restart is counted
  | firstWait {r : Nat} : Edge m .first r .wait r
  | waitStart {r : Nat} : Edge m .wait r .start r
  | waitDone {r : Nat} : Edge m .wait r .done r
  | startRecv : Edge m .start 0 .recv 0
  | startError : Edge m .start 0 .error 0
  | startDone : Edge m .start 0 .done 0
  -- `cnt_recv`: over the cap the request goes to `error`, under it wherever `vcl_recv` says
  | recvError {r : Nat} : Edge m .recv r .error r
  | recvLookup {r : Nat} : r < m → Edge m .recv r .lookup r
  | recvPipe {r : Nat} : r < m → Edge m .recv r .pipe r
  | recvPass {r : Nat} : r < m → Edge m .recv r .pass r
  -- `cnt_lookup`, `cnt_hit`, `cnt_miss`, `cnt_pass`, `cnt_pipe`
  | lookupMiss {r : Nat} : Edge m .lookup r .miss r
  | lookupHit {r : Nat} : Edge m .lookup r .hit r
  | lookupPass {r : Nat} : Edge m .lookup r .pass r
  | hitPrepresp {r : Nat} : Edge m .hit r .prepresp r
  | hitPass {r : Nat} : Edge m .hit r .pass r
  | hitError {r : Nat} : Edge m .hit r .error r
  /-- The restart of `vcl_hit`, which does not check the cap. -/
  | hitRestart {r : Nat} : Edge m .hit r .recv (r + 1)
  | missError {r : Nat} : Edge m .miss r .error r
  | missPass {r : Nat} : Edge m .miss r .pass r
  | missFetch {r : Nat} : Edge m .miss r .fetch r
  | passError {r : Nat} : Edge m .pass r .error r
  | passFetch {r : Nat} : Edge m .pass r .fetch r
  | pipeDone {r : Nat} : Edge m .pipe r .done r
  -- `cnt_fetch`, `cnt_fetchbody`, `cnt_streambody`
  | fetchFetchbody {r : Nat} : Edge m .fetch r .fetchbody r
  /-- The restart of `vcl_fetch`, which does not check the cap. -/
  | fetchRestart {r : Nat} : Edge m .fetch r .recv (r + 1)
  | fetchError {r : Nat} : Edge m .fetch r .error r
  | fetchbodyError {r : Nat} : Edge m .fetchbody r .error r
  | fetchbodyPrepresp {r : Nat} : Edge m .fetchbody r .prepresp r
  | streambodyDone {r : Nat} : Edge m .streambody r .done 0
  -- `cnt_prepresp`, `cnt_deliver`, `cnt_error`: their restarts are checked against the cap
  | preprespRestart {r : Nat} : r < m → Edge m .prepresp r .recv (r + 1)
  | preprespStreambody {r : Nat} : Edge m .prepresp r .streambody r
  | preprespDeliver {r : Nat} : Edge m .prepresp r .deliver r
  | deliverDone {r : Nat} : Edge m .deliver r .done 0
  | errorRestart {r : Nat} : r < m → Edge m .error r .recv (r + 1)
  | errorPrepresp {r : Nat} : Edge m .error r .prepresp r
  | errorDone {r : Nat} : Edge m .error r .done r
  -- `cnt_done`: the next request on the connection, with the counter reset
  | doneStart {r : Nat} : Edge m .done r .start 0
  | doneWait {r : Nat} : Edge m .done r .wait 0

/-! ## Every handler moves along the graph -/

/-- The steps whose handler returns `1` and lets the session go: `cnt_wait` when the connection
closes or goes to the waiter, `cnt_lookup` when it parks the session, and `cnt_done`. -/
def releases : Step → Bool
  | .wait | .lookup | .done => true
  | _ => false

/-- What a dispatch from step `st` with `r` restarts does to the step and the counter: it goes
on along an edge of the graph, or, at a step that `releases`, lets the session go at that step
with no more restarts. -/
def Moves (m : Nat) (st : Step) (r : Nat) : Outcome → Prop :=
  Outcome.Sat (fun s _ => Edge m st r s.sp.step s.sp.restarts)
    (fun s _ => releases st = true ∧ s.sp.step = st ∧ s.sp.restarts ≤ r)

section Handlers

variable (m : Nat) (p : Params) (o : Oracle) (s : St)

theorem cntFirst_moves : Moves m .first s.sp.restarts (cntFirst p s) := by
  simp [Moves, cntFirst, Edge.firstWait]

theorem cntWait_moves (hs : s.sp.step = .wait) : Moves m .wait s.sp.restarts (cntWait p o s) := by
  unfold Moves cntWait
  simp only [sat_ensure, sat_ite, sat_cont, sat_release]
  intro _ _ _ _
  split_ifs
  exacts [⟨rfl, hs, le_rfl⟩, .waitStart, .waitDone]

theorem cntStart_moves : Moves m .start s.sp.restarts (cntStart o s) := by
  apply cntStart_sat
  rintro h - - - sp - - - hr - (⟨hs, -⟩ | ⟨hs | hs, -⟩) <;> rw [hs, hr, h]
  exacts [.startDone, .startError, .startRecv]

theorem cntRecv_moves : Moves p.maxRestarts .recv s.sp.restarts (cntRecv p o s) := by
  apply cntRecv_sat
  rintro - - - sp - - hr (hs | ⟨hc, hs | hs | hs | hs⟩) <;> rw [hs, hr]
  exacts [.recvError, .recvLookup hc, .recvPipe hc, .recvPass hc, .recvError]

theorem cntLookup_moves (hs : s.sp.step = .lookup) :
    Moves m .lookup s.sp.restarts (cntLookup o s) := by
  refine cntLookup_sat (fun _ => ⟨rfl, hs, le_rfl⟩) fun _ _ _ _ _ _ hr =>
    ⟨fun _ hn _ => ?_, fun _ _ hn => ?_, fun _ _ hn => ?_⟩ <;> rw [hn, hr]
  exacts [.lookupMiss, .lookupPass, .lookupHit]

theorem cntHit_moves : Moves m .hit s.sp.restarts (cntHit o s) := by
  unfold Moves cntHit
  split
  · trivial
  simp only [sat_ensure, sat_ite, sat_cont, vclCall_restarts]
  intro _
  split
  · trivial
  simp only [sat_ensure, sat_ite, sat_cont, vclCall_restarts]
  intro _
  split_ifs
  · exact fun _ _ => .hitPrepresp
  · split
    exacts [.hitPass, .hitError, .hitRestart, trivial]

theorem cntMiss_moves : Moves m .miss s.sp.restarts (cntMiss o s) := by
  unfold Moves cntMiss
  simp only [sat_ensure, sat_cont, vclCall_restarts]
  intro _ _ _ _
  split
  exacts [.missError, .missPass, .missFetch, trivial, trivial]

theorem cntPass_moves : Moves m .pass s.sp.restarts (cntPass o s) := by
  unfold Moves cntPass
  simp only [sat_ensure, sat_ite, sat_cont, vclCall_restarts]
  intro _ _
  split_ifs
  exacts [.passError, fun _ => .passFetch]

theorem cntPipe_moves : Moves m .pipe s.sp.restarts (cntPipe o s) := by
  unfold Moves cntPipe
  simp only [sat_ensure, sat_ite, sat_cont, vclCall_restarts, sesClose_restarts]
  intro _
  split_ifs
  exacts [trivial, fun _ => .pipeDone]

/-- The clean-up of `cnt_fetch` restarts or goes to `error`. -/
theorem fetchCleanup_moves (cs : List Call) : Moves m .fetch s.sp.restarts (fetchCleanup s cs) := by
  unfold Moves fetchCleanup
  simp only [sat_ensure, sat_cont]
  intro _
  split
  exacts [.fetchRestart, .fetchError, trivial]

theorem cntFetch_moves : Moves m .fetch s.sp.restarts (cntFetch o s) := by
  unfold cntFetch
  simp only [Moves, sat_ensure]
  intro _
  split
  · trivial
  simp only [sat_ensure, sat_ite]
  intro _ _ _ _ _
  split
  · exact fetchCleanup_moves m _ _
  · simp only [sat_ensure, vclCall_restarts]
    intro _
    split
    · exact .fetchFetchbody
    · simp only [sat_ensure, sat_cont]
      exact fun _ => .fetchFetchbody
    · exact fetchCleanup_moves m ⟨_, _, _⟩ _

theorem cntFetchbody_moves : Moves m .fetchbody s.sp.restarts (cntFetchbody p o s) := by
  unfold Moves cntFetchbody
  split
  · trivial
  simp only [sat_ensure, sat_ite, sat_cont]
  intro _
  split
  · exact .fetchbodyError
  · simp only [sat_ensure, sat_ite, sat_cont]
    intro _
    split_ifs
    exacts [.fetchbodyPrepresp, fun _ => .fetchbodyPrepresp, fun _ => .fetchbodyError]

theorem cntStreambody_moves : Moves m .streambody s.sp.restarts (cntStreambody o s) := by
  unfold Moves cntStreambody
  simp only [sat_ensure]
  intro _
  split
  · trivial
  · simp only [sat_ensure, sat_cont]
    exact fun _ _ => .streambodyDone

theorem cntPrepresp_moves : Moves p.maxRestarts .prepresp s.sp.restarts (cntPrepresp p o s) :=
  cntPrepresp_sat fun _ _ _ =>
    ⟨fun _ _ => .preprespStreambody, fun _ => .preprespDeliver,
      fun _ hr _ _ => .preprespRestart hr⟩

theorem cntDeliver_moves : Moves m .deliver s.sp.restarts (cntDeliver s) := by
  unfold Moves cntDeliver
  split
  exacts [trivial, .deliverDone]

theorem errorRespond_moves (w : Wrk) (ob : Object) (cs : List Call) :
    Moves p.maxRestarts .error s.sp.restarts (errorRespond p o s w ob cs) := by
  unfold Moves errorRespond
  simp only [sat_ensure, sat_ite, sat_cont, vclCall_restarts, Bool.and_eq_true, decide_eq_true_eq]
  split_ifs with h
  · exact .errorRestart h.2
  · exact fun _ => .errorPrepresp

theorem cntError_moves : Moves p.maxRestarts .error s.sp.restarts (cntError p o s) := by
  unfold cntError
  split
  · exact errorRespond_moves _ _ _ _ _ _
  · dsimp only
    split
    · exact .errorDone
    · exact errorRespond_moves _ _ _ _ _ _

theorem cntDone_moves (hs : s.sp.step = .done) : Moves m .done s.sp.restarts (cntDone p o s) := by
  apply cntDone_sat
  · exact fun _ _ _ => ⟨rfl, hs, Nat.zero_le _⟩
  · rintro - - - sp rfl
    simp only [doneClose_step, doneClose_restarts]
    exact ⟨fun _ => ⟨rfl, hs, Nat.zero_le _⟩,
      fun _ => ⟨fun _ => .doneStart, .doneWait, rfl, hs, Nat.zero_le _⟩⟩

end Handlers

/-- **Every dispatch moves along the step graph**: the faithful handlers refine `Edge`. -/
theorem dispatch_moves (p : Params) (o : Oracle) (s : St) :
    Moves p.maxRestarts s.sp.step s.sp.restarts (dispatch p o s) := by
  unfold dispatch
  split <;> rename_i h <;> rw [h]
  · exact cntWait_moves _ _ _ _ h
  · exact cntFirst_moves _ _ _
  · exact cntRecv_moves _ _ _
  · exact cntStart_moves _ _ _
  · exact cntPipe_moves _ _ _
  · exact cntPass_moves _ _ _
  · exact cntLookup_moves _ _ _ h
  · exact cntMiss_moves _ _ _
  · exact cntHit_moves _ _ _
  · exact cntFetch_moves _ _ _
  · exact cntFetchbody_moves _ _ _ _
  · exact cntStreambody_moves _ _ _
  · exact cntPrepresp_moves _ _ _
  · exact cntDeliver_moves _ _
  · exact cntError_moves _ _ _
  · exact cntDone_moves _ _ _ _ h

theorem dispatch_edge {p : Params} {o : Oracle} {s s' : St} {cs : List Call}
    (h : dispatch p o s = .cont s' cs) :
    Edge p.maxRestarts s.sp.step s.sp.restarts s'.sp.step s'.sp.restarts :=
  (dispatch_moves p o s).of_cont h

theorem dispatch_release {p : Params} {o : Oracle} {s s' : St} {cs : List Call}
    (h : dispatch p o s = .release s' cs) :
    releases s.sp.step = true ∧ s'.sp.step = s.sp.step ∧ s'.sp.restarts ≤ s.sp.restarts :=
  (dispatch_moves p o s).of_release h

/-! ## Runs follow paths of the graph -/

/-- The paths of the step graph, over pairs of step and counter. -/
def Path (m : Nat) : Step × Nat → Step × Nat → Prop :=
  Relation.ReflTransGen fun a b => Edge m a.1 a.2 b.1 b.2

/-- **The loop of `CNT_Session` refines the step graph**: a run of the loop that goes on has moved
the step and the restart counter along a path of `Edge`. -/
theorem loop_path {p : Params} {os : List Oracle} {s s' : St} {cs cs' : List Call}
    (h : loop p os s cs = .cont s' cs') :
    Path p.maxRestarts (s.sp.step, s.sp.restarts) (s'.sp.step, s'.sp.restarts) := by
  induction os generalizing s cs with
  | nil => cases h; exact .refl
  | cons o os ih =>
    simp only [loop] at h
    split at h
    · exact .head (dispatch_edge ‹_›) (ih h)
    · unfold sessionExit ensure at h; split_ifs at h
    · cases h

/-- The first request on a new connection at `cnt_lookup`, sent there by `vcl_recv`. -/
def lookupState : St :=
  ⟨{ step := .lookup, xid := 1, director := true, vcl := true, handling := .hash }, {}, 1⟩

theorem loop_path_lookup :
    loop {} [{}, {}, {}, { verdict := .lookup }] ⟨{}, {}, 0⟩ [] = .cont lookupState [] ∧
      Path ({} : Params).maxRestarts (.first, 0) (.lookup, 0) :=
  have h : loop {} [{}, {}, {}, { verdict := .lookup }] ⟨{}, {}, 0⟩ [] =
      .cont lookupState [] := by decide
  ⟨h, loop_path h⟩

end Varnish.Center
