import Varnish.Center.Client

/-!
# The objects a worker holds

Which of `wrk->obj` and `wrk->objcore` a worker may hold depends on the step: a busy objcore is
held from `cnt_lookup`'s miss until `cnt_fetchbody` moves it into the object it allocates, and
the object from its allocation or lookup until it is delivered or dropped. `HeldAt` says what
each step may find; one lemma per handler (`*_held`) shows that every handler leaves its
successor what that step may find, and lets a session go with the objcore it found.

* `reach_held`: over the whole life of a session, at every dispatch the worker holds what
  `HeldAt` allows. In particular every dispatch of `cnt_pass` finds no objcore and no object,
  whichever of `vcl_recv`, `vcl_hit`, `vcl_miss` or a hit-for-pass lookup sent it there, and a
  session reaches `cnt_done` with an objcore only on a path that closes the connection;
  `esiReach_held`: the same over an ESI include.
-/

namespace Varnish.Center

/-- What the worker may hold at a dispatch of each step: no objcore at the steps before a miss
and after the object is allocated, no object at `pass`, `fetch` and `error`, and at `done` an
objcore only together with a reason to close. -/
def HeldAt : Step → St → Prop
  | .pass, s => s.wrk.objcore = none ∧ s.wrk.obj = none
  | .fetch, s | .error, s => s.wrk.obj = none
  | .miss, _ | .fetchbody, _ => True
  | .done, s => s.wrk.objcore ≠ none → s.sp.doclose ≠ none
  | _, s => s.wrk.objcore = none

/-- The worker holds what the step of the session allows. -/
def Held (s : St) : Prop := HeldAt s.sp.step s

/-- A worker that holds nothing holds what every step allows. -/
theorem held_of_none {s : St} (hoc : s.wrk.objcore = none) (hobj : s.wrk.obj = none) :
    Held s := by
  unfold Held
  cases s.sp.step <;> first | exact hoc | exact hobj | exact ⟨hoc, hobj⟩ | trivial |
    exact fun h => absurd hoc h

/-- `P` holds of the state a handler goes on with, and a handler that lets the session go
leaves the objcore of `s` as it was. -/
def Outcome.Keeps (s : St) (P : St → Prop) (out : Outcome) : Prop :=
  out.Sat (fun s' _ => P s') fun s' _ => s'.wrk.objcore = s.wrk.objcore

section Handlers

variable (p : Params) (o : Oracle) {s : St}

theorem cntFirst_held (h : HeldAt .first s) : (cntFirst p s).Keeps s Held := by
  simp only [Outcome.Keeps, cntFirst, sat_ensure, sat_cont]
  exact fun _ _ _ => h

theorem cntWait_held (h : HeldAt .wait s) : (cntWait p o s).Keeps s Held := by
  unfold Outcome.Keeps cntWait
  simp only [sat_ensure, sat_ite, sat_cont, sat_release]
  intro _ _ _ _
  split_ifs <;> first | trivial | exact h | exact fun hne => absurd h hne

theorem cntStart_held (h : HeldAt .start s) : (cntStart o s).Keeps s Held := by
  apply cntStart_sat
  rintro - hobj - - sp - - - - - (⟨hs, -⟩ | ⟨hs | hs, -⟩) <;> unfold Held <;> rw [hs]
  exacts [fun hne => absurd h hne, hobj, h]

theorem cntRecv_held (h : HeldAt .recv s) : (cntRecv p o s).Keeps s Held := by
  apply cntRecv_sat
  rintro - ho - sp - - - (hs | ⟨-, hs | hs | hs | hs⟩) <;> unfold Held <;> rw [hs]
  exacts [ho, h, h, ⟨h, ho⟩, ho]

theorem cntLookup_held (h : HeldAt .lookup s) : (cntLookup o s).Keeps s Held := by
  refine cntLookup_sat (fun _ => rfl) fun _ _ _ _ _ _ _ =>
    ⟨fun _ hs _ => ?_, fun _ _ hs => ?_, fun _ _ hs => ?_⟩ <;> unfold Held <;> rw [hs]
  exacts [trivial, ⟨rfl, rfl⟩, h]

theorem cntHit_held (h : HeldAt .hit s) : (cntHit o s).Keeps s Held := by
  unfold Outcome.Keeps cntHit
  split
  · trivial
  simp only [sat_ensure]
  intro _
  split
  · trivial
  simp only [sat_ensure, sat_ite, sat_cont]
  intro _
  split_ifs
  · exact fun _ _ => h
  · split
    exacts [⟨rfl, rfl⟩, rfl, rfl, trivial]

theorem cntMiss_held : (cntMiss o s).Keeps s Held := by
  unfold Outcome.Keeps cntMiss
  simp only [sat_ensure, Option.isNone_iff_eq_none]
  intro _ hobj _ _
  split
  exacts [hobj, ⟨rfl, hobj⟩, hobj, trivial, trivial]

theorem cntPass_held (h : HeldAt .pass s) : (cntPass o s).Keeps s Held := by
  unfold Outcome.Keeps cntPass
  simp only [sat_ensure, sat_ite, sat_cont]
  intro _ _
  split_ifs
  exacts [h.2, fun _ => h.2]

theorem cntPipe_held (h : HeldAt .pipe s) : (cntPipe o s).Keeps s Held := by
  unfold Outcome.Keeps cntPipe
  simp only [sat_ensure, sat_ite, sat_cont]
  intro _
  split_ifs
  exacts [trivial, fun _ hne => absurd h hne]

theorem fetchCleanup_held (hobj : s.wrk.obj = none) (cs : List Call) :
    (fetchCleanup s cs).Keeps s Held := by
  unfold Outcome.Keeps fetchCleanup
  simp only [sat_ensure]
  intro _
  split
  exacts [rfl, hobj, trivial]

theorem cntFetch_held (h : HeldAt .fetch s) : (cntFetch o s).Keeps s Held := by
  unfold cntFetch
  simp only [Outcome.Keeps, sat_ensure]
  intro _
  split
  · trivial
  simp only [sat_ensure, sat_ite]
  intro _ _ _ _ _
  split
  · exact fetchCleanup_held (by exact h) _
  · intro _
    split
    · trivial
    · simp only [sat_ensure, sat_cont]
      exact fun _ => trivial
    · exact fetchCleanup_held (by exact h) _

theorem cntFetchbody_held : (cntFetchbody p o s).Keeps s Held := by
  unfold Outcome.Keeps cntFetchbody
  split
  · trivial
  simp only [sat_ensure]
  intro _
  split
  · exact ‹_›
  · rename_i ob hob
    have hoc := (fetchbodyAlloc_some hob).1
    simp only [sat_ensure, sat_ite, sat_cont]
    intro _
    split_ifs
    exacts [hoc, fun _ => hoc, fun _ => rfl]

theorem cntStreambody_held (h : HeldAt .streambody s) : (cntStreambody o s).Keeps s Held := by
  unfold Outcome.Keeps cntStreambody
  simp only [sat_ensure]
  intro _
  split
  · trivial
  · simp only [sat_ensure, sat_cont]
    exact fun _ _ hne => absurd h hne

theorem cntPrepresp_held (h : HeldAt .prepresp s) : (cntPrepresp p o s).Keeps s Held :=
  cntPrepresp_sat fun _ _ _ => ⟨fun _ _ => h, fun _ => h, fun _ _ _ _ => by simpa using h⟩

theorem cntDeliver_held (h : HeldAt .deliver s) : (cntDeliver s).Keeps s Held := by
  unfold Outcome.Keeps cntDeliver
  split
  exacts [trivial, fun hne => absurd h hne]

theorem errorRespond_held (w : Wrk) (ob : Object) (cs : List Call) (hoc : w.objcore = none) :
    (errorRespond p o s w ob cs).Keeps s Held := by
  unfold Outcome.Keeps errorRespond
  simp only [sat_ensure, sat_ite, sat_cont]
  split_ifs
  exacts [hoc, fun _ => hoc]

theorem cntError_held (h : HeldAt .error s) : (cntError p o s).Keeps s Held := by
  unfold cntError
  split
  · have hobj : s.wrk.obj = none := h
    simp [hobj] at *
  · dsimp only
    split
    · exact fun _ => by simp
    · exact errorRespond_held _ _ _ _ _ (errorAlloc_some ‹_›).1

theorem cntDone_held (h : HeldAt .done s) : (cntDone p o s).Keeps s Held := by
  apply cntDone_sat
  · exact fun _ _ _ => rfl
  · rintro - - - sp rfl
    refine ⟨fun _ => rfl, fun hfd => ?_⟩
    have hclose := doneClose_open hfd
    have hoc : s.wrk.objcore = none := Classical.byContradiction fun hoc => h hoc hclose
    exact ⟨fun _ => hoc, hoc, rfl⟩

end Handlers

/-- Every dispatch leaves its successor what that step allows. -/
theorem dispatch_held (p : Params) (o : Oracle) {s : St} (h : Held s) :
    (dispatch p o s).Keeps s Held := by
  unfold dispatch
  unfold Held at h
  split <;> rename_i hs <;> rw [hs] at h
  · exact cntWait_held p o h
  · exact cntFirst_held p h
  · exact cntRecv_held p o h
  · exact cntStart_held o h
  · exact cntPipe_held o h
  · exact cntPass_held o h
  · exact cntLookup_held o h
  · exact cntMiss_held o
  · exact cntHit_held o h
  · exact cntFetch_held o h
  · exact cntFetchbody_held p o
  · exact cntStreambody_held o h
  · exact cntPrepresp_held p o h
  · exact cntDeliver_held h
  · exact cntError_held p o h
  · exact cntDone_held p o h

/-- The entry of `CNT_Session` finds the worker empty, so it holds what every step allows. -/
theorem sessionEnter_held {o : Oracle} {s s' : St} {cs : List Call}
    (h : sessionEnter o s = .cont s' cs) : Held s' := by
  obtain ⟨-, hobj, hoc, hw, -⟩ := sessionEnter_cont h
  exact held_of_none (hw ▸ hoc) (hw ▸ hobj)

/-- **Over the whole life of a session the worker holds what each step allows.** -/
theorem reach_held {p : Params} {s : St} (h : Reach p s) : Held s := by
  induction h with
  | accept _ henter => exact sessionEnter_held henter
  | dispatch _ hd ih => exact (dispatch_held _ _ ih).of_cont hd
  | resume _ _ _ henter => exact sessionEnter_held henter

/-- Over an ESI include, too, the worker holds what each step allows. -/
theorem esiReach_held {p : Params} {sp : Sess} {s : St} (h : EsiReach p sp s) : Held s := by
  induction h with
  | enter _ _ henter => exact sessionEnter_held henter
  | dispatch _ hd ih => exact (dispatch_held _ _ ih).of_cont hd
  | resume _ _ _ henter => exact sessionEnter_held henter

end Varnish.Center
