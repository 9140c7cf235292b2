import Varnish.Center.Objects

/-!
# A pass is never published

A request that `vcl_recv`, `vcl_hit` or `vcl_miss` passes, or that `HSH_Lookup` finds a
hit-for-pass object for, is fetched in `cnt_pass`, `cnt_fetch` and `cnt_fetchbody` and delivered
by `cnt_prepresp` and `cnt_streambody` or `cnt_deliver`. `PassAttempt` is the set of those
dispatches over every run, of a session or of an ESI include; `PassInv` what each of them
holds.

* `passAttempt_unpublished`: in every pass attempt the worker holds no objcore, the object it
  fetches has no objcore, lives on transient storage and has a negative TTL, and no dispatch of
  the attempt calls `EXP_Insert` or `HSH_Unbusy`. The attempt starts clean because every path
  into `cnt_pass` drops the objcore (`reach_held`, `esiReach_held`).
-/

namespace Varnish.Center

/-- The steps of a pass attempt after `cnt_pass`: the fetch, and the delivery of the object. -/
def attemptStep : Step → Bool
  | .fetch | .fetchbody | .prepresp | .streambody | .deliver => true
  | _ => false

/-- The dispatches of an attempt of a request that entered `cnt_pass`. -/
inductive PassAttempt (p : Params) : St → Prop
  /-- A reachable dispatch of `cnt_pass`. -/
  | pass {s : St} : Reach p s → s.sp.step = .pass → PassAttempt p s
  /-- A dispatch of `cnt_pass` in an ESI include. -/
  | esi {sp : Sess} {s : St} : EsiReach p sp s → s.sp.step = .pass → PassAttempt p s
  /-- The next dispatch, while the attempt fetches or delivers. -/
  | next {s s' : St} {o : Oracle} {cs : List Call} : PassAttempt p s →
      dispatch p o s = .cont s' cs → attemptStep s'.sp.step = true → PassAttempt p s'

/-- What a pass attempt holds at each of its steps: nothing until the object is allocated, then
an object with no objcore, on transient storage, fetched with a negative TTL. -/
def PassInv : Step → St → Prop
  | .pass, s | .fetch, s | .fetchbody, s => s.wrk.objcore = none ∧ s.wrk.obj = none
  | _, s => s.wrk.objcore = none ∧ ∃ ob, s.wrk.obj = some ob ∧ ob.objcore = none ∧
      ob.storage = some .transient ∧ s.wrk.busyobj.map (·.ttl) = some (-1)

/-- Calls that neither insert an object in the expiry lists nor unbusy one. -/
def Unpublishing (cs : List Call) : Prop := Call.expInsert ∉ cs ∧ Call.hshUnbusy ∉ cs

@[simp] theorem unpublishing_append {a b : List Call} :
    Unpublishing (a ++ b) ↔ Unpublishing a ∧ Unpublishing b := by
  simp only [Unpublishing, List.mem_append, not_or]; tauto

/-- A dispatch inside a pass attempt: a successor still in the attempt keeps `PassInv`, and the
calls publish nothing. -/
def AttemptOk (s : St) (cs : List Call) : Prop :=
  (attemptStep s.sp.step = true → PassInv s.sp.step s) ∧ Unpublishing cs

/-- A dispatch that leaves the attempt only has to publish nothing. -/
theorem attemptOk_leave {s : St} {cs : List Call} (hst : attemptStep s.sp.step = false)
    (hcs : Unpublishing cs) : AttemptOk s cs :=
  ⟨fun h => absurd h (by simp [hst]), hcs⟩

theorem fetchbodyAllocCalls_unpublishing (o : Oracle) (hint : Option Hint) :
    Unpublishing (fetchbodyAllocCalls o hint) := by
  unfold fetchbodyAllocCalls; split <;> simp [Unpublishing]

section Handlers

variable (p : Params) (o : Oracle) {s : St}

theorem cntPass_attempt (h : PassInv .pass s) :
    (cntPass o s).Sat AttemptOk fun _ _ => True := by
  unfold cntPass
  simp only [sat_ensure, sat_ite, sat_cont]
  intro _ _
  split_ifs
  · exact attemptOk_leave rfl (by simp [Unpublishing])
  · exact fun _ => ⟨fun _ => h, by simp [Unpublishing]⟩

theorem fetchCleanup_attempt (hoc : s.wrk.objcore = none) {cs : List Call}
    (hcs : Unpublishing cs) : (fetchCleanup s cs).Sat AttemptOk fun _ _ => True := by
  unfold fetchCleanup derefObjcore
  simp only [sat_ensure, hoc, Option.isSome_none, Bool.false_eq_true, ↓reduceIte]
  intro _
  split
  exacts [attemptOk_leave rfl hcs, attemptOk_leave rfl hcs, trivial]

theorem cntFetch_attempt (h : PassInv .fetch s) :
    (cntFetch o s).Sat AttemptOk fun _ _ => True := by
  unfold cntFetch
  simp only [sat_ensure]
  intro _
  split
  · trivial
  simp only [sat_ensure, sat_ite]
  intro _ _ _ _ _
  split
  · exact fetchCleanup_attempt (by exact h.1) (by simp [Unpublishing])
  · intro _
    split
    · exact ⟨fun _ => ⟨by simp [h.1], h.2⟩, by simp [Unpublishing]⟩
    · simp only [sat_ensure, sat_cont]
      exact fun _ => ⟨fun _ => h, by simp [Unpublishing]⟩
    · exact fetchCleanup_attempt (by exact h.1) (by simp [Unpublishing])

theorem cntFetchbody_attempt (h : PassInv .fetchbody s) :
    (cntFetchbody p o s).Sat AttemptOk fun _ _ => True := by
  unfold cntFetchbody
  split
  · trivial
  simp only [sat_ensure]
  intro _
  split
  · exact attemptOk_leave rfl
      (unpublishing_append.mpr ⟨fetchbodyAllocCalls_unpublishing o _, by simp [Unpublishing]⟩)
  · rename_i bo _ _ _ ob hob
    obtain ⟨hoc, hobc, hstor⟩ := fetchbodyAlloc_some hob
    rw [h.1] at hobc
    rw [fetchbodyHint_pass h.1] at hstor
    have httl := @fetchbodyExp_ttl p o _ (@fetchbodyPlan_ttl p o _ bo h.1)
    simp only [sat_ensure, sat_ite, sat_cont]
    intro _
    split_ifs
    · exact ⟨fun _ => ⟨hoc, _, rfl, by simpa using hobc, by simpa using hstor.elim id id,
        by simpa using httl⟩, fetchbodyAllocCalls_unpublishing o _⟩
    · intro _
      rw [fetchbodyPublish_of_none (by simpa using hobc)]
      exact ⟨fun _ => ⟨hoc, _, rfl, by simpa using hobc, by simpa using hstor.elim id id,
        by simpa using httl⟩, by simpa using fetchbodyAllocCalls_unpublishing o _⟩
    · intro _
      refine attemptOk_leave rfl ?_
      rw [hshDrop_of_none (by simpa [fetchBody] using hobc)]
      simpa [Unpublishing] using fetchbodyAllocCalls_unpublishing o _

theorem preprespDrop_unpublishing {w : Wrk} (bo : BusyObj)
    (h : w.obj.bind Object.objcore = none) : Unpublishing (preprespDrop w bo).2 := by
  unfold preprespDrop
  split
  · dsimp only
    rw [hshDrop_of_none (w := vdiCloseFd w) h]
    simp [Unpublishing]
  · simp [Unpublishing]

theorem cntPrepresp_attempt (h : PassInv .prepresp s) :
    (cntPrepresp p o s).Sat AttemptOk fun _ _ => True := by
  have hdrop : s.wrk.obj.bind Object.objcore = none := by
    obtain ⟨-, ob, hob, hobc, -⟩ := h
    simp [hob, hobc]
  exact cntPrepresp_sat fun _ _ _ => ⟨fun _ _ => ⟨fun _ => h, by simp [Unpublishing]⟩,
    fun _ => ⟨fun _ => h, by simp [Unpublishing]⟩,
    fun _ _ _ _ => attemptOk_leave rfl (preprespDrop_unpublishing _ hdrop)⟩

theorem cntStreambody_attempt (h : PassInv .streambody s) :
    (cntStreambody o s).Sat AttemptOk fun _ _ => True := by
  obtain ⟨-, ob, hob, hobc, -⟩ := h
  unfold cntStreambody
  simp only [sat_ensure]
  intro _
  split
  · trivial
  · rename_i heq
    rw [hob] at heq
    cases heq
    simp only [sat_ensure, sat_cont]
    intro _ _
    refine attemptOk_leave rfl ?_
    rw [streamEnd_of_none hobc]
    simp [Unpublishing]

theorem cntDeliver_attempt : (cntDeliver s).Sat AttemptOk fun _ _ => True := by
  unfold cntDeliver
  split
  exacts [trivial, attemptOk_leave rfl (by simp [Unpublishing])]

end Handlers

/-- Every dispatch of a pass attempt keeps `PassInv` and publishes nothing. -/
theorem dispatch_attempt (p : Params) (o : Oracle) {s : St}
    (ha : s.sp.step = .pass ∨ attemptStep s.sp.step = true) (h : PassInv s.sp.step s) :
    (dispatch p o s).Sat AttemptOk fun _ _ => True := by
  unfold dispatch
  split <;> rename_i hs <;> rw [hs] at h ha <;> try simp [attemptStep] at ha
  · exact cntPass_attempt o h
  · exact cntFetch_attempt o h
  · exact cntFetchbody_attempt p o h
  · exact cntStreambody_attempt o h
  · exact cntPrepresp_attempt p o h
  · exact cntDeliver_attempt

/-- An attempt starts at a dispatch of `cnt_pass` with what `Held` allows there. -/
theorem passInv_pass {s : St} (h : Held s) (hs : s.sp.step = .pass) :
    (s.sp.step = .pass ∨ attemptStep s.sp.step = true) ∧ PassInv s.sp.step s := by
  unfold Held at h
  rw [hs] at h ⊢
  exact ⟨.inl rfl, h⟩

theorem passAttempt_inv {p : Params} {s : St} (h : PassAttempt p s) :
    (s.sp.step = .pass ∨ attemptStep s.sp.step = true) ∧ PassInv s.sp.step s := by
  induction h with
  | pass hr hs => exact passInv_pass (reach_held hr) hs
  | esi hr hs => exact passInv_pass (esiReach_held hr) hs
  | next _ hd hst ih => exact ⟨.inr hst, ((dispatch_attempt _ _ ih.1 ih.2).of_cont hd).1 hst⟩

/-- **A pass attempt publishes nothing**: at every dispatch of an attempt that entered
`cnt_pass`, the worker holds what `PassInv` says (no objcore; once allocated, an object with no
objcore, on transient storage, with a negative TTL), and the dispatch calls neither `EXP_Insert`
nor `HSH_Unbusy`. -/
theorem passAttempt_unpublished {p : Params} {s : St} (h : PassAttempt p s) :
    PassInv s.sp.step s ∧ ∀ o s' cs, dispatch p o s = .cont s' cs →
      Call.expInsert ∉ cs ∧ Call.hshUnbusy ∉ cs := by
  obtain ⟨ha, hi⟩ := passAttempt_inv h
  exact ⟨hi, fun o _ _ hd => ((dispatch_attempt p o ha hi).of_cont hd).2⟩

/-- The dispatch of `cnt_pass` for the first request on a new connection, passed by
`vcl_recv`. -/
def passState : St :=
  ⟨{ step := .pass, xid := 1, director := true, vcl := true, handling := .hash }, {}, 1⟩

theorem passState_attempt : PassAttempt {} passState :=
  .pass (@reach_loop {} [{}, {}, {}, { verdict := .pass }] _ _ [] [] (reach_accept {})
    (by decide)) rfl

theorem passAttempt_unpublished_first :
    PassAttempt {} passState ∧ PassInv passState.sp.step passState ∧
      ∀ o s' cs, dispatch {} o passState = .cont s' cs →
        Call.expInsert ∉ cs ∧ Call.hshUnbusy ∉ cs :=
  ⟨passState_attempt, passAttempt_unpublished passState_attempt⟩

end Varnish.Center
