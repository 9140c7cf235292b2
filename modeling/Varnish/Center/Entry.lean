import Varnish.Center.Client

/-!
# The entry checks of the handlers

Every handler of `cache_center.c` starts by asserting what it expects of the session and the
worker: `cnt_start` that no restart is counted and no VCL is held, `cnt_recv` that no director
is chosen, `cnt_miss` that a busy objcore is held, `cnt_hit` that the object it found is no
hit-for-pass object, and so on. `EntryAt` collects, for each step, those checks on the session
and on `wrk->obj`, `wrk->objcore` and `wrk->busyobj`, with the facts they rest on; one lemma per
handler (`*_entry`) shows that every handler leaves its successor what that step checks, and
lets a session go only in a state it can come back from (`Resumable`).

* `reach_entry`: over the whole life of a session, at every dispatch, the entry checks of the
  handler hold; `esiReach_entry`: so they do over an ESI include, but at `cnt_recv`, which
  `ESI_Deliver` enters with the session as the parent request left it. The checks on the worker's backend scratch (`wrk->vbc`, `wrk->do_close`,
  `wrk->h_content_length`, `wrk->storage_hint`) are not among them: they depend on the sessions
  the same worker served before (`Varnish.Center.Worker`).
-/

namespace Varnish.Center

/-! ## What each step checks -/

/-- A session between requests: no restart counted, no VCL, no director. -/
def Idle (sp : Sess) : Prop := sp.restarts = 0 ∧ sp.vcl = false ∧ sp.director = false

/-- A request that `cnt_recv` routed: it holds the VCL and a director. -/
def Routed (sp : Sess) : Prop := sp.vcl = true ∧ sp.director = true

/-- What a session must carry into the step it is resumed at: idle into `start`, routed back
into `lookup`. -/
def ResumeAt : Step → Sess → Prop
  | .start, sp => Idle sp
  | .lookup, sp => Routed sp
  | _, _ => True

/-- A released session can come back: it carries what the step it is resumed at needs. -/
def Resumable (s : St) : Prop := ∀ st, resumeStep s.sp = some st → ResumeAt st s.sp

/-- The entry checks of each handler on the session, `wrk->obj`, `wrk->objcore` and
`wrk->busyobj`, with the facts they rest on: a delivery that streams has a director. -/
def EntryAt : Step → St → Prop
  | .first, s | .wait, s | .start, s => Idle s.sp ∧ s.wrk.obj = none
  | .recv, s => s.sp.vcl = true ∧ s.sp.director = false ∧ s.wrk.obj = none
  | .lookup, s | .pipe, s | .pass, s => Routed s.sp ∧ s.wrk.obj = none
  | .miss, s => Routed s.sp ∧ s.wrk.obj = none ∧ s.wrk.objcore.isSome ∧ s.wrk.busyobj.isSome
  | .hit, s => Routed s.sp ∧
      ∃ ob oc, s.wrk.obj = some ob ∧ ob.objcore = some oc ∧ oc.pass = false
  | .fetch, s => Routed s.sp ∧ s.wrk.obj = none ∧ s.wrk.busyobj.isSome
  | .fetchbody, s => Routed s.sp ∧ s.wrk.busyobj.isSome ∧
      (s.sp.handling = .hitForPass ∨ s.sp.handling = .deliver)
  | .prepresp, s => s.sp.vcl = true ∧ s.wrk.obj.isSome ∧
      (s.wrk.busyobj.any (·.doStream) = true → s.sp.director = true)
  | .streambody, s => s.sp.director = true ∧ s.wrk.obj.isSome ∧ s.wrk.busyobj.isSome
  | .deliver, s => s.wrk.obj.isSome
  | .error, s => s.sp.vcl = true ∧ s.wrk.obj = none
  | .done, s => s.wrk.obj = none

/-- A handler leaves its successor what that step checks, and lets a session go only in a
state it can come back from. -/
def Outcome.Enters (out : Outcome) : Prop :=
  out.Sat (fun s _ => EntryAt s.sp.step s) fun s _ => Resumable s

/-- A session that is not resumed is trivially resumable. -/
theorem resumable_of_none {s : St} (h : resumeStep s.sp = none) : Resumable s :=
  fun _ hst => absurd (h ▸ hst) (by simp)

/-! ## Every handler keeps the entry checks -/

section Handlers

variable (p : Params) (o : Oracle) {s : St}

theorem cntFirst_entry (h : EntryAt .first s) : (cntFirst p s).Enters := by
  simp only [Outcome.Enters, cntFirst, sat_ensure, sat_cont]
  exact fun _ _ _ => h

theorem cntWait_entry (hs : s.sp.step = .wait) (h : EntryAt .wait s) :
    (cntWait p o s).Enters := by
  unfold Outcome.Enters cntWait
  simp only [sat_ensure, sat_ite, sat_cont, sat_release]
  intro _ _ _ _
  split_ifs
  · intro st hst
    simp only [resumeStep, hs, Option.some.injEq] at hst
    exact hst ▸ h.1
  · exact h
  · exact h.2

theorem cntStart_entry (h : EntryAt .start s) : (cntStart o s).Enters := by
  apply cntStart_sat
  rintro - hobj - - sp - - hv - hd (⟨hs, -⟩ | ⟨hs | hs, -⟩) <;> rw [hs]
  exacts [hobj, ⟨hv, hobj⟩, ⟨hv, hd.trans h.1.2.2, hobj⟩]

theorem cntRecv_entry : (cntRecv p o s).Enters := by
  apply cntRecv_sat
  rintro - ho - sp hv hd - (hs | ⟨-, hs | hs | hs | hs⟩) <;> rw [hs]
  exacts [⟨hv, ho⟩, ⟨⟨hv, hd⟩, ho⟩, ⟨⟨hv, hd⟩, ho⟩, ⟨⟨hv, hd⟩, ho⟩,
    ⟨hv, ho⟩]

theorem cntLookup_entry (hs : s.sp.step = .lookup) (h : EntryAt .lookup s) :
    (cntLookup o s).Enters := by
  refine cntLookup_sat (fun _ st hst => ?_) fun _ oc ob sp hv hd _ => ?_
  · simp only [resumeStep, lookupReserve, hs, Option.some.injEq] at hst
    exact hst ▸ h.1
  · have hr : Routed sp := ⟨hv.trans h.1.1, hd.trans h.1.2⟩
    exact ⟨fun _ hn _ => hn ▸ ⟨hr, h.2, rfl, rfl⟩, fun _ _ hn => hn ▸ ⟨hr, rfl⟩,
      fun _ hp hn => hn ▸ ⟨hr, _, _, rfl, rfl, hp⟩⟩

theorem cntHit_entry (h : EntryAt .hit s) : (cntHit o s).Enters := by
  unfold Outcome.Enters cntHit
  split
  · trivial
  rename_i ob hob
  simp only [sat_ensure]
  intro _
  split
  · trivial
  simp only [sat_ensure, sat_ite, sat_cont]
  intro _
  split_ifs
  · exact fun _ _ => ⟨h.1.1, by simp [hob], fun _ => h.1.2⟩
  · split
    exacts [⟨h.1, rfl⟩, ⟨h.1.1, rfl⟩, ⟨h.1.1, rfl, rfl⟩, trivial]

theorem cntMiss_entry (h : EntryAt .miss s) : (cntMiss o s).Enters := by
  unfold Outcome.Enters cntMiss
  simp only [sat_ensure]
  intro _ _ _ _
  split
  exacts [⟨h.1.1, h.2.1⟩, ⟨h.1, h.2.1⟩, ⟨h.1, h.2.1, h.2.2.2⟩, trivial, trivial]

theorem cntPass_entry (h : EntryAt .pass s) : (cntPass o s).Enters := by
  unfold Outcome.Enters cntPass
  simp only [sat_ensure, sat_ite, sat_cont]
  intro _ _
  split_ifs
  exacts [⟨h.1.1, h.2⟩, fun _ => ⟨h.1, h.2, rfl⟩]

theorem cntPipe_entry (h : EntryAt .pipe s) : (cntPipe o s).Enters := by
  unfold Outcome.Enters cntPipe
  simp only [sat_ensure, sat_ite, sat_cont]
  intro _
  split_ifs
  exacts [trivial, fun _ => h.2]

theorem fetchCleanup_entry (hvcl : s.sp.vcl = true) (hobj : s.wrk.obj = none) (cs : List Call) :
    (fetchCleanup s cs).Enters := by
  unfold Outcome.Enters fetchCleanup
  simp only [sat_ensure]
  intro _
  split
  exacts [⟨hvcl, rfl, hobj⟩, ⟨hvcl, hobj⟩, trivial]

theorem cntFetch_entry (h : EntryAt .fetch s) : (cntFetch o s).Enters := by
  unfold cntFetch
  simp only [Outcome.Enters, sat_ensure]
  intro _
  split
  · trivial
  simp only [sat_ensure, sat_ite]
  intro _ _ _ _ _
  split
  · exact fetchCleanup_entry (by exact h.1.1) (by exact h.2.1) _
  · intro _
    split
    · exact ⟨h.1, rfl, .inl ‹_›⟩
    · simp only [sat_ensure, sat_cont]
      exact fun _ => ⟨h.1, rfl, .inr ‹_›⟩
    · exact fetchCleanup_entry (by exact h.1.1) (by exact h.2.1) _

theorem cntFetchbody_entry (h : EntryAt .fetchbody s) : (cntFetchbody p o s).Enters := by
  unfold Outcome.Enters cntFetchbody
  split
  · trivial
  simp only [sat_ensure]
  intro _
  split
  · exact ⟨h.1.1, ‹_›⟩
  · simp only [sat_ensure, sat_ite, sat_cont]
    intro _
    split_ifs
    exacts [⟨h.1.1, rfl, fun _ => h.1.2⟩, fun _ => ⟨h.1.1, rfl, fun _ => h.1.2⟩,
      fun _ => ⟨h.1.1, rfl⟩]

theorem cntStreambody_entry : (cntStreambody o s).Enters := by
  unfold Outcome.Enters cntStreambody
  simp only [sat_ensure]
  intro _
  split
  · trivial
  · simp only [sat_ensure, sat_cont]
    exact fun _ _ => rfl

theorem cntPrepresp_entry (h : EntryAt .prepresp s) : (cntPrepresp p o s).Enters := by
  apply cntPrepresp_sat
  intro ob hob _
  have hsome : s.wrk.obj.isSome = true := by simp [hob]
  have hbo : s.wrk.busyobj.any (·.doStream) = true → s.wrk.busyobj.isSome := by
    cases s.wrk.busyobj <;> simp
  exact ⟨fun hs _ => ⟨h.2.2 hs, hsome, hbo hs⟩, fun _ => hsome,
    fun _ _ _ _ => ⟨h.1, rfl, preprespDrop_obj _ _⟩⟩

theorem cntDeliver_entry : (cntDeliver s).Enters := by
  unfold Outcome.Enters cntDeliver
  split
  exacts [trivial, rfl]

theorem errorRespond_entry (w : Wrk) (ob : Object) (cs : List Call) (hvcl : s.sp.vcl = true)
    (hbo : w.busyobj = some {}) : (errorRespond p o s w ob cs).Enters := by
  unfold Outcome.Enters errorRespond
  simp only [sat_ensure, sat_ite, sat_cont]
  split_ifs
  · exact ⟨hvcl, rfl, hshDrop_obj _⟩
  · exact fun _ => ⟨hvcl, rfl, by simp [hbo]⟩

theorem cntError_entry (h : EntryAt .error s) : (cntError p o s).Enters := by
  unfold cntError
  split
  · exact absurd h.2 (by simp [*])
  · dsimp only
    split
    · exact ‹_›
    · exact errorRespond_entry _ _ _ _ _ h.1 (errorAlloc_busyobj _ _)

theorem cntDone_entry (hs : s.sp.step = .done) (h : EntryAt .done s) :
    (cntDone p o s).Enters := by
  have hidle : ∀ sp : Sess, sp.restarts = 0 → sp.vcl = false → sp.director = false →
      Idle sp :=
    fun _ h1 h2 h3 => ⟨h1, h2, h3⟩
  apply cntDone_sat
  · intro _ _ hesi
    exact resumable_of_none (by simp [resumeStep, hs, Nat.pos_iff_ne_zero.mp hesi])
  · rintro - - - sp hsp
    have hstep : sp.step = .done := by rw [← hsp, doneClose_step]; exact hs
    have hsp' : Idle sp := by rw [← hsp]; exact hidle _ (by simp) (by simp) (by simp)
    refine ⟨fun hfd => resumable_of_none (by simp [resumeStep, hstep, Int.not_le.mpr hfd]),
      fun _ => ⟨fun _ => ⟨hsp', h⟩, ⟨hsp', h⟩, fun st hst => ?_⟩⟩
    rcases resumeStep_some hst with ⟨hl, -⟩ | rfl
    · simp [hstep] at hl
    · exact hsp'

end Handlers

/-- Every dispatch keeps the entry checks. -/
theorem dispatch_entry (p : Params) (o : Oracle) {s : St} (h : EntryAt s.sp.step s) :
    (dispatch p o s).Enters := by
  unfold dispatch
  split <;> rename_i hs <;> rw [hs] at h
  · exact cntWait_entry p o hs h
  · exact cntFirst_entry p h
  · exact cntRecv_entry p o
  · exact cntStart_entry o h
  · exact cntPipe_entry o h
  · exact cntPass_entry o h
  · exact cntLookup_entry o hs h
  · exact cntMiss_entry o h
  · exact cntHit_entry o h
  · exact cntFetch_entry o h
  · exact cntFetchbody_entry p o h
  · exact cntStreambody_entry o
  · exact cntPrepresp_entry p o h
  · exact cntDeliver_entry
  · exact cntError_entry p o h
  · exact cntDone_entry p o hs h

/-- The entry of `CNT_Session` passes on a session that meets the entry checks of its step once
the worker holds no object, or closes it. -/
theorem sessionEnter_entry {o : Oracle} {s s' : St} {cs : List Call}
    (hs : s.wrk.obj = none → EntryAt s.sp.step s) (h : sessionEnter o s = .cont s' cs) :
    EntryAt s'.sp.step s' := by
  obtain ⟨-, hobj, -, hw, hx, hsp | hsp⟩ := sessionEnter_cont h
  · obtain ⟨sp, w, x⟩ := s'
    simp only at hsp hw hx
    subst hsp hw hx
    exact hs hobj
  · rw [hsp]
    exact (hw ▸ hobj : s'.wrk.obj = none)

/-- **Over the whole life of a session the entry checks of every handler hold**: whatever the
hooks and the collaborators return and however often the session parks and comes back, each
dispatch finds the session and `wrk->obj`, `wrk->objcore` and `wrk->busyobj` as the handler
asserts. -/
theorem reach_entry {p : Params} {s : St} (h : Reach p s) : EntryAt s.sp.step s := by
  induction h with
  | accept hacc henter =>
    refine sessionEnter_entry (fun hobj => ?_) henter
    rw [hacc.step]
    exact ⟨⟨hacc.restarts, hacc.vcl, hacc.director⟩, hobj⟩
  | dispatch _ hd ih => exact (dispatch_entry _ _ ih).of_cont hd
  | resume _ hd hst henter ih =>
    have hres : Resumable _ := (dispatch_entry _ _ ih).of_release hd
    refine sessionEnter_entry (fun hobj => ?_) henter
    rcases resumeStep_some hst with ⟨-, rfl⟩ | rfl
    exacts [⟨hres _ hst, hobj⟩, ⟨hres _ hst, hobj⟩]

/-- A dispatch at `recv`, or at a step whose entry checks hold, keeps the entry checks:
`cnt_recv` checks its own. -/
theorem dispatch_entry_recv (p : Params) (o : Oracle) {s : St}
    (h : s.sp.step = .recv ∨ EntryAt s.sp.step s) : (dispatch p o s).Enters := by
  rcases h with hs | hE
  · have hd : dispatch p o s = cntRecv p o s := by simp only [dispatch, hs]
    rw [hd]
    exact cntRecv_entry p o
  · exact dispatch_entry p o hE

/-- **Over an ESI include the entry checks hold** at every dispatch but a `cnt_recv`, which
`ESI_Deliver` enters with the session as the parent request left it. -/
theorem esiReach_entry {p : Params} {sp : Sess} {s : St} (h : EsiReach p sp s) :
    s.sp.step = .recv ∨ EntryAt s.sp.step s := by
  induction h with
  | enter hs _ he =>
    obtain ⟨rfl, -⟩ := (sessionEnter_request (.inl hs)).of_cont he
    exact .inl hs
  | dispatch _ hd ih => exact .inr ((dispatch_entry_recv _ _ ih).of_cont hd)
  | resume _ hd hst henter ih =>
    have hres : Resumable _ := (dispatch_entry_recv _ _ ih).of_release hd
    refine .inr (sessionEnter_entry (fun hobj => ?_) henter)
    rcases resumeStep_some hst with ⟨-, rfl⟩ | rfl
    exacts [⟨hres _ hst, hobj⟩, ⟨hres _ hst, hobj⟩]

end Varnish.Center
