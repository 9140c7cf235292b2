import Varnish.Center.Entry
import Varnish.Center.Objects

/-!
# The references of the hash layer

A worker holds references on the hash layer: the object in `wrk->obj`, and the busy objcore in
`wrk->objcore` that `cnt_lookup`'s miss hands it. It takes them from `HSH_Lookup` and
`STV_NewObject` (an object that takes over the busy objcore takes over its reference), and gives
them back with `HSH_Deref`, directly or through `HSH_Drop`. `refs` counts what the worker holds,
`derefs` the `HSH_Deref` calls of a dispatch, `acquired` what a dispatch takes.

* `dispatch_books`: every dispatch keeps the books: what the worker holds after it, with what it
  gave back, is what it held before with what it took. One lemma per handler (`*_books`).
* `reach_books`: over the whole life of a session the worker holds at most one reference, and
  every run of the loop of `CNT_Session` gives back exactly what it takes, less what it still
  holds; a run that lets the session go past `CNT_Session`'s checks holds nothing, so it made one
  `HSH_Deref` for every reference it took.
-/

namespace Varnish.Center

/-! ## The books -/

/-- The references the worker holds on the hash layer: its object, and a busy objcore of its
own (an object's objcore rides on the object's reference). -/
def refs (w : Wrk) : Nat := w.obj.isSome.toNat + w.objcore.isSome.toNat

/-- The references a dispatch gives back: its `HSH_Deref` calls, those of `HSH_Drop` included. -/
def derefs (cs : List Call) : Nat := cs.count .hshDeref

/-- A new reference from `STV_NewObject`: an allocation that succeeds, under the hint or on
transient storage, with no busy objcore for the object to take over. -/
def newObjectRef (o : Oracle) (w : Wrk) : Nat :=
  (w.objcore.isNone && (o.newObject || o.newObjectTransient)).toNat

/-- The references a dispatch that goes on takes: the objcore `HSH_Lookup` returns, and the
object `cnt_fetchbody` allocates, or `cnt_error` when the worker holds none. -/
def acquired (o : Oracle) (s : St) : Nat :=
  match s.sp.step with
  | .lookup => 1
  | .fetchbody => newObjectRef o s.wrk
  | .error => if s.wrk.obj.isNone then newObjectRef o s.wrk else 0
  | _ => 0

/-- A dispatch from `s` that took `n` references keeps the books: what the worker holds after
it, with what it gave back, is what it held before with what it took. -/
def Balanced (s : St) (n : Nat) (s' : St) (cs : List Call) : Prop :=
  refs s'.wrk + derefs cs = refs s.wrk + n

/-- A handler keeps the books, taking `n` references when it goes on and none when it lets the
session go. -/
def Outcome.Books (s : St) (n : Nat) (out : Outcome) : Prop :=
  out.Sat (Balanced s n) (Balanced s 0)

@[simp] theorem derefs_nil : derefs [] = 0 := rfl

@[simp] theorem derefs_append (a b : List Call) : derefs (a ++ b) = derefs a + derefs b :=
  List.count_append _ _ _

@[simp] theorem derefs_cons (c : Call) (cs : List Call) :
    derefs (c :: cs) = derefs cs + if c = .hshDeref then 1 else 0 := by
  simp [derefs, List.count_cons]

@[simp] theorem derefs_reqEndCalls (sp : Sess) : derefs (reqEndCalls sp) = 0 := by
  unfold reqEndCalls; split <;> simp

@[simp] theorem derefs_doneClose (sp : Sess) : derefs (doneClose sp).2 = 0 := by
  unfold doneClose; split <;> (try split) <;> simp

@[simp] theorem derefs_hshDrop (w : Wrk) : derefs (hshDrop w).2 = 1 := by
  unfold hshDrop; split <;> simp

@[simp] theorem derefs_fetchbodyAllocCalls (o : Oracle) (hint : Option Hint) :
    derefs (fetchbodyAllocCalls o hint) = 0 := by
  unfold fetchbodyAllocCalls; split <;> simp

@[simp] theorem derefs_errorAllocCalls (o : Oracle) : derefs (errorAllocCalls o) = 0 := by
  unfold errorAllocCalls; split <;> simp

@[simp] theorem derefs_fetchbodyPublish (ob : Object) : derefs (fetchbodyPublish ob).2 = 0 := by
  unfold fetchbodyPublish; split <;> simp

@[simp] theorem derefs_streamEnd (o : Oracle) (sp : Sess) (ob : Object) :
    derefs (streamEnd o sp ob).2 = 1 := by
  unfold streamEnd; split <;> simp

@[simp] theorem derefs_derefObjcore (w : Wrk) (cs : List Call) :
    derefs (derefObjcore w cs) = derefs cs + w.objcore.isSome.toNat := by
  unfold derefObjcore; cases w.objcore <;> simp

@[simp] theorem derefs_preprespDrop (w : Wrk) (bo : BusyObj) :
    derefs (preprespDrop w bo).2 = 1 := by
  unfold preprespDrop; split <;> simp

@[simp] theorem refs_hshDrop (w : Wrk) : refs (hshDrop w).1 = w.objcore.isSome.toNat := by
  simp [refs]

@[simp] theorem refs_preprespDrop (w : Wrk) (bo : BusyObj) :
    refs (preprespDrop w bo).1 = w.objcore.isSome.toNat := by
  unfold preprespDrop; split <;> simp [refs, vdiCloseFd]

/-- On a worker with no object, `cnt_fetchbody`'s allocation adds a reference exactly when it
succeeds with no busy objcore to take over. -/
theorem refs_fetchbodyAlloc {o : Oracle} {s : St} (h : s.wrk.obj = none) (hint : Option Hint) :
    refs (fetchbodyAlloc o s hint) = refs s.wrk + newObjectRef o s.wrk := by
  unfold fetchbodyAlloc newObjectRef
  cases hoc : s.wrk.objcore <;> cases o.newObject <;> cases o.newObjectTransient <;>
    simp [refs, stvNewObject, h, hoc]

theorem refs_errorAlloc {o : Oracle} {w : Wrk} (h : w.obj = none) :
    refs (errorAlloc o w) = refs w + newObjectRef o w := by
  unfold errorAlloc newObjectRef
  cases hoc : w.objcore <;> cases o.newObject <;> cases o.newObjectTransient <;>
    simp [refs, stvNewObject, newBusyObj, h, hoc]

/-! ## Every handler keeps the books -/

section Handlers

variable (p : Params) (o : Oracle) {s : St}

theorem cntFirst_books : (cntFirst p s).Books s 0 := by
  simp only [Outcome.Books, cntFirst, sat_ensure, sat_cont]
  exact fun _ _ _ => rfl

theorem cntWait_books : (cntWait p o s).Books s 0 := by
  unfold Outcome.Books cntWait
  simp only [sat_ensure, sat_ite, sat_cont, sat_release]
  intro _ _ _ _
  split_ifs <;> simp [Balanced, refs, sesClose]

theorem cntStart_books : (cntStart o s).Books s 0 := by
  apply cntStart_sat
  rintro - - - - sp cs - - - - (⟨-, rfl⟩ | ⟨-, rfl⟩) <;> simp [Balanced, refs]

theorem cntRecv_books : (cntRecv p o s).Books s 0 :=
  cntRecv_sat fun _ _ _ _ _ _ _ _ => rfl

/-- `cnt_lookup` takes the reference `HSH_Lookup` hands it, and gives it straight back on a
hit-for-pass object. -/
theorem cntLookup_books (hobj : s.wrk.obj = none) (hoc : s.wrk.objcore = none) :
    (cntLookup o s).Books s 1 := by
  refine cntLookup_sat (fun _ => rfl) fun _ _ _ _ _ _ _ =>
    ⟨fun _ _ _ => ?_, fun _ _ _ => ?_, fun _ _ _ => ?_⟩ <;> simp [Balanced, refs, hobj, hoc]

theorem cntHit_books (hoc : s.wrk.objcore = none) : (cntHit o s).Books s 0 := by
  unfold Outcome.Books cntHit
  split
  · trivial
  rename_i hob
  simp only [sat_ensure]
  intro _
  split
  · trivial
  simp only [sat_ensure, sat_ite, sat_cont]
  intro _
  split_ifs
  · exact fun _ _ => rfl
  · split <;> simp [Balanced, refs, hob, hoc]

theorem cntMiss_books : (cntMiss o s).Books s 0 := by
  unfold Outcome.Books cntMiss
  simp only [sat_ensure, Option.isNone_iff_eq_none, Option.isSome_iff_exists]
  rintro _ hobj ⟨oc, hoc⟩ _
  split <;> simp [Balanced, refs, hobj, hoc]

theorem cntPass_books : (cntPass o s).Books s 0 := by
  unfold Outcome.Books cntPass
  simp only [sat_ensure, sat_ite, sat_cont]
  intro _ _
  split_ifs
  exacts [rfl, fun _ => rfl]

theorem cntPipe_books : (cntPipe o s).Books s 0 := by
  unfold Outcome.Books cntPipe
  simp only [sat_ensure, sat_ite, sat_cont]
  intro _
  split_ifs
  exacts [trivial, fun _ => rfl]

/-- The clean-up of `cnt_fetch` gives the busy objcore back, if the worker holds one. -/
theorem fetchCleanup_books {cs : List Call} (hcs : derefs cs = 0) :
    (fetchCleanup s cs).Books s 0 := by
  unfold Outcome.Books fetchCleanup
  simp only [sat_ensure]
  intro _
  split <;> simp [Balanced, refs, hcs]

theorem cntFetch_books : (cntFetch o s).Books s 0 := by
  unfold Outcome.Books cntFetch
  simp only [sat_ensure]
  intro _
  split
  · trivial
  simp only [sat_ensure, sat_ite]
  intro _ _ _ _ _
  split
  · exact fetchCleanup_books rfl
  · intro _
    split
    · simp [Balanced, refs]
    · simp only [sat_ensure, sat_cont]
      exact fun _ => rfl
    · exact fetchCleanup_books (s := ⟨_, _, _⟩) rfl

/-- `cnt_fetchbody` takes a new reference when it allocates a pass object, and moves the busy
objcore's into the object otherwise; a failed fetch drops it. -/
theorem cntFetchbody_books (hobj : s.wrk.obj = none) :
    (cntFetchbody p o s).Books s (newObjectRef o s.wrk) := by
  unfold Outcome.Books cntFetchbody
  split
  · trivial
  rename_i bo _
  have hw := refs_fetchbodyAlloc (o := o) hobj (fetchbodyHint p s (fetchbodyPlan p o s bo))
  simp only [sat_ensure]
  intro _
  split
  · simp only [sat_cont, Balanced, ← hw]
    simp [refs, vdiCloseFd]
  · rename_i ob hob
    have hoc := (fetchbodyAlloc_some hob).1
    simp only [sat_ensure, sat_ite, sat_cont, Balanced, ← hw]
    intro _
    split_ifs
    · simp [refs, hob, hoc]
    · exact fun _ => by simp [refs, fetchBody, hob, hoc]
    · exact fun _ => by simp [refs, fetchBody, hob, hoc]

theorem cntStreambody_books : (cntStreambody o s).Books s 0 := by
  unfold Outcome.Books cntStreambody
  simp only [sat_ensure]
  intro _
  split
  · trivial
  · rename_i hob
    simp only [sat_ensure, sat_cont]
    intro _ _
    simp [Balanced, refs, fetchBody, hob]; omega

theorem cntPrepresp_books : (cntPrepresp p o s).Books s 0 :=
  cntPrepresp_sat fun _ hob _ => ⟨fun _ _ => rfl, fun _ => rfl, fun _ _ _ _ => by
    simp [Balanced, refs, hob]; omega⟩

theorem cntDeliver_books : (cntDeliver s).Books s 0 := by
  unfold Outcome.Books cntDeliver
  split
  · trivial
  · rename_i hob
    simp [Balanced, refs, hob]; omega

/-- The response of `cnt_error` keeps the object it is given, or drops it on a restart. -/
theorem errorRespond_books (w : Wrk) (ob : Object) (cs : List Call) (hw : w.obj.isSome) :
    (errorRespond p o s w ob cs).Sat (fun s' cs' => refs s'.wrk + derefs cs' = refs w + derefs cs)
      fun _ _ => False := by
  unfold errorRespond
  simp only [sat_ensure, sat_ite, sat_cont]
  split_ifs
  · simp [refs, hw]; omega
  · exact fun _ => by simp [refs, hw]

theorem cntError_books :
    (cntError p o s).Books s (if s.wrk.obj.isNone then newObjectRef o s.wrk else 0) := by
  unfold Outcome.Books cntError
  cases hob : s.wrk.obj with
  | some ob =>
    simp only [Option.isNone_some, Bool.false_eq_true, if_false]
    refine (errorRespond_books (s := s) p o s.wrk ob [] (by simp [hob])).imp
      (fun _ _ h => ?_) fun _ _ h => h.elim
    rw [Balanced, h, derefs_nil]
  | none =>
    have hw := refs_errorAlloc (o := o) hob
    simp only [Option.isNone_none, if_true]
    split
    · simp only [sat_cont, Balanced, ← hw]
      simp [refs, *]
    · rename_i ob hob'
      refine (errorRespond_books (s := s) p o (errorAlloc o s.wrk) _ _ (by simp [hob'])).imp
        (fun _ _ h => ?_) fun _ _ h => h.elim
      rw [Balanced, h, hw, derefs_errorAllocCalls, Nat.add_zero]

theorem cntDone_books : (cntDone p o s).Books s 0 := by
  apply cntDone_sat
  · exact fun _ _ _ => rfl
  · rintro - - - sp -
    exact ⟨fun _ => by simp [Balanced, refs], fun _ => ⟨fun _ => by simp [Balanced, refs],
      by simp [Balanced, refs], by simp [Balanced, refs]⟩⟩

end Handlers

/-! ## Every dispatch keeps the books -/

/-- What a step that takes references must find: `cnt_lookup` an empty worker, `cnt_hit` no
busy objcore beside its object, and `cnt_fetchbody` no object for `STV_NewObject` to replace. -/
def TakesAt : Step → Wrk → Prop
  | .lookup, w => w.obj = none ∧ w.objcore = none
  | .hit, w => w.objcore = none
  | .fetchbody, w => w.obj = none
  | _, _ => True

/-- Every dispatch keeps the books, taking what `acquired` says. -/
theorem dispatch_books (p : Params) (o : Oracle) {s : St} (h : TakesAt s.sp.step s.wrk) :
    (dispatch p o s).Books s (acquired o s) := by
  unfold dispatch
  split <;> rename_i hs <;> rw [acquired, hs] <;> rw [hs] at h
  · exact cntWait_books p o
  · exact cntFirst_books p
  · exact cntRecv_books p o
  · exact cntStart_books o
  · exact cntPipe_books o
  · exact cntPass_books o
  · exact cntLookup_books o h.1 h.2
  · exact cntMiss_books o
  · exact cntHit_books o h
  · exact cntFetch_books o
  · exact cntFetchbody_books p o h
  · exact cntStreambody_books o
  · exact cntPrepresp_books p o
  · exact cntDeliver_books
  · exact cntError_books p o
  · exact cntDone_books p o

/-! ## Every run keeps the books -/

/-- The clean-up of `cnt_fetch` leaves the worker's object alone. -/
theorem fetchCleanup_obj {s : St} (cs : List Call) :
    (fetchCleanup s cs).Sat (fun s' _ => s'.wrk.obj = s.wrk.obj) fun _ _ => True := by
  unfold fetchCleanup
  simp only [sat_ensure]
  intro _
  split <;> trivial

/-- `cnt_fetch` leaves the worker's object alone. -/
theorem cntFetch_obj (o : Oracle) (s : St) :
    (cntFetch o s).Sat (fun s' _ => s'.wrk.obj = s.wrk.obj) fun _ _ => True := by
  unfold cntFetch
  simp only [sat_ensure]
  intro _
  split
  · trivial
  simp only [sat_ensure, sat_ite]
  intro _ _ _ _ _
  split
  · exact fetchCleanup_obj _
  · intro _
    split
    · exact rfl
    · simp only [sat_ensure, sat_cont]
      exact fun _ => trivial
    · exact fetchCleanup_obj (s := ⟨_, _, _⟩) _

/-- Only `cnt_fetch` goes on to `fetchbody`. -/
theorem Edge.into_fetchbody {m r r' : Nat} {st : Step} (e : Edge m st r .fetchbody r') :
    st = .fetch := by
  cases e; rfl

/-- `cnt_fetchbody` finds no object: `cnt_fetch`, the only way in, has none and keeps it so. -/
theorem reach_fetchbody_obj {p : Params} {s : St} (h : Reach p s)
    (hs : s.sp.step = .fetchbody) : s.wrk.obj = none := by
  induction h with
  | accept _ henter =>
    obtain ⟨-, hobj, -, hw, -⟩ := sessionEnter_cont henter; rw [hw]; exact hobj
  | @dispatch s s' o cs hr hd _ =>
    have hf : s.sp.step = .fetch := Edge.into_fetchbody (hs ▸ dispatch_edge hd)
    have hentry : s.wrk.obj = none := by have := reach_entry hr; rw [hf] at this; exact this.2.1
    have hd' : cntFetch o s = .cont s' cs := by simpa only [dispatch, hf] using hd
    exact ((cntFetch_obj o s).of_cont hd').trans hentry
  | resume _ _ _ henter =>
    obtain ⟨-, hobj, -, hw, -⟩ := sessionEnter_cont henter; rw [hw]; exact hobj

/-- Every reachable dispatch finds what the steps that take references need. -/
theorem reach_takes {p : Params} {s : St} (h : Reach p s) : TakesAt s.sp.step s.wrk := by
  have he := reach_entry h
  have hh : HeldAt s.sp.step s := reach_held h
  unfold TakesAt
  split
  · rename_i hs; rw [hs] at he hh; exact ⟨he.2, hh⟩
  · rename_i hs; rw [hs] at hh; exact hh
  · exact reach_fetchbody_obj h ‹_›
  · trivial

/-- The worker holds at most one reference at every dispatch: no object beside a busy objcore. -/
theorem reach_refs_le {p : Params} {s : St} (h : Reach p s) : refs s.wrk ≤ 1 := by
  have he := reach_entry h
  have hh : HeldAt s.sp.step s := reach_held h
  have hf := reach_fetchbody_obj h
  have hone : s.wrk.obj = none ∨ s.wrk.objcore = none := by
    cases hs : s.sp.step <;> rw [hs] at he hh <;>
      first | exact .inl he | exact .inl he.2 | exact .inl he.2.1 | exact .inl he.2.2 |
        exact .inr hh | exact .inl (hf hs)
  rcases hone with h0 | h0 <;> simp [refs, h0, Bool.toNat_le]

/-- The references a run of the loop takes: `acquired` of each dispatch that goes on. -/
def acquiredRun (p : Params) : List Oracle → St → Nat
  | [], _ => 0
  | o :: os, s =>
    match dispatch p o s with
    | .cont s' _ => acquired o s + acquiredRun p os s'
    | _ => 0

/-- The run law: from a reachable state, a run of the loop that goes on holds what it held, with
what it took, less what it gave back; one that lets the session go holds nothing. -/
theorem loop_books {p : Params} {os : List Oracle} {s : St} {cs : List Call} (h : Reach p s) :
    (loop p os s cs).Sat
      (fun s' cs' => refs s'.wrk + derefs cs' = refs s.wrk + derefs cs + acquiredRun p os s)
      fun _ cs' => derefs cs' = refs s.wrk + derefs cs + acquiredRun p os s := by
  induction os generalizing s cs with
  | nil => rfl
  | cons o os ih =>
    have hb := dispatch_books p o (reach_takes h)
    cases hd : dispatch p o s with
    | cont s' c =>
      simp only [loop, acquiredRun, hd]
      have hs' := hb.of_cont hd
      refine (ih (h.dispatch hd)).imp (fun _ _ k => ?_) fun _ _ k => ?_ <;>
        simp only [Balanced, derefs_append] at hs' k <;> omega
    | release s' c =>
      have hs' : refs s'.wrk + derefs c = refs s.wrk + 0 := hb.of_release hd
      simp only [loop, acquiredRun, hd, sessionExit, sat_ensure, Option.isNone_iff_eq_none]
      intro hobj hoc
      have h0 : refs s'.wrk = 0 := by simp [refs, hobj, hoc]
      simp only [sat_release, derefs_append]
      omega
    | abort => simp only [loop, hd]; trivial

/-- **Over the whole life of a session the worker gives back every reference it takes**: at
every dispatch it holds at most one, and every run of the loop of `CNT_Session`, whatever the
hooks and the collaborators return, has made one `HSH_Deref` for every reference it took and
does not hold any more; a run that lets the session go past `CNT_Session`'s exit checks holds
none. -/
theorem reach_books {p : Params} {s : St} (h : Reach p s) :
    refs s.wrk ≤ 1 ∧ ∀ os cs, (loop p os s cs).Sat
      (fun s' cs' => refs s'.wrk + derefs cs' = refs s.wrk + derefs cs + acquiredRun p os s)
      fun _ cs' => derefs cs' = refs s.wrk + derefs cs + acquiredRun p os s :=
  ⟨reach_refs_le h, fun _ _ => loop_books h⟩

/-- A new connection. -/
theorem reach_books_accept :
    refs (⟨{}, {}, 0⟩ : St).wrk ≤ 1 ∧ ∀ os cs, (loop {} os ⟨{}, {}, 0⟩ cs).Sat
      (fun s' cs' => refs s'.wrk + derefs cs' =
        refs (⟨{}, {}, 0⟩ : St).wrk + derefs cs + acquiredRun {} os ⟨{}, {}, 0⟩)
      fun _ cs' => derefs cs' =
        refs (⟨{}, {}, 0⟩ : St).wrk + derefs cs + acquiredRun {} os ⟨{}, {}, 0⟩ :=
  reach_books (reach_accept {})

/- A cache hit on a new connection, delivered and handed to the waiter: one reference from
`HSH_Lookup`, one `HSH_Deref` from `cnt_deliver`. -/
example : (match loop { sessionLinger := 0 } [{}, {}, {}, { verdict := .lookup },
      { lookup := .found ⟨false, false⟩ {} none }, {}, {}, {}, {}] ⟨{}, {}, 0⟩ [] with
    | .release _ cs => derefs cs
    | _ => 0) = 1 := by
  decide

end Varnish.Center
