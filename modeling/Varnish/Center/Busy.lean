import Varnish.Center.Entry

/-!
# A busy objcore is published at most once

A lookup miss hands the worker the busy objcore `HSH_Lookup` inserted (`wrk->objcore`), and the
object `cnt_fetchbody` or `cnt_error` allocates takes it over. `HSH_Unbusy` publishes it: on a
fetched body in `cnt_fetchbody` and `cnt_streambody`, and through `HSH_Drop` when a failed
fetch, a restart from `vcl_deliver` or one from `vcl_error` throws the object away. `busyHeld`
counts the objcore in `wrk->objcore` and the busy objcore of the worker's object, `unbusies` the
`HSH_Unbusy` calls, and `missesRun` the dispatches of a run that go to `miss`, each with the busy
objcore of a lookup. A dispatch never adds to the published and the held objcores together,
beyond the one a miss takes (`dispatch_unbusies`).

* `loop_unbusy_once`: from any state that passes the entry checks of its step, whatever the
  hooks and the collaborators return, a run of the loop of `CNT_Session` calls `HSH_Unbusy` at
  most once for each objcore the worker holds at the start or gets from a lookup miss, and the
  ones still held at the end count against the same budget: no objcore is published twice. The
  object's objcore counts only while it is busy, which is what `AssertObjCorePassOrBusy` in
  `cnt_fetchbody`, `cnt_streambody` and `cnt_prepresp` checks before they publish; the object
  of `cnt_error` carries the objcore of `wrk->objcore`. An objcore may be given up unpublished:
  by `HSH_Deref` on a pass or an error from `vcl_miss` and `vcl_fetch`, or left in
  `wrk->objcore` by a failed allocation (`outOfStorageRun`).
-/

namespace Varnish.Center

/-! ## The count -/

/-- The objcores the worker holds unpublished: the one in `wrk->objcore`, which a lookup miss
put there busy, and its object's while that is busy. -/
def busyHeld (w : Wrk) : Nat :=
  w.objcore.isSome.toNat + (w.obj.any fun ob => ob.objcore.any (·.busy)).toNat

/-- The `HSH_Unbusy` calls among the calls, those of `HSH_Drop` included. -/
def unbusies (cs : List Call) : Nat := cs.count .hshUnbusy

/-- 1 at `miss`, which a session reaches with the busy objcore of a lookup. -/
def missAt (st : Step) : Nat := if st = .miss then 1 else 0

/-- The busy objcores a run of the loop takes: the dispatches that go on to `miss`. -/
def missesRun (p : Params) : List Oracle → St → Nat
  | [], _ => 0
  | o :: os, s =>
    match dispatch p o s with
    | .cont s' _ => missAt s'.sp.step + missesRun p os s'
    | _ => 0

@[simp] theorem unbusies_nil : unbusies [] = 0 := rfl

@[simp] theorem unbusies_append (a b : List Call) : unbusies (a ++ b) = unbusies a + unbusies b :=
  List.count_append _ _ _

@[simp] theorem unbusies_cons (c : Call) (cs : List Call) :
    unbusies (c :: cs) = unbusies cs + if c = .hshUnbusy then 1 else 0 := by
  simp [unbusies, List.count_cons]

@[simp] theorem unbusies_reqEndCalls (sp : Sess) : unbusies (reqEndCalls sp) = 0 := by
  unfold reqEndCalls; split <;> simp

@[simp] theorem unbusies_doneClose (sp : Sess) : unbusies (doneClose sp).2 = 0 := by
  unfold doneClose; split <;> (try split) <;> simp

@[simp] theorem unbusies_derefObjcore (w : Wrk) (cs : List Call) :
    unbusies (derefObjcore w cs) = unbusies cs := by
  unfold derefObjcore; split <;> simp

@[simp] theorem unbusies_fetchbodyAllocCalls (o : Oracle) (hint : Option Hint) :
    unbusies (fetchbodyAllocCalls o hint) = 0 := by
  unfold fetchbodyAllocCalls; split <;> simp

@[simp] theorem unbusies_errorAllocCalls (o : Oracle) : unbusies (errorAllocCalls o) = 0 := by
  unfold errorAllocCalls; split <;> simp

/-- `HSH_Drop` publishes the objcore of the object it throws away, if it has one. -/
@[simp] theorem unbusies_hshDrop (w : Wrk) :
    unbusies (hshDrop w).2 = (w.obj.bind Object.objcore).isSome.toNat := by
  unfold hshDrop; cases h : w.obj.bind Object.objcore <;> simp [h]

/-- The end of a fetched body publishes the object's objcore, if it has one. -/
@[simp] theorem unbusies_fetchbodyPublish (ob : Object) :
    unbusies (fetchbodyPublish ob).2 = ob.objcore.isSome.toNat := by
  unfold fetchbodyPublish; cases ob.objcore <;> simp

/-- What `cnt_fetchbody` publishes is no longer busy. -/
@[simp] theorem fetchbodyPublish_busy (ob : Object) :
    (fetchbodyPublish ob).1.objcore.any (·.busy) = false := by
  unfold fetchbodyPublish hshUnbusy; cases h : ob.objcore <;> simp [h]

theorem unbusies_streamEnd_le (o : Oracle) (sp : Sess) (ob : Object) :
    unbusies (streamEnd o sp ob).2 ≤ ob.objcore.isSome.toNat := by
  unfold streamEnd; split <;> simp_all

/-- An objcore that passes `AssertObjCorePassOrBusy` is busy when there is one. -/
theorem any_busy_of_passOrBusy {oc : Option ObjCore} (h : passOrBusy oc = true) :
    oc.any (·.busy) = oc.isSome := by
  cases oc <;> simp_all

/-- A restart from `vcl_deliver` drops the object, publishing its objcore only when the fetch
streams, and then the objcore is busy. -/
theorem preprespDrop_unbusies {w : Wrk} {ob : Object} {bo : BusyObj} (hob : w.obj = some ob)
    (hpb : bo.doStream = true → passOrBusy ob.objcore = true) :
    unbusies (preprespDrop w bo).2 + busyHeld (preprespDrop w bo).1 ≤ busyHeld w := by
  unfold preprespDrop
  split
  · simp [busyHeld, vdiCloseFd, hob, any_busy_of_passOrBusy (hpb ‹_›)]; omega
  · simp [busyHeld, hob]

theorem busy_le_isSome (oc : Option ObjCore) : (oc.any (·.busy)).toNat ≤ oc.isSome.toNat := by
  cases oc <;> simp [Bool.toNat_le]

/-- A dispatch that publishes nothing and keeps, or gives up, the object and the objcore. -/
theorem unbusies_le {w w' : Wrk} {cs : List Call} (hobj : w'.obj = w.obj ∨ w'.obj = none)
    (hoc : w'.objcore = w.objcore ∨ w'.objcore = none) (hc : unbusies cs = 0) (k : Nat) :
    unbusies cs + busyHeld w' ≤ busyHeld w + k := by
  unfold busyHeld
  rcases hobj with h | h <;> rcases hoc with h' | h' <;> simp only [h, h', hc] <;> simp <;> omega

/-- A dispatch from `s` publishes no more objcores than the worker held and the one a miss
takes: its `HSH_Unbusy` calls, with the objcores the worker holds after it, are at most those it
held before, and one more on the way to `miss`. -/
def Outcome.Unbusies (s : St) : Outcome → Prop :=
  Outcome.Sat (fun s' cs => unbusies cs + busyHeld s'.wrk ≤ busyHeld s.wrk + missAt s'.sp.step)
    fun s' cs => unbusies cs + busyHeld s'.wrk ≤ busyHeld s.wrk

/-! ## Every handler keeps the count -/

section Handlers

variable (p : Params) (o : Oracle) (s : St)

theorem cntFirst_unbusies : (cntFirst p s).Unbusies s := by
  simp only [Outcome.Unbusies, cntFirst, sat_ensure, sat_cont]
  exact fun _ _ _ => unbusies_le (by simp) (by simp) (by simp) _

theorem cntWait_unbusies : (cntWait p o s).Unbusies s :=
  cntWait_sat fun _ _ _ _ => ⟨unbusies_le (by simp) (by simp) (by simp) 0,
    fun _ => unbusies_le (by simp) (by simp) (by simp) _,
    fun _ => unbusies_le (by simp) (by simp) (by simp) _⟩

theorem cntStart_unbusies : (cntStart o s).Unbusies s :=
  cntStart_sat fun _ _ _ _ _ _ _ _ _ _ hc =>
    unbusies_le (by simp) (by simp) (by rcases hc with ⟨-, rfl⟩ | ⟨-, rfl⟩ <;> simp) _

theorem cntRecv_unbusies : (cntRecv p o s).Unbusies s :=
  cntRecv_sat fun _ _ _ _ _ _ _ _ => unbusies_le (by simp) (by simp) (by simp) _

/-- `cnt_lookup` takes the busy objcore of a miss, and an object that is not busy on a hit. -/
theorem cntLookup_unbusies (hobj : s.wrk.obj = none) : (cntLookup o s).Unbusies s := by
  refine cntLookup_sat (fun _ => unbusies_le (by simp) (by simp) (by simp) 0)
    fun _ _ _ _ _ _ _ => ⟨fun _ hs _ => ?_, fun _ _ _ => unbusies_le (by simp) (by simp) (by simp) _,
      fun hb _ _ => ?_⟩ <;> simp [busyHeld, missAt, hobj, *]

theorem cntHit_unbusies : (cntHit o s).Unbusies s :=
  cntHit_sat fun _ _ _ _ _ _ => ⟨fun _ _ _ => unbusies_le (by simp) (by simp) (by simp) _,
    fun _ => unbusies_le (by simp) (by simp) (by simp) _,
    fun _ => unbusies_le (by simp) (by simp) (by simp) _,
    fun _ => unbusies_le (by simp) (by simp) (by simp) _⟩

theorem cntMiss_unbusies : (cntMiss o s).Unbusies s := by
  unfold Outcome.Unbusies cntMiss
  simp only [sat_ensure]
  intro _ _ _ _
  split <;> first | exact unbusies_le (by simp) (by simp) (by simp) _ | trivial

theorem cntPass_unbusies : (cntPass o s).Unbusies s := by
  unfold Outcome.Unbusies cntPass
  simp only [sat_ensure, sat_ite, sat_cont]
  intro _ _
  split_ifs
  exacts [unbusies_le (by simp) (by simp) (by simp) _,
    fun _ => unbusies_le (by simp [newBusyObj]) (by simp [newBusyObj]) (by simp) _]

theorem cntPipe_unbusies : (cntPipe o s).Unbusies s :=
  cntPipe_sat fun _ _ => unbusies_le (by simp) (by simp) (by simp) _

theorem fetchCleanup_unbusies {cs : List Call} (hc : unbusies cs = 0) :
    (fetchCleanup s cs).Unbusies s := by
  unfold Outcome.Unbusies fetchCleanup
  simp only [sat_ensure]
  intro _
  split <;> first | exact unbusies_le (by simp) (by simp) (by simp [hc]) _ | trivial

/-- `cnt_fetch` marks a hit-for-pass objcore, which stays held. -/
theorem cntFetch_unbusies : (cntFetch o s).Unbusies s := by
  unfold Outcome.Unbusies cntFetch
  simp only [sat_ensure]
  intro _
  split
  · trivial
  simp only [sat_ensure, sat_ite]
  intro _ _ _ _ _
  split
  · exact fetchCleanup_unbusies (s := ⟨_, _, _⟩) rfl
  · intro _
    split
    · cases hoc : s.wrk.objcore <;> simp [Outcome.Unbusies, busyHeld, hoc]
    · simp only [sat_ensure, sat_cont]
      exact fun _ => unbusies_le (by simp) (by simp) (by simp) _
    · exact fetchCleanup_unbusies (s := ⟨_, _, _⟩) rfl

/-- `cnt_fetchbody` moves the objcore into the object it allocates, checks it is busy, and
publishes it once: when the body is fetched, or through `HSH_Drop` when it is not. -/
theorem cntFetchbody_unbusies : (cntFetchbody p o s).Unbusies s := by
  unfold Outcome.Unbusies cntFetchbody
  split
  · trivial
  simp only [sat_ensure]
  intro _
  split
  · rename_i hob
    simp [busyHeld, vdiCloseFd, hob, (fetchbodyAlloc_none hob).1]
    omega
  · rename_i ob hob
    obtain ⟨hoc, hob', -⟩ := fetchbodyAlloc_some hob
    simp only [sat_ensure, sat_ite, sat_cont, fetchbodyObject_objcore, hob']
    intro hpb
    have hb := any_busy_of_passOrBusy hpb
    split_ifs <;> simp [busyHeld, fetchBody, hoc, hob', hb] <;> intros <;> omega

/-- `cnt_streambody` publishes the objcore of a fetched body, which it checked is busy. -/
theorem cntStreambody_unbusies : (cntStreambody o s).Unbusies s := by
  unfold Outcome.Unbusies cntStreambody
  simp only [sat_ensure]
  intro _
  split
  · trivial
  rename_i ob hob
  simp only [sat_ensure, sat_cont]
  intro hpb _
  have := unbusies_streamEnd_le o s.sp ob
  simp [busyHeld, fetchBody, hob, any_busy_of_passOrBusy hpb]
  omega

/-- A restart from `vcl_deliver` that streams drops the object, whose objcore `cnt_prepresp`
checked is busy. -/
theorem cntPrepresp_unbusies : (cntPrepresp p o s).Unbusies s := by
  unfold Outcome.Unbusies cntPrepresp
  split
  · trivial
  rename_i ob hob
  simp only [sat_ensure]
  intro _ hpb
  split
  · simp only [sat_ensure, sat_ite, sat_cont]
    split_ifs <;> (try intro _) <;> exact unbusies_le (by simp) (by simp) (by simp) _
  · split_ifs
    · simp only [sat_ensure, sat_cont]
      exact fun _ => unbusies_le (by simp) (by simp) (by simp) _
    · simp only [sat_cont]
      exact unbusies_le (by simp) (by simp) (by simp) _
    · split
      · trivial
      · rename_i bo hbo
        have h := @preprespDrop_unbusies
          { s.wrk with resMode := responseMode p o s.sp s.wrk ob, respWs := true } ob bo hob
          fun hd => by simpa [hbo, hd] using hpb
        exact h.trans (Nat.le_add_right _ _)
  · trivial

theorem cntDeliver_unbusies : (cntDeliver s).Unbusies s := by
  unfold Outcome.Unbusies cntDeliver
  split
  · trivial
  · exact unbusies_le (by simp) (by simp) (by simp) _

/-- The response of `cnt_error` publishes the objcore of its object when a restart drops it. -/
theorem errorRespond_unbusies (w : Wrk) (ob : Object) (cs : List Call) :
    (errorRespond p o s w ob cs).Sat (fun s' cs' => unbusies cs' + busyHeld s'.wrk ≤
        unbusies cs + w.objcore.isSome.toNat + ob.objcore.isSome.toNat)
      fun _ _ => False := by
  have := busy_le_isSome ob.objcore
  unfold errorRespond
  simp only [sat_ensure, sat_ite, sat_cont]
  split_ifs
  · simp [busyHeld]; omega
  · intro _; simp [busyHeld]; omega

/-- `cnt_error`'s object carries the objcore the worker held. -/
theorem cntError_unbusies (hobj : s.wrk.obj = none) : (cntError p o s).Unbusies s := by
  unfold Outcome.Unbusies cntError
  rw [hobj]
  dsimp only
  split
  · rename_i hob
    simp [busyHeld, hob, errorAlloc_none hob]
    omega
  · rename_i ob hob
    obtain ⟨hoc, hob'⟩ := errorAlloc_some hob
    refine (errorRespond_unbusies p o s _ _ _).imp (fun _ _ h => ?_) fun _ _ h => h.elim
    simp only [hoc, hob', unbusies_errorAllocCalls, Option.isSome_none, Bool.toNat_false] at h
    have hs : busyHeld s.wrk = s.wrk.objcore.isSome.toNat := by simp [busyHeld, hobj]
    omega

theorem cntDone_unbusies : (cntDone p o s).Unbusies s := by
  apply cntDone_sat
  · exact fun _ _ _ => unbusies_le (by simp) (by simp) (by simp) 0
  · rintro - - - sp -
    exact ⟨fun _ => unbusies_le (by simp) (by simp) (by simp) 0,
      fun _ => ⟨fun _ => unbusies_le (by simp) (by simp) (by simp) _,
        unbusies_le (by simp) (by simp) (by simp) _, unbusies_le (by simp) (by simp) (by simp) 0⟩⟩

end Handlers

/-- Every dispatch from a state that passes the entry checks of its step keeps the count. -/
theorem dispatch_unbusies (p : Params) (o : Oracle) {s : St} (hE : EntryAt s.sp.step s) :
    (dispatch p o s).Unbusies s := by
  unfold dispatch
  split <;> rename_i hs <;> rw [hs] at hE
  · exact cntWait_unbusies p o s
  · exact cntFirst_unbusies p s
  · exact cntRecv_unbusies p o s
  · exact cntStart_unbusies o s
  · exact cntPipe_unbusies o s
  · exact cntPass_unbusies o s
  · exact cntLookup_unbusies o s hE.2
  · exact cntMiss_unbusies o s
  · exact cntHit_unbusies o s
  · exact cntFetch_unbusies o s
  · exact cntFetchbody_unbusies p o s
  · exact cntStreambody_unbusies o s
  · exact cntPrepresp_unbusies p o s
  · exact cntDeliver_unbusies s
  · exact cntError_unbusies p o s hE.2
  · exact cntDone_unbusies p o s

/-- **A busy objcore is published at most once**: from any state that passes the entry checks
of its step, whatever the hooks and the collaborators return, the `HSH_Unbusy` calls of a run of
the loop of `CNT_Session`, with the objcores the worker still holds unpublished at its end, are
at most those it held at the start and the busy objcores of the lookups that missed. -/
theorem loop_unbusy_once {p : Params} {os : List Oracle} {s : St} {cs : List Call}
    (hE : EntryAt s.sp.step s) :
    (loop p os s cs).Sat
      (fun s' cs' => unbusies cs' + busyHeld s'.wrk ≤ unbusies cs + busyHeld s.wrk + missesRun p os s)
      fun s' cs' => unbusies cs' + busyHeld s'.wrk ≤ unbusies cs + busyHeld s.wrk + missesRun p os s := by
  induction os generalizing s cs with
  | nil => exact Nat.le_refl _
  | cons o os ih =>
    have hd := dispatch_unbusies p o hE
    cases h : dispatch p o s with
    | cont s' c =>
      have hc : unbusies c + busyHeld s'.wrk ≤ busyHeld s.wrk + missAt s'.sp.step := hd.of_cont h
      simp only [loop, missesRun, h]
      refine (ih ((dispatch_entry p o hE).of_cont h)).imp (fun _ _ k => ?_) fun _ _ k => ?_ <;>
        rw [unbusies_append] at k <;> omega
    | release s' c =>
      have hc : unbusies c + busyHeld s'.wrk ≤ busyHeld s.wrk := hd.of_release h
      simp only [loop, missesRun, h, sessionExit, sat_ensure, sat_release, unbusies_append]
      exact fun _ _ => by omega
    | abort => simp only [loop, h]; trivial

/-- A request on a new connection that misses, is fetched and delivered, and the connection
waits for the next one. -/
def missRun : List Oracle :=
  [{}, {}, {}, { verdict := .lookup }, { lookup := .found ⟨true, false⟩ {} none },
    { verdict := .fetch }, { verdict := .deliver }, {}, {}, {}, {}]

theorem loop_unbusy_once_miss :
    EntryAt (⟨{}, {}, 0⟩ : St).sp.step ⟨{}, {}, 0⟩ ∧
      (loop {} missRun ⟨{}, {}, 0⟩ []).Sat
        (fun s' cs' => unbusies cs' + busyHeld s'.wrk ≤
          unbusies [] + busyHeld (⟨{}, {}, 0⟩ : St).wrk + missesRun {} missRun ⟨{}, {}, 0⟩)
        fun s' cs' => unbusies cs' + busyHeld s'.wrk ≤
          unbusies [] + busyHeld (⟨{}, {}, 0⟩ : St).wrk + missesRun {} missRun ⟨{}, {}, 0⟩ :=
  ⟨⟨⟨rfl, rfl, rfl⟩, rfl⟩, loop_unbusy_once ⟨⟨rfl, rfl, rfl⟩, rfl⟩⟩

/- The miss hands over one busy objcore, which `cnt_fetchbody` publishes once. -/
example : missesRun {} missRun ⟨{}, {}, 0⟩ = 1 ∧
    (match loop {} missRun ⟨{}, {}, 0⟩ [] with
      | .cont s cs => (s.sp.step, unbusies cs, busyHeld s.wrk)
      | _ => (.done, 0, 0)) = (.wait, 1, 0) := by
  decide

end Varnish.Center
