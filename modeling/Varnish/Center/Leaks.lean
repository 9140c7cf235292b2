import Varnish.Center.Objects

/-!
# Storage failures

`cnt_fetchbody` allocates the object with `STV_NewObject`, under the hint it chose and then on
transient storage. When both attempts fail it sends the request to `cnt_error` and leaves
behind two things no later handler expects:

* the busy objcore of a miss, which only the allocation would have moved into an object. When
  `cnt_error`'s own allocations fail too, the session reaches `cnt_done` still holding it, is
  released, and `CNT_Session`'s exit check `AZ(wrk->objcore)` fires; no handler on the way
  calls `HSH_Deref`, `HSH_Drop` or `HSH_Unbusy` for it. `outOfStorageRun` is such a run from a
  new connection;
* the storage hint in `wrk->storage_hint`, with the `Content-Length` flag of the response, which
  `cnt_error`'s restart does not clear, so the next `cnt_fetch` of the request fails its entry
  check `AZ(wrk->storage_hint)`: `passStorageRun` is a pass whose body cannot be stored, restarted
  by `vcl_error` and passed again.

`reach_release_objcore` says where the first can show: over the whole life of a session, only a
dispatch of `cnt_done` with a reason to close lets a session go holding an objcore.
-/

namespace Varnish.Center

/-- A request on a new connection that misses, is fetched, and whose object `cnt_fetchbody` and
then `cnt_error` both fail to allocate. -/
def outOfStorageRun : List Oracle :=
  [{}, {}, {}, { verdict := .lookup }, { lookup := .found ⟨true, false⟩ {} none },
    { verdict := .fetch }, { verdict := .deliver },
    { newObject := false, newObjectTransient := false },
    { newObject := false, newObjectTransient := false }, {}]

theorem outOfStorageRun_aborts :
    cntSession {} {} outOfStorageRun ⟨{}, {}, 0⟩ = .abort "AZ(wrk->objcore)" := by
  decide

/-- **Only `cnt_done` closing the connection lets a session go holding an objcore**: over the
whole life of a session, a dispatch that returns `1` with an objcore still held, the case in
which the exit check `AZ(wrk->objcore)` of `CNT_Session` fires, is a dispatch of `cnt_done` with
a reason to close. -/
theorem reach_release_objcore {p : Params} {o : Oracle} {s s' : St} {cs : List Call}
    (h : Reach p s) (hd : dispatch p o s = .release s' cs) (hoc : s'.wrk.objcore ≠ none) :
    s.sp.step = .done ∧ s.sp.doclose ≠ none := by
  have hheld : HeldAt s.sp.step s := reach_held h
  have hkeep : s'.wrk.objcore = s.wrk.objcore := (dispatch_held p o (reach_held h)).of_release hd
  have hrel := (dispatch_release hd).1
  rw [hkeep] at hoc
  generalize s.sp.step = st at hheld hrel ⊢
  cases st <;> simp only [releases, Bool.false_eq_true] at hrel
  case wait | lookup => exact absurd hheld hoc
  case done => exact ⟨rfl, hheld hoc⟩

/-- The session of `outOfStorageRun` at `cnt_done`: out of objects, still holding the busy
objcore of its miss. -/
def outOfObjectsState : St :=
  ⟨{ step := .done, xid := 1, vcl := true, handling := .deliver, errCode := 503,
      doclose := some "Out of objects" },
    { objcore := some ⟨true, false⟩, busyobj := some {} }, 1⟩

/-- The same session as `cnt_done` lets it go, closed. -/
def outOfObjectsReleased : St :=
  ⟨{ step := .done, handling := .deliver, errCode := 503, doclose := some "Out of objects",
      fd := -1 },
    { objcore := some ⟨true, false⟩, vcl := true }, 1⟩

theorem reach_release_objcore_outOfObjects :
    Reach {} outOfObjectsState ∧
      dispatch {} {} outOfObjectsState = .release outOfObjectsReleased
        [.reqEnd 1, .sesClose "Out of objects", .sesDelete] ∧
      outOfObjectsReleased.wrk.objcore ≠ none ∧
      outOfObjectsState.sp.step = .done ∧ outOfObjectsState.sp.doclose ≠ none :=
  have hr : Reach {} outOfObjectsState :=
    @reach_loop {} (outOfStorageRun.take 9) _ _ []
      [.stvNewObject none, .stvNewObject (some .transient), .vdiCloseFd, .stvNewObject none,
        .stvNewObject (some .transient)] (reach_accept {}) (by decide)
  have hd : dispatch {} {} outOfObjectsState = .release outOfObjectsReleased
      [.reqEnd 1, .sesClose "Out of objects", .sesDelete] := by decide
  ⟨hr, hd, by decide, reach_release_objcore hr hd (by decide)⟩

/-- A request on a new connection that `vcl_recv` passes, whose object cannot be stored,
restarted by `vcl_error` and passed again. -/
def passStorageRun : List Oracle :=
  [{}, {}, {}, { verdict := .pass }, { verdict := .pass }, { verdict := .deliver },
    { newObject := false, newObjectTransient := false }, { verdict := .restart },
    { verdict := .pass }, { verdict := .pass }, {}]

theorem passStorageRun_aborts :
    cntSession {} {} passStorageRun ⟨{}, {}, 0⟩ = .abort "AZ(wrk->storage_hint)" := by
  decide

end Varnish.Center
