import Varnish.Center.Graph

/-!
# Request ids

`cnt_start` gives each request the id `++xids` of the global `unsigned` counter, which other
workers move between any two dispatches, and `cnt_done` takes an xid of 0 for an idle session:
it writes the `ReqEnd` record only for a non-zero xid. `debug.xid` (`cliDebugXid`) sets the
counter to any value.

* `reach_idle_xid`: between requests, at every dispatch of `cnt_first` and `cnt_wait`, the
  session has xid 0; `idleAfterRequest` is a `cnt_wait` after `cnt_done` ended a request;
* `debugXid_wrap_drops_reqEnd`: after `debug.xid 4294967295`, the next request is served with
  xid 0 and ends without a `ReqEnd` record.
-/

namespace Varnish.Center

@[simp] theorem doneClose_xid (sp : Sess) : (doneClose sp).1.xid = sp.xid := by
  unfold doneClose; split <;> (try split) <;> rfl

/-- `cnt_first` keeps the xid; `cnt_done` clears it on its way to the next request. -/
theorem cntFirst_xid (p : Params) (s : St) :
    (cntFirst p s).Sat (fun s' _ => s'.sp.xid = s.sp.xid) fun _ _ => True := by
  simp [cntFirst]

theorem cntDone_xid (p : Params) (o : Oracle) (s : St) :
    (cntDone p o s).Sat (fun s' _ => s'.sp.xid = 0) fun _ _ => True := by
  apply cntDone_sat
  · exact fun _ _ _ => trivial
  · rintro - - - sp rfl
    exact ⟨fun _ => trivial, fun _ => ⟨by simp, by simp, trivial⟩⟩

/-- **Between requests the session has no xid**: over the whole life of a session, at every
dispatch of `cnt_first` and `cnt_wait`, `sp->xid` is 0. -/
theorem reach_idle_xid {p : Params} {s : St} (h : Reach p s)
    (hs : s.sp.step = .first ∨ s.sp.step = .wait) : s.sp.xid = 0 := by
  induction h with
  | accept hacc henter =>
    obtain ⟨-, -, -, -, -, hsp | hsp⟩ := sessionEnter_cont henter
    · rw [hsp]; exact hacc.xid
    · rw [hsp] at hs; simp at hs
  | @dispatch s s' o cs _ hd ih =>
    have e := dispatch_edge hd
    generalize hst : s.sp.step = st at e
    generalize s.sp.restarts = r at e
    generalize s'.sp.restarts = r' at e
    generalize s'.sp.step = st' at e hs
    cases e <;> simp at hs
    case firstWait =>
      rw [dispatch, hst] at hd
      exact ((cntFirst_xid p s).of_cont hd).trans (ih (.inl hst))
    case doneWait =>
      rw [dispatch, hst] at hd
      exact (cntDone_xid p o s).of_cont hd
  | resume _ _ hres henter =>
    obtain ⟨-, -, -, -, -, hsp | hsp⟩ := sessionEnter_cont henter <;> rw [hsp] at hs
    · rcases resumeStep_some hres with ⟨-, rfl⟩ | rfl <;> simp at hs
    · simp at hs

/-- A request on a connection that `HSH_Lookup` finds in the cache and that is delivered. -/
def cachedRun : List Oracle :=
  [{}, {}, {}, { verdict := .lookup }, { lookup := .found ⟨false, false⟩ { len := 10 } none },
    { verdict := .deliver }, { verdict := .deliver }, {}, {}]

/-- The connection of `cachedRun` back at `cnt_wait`, holding the receive buffer `cnt_done`
reserved anew, after request 1 ended. -/
def idleAfterRequest : St :=
  ⟨{ step := .wait, ws := { r := some 32768 } }, { vcl := true, resMode := { len := true } }, 1⟩

theorem reach_idle_xid_afterRequest :
    loop {} cachedRun ⟨{}, {}, 0⟩ [] = .cont idleAfterRequest [.hshDeref, .reqEnd 1] ∧
      Reach {} idleAfterRequest ∧
      (idleAfterRequest.sp.step = .first ∨ idleAfterRequest.sp.step = .wait) ∧
      idleAfterRequest.sp.xid = 0 :=
  have hl : loop {} cachedRun ⟨{}, {}, 0⟩ [] = .cont idleAfterRequest [.hshDeref, .reqEnd 1] := by
    decide
  have h : Reach {} idleAfterRequest := reach_loop (reach_accept {}) hl
  ⟨hl, h, .inr rfl, reach_idle_xid h (.inr rfl)⟩

theorem debugXid_wrap_drops_reqEnd :
    (cliDebugXid (some 4294967295) 0).1 = 4294967295 ∧
      (match cntSession {} {} cachedRun ⟨{}, {}, (cliDebugXid (some 4294967295) 0).1⟩ with
        | .cont s cs => (s.sp.step, cs)
        | _ => (.first, [])) = (.wait, [.hshDeref]) := by
  decide

end Varnish.Center
