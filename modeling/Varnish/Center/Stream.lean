import Varnish.Center.Backend

/-!
# What is streamed

`cnt_fetchbody` turns `beresp.do_stream` off for an object with ESI processing, for an ESI
include (`sp->esi_level > 0`), for a request that wants no body (`sp->wantbody`, which
`cnt_recv` clears for `HEAD`), and when a `304` can be sent instead. `cnt_prepresp` goes to
`cnt_streambody` on the busyobj's `do_stream`, after `AssertObjCorePassOrBusy`. That busyobj
need not be the fetch's: a restart leaves the one of the attempt before (`staleStreamRun`).
`StreamAt` says what each step on the way to `streambody` knows: the object of a cache hit is
not busy, and at `prepresp` a busyobj that says to stream, on an object that passes the check,
is one `cnt_fetchbody` planned for this request.

* `reach_streambody_plain`: over the whole life of a session and over every ESI include
  (`esiReach_streamAt`), at every dispatch of `cnt_streambody` the busyobj says to stream, the
  request wants the body, it is no ESI include, and the fetch does no ESI processing. A `HEAD`
  request, an ESI include and an object that ESI parses are never streamed, whatever busyobj a
  restart or the parent request left behind.
-/

namespace Varnish.Center

/-- What a streamed delivery needs of the request and the fetch: the request wants the body and
is no ESI include, and the fetch does no ESI processing. -/
def Plain (s : St) : Prop :=
  s.sp.wantbody = true ∧ s.sp.esiLevel = 0 ∧ s.wrk.busyobj.all (!·.doEsi) = true

/-- What the steps on the way to `streambody` know: at `hit`, an object that is not busy; at
`prepresp`, a plain request when the busyobj says to stream an object that is a pass or busy;
at `streambody`, a plain request whose busyobj says to stream. -/
def StreamAt : Step → St → Prop
  | .hit, s => s.wrk.obj.all (!passOrBusy ·.objcore) = true
  | .prepresp, s =>
    s.wrk.busyobj.any (·.doStream) = true → s.wrk.obj.all (passOrBusy ·.objcore) = true → Plain s
  | .streambody, s => s.wrk.busyobj.any (·.doStream) = true ∧ Plain s
  | _, _ => True

section Handlers

variable (p : Params) (o : Oracle) (s : St)

/-- `cnt_hit` delivers the object it found, which is not busy, so no streaming follows. -/
theorem cntHit_streamAt (hS : StreamAt .hit s) :
    (cntHit o s).Sat (fun s' _ => s'.sp.step = .prepresp → StreamAt .prepresp s')
      fun _ _ => True :=
  cntHit_sat fun _ _ hob _ _ _ => ⟨fun _ _ _ _ _ h => by simp_all [StreamAt],
    fun _ h => by simp at h, fun _ h => by simp at h, fun _ h => by simp at h⟩

/-- `cnt_fetchbody` goes on to `prepresp` streaming only as its plan allows. -/
theorem cntFetchbody_streamAt :
    (cntFetchbody p o s).Sat (fun s' _ => s'.sp.step = .prepresp → StreamAt .prepresp s')
      fun _ _ => True := by
  unfold cntFetchbody
  split
  · trivial
  simp only [sat_ensure]
  intro _
  split
  · exact fun h => by simp at h
  · simp only [sat_ensure, sat_ite, sat_cont]
    intro _
    split_ifs with hst
    · obtain ⟨he, hl, hw⟩ := fetchbodyPlan_doStream (by simpa using fetchbodyCond_doStream hst)
      exact fun _ _ _ => ⟨hw, hl, by simp [he]⟩
    · exact fun _ _ h => by simp [hst] at h
    · exact fun _ h => by cases h

/-- `vcl_error`'s delivery works on the fresh busyobj of `cnt_error`, which does not stream. -/
theorem errorRespond_streamAt {w : Wrk} {ob : Object} {cs : List Call}
    (hbo : w.busyobj = some {}) :
    (errorRespond p o s w ob cs).Sat (fun s' _ => s'.sp.step = .prepresp → StreamAt .prepresp s')
      fun _ _ => True := by
  unfold errorRespond
  simp only [sat_ensure, sat_ite, sat_cont]
  split_ifs
  · exact fun h => by simp at h
  · exact fun _ _ h => by simp [hbo] at h

theorem cntError_streamAt (hobj : s.wrk.obj = none) :
    (cntError p o s).Sat (fun s' _ => s'.sp.step = .prepresp → StreamAt .prepresp s')
      fun _ _ => True := by
  unfold cntError
  rw [hobj]
  dsimp only
  split
  · exact fun h => by simp at h
  · exact errorRespond_streamAt p o s (errorAlloc_busyobj o s.wrk)

/-- `cnt_prepresp` streams only on a busyobj that says to, and an object that passes the check. -/
theorem cntPrepresp_streamAt (hS : StreamAt .prepresp s) :
    (cntPrepresp p o s).Sat (fun s' _ => s'.sp.step = .streambody → StreamAt .streambody s')
      fun _ _ => True :=
  cntPrepresp_sat fun ob hob _ =>
    ⟨fun hst hpb _ => ⟨hst, by simpa [Plain] using hS hst (by simp [hob, hpb])⟩,
      fun _ h => by simp at h, fun _ _ _ _ h => by simp at h⟩

/-- A request on a new connection that `vcl_recv` passes, restarted by `vcl_fetch` with
`beresp.do_stream` set, and then found in the cache and delivered. -/
def staleStreamRun : List Oracle :=
  [{}, {}, {}, { verdict := .pass }, { verdict := .pass },
    { verdict := .restart, doStream := true }, { verdict := .lookup },
    { lookup := .found ⟨false, false⟩ { len := 10 } none }, { verdict := .deliver }, {}]

theorem staleStreamRun_aborts :
    cntSession {} {} staleStreamRun ⟨{}, {}, 0⟩ =
      .abort "AssertObjCorePassOrBusy(wrk->obj->objcore)" := by
  decide

end Handlers

/-- The entry of `CNT_Session` enters at a step that knows nothing of streaming. -/
theorem sessionEnter_streamAt {o : Oracle} {s s' : St} {cs : List Call}
    (h : sessionEnter o s = .cont s' cs) : StreamAt s'.sp.step s' := by
  obtain ⟨hent, -, -, -, -, hsp⟩ := sessionEnter_cont h
  rcases hsp with hsp | hsp <;> rw [hsp]
  · simp only [entrance, Bool.or_eq_true, beq_iff_eq] at hent
    rcases hent with ((h | h) | h) | h <;> rw [h] <;> trivial
  · trivial

/-- Every dispatch goes on with what `StreamAt` says of its successor. -/
theorem dispatch_streamAt {p : Params} {o : Oracle} {s s' : St} {cs : List Call}
    (hS : StreamAt s.sp.step s) (hE : s.sp.step = .error → s.wrk.obj = none)
    (h : dispatch p o s = .cont s' cs) : StreamAt s'.sp.step s' := by
  have e := dispatch_edge h
  generalize hst : s.sp.step = st at e hS hE
  generalize s.sp.restarts = r at e
  generalize s'.sp.restarts = r' at e
  generalize hst' : s'.sp.step = st' at e ⊢
  cases e <;> simp only [StreamAt] <;> rw [dispatch, hst] at h
  case lookupHit => exact (cntLookup_openAt o s).of_cont h hst'
  case hitPrepresp => exact (cntHit_streamAt o s hS).of_cont h hst'
  case fetchbodyPrepresp => exact (cntFetchbody_streamAt p o s).of_cont h hst'
  case errorPrepresp => exact (cntError_streamAt p o s (hE rfl)).of_cont h hst'
  case preprespStreambody => exact (cntPrepresp_streamAt p o s hS).of_cont h hst'

/-- Over the whole life of a session, every dispatch finds what `StreamAt` says. -/
theorem reach_streamAt {p : Params} {s : St} (h : Reach p s) : StreamAt s.sp.step s := by
  induction h with
  | accept _ henter => exact sessionEnter_streamAt henter
  | dispatch hr hd ih =>
    refine dispatch_streamAt ih (fun he => ?_) hd
    have hE := reach_entry hr
    rw [he] at hE
    exact hE.2
  | resume _ _ _ henter => exact sessionEnter_streamAt henter

/-- Over an ESI include, too, every dispatch finds what `StreamAt` says. -/
theorem esiReach_streamAt {p : Params} {sp : Sess} {s : St} (h : EsiReach p sp s) :
    StreamAt s.sp.step s := by
  induction h with
  | enter _ _ henter => exact sessionEnter_streamAt henter
  | dispatch hr hd ih =>
    refine dispatch_streamAt ih (fun he => ?_) hd
    have hE := (esiReach_entry hr).resolve_left (by simp [he])
    rw [he] at hE
    exact hE.2
  | resume _ _ _ henter => exact sessionEnter_streamAt henter

/-- **Only a plain request is streamed**: over the whole life of a session and over every ESI
include, at every dispatch of `cnt_streambody` the busyobj says to stream, the request wants the
body and is no ESI include, and the fetch does no ESI processing. An include therefore never
reaches `cnt_streambody`. -/
theorem reach_streambody_plain {p : Params} {sp : Sess} {s : St}
    (h : Reach p s ∨ EsiReach p sp s) (hs : s.sp.step = .streambody) :
    s.wrk.busyobj.any (·.doStream) = true ∧ s.sp.wantbody = true ∧ s.sp.esiLevel = 0 ∧
      s.wrk.busyobj.all (!·.doEsi) = true := by
  have hS := h.elim reach_streamAt esiReach_streamAt
  rw [hs] at hS
  exact hS

/-- A request on a new connection that misses, and whose object `vcl_fetch` streams. -/
def missStreamRun : List Oracle :=
  [{}, {}, {}, { verdict := .lookup }, { lookup := .found ⟨true, false⟩ {} none },
    { verdict := .fetch }, { verdict := .deliver, doStream := true }, {}, {}]

/-- The request of `missStreamRun` at `cnt_streambody`, with the busy objcore of its miss. -/
def missStreamState : St :=
  ⟨{ step := .streambody, xid := 1, director := true, vcl := true, handling := .deliver,
      errCode := 200 },
    { obj := some { objcore := some ⟨true, false⟩, xid := 1, response := 200 },
      busyobj := some { doStream := true, isGunzip := true, ttl := 120 }, vbc := true,
      resMode := { chunked := true }, bereqWs := true, berespWs := true, respWs := true }, 1⟩

theorem reach_streambody_plain_miss :
    Reach {} missStreamState ∧ missStreamState.sp.step = .streambody ∧
      (missStreamState.wrk.busyobj.any (·.doStream) = true ∧
        missStreamState.sp.wantbody = true ∧ missStreamState.sp.esiLevel = 0 ∧
        missStreamState.wrk.busyobj.all (!·.doEsi) = true) :=
  have h : Reach {} missStreamState :=
    @reach_loop {} missStreamRun _ _ [] [.stvNewObject none] (reach_accept {}) (by decide)
  ⟨h, rfl, @reach_streambody_plain {} {} missStreamState (.inl h) rfl⟩

end Varnish.Center
