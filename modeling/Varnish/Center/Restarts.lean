import Varnish.Center.Graph

/-!
# The restart counter

`cnt_recv` checks `sp->restarts` against `max_restarts`; `cnt_prepresp` and `cnt_error` check it
before they restart; `cnt_hit` and `cnt_fetch` restart without checking. Everything here is
derived from the step graph `Edge` alone.

* `reach_bounded`: over the whole life of a session the counter stays within the cap, and below
  it at every step between `cnt_recv`'s check and the response (`Bounded`). The unchecked
  restarts are safe because the steps they leave from are reached only under the cap.
* `Edge.runBound_lt`: leaving out the edges into and out of `done`, every edge lowers
  `runBound`, the restarts left weighted above the rank of the step.
* `loop_settles_within`: from any state, within `16 * (max_restarts + 2)` dispatches the loop of
  `CNT_Session` dispatches `cnt_done`, lets the session go, or stops at a failed assertion: no
  sequence of verdicts keeps it going longer.
* Two restarts that go wrong. `cnt_prepresp` restarts through the busyobj without a check:
  `loop_hitRestart_aborts` is a request entered at `cnt_start`, a cache hit restarted by
  `vcl_deliver`, that reads a NULL busyobj whatever comes after, and `hitRestartNullRun` the same
  from a new connection. `cnt_recv` answers a request at the cap with 503 only when
  `sp->err_code` is still 0, and nothing on the way there resets it: `cnt_fetch` stores the
  backend status in it, so with `max_restarts = 1` a pass restarted by `vcl_fetch` after the
  backend answered 200 gets an error page with status 200 (`staleStatusRun_status`).
-/

namespace Varnish.Center

/-! ## The bound on the counter -/

/-- The steps `cnt_recv` sends a request to only under the cap, and those reached from them
without a restart. -/
def underCap : Step → Bool
  | .lookup | .hit | .miss | .pass | .pipe | .fetch | .fetchbody => true
  | _ => false

/-- The bound on the restart counter `r` at a dispatch of `st`: at most `m`, and below `m` at the
steps `underCap` names. -/
structure Bounded (m : Nat) (st : Step) (r : Nat) : Prop where
  le : r ≤ m
  lt : underCap st = true → r < m

theorem Bounded.mono {m r r' : Nat} {st : Step} (h : Bounded m st r) (hr : r' ≤ r) :
    Bounded m st r' :=
  ⟨by have := h.le; omega, fun hc => by have := h.lt hc; omega⟩

theorem Bounded.of_le {m r : Nat} {st : Step} (hc : underCap st = false) (h : r ≤ m) :
    Bounded m st r :=
  ⟨h, fun h' => absurd h' (by simp [hc])⟩

/-- Every edge of the graph keeps the bound. -/
theorem Edge.bounded {m r r' : Nat} {st st' : Step} (e : Edge m st r st' r')
    (h : Bounded m st r) : Bounded m st' r' := by
  have le := h.le
  have lt := h.lt
  cases e <;> first
    | exact Bounded.of_le rfl (by omega)
    | exact ⟨le, fun _ => lt rfl⟩
    | exact ⟨le, fun _ => ‹_›⟩
    | exact Bounded.of_le rfl (by have := lt rfl; omega)

/-- **The restart counter stays within `max_restarts` over the whole life of a session**, and
below it at `lookup`, `hit`, `miss`, `pass`, `pipe`, `fetch` and `fetchbody`, whatever the hooks
and the collaborators return and however often the session parks and comes back. -/
theorem reach_bounded {p : Params} {s : St} (h : Reach p s) :
    Bounded p.maxRestarts s.sp.step s.sp.restarts := by
  induction h with
  | accept hacc henter =>
    obtain ⟨-, -, -, -, -, hsp⟩ := sessionEnter_cont henter
    rcases hsp with hsp | hsp <;> rw [hsp]
    · rw [hacc.step, hacc.restarts]; exact Bounded.of_le rfl (Nat.zero_le _)
    · exact Bounded.of_le rfl (by simp [hacc.restarts])
  | dispatch _ hd ih => exact (dispatch_edge hd).bounded ih
  | resume _ hd hst henter ih =>
    obtain ⟨-, hstep, hr⟩ := dispatch_release hd
    obtain ⟨-, -, -, -, -, hsp⟩ := sessionEnter_cont henter
    have hs' : Bounded p.maxRestarts _ _ := ih.mono hr
    rcases resumeStep_some hst with ⟨hl, rfl⟩ | rfl
    · rcases hsp with hsp | hsp <;> rw [hsp]
      · rw [← hstep, hl] at hs'; exact hs'
      · exact Bounded.of_le rfl hs'.le
    · rcases hsp with hsp | hsp <;> rw [hsp] <;> exact Bounded.of_le rfl hs'.le

theorem reach_bounded_lookup :
    Reach {} lookupState ∧ Bounded ({} : Params).maxRestarts lookupState.sp.step
      lookupState.sp.restarts :=
  have h : Reach {} lookupState :=
    @reach_loop {} [{}, {}, {}, { verdict := .lookup }] _ _ [] [] (reach_accept {}) (by decide)
  ⟨h, reach_bounded h⟩

/-! ## The loop reaches `done` -/

/-- The rank of a step: it falls along every edge that neither restarts nor enters or leaves
`done`. -/
def rank : Step → Nat
  | .first => 14 | .wait => 13 | .start => 12 | .recv => 11 | .lookup => 10
  | .hit => 9 | .miss => 9 | .pass => 8 | .fetch => 7 | .fetchbody => 6 | .error => 5
  | .prepresp => 4 | .streambody => 3 | .deliver => 3 | .pipe => 3 | .done => 0

/-- The restarts a request at step `st` with `r` restarts counted can still make: `m + 1 - r`
under the cap; over it, one more from a step whose own restart is unchecked. -/
def budget (m : Nat) (st : Step) (r : Nat) : Nat :=
  if r ≤ m then m + 1 - r else if underCap st then 1 else 0

/-- A bound on the dispatches left before `done`: the budget weighted above the rank. -/
def runBound (m : Nat) (st : Step) (r : Nat) : Nat := 16 * budget m st r + rank st

theorem runBound_lt (m : Nat) (st : Step) (r : Nat) : runBound m st r < 16 * (m + 2) := by
  have hb : budget m st r ≤ m + 1 := by unfold budget; split_ifs <;> omega
  have hr : rank st < 16 := by cases st <;> decide
  unfold runBound; omega

theorem rank_pos {st : Step} (h : st ≠ .done) : 0 < rank st := by
  cases st <;> first | decide | exact absurd rfl h

/-- The two kinds of edge that neither enter nor leave `done`: one that keeps the counter, lowers
the rank, and enters a step `underCap` names only from another or below the cap; and a restart,
from a step `underCap` names or below the cap. -/
theorem Edge.lowers {m r r' : Nat} {st st' : Step} (e : Edge m st r st' r')
    (hst : st ≠ .done) (hst' : st' ≠ .done) :
    (r' = r ∧ rank st' < rank st ∧ (underCap st' = true → underCap st = true ∨ r < m)) ∨
      (r' = r + 1 ∧ st' = .recv ∧ (underCap st = true ∨ r < m)) := by
  cases e <;> first
    | exact absurd rfl hst
    | exact absurd rfl hst'
    | exact .inl ⟨rfl, by decide, fun _ => .inl rfl⟩
    | exact .inl ⟨rfl, by decide, fun h => absurd h (by decide)⟩
    | exact .inl ⟨rfl, by decide, fun _ => .inr ‹_›⟩
    | exact .inr ⟨rfl, rfl, .inl rfl⟩
    | exact .inr ⟨rfl, rfl, .inr ‹_›⟩

/-- Every edge that neither enters nor leaves `done` lowers `runBound`: a restart spends budget,
any other edge keeps the counter and lowers the rank. -/
theorem Edge.runBound_lt {m r r' : Nat} {st st' : Step} (e : Edge m st r st' r')
    (hst : st ≠ .done) (hst' : st' ≠ .done) : runBound m st' r' < runBound m st r := by
  rcases e.lowers hst hst' with ⟨hr, hrank, hcap⟩ | ⟨hr, rfl, hcap⟩ <;> subst r'
  · have hb : budget m st' r ≤ budget m st r := by
      unfold budget
      split_ifs with h1 h2 h3 <;> try omega
      exact absurd ((hcap h2).resolve_left h3) (by omega)
    unfold runBound; omega
  · have hb : budget m .recv (r + 1) < budget m st r := by
      have hrecv : underCap .recv = false := rfl
      unfold budget
      rcases hcap with hc | hc <;> simp only [hc, hrecv, Bool.false_eq_true, ↓reduceIte] <;>
        split_ifs <;> omega
    have : rank .recv < 16 := by decide
    unfold runBound; omega

/-- The loop has stopped, or is about to dispatch `cnt_done`. -/
def Outcome.settled : Outcome → Bool
  | .cont s _ => s.sp.step == .done
  | _ => true

theorem sessionExit_settled (s : St) (cs : List Call) : (sessionExit s cs).settled = true := by
  unfold sessionExit ensure
  split_ifs <;> rfl

/-- From a state with `runBound` at most `n`, and `n` oracles or more, the loop settles within `n`
dispatches. -/
theorem loop_settles (p : Params) (n : Nat) : ∀ (os : List Oracle) (s : St) (cs : List Call),
    runBound p.maxRestarts s.sp.step s.sp.restarts ≤ n → n ≤ os.length →
    ∃ k ≤ n, (loop p (os.take k) s cs).settled := by
  induction n with
  | zero =>
    intro os s cs hb _
    by_cases hd : s.sp.step = .done
    · exact ⟨0, le_rfl, by simp [loop, Outcome.settled, hd]⟩
    · have := rank_pos hd; unfold runBound at hb; omega
  | succ n ih =>
    intro os s cs hb hlen
    by_cases hd : s.sp.step = .done
    · exact ⟨0, Nat.zero_le _, by simp [loop, Outcome.settled, hd]⟩
    obtain ⟨o, os, rfl⟩ : ∃ o os', os = o :: os' := List.exists_cons_of_ne_nil (by
      rintro rfl; simp at hlen)
    cases hdisp : dispatch p o s with
    | cont s' c =>
      by_cases hd' : s'.sp.step = .done
      · exact ⟨1, by omega, by simp [loop, hdisp, Outcome.settled, hd']⟩
      · have hlt := (dispatch_edge hdisp).runBound_lt hd hd'
        obtain ⟨k, hk, hs⟩ := ih os s' (cs ++ c) (by omega) (by simp at hlen; omega)
        exact ⟨k + 1, by omega, by simpa [loop, hdisp] using hs⟩
    | release s' c => exact ⟨1, by omega, by simp [loop, hdisp, sessionExit_settled]⟩
    | abort why => exact ⟨1, by omega, by simp [loop, hdisp, Outcome.settled]⟩

/-- **The loop of `CNT_Session` settles within `16 * (max_restarts + 2)` dispatches**: from any
state, under any verdicts and collaborator outcomes, it dispatches `cnt_done`, lets the session
go, or stops at a failed assertion. -/
theorem loop_settles_within (p : Params) (os : List Oracle) (s : St) (cs : List Call)
    (hlen : 16 * (p.maxRestarts + 2) ≤ os.length) :
    ∃ k ≤ 16 * (p.maxRestarts + 2), (loop p (os.take k) s cs).settled :=
  loop_settles p _ os s cs (runBound_lt _ _ _).le hlen

theorem loop_settles_within_defaults :
    16 * (({} : Params).maxRestarts + 2) ≤ (List.replicate 96 ({} : Oracle)).length ∧
      ∃ k ≤ 16 * (({} : Params).maxRestarts + 2),
        (loop {} ((List.replicate 96 ({} : Oracle)).take k) ⟨{}, {}, 0⟩ []).settled :=
  ⟨by simp, loop_settles_within {} _ _ _ (by simp)⟩

/-- A request entered at `cnt_start`: `vcl_recv` looks it up, `HSH_Lookup` finds an object,
`vcl_hit` delivers it and `vcl_deliver` restarts. -/
def hitRestartRun : List Oracle :=
  [{}, { verdict := .lookup }, { lookup := .found ⟨false, false⟩ {} none },
    { verdict := .deliver }, { verdict := .restart }]

/-- Whatever the verdicts after it, the run stops at the read of a NULL busyobj in
`cnt_prepresp`: the loop neither dispatches `cnt_done` nor lets the session go. -/
theorem loop_hitRestart_aborts (rest : List Oracle) :
    loop {} (hitRestartRun ++ rest) ⟨{ step := .start }, {}, 0⟩ [] = .abort "NULL wrk->busyobj" :=
  loop_append_abort (by decide) rest

/-- A request on a new connection that `HSH_Lookup` finds in the cache, delivered by `vcl_hit`
and restarted by `vcl_deliver`. -/
def hitRestartNullRun : List Oracle :=
  [{}, {}, {}, { verdict := .lookup }, { lookup := .found ⟨false, false⟩ { len := 10 } none },
    { verdict := .deliver }, { verdict := .restart }]

theorem hitRestartNullRun_aborts :
    cntSession {} {} hitRestartNullRun ⟨{}, {}, 0⟩ = .abort "NULL wrk->busyobj" := by
  decide

/-- A request on a new connection that `vcl_recv` passes and `vcl_fetch` restarts after the
backend answered 200, with `max_restarts = 1`; `vcl_error` delivers. -/
def staleStatusRun : List Oracle :=
  [{}, {}, {}, { verdict := .pass }, { verdict := .pass }, { verdict := .restart },
    { verdict := .pass }, {}]

theorem staleStatusRun_status :
    (match cntSession { maxRestarts := 1 } {} staleStatusRun ⟨{}, {}, 0⟩ with
      | .cont s _ => (s.sp.step, s.wrk.obj.map Object.response)
      | _ => (.first, none)) = (.prepresp, some 200) := by
  decide

end Varnish.Center
