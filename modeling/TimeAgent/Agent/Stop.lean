/-
One call of `stop` against `run`: once `stop` has returned, a reader hands at most one more event to
its handler and one more snapshot is sent, unless `run` stores `running_ = true` over the store of
`stop`.
-/
import TimeAgent.Agent.Invariant

namespace TimeAgent

/-- `run` does not set `running_` once `stop` has begun. -/
def StoreFirst (s : AgentState) (l : Label) : Prop := l = .main ∧ s.main = .entering → s.stopping = .idle

instance (s : AgentState) (l : Label) : Decidable (StoreFirst s l) := inferInstanceAs (Decidable (_ → _))

/-! ## Winding down -/

/-- The events a reader may still hand over without another test of `running_`. -/
def ThreadPc.handing : ThreadPc → Nat
  | .reading => 1
  | _ => 0

/-- The snapshots that may still be sent without another test of `running_`. -/
def ThreadPc.sending : ThreadPc → Nat
  | .collecting | .handling (some _) | .calling _ => 1
  | _ => 0

/-- From `s` to `s'` each event handed over and each snapshot sent is paid for by the thread's
place. -/
structure Winds (s s' : AgentState) : Prop where
  readers : ∀ i, ∃ handed, s.events i = handed ++ s'.events i ∧
    handed.length + (s'.threads (.reader i)).handing ≤ (s.threads (.reader i)).handing
  sys : ∃ sent, s'.calls .sys = s.calls .sys ++ sent ∧
    sent.length + (s'.threads .sys).sending ≤ (s.threads .sys).sending

theorem Winds.refl (s : AgentState) : Winds s s :=
  ⟨fun _ => ⟨[], rfl, by simp⟩, [], by simp, by simp⟩

theorem Winds.trans {s s' s'' : AgentState} (h : Winds s s') (h' : Winds s' s'') : Winds s s'' := by
  refine ⟨fun i => ?_, ?_⟩
  · obtain ⟨handed, hevents, hle⟩ := h.readers i
    obtain ⟨handed', hevents', hle'⟩ := h'.readers i
    refine ⟨handed ++ handed', by rw [hevents, hevents', List.append_assoc], ?_⟩
    rw [List.length_append]
    omega
  · obtain ⟨sent, hcalls, hle⟩ := h.sys
    obtain ⟨sent', hcalls', hle'⟩ := h'.sys
    refine ⟨sent ++ sent', by rw [hcalls', hcalls, List.append_assoc], ?_⟩
    rw [List.length_append]
    omega

/-- Nothing handed over and nothing sent. -/
theorem Winds.of_frame {s s' : AgentState} (hevents : s'.events = s.events) (hlog : s'.log = s.log)
    (hhanding : ∀ i, (s'.threads (.reader i)).handing ≤ (s.threads (.reader i)).handing)
    (hsending : (s'.threads .sys).sending ≤ (s.threads .sys).sending) : Winds s s' := by
  refine ⟨fun i => ⟨[], by rw [hevents]; rfl, ?_⟩, [], ?_, ?_⟩
  · rw [List.length_nil, Nat.zero_add]; exact hhanding i
  · rw [AgentState.calls_of_log_eq hlog, List.append_nil]
  · rw [List.length_nil, Nat.zero_add]; exact hsending

/-- A thread goes to a place where it owes no more. -/
theorem Winds.go {s s' : AgentState} {t : Thread} (hevents : s'.events = s.events) (hlog : s'.log = s.log)
    (hother : ∀ u, u ≠ t → s'.threads u = s.threads u)
    (hhanding : (s'.threads t).handing ≤ (s.threads t).handing)
    (hsending : (s'.threads t).sending ≤ (s.threads t).sending) : Winds s s' := by
  refine .of_frame hevents hlog (fun i => ?_) ?_
  · by_cases hi : Thread.reader i = t
    · subst hi; exact hhanding
    · rw [hother _ hi]
  · by_cases hi : Thread.sys = t
    · subst hi; exact hsending
    · rw [hother _ hi]

/-- With `running_` cleared no loop goes round again. -/
theorem Moves.winds {agent : Agent} {s s' : AgentState} {t : Thread} {l : Label} (hmove : Moves agent s t l s')
    (hrunning : s.running = false) : Winds s s' := by
  have hother := hmove.frame.2.2.1
  cases hmove with
  | loop hpc hr => rw [hrunning] at hr; cases hr
  | collect hpc hr => rw [hrunning] at hr; cases hr
  | @hand i event events ht hpc he =>
    subst ht
    refine ⟨fun j => ?_, [], by rw [List.append_nil]; rfl, ?_⟩
    · by_cases hj : j = i
      · subst hj
        refine ⟨[event], ?_, ?_⟩
        · rw [he]
          show _ = [event] ++ Function.update s.events j events j
          rw [Function.update_self]
          rfl
        · rw [AgentState.go_threads_self, hpc]
          exact Nat.le_refl 1
      · refine ⟨[], ?_, ?_⟩
        · show _ = [] ++ Function.update s.events i events j
          rw [Function.update_of_ne hj]
          rfl
        · rw [hother _ (by simpa using hj)]
          simp
    · rw [hother .sys (nofun)]
      simp
  | @send call hpc hroom =>
    refine ⟨fun i => ⟨[], rfl, ?_⟩, if t = .sys then [call] else [], AgentState.calls_of_log_append rfl _, ?_⟩
    · by_cases hi : Thread.reader i = t
      · subst hi
        rw [AgentState.go_threads_self]
        exact Nat.zero_le _
      · rw [hother _ hi]
        simp
    · by_cases ht : t = .sys
      · subst ht
        rw [AgentState.go_threads_self, hpc, if_pos rfl]
        exact Nat.le_refl 1
      · rw [if_neg ht, hother _ (fun h => ht h.symm)]
        simp
  | collected call ht hpc =>
    exact .go rfl rfl hother (by rw [AgentState.go_threads_self]; exact Nat.zero_le _)
      (by rw [AgentState.go_threads_self, hpc]; exact Nat.le_refl 1)
  | lock hpc hm =>
    exact .go rfl rfl hother (by rw [AgentState.go_threads_self]; exact Nat.zero_le _)
      (by rw [AgentState.go_threads_self, hpc]; exact Nat.le_refl 1)
  | leave | noEvent | wake | leaveAwake | unhandled | unlock =>
    -- from the new place the next thing is a test of `running_`
    exact .go rfl rfl hother (by rw [AgentState.go_threads_self]; exact Nat.zero_le _)
      (by rw [AgentState.go_threads_self]; exact Nat.zero_le _)

theorem RunMoves.winds {agent : Agent} {s s' : AgentState} (hrun : RunMoves agent s s') : Winds s s' := by
  cases hrun with
  | @spawn k hm hk hh =>
    refine .go (t := .reader k) rfl rfl (fun u hu => AgentState.go_threads_of_ne s _ hu) ?_ ?_
    · show ((s.go (.reader k) .checking).threads (.reader k)).handing ≤ _
      rw [AgentState.go_threads_self]; exact Nat.zero_le _
    · show ((s.go (.reader k) .checking).threads (.reader k)).sending ≤ _
      rw [AgentState.go_threads_self]; exact Nat.zero_le _
  | spawnSys hm hk =>
    refine .go (t := .sys) rfl rfl (fun u hu => AgentState.go_threads_of_ne s _ hu) ?_ ?_
    · show ((s.go .sys .checking).threads .sys).handing ≤ _
      rw [AgentState.go_threads_self]; exact Nat.zero_le _
    · show ((s.go .sys .checking).threads .sys).sending ≤ _
      rw [AgentState.go_threads_self]; exact Nat.zero_le _
  | _ => exact .of_frame rfl rfl (fun _ => Nat.le_refl _) (Nat.le_refl _)

theorem winds_step {agent : Agent} {s s' : AgentState} {l : Label} (hrunning : s.running = false)
    (hs : agent.step s l = some s') : Winds s s' := by
  cases trans_of_step hs with
  | main hrun => exact hrun.winds
  | stop hstop =>
    obtain ⟨hthreads, _, _, _, hlog, hevents⟩ := hstop.frame
    exact .of_frame hevents hlog (fun _ => by rw [hthreads]) (by rw [hthreads])
  | moves hmove => exact hmove.winds hrunning
  | drain => exact .of_frame rfl rfl (fun _ => Nat.le_refl _) (Nat.le_refl _)

/-! ## The flag -/

/-- Once `stop` has begun, `running_` is false. -/
def Cleared (s : AgentState) : Prop := s.stopping ≠ .idle → s.running = false

theorem cleared_step {agent : Agent} {s s' : AgentState} {l : Label} (hl : StoreFirst s l) (h : Cleared s)
    (hs : agent.step s l = some s') : Cleared s' ∧ (s.stopping ≠ .idle → s'.stopping ≠ .idle) := by
  cases trans_of_step hs with
  | main hrun =>
    cases hrun with
    | enter hm => exact ⟨fun hne => absurd (hl ⟨rfl, hm⟩) hne, id⟩
    | clear hm => exact ⟨fun _ => rfl, id⟩
    | _ => exact ⟨h, id⟩
  | stop hstop =>
    cases hstop with
    | clear hidle => exact ⟨fun _ => rfl, fun _ => nofun⟩
    | request hk => exact ⟨fun _ => h (by rw [hk]; nofun), fun _ => nofun⟩
    | requested hk => exact ⟨fun _ => h (by rw [hk]; nofun), fun _ => nofun⟩
  | moves hmove =>
    obtain ⟨_, _, _, _, hstopping, hrunning, _⟩ := hmove.frame
    unfold Cleared
    rw [hstopping, hrunning]
    exact ⟨h, id⟩
  | drain => exact ⟨h, id⟩

/-! ## The run -/

theorem ThreadPc.handing_le_one (pc : ThreadPc) : pc.handing ≤ 1 := by
  unfold ThreadPc.handing
  split <;> omega

theorem ThreadPc.sending_le_one (pc : ThreadPc) : pc.sending ≤ 1 := by
  unfold ThreadPc.sending
  split <;> omega

/-- Between two states of a run behind the return of `stop`: each reader hands over at most one
event, and at most one snapshot is sent. -/
def Stopped (s s' : AgentState) : Prop :=
  (∀ i, ∃ handed, s.events i = handed ++ s'.events i ∧ handed.length ≤ 1) ∧
    ∃ sent, s'.calls .sys = s.calls .sys ++ sent ∧ sent.length ≤ 1

theorem Winds.stopped {s s' : AgentState} (h : Winds s s') : Stopped s s' := by
  refine ⟨fun i => ?_, ?_⟩
  · obtain ⟨handed, hevents, hle⟩ := h.readers i
    have hone := (s.threads (.reader i)).handing_le_one
    exact ⟨handed, hevents, by omega⟩
  · obtain ⟨sent, hcalls, hle⟩ := h.sys
    have hone := (s.threads .sys).sending_le_one
    exact ⟨sent, hcalls, by omega⟩

/-- In every run in which `run` sets `running_` before `stop` begins, a stop request is kept. -/
theorem stopped_of_storeFirst (agent : Agent) {ls ls' : List Label} {s s' : AgentState}
    (hr : LTS.run (LTS.restrict StoreFirst agent.step) agent.init ls = some s) (hstop : s.stopping = .returned)
    (hr' : LTS.run (LTS.restrict StoreFirst agent.step) s ls' = some s') : Stopped s s' := by
  have hcleared : Cleared s := by
    refine LTS.run_invariant (P := Cleared) (fun r l r' h hl => ?_) hr (fun h => absurd rfl h)
    obtain ⟨hfirst, hstep⟩ := LTS.restrict_eq_some.1 hl
    exact (cleared_step hfirst h hstep).1
  have hwinds : Cleared s' ∧ s'.stopping ≠ .idle ∧ Winds s s' := by
    refine LTS.run_invariant (P := fun r => Cleared r ∧ r.stopping ≠ .idle ∧ Winds s r) ?_ hr'
      ⟨hcleared, by rw [hstop]; nofun, .refl s⟩
    rintro r l r' ⟨h, hbegun, hwinds⟩ hl
    obtain ⟨hfirst, hstep⟩ := LTS.restrict_eq_some.1 hl
    obtain ⟨h', hbegun'⟩ := cleared_step hfirst h hstep
    exact ⟨h', hbegun' hbegun, hwinds.trans (winds_step (h hbegun) hstep)⟩
  exact hwinds.2.2.stopped

theorem stopped_of_storeFirst_reading :
    ∃ s s', LTS.run (LTS.restrict StoreFirst (twoCollectors 0 "phc2sys" ["a", "b"] false).step)
          (twoCollectors 0 "phc2sys" ["a", "b"] false).init
          (List.replicate 4 Label.main ++ [Label.thread (.reader 1)] ++ List.replicate 4 Label.stop) = some s ∧
      s.stopping = .returned ∧
      LTS.run (LTS.restrict StoreFirst (twoCollectors 0 "phc2sys" ["a", "b"] false).step) s
          (List.replicate 3 (Label.thread (.reader 1))) = some s' ∧
      Stopped s s' := by
  have hsome : ((LTS.run (LTS.restrict StoreFirst (twoCollectors 0 "phc2sys" ["a", "b"] false).step)
          (twoCollectors 0 "phc2sys" ["a", "b"] false).init
          (List.replicate 4 Label.main ++ [Label.thread (.reader 1)] ++ List.replicate 4 Label.stop)).map fun s =>
      (s.stopping, (LTS.run (LTS.restrict StoreFirst (twoCollectors 0 "phc2sys" ["a", "b"] false).step) s
          (List.replicate 3 (Label.thread (.reader 1)))).isSome)) = some (.returned, true) := by
    decide +kernel
  obtain ⟨s, hs, hend⟩ := Option.map_eq_some_iff.1 hsome
  injection hend with hstop hsome'
  obtain ⟨s', hs'⟩ := Option.isSome_iff_exists.1 hsome'
  exact ⟨s, s', hs, hstop, hs', stopped_of_storeFirst _ hs hstop hs'⟩

/-- `stop` runs behind the installation of the signal handlers and in front of the first store of
`run`: the reader hands over the backlog. -/
theorem stop_lost :
    ∃ agent ls s ls' s', LTS.run (Agent.step agent) agent.init ls = some s ∧ s.stopping = .returned ∧
      LTS.run (Agent.step agent) s ls' = some s' ∧ ¬ Stopped s s' := by
  have hsome : ((LTS.run (twoCollectors 0 "phc2sys" ["a", "b"] false).step
          (twoCollectors 0 "phc2sys" ["a", "b"] false).init (List.replicate 4 Label.stop)).map fun s =>
      (s.stopping, (s.events 1).length, (LTS.run (twoCollectors 0 "phc2sys" ["a", "b"] false).step s
          (List.replicate 4 Label.main ++ List.replicate 5 (Label.thread (.reader 1)))).map
            fun s' => (s'.events 1).length)) =
      some (.returned, 2, some 0) := by
    decide +kernel
  obtain ⟨s, hs, hend⟩ := Option.map_eq_some_iff.1 hsome
  injection hend with hstop hend
  injection hend with hbefore hend
  obtain ⟨s', hs', hafter⟩ := Option.map_eq_some_iff.1 hend
  refine ⟨_, _, s, _, s', hs, hstop, hs', fun hstopped => ?_⟩
  obtain ⟨handed, hevents, hone⟩ := hstopped.1 1
  have hlength := congrArg List.length hevents
  rw [List.length_append, hbefore, hafter] at hlength
  omega

end TimeAgent
