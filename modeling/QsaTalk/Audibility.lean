import QsaTalk.Callbacks
import QsaTalk.Lib.Precedence

/-! No sound outside a talk, no media outside a call: along every run, what is played and what is
sent stands behind the report that allows it, with no report in between that takes it back. -/
namespace QsaTalk
open ByteBuffer SlotTable Function Runs Precedence
variable {d : Device} {r : Outcome}

def effects (ts : List Step) : List Event := ts.flatMap Transition.out

theorem effects_snoc (ts : List Step) (t : Step) : effects (ts ++ [t]) = effects ts ++ t.out := by
  simp [effects]

def Event.callOk : Event → Prop
  | .currOpt .callOk _ => True
  | _ => False

def Event.talkOk : Event → Prop
  | .currOpt .talkOk _ => True
  | _ => False

/-- The reports that a call is over; a resolved name ends it too. -/
def Event.endsCall : Event → Prop
  | .currOpt .callBusy _ | .currOpt .talkStop _ | .currOpt .callTimeout _
  | .currOpt .talkTimeout _ | .devip _ _ _ => True
  | _ => False

def Event.endsTalk (e : Event) : Prop := e.callOk ∨ e.endsCall

def Event.audio : Event → Prop
  | .audioData _ _ _ => True
  | _ => False

theorem Event.harmless.not_ends {e : Event} {s : CallStatus} (h : e.harmless s) : ¬e.endsTalk := by
  cases e with
  | currOpt v u =>
    cases v with
    | callFail | openLock | forceIFrame => simp [Event.endsTalk, Event.callOk, Event.endsCall]
    | _ => exact absurd h id
  | devip addr ip f => exact absurd h id
  | _ => simp [Event.endsTalk, Event.callOk, Event.endsCall]

structure Announced (tr : List Event) (d : Device) : Prop where
  call : d.active → Since Event.callOk Event.endsCall tr
  talk : d.status = .talking → Since Event.talkOk Event.endsTalk tr

theorem Announced.harmless {tr evs : List Event} {e : Device} (h : Announced tr d)
    (he : ∀ x ∈ evs, x.harmless d.status) (hs : e.status = d.status) : Announced (tr ++ evs) e where
  call ha := by
    have ha' : d.active := by rwa [Device.active, ← hs]
    exact (h.call ha').append fun x hx hc => (he x hx).not_ends (Or.inr hc)
  talk ht := (h.talk (hs ▸ ht)).append fun x hx => (he x hx).not_ends

theorem Announced.ended {tr : List Event} {e : Device} (hs : e.status = .null) : Announced tr e where
  call ha := absurd hs (active_ne_null ha)
  talk ht := by simp [hs] at ht

/-- One step keeps announced what its Status allows. -/
theorem announced_step {i : Input} {tr : List Event} (hc : d.caller) (h : Announced tr d)
    (hr : d.step i = some r) : Announced (tr ++ r.2) r.1 := by
  have htells := step_tells hc hr
  have hs := (step_callEffect hc hr).status
  have hexp := cause_explains d i
  cases hcause : d.cause i with
  | answer =>
    rw [hcause] at htells hs
    refine ⟨fun _ => ?_, fun ht => ?_⟩
    · have hevs : r.2 = [.lock, .currOpt .callOk .calling, .unlock] := htells
      rw [hevs]
      exact Since.behind ⟨[.lock], _, [.unlock], rfl, trivial, by simp [Event.endsCall]⟩
    · simp [hs, CallStatus.after] at ht
  | start =>
    rw [hcause] at htells hexp
    obtain ⟨x, hx, hevs⟩ := htells
    obtain ⟨-, -, -, -, hcalling, -⟩ := hexp
    rw [hevs]
    refine ⟨fun _ => ?_, fun _ => Since.behind ⟨[x], _, [], rfl, trivial, by simp⟩⟩
    refine (h.call (Or.inl hcalling)).append fun y hy => ?_
    obtain rfl | hy := List.mem_cons.mp hy
    · exact fun hc => (hx.harmless (s := d.status)).not_ends (Or.inr hc)
    · obtain rfl := List.mem_singleton.mp hy
      simp [Event.endsCall]
  | busy | resolve | hangUp | expire =>
    rw [hcause] at hs
    exact .ended hs
  | stray | lapse | other =>
    rw [hcause] at htells hs
    exact h.harmless htells hs

theorem run_announced {b : Boot} {ts : List Step} {s : System} (h : RunFrom b ts s) :
    Announced (effects ts) s.dev := by
  refine h.history (I := fun ts s => Announced (effects ts) s.dev) (.ended (init_status b)) ?_
  intro ts s a s' evs hrun hann hs
  rw [effects_snoc]
  exact announced_step (run_caller hrun) hann (device_step hs)

theorem silent_not_audio {e : Event} (h : e.silent) : ¬e.audio := by
  cases e with
  | audioData data n ty => exact absurd h id
  | _ => exact id

/-- A step that plays sound is taken in a talk and tells nothing else. -/
theorem step_audio {i : Input} (hc : d.caller) (hr : d.step i = some r) {x : Event} (hx : x ∈ r.2)
    (ha : x.audio) : d.status = .talking ∧ ∀ e ∈ r.2, e.harmless d.status := by
  have htells := step_tells hc hr
  have hplain (hall : ∀ e ∈ r.2, e.harmless d.status) :
      d.status = .talking ∧ ∀ e ∈ r.2, e.harmless d.status := by
    refine ⟨?_, hall⟩
    cases x with
    | audioData data n ty => exact hall _ hx
    | _ => exact absurd ha id
  cases hcause : d.cause i with
  | answer | busy =>
    rw [hcause] at htells
    have hevs : r.2 = _ := htells
    rw [hevs] at hx
    simp only [List.mem_cons, List.not_mem_nil, or_false] at hx
    obtain rfl | rfl | rfl := hx <;> exact absurd ha id
  | start =>
    rw [hcause] at htells
    obtain ⟨e, he, hevs⟩ := htells
    rw [hevs] at hx
    simp only [List.mem_cons, List.not_mem_nil, or_false] at hx
    obtain rfl | rfl := hx
    · exact absurd ha (silent_not_audio he)
    · exact absurd ha id
  | resolve =>
    rw [hcause] at htells
    obtain ⟨addr, ip, hevs⟩ := htells
    rw [hevs] at hx
    simp only [List.mem_cons, List.not_mem_nil, or_false] at hx
    obtain rfl | rfl | rfl := hx <;> exact absurd ha id
  | hangUp =>
    rw [hcause] at htells
    obtain ⟨u, v, hu, hv, hevs⟩ := htells
    rw [hevs, List.mem_append, List.mem_cons] at hx
    obtain hx | rfl | hx := hx
    · exact absurd ha (silent_not_audio (hu x hx))
    · exact absurd ha id
    · exact absurd ha (silent_not_audio (hv x hx))
  | expire =>
    rw [hcause] at htells
    obtain ⟨u, v, hu, -, hevs⟩ := htells
    rw [hevs, List.mem_append, List.mem_singleton] at hx
    obtain hx | rfl := hx
    · exact absurd ha (silent_not_audio (hu x hx))
    · exact absurd ha id
  | stray | lapse | other =>
    rw [hcause] at htells
    exact hplain htells

theorem run_audio {b : Boot} {ts : List Step} {s : System} (h : RunFrom b ts s) :
    Covered Event.talkOk Event.endsTalk Event.audio (effects ts) := by
  refine h.history (I := fun ts _ => Covered Event.talkOk Event.endsTalk Event.audio (effects ts))
    covered_nil ?_
  intro ts s a s' evs hrun hcov hs
  rw [effects_snoc]
  refine hcov.append fun u x v (he : evs = u ++ x :: v) hx => ?_
  have hmem : x ∈ evs := by simp [he]
  obtain ⟨htalk, hall⟩ := step_audio (run_caller hrun) (device_step hs) hmem hx
  refine ((run_announced hrun).talk htalk).append fun y hy => ?_
  exact (hall y (by simp [he, hy])).not_ends

def Action.media : Action → Prop
  | .sendAudio _ | .sendVideo _ _ => True
  | _ => False

/-- Media goes out of a call only, with nothing told. -/
theorem media_sends {s s' : System} {a : Action} {evs : List Event} (hc : s.dev.caller)
    (ha : a.media) (hs : s.step a = some (s', evs)) {g : Datagram} (hg : .send g ∈ evs) :
    s.dev.active ∧ ∀ e ∈ evs, ¬e.endsTalk := by
  have hd := device_step hs
  have hmedia : (s.dev.status = .null ∧ evs = [.currOpt .callFail s.dev.status]) ∨
      (s.dev.status ≠ .null ∧ ∃ gs : List Datagram, evs = gs.map Event.send) := by
    cases a with
    | sendAudio c => exact sendAudio_events hd
    | sendVideo c frameType => exact sendVideo_events hd
    | _ => exact absurd ha id
  obtain ⟨-, rfl⟩ | ⟨hn, gs, rfl⟩ := hmedia
  · simp at hg
  · refine ⟨hc.resolve_left hn, fun e he => ?_⟩
    obtain ⟨g', -, rfl⟩ := List.mem_map.mp he
    simp [Event.endsTalk, Event.callOk, Event.endsCall]

/-- Along every run: sound that is handed on stands behind CB_TALK_OK, media that is sent stands
behind CB_CALL_OK, and nothing in between has ended the talk or the call. -/
theorem announced_throughout {b : Boot} (e : Execution b) :
    Covered Event.talkOk Event.endsTalk Event.audio (effects e.steps) ∧
    ∀ us t vs, e.steps = us ++ t :: vs → t.act.media →
      ∀ u g v, t.out = u ++ .send g :: v → Since Event.callOk Event.endsCall (effects us ++ u) := by
  refine ⟨run_audio e.run, fun us t vs he ha u g v ho => ?_⟩
  have hpre : us ++ [t] <+: e.steps := ⟨vs, by simp [he]⟩
  obtain ⟨s, hrun⟩ := e.run.prefix hpre
  obtain ⟨hus, hs, -⟩ := hrun.last
  obtain ⟨hactive, hquiet⟩ := media_sends (run_caller hus) ha hs (g := g) (by simp [ho])
  refine ((run_announced hus).call hactive).append fun y hy hc => ?_
  exact hquiet y (by simp [ho, hy]) (Or.inr hc)

end QsaTalk
