import Gattlib.TimedScans

namespace Gattlib.ScanContexts

open Library.Memory Library.Maps Library.Transition Gattlib.State Gattlib.Scanner
open Gattlib.ScannerShutdown Gattlib.TimedScans

/-- The calls and their contexts, in any run. -/
structure Sound (s : Impl) : Prop where
  fresh : ∀ i c, s.calls i = some c → i < s.nextCall
  owned : ∀ i c k, s.calls i = some c → c.scanData = some k → k < s.contexts.next
  distinct : ∀ i j c d k, s.calls i = some c → s.calls j = some d → c.scanData = some k →
    d.scanData = some k → i = j
  shutdown : ∀ i c p k inCatch, s.calls i = some c → c.pc = .shutdown p k inCatch →
    c.scanData = some k
  alive : ∀ i c k, s.calls i = some c → unclosed c.pc = true → c.scanData = some k →
    (s.contexts.cell k).isSome = true
  unprepared : ∀ i c, s.calls i = some c → c.pc = .checking → c.scanData = none
  reports : ∀ j k new, Reports s j k new → new = .failed ∨ new = .succeeded

section

variable {s t : Impl} {i j k : Nat} {c c' d : Call} {e : ScannerEvent}

theorem pending_unclosed {pc : CallPc} (hp : pending pc = true) : unclosed pc = true := by
  rw [unclosed, hp, Bool.true_or]

/-- Nobody but the callbacks and the monitor writes to the context of a scan that is on. -/
theorem unclosed_left (h : Sound s) (hc : s.calls i = some c) (hon : unclosed c.pc = true)
    (hk : c.scanData = some k) (he : e ≠ .fail i) : Left s e k := by
  intro j d hd
  have hsame : d.scanData = some k → j = i ∧ d.pc = c.pc := by
    intro hdk
    obtain rfl := h.distinct i j c d k hc hd hk hdk
    obtain rfl : c = d := Option.some.inj (hc.symm.trans hd)
    exact ⟨rfl, rfl⟩
  refine ⟨fun _ hfail hdk => he ((hsame hdk).1 ▸ hfail), fun p inCatch hpc => ?_⟩
  rw [← (hsame (h.shutdown j d p k inCatch hd hpc)).2, hpc] at hon
  cases hon

theorem unclosed_follows (h : Sound s) (hc : s.calls i = some c) (hon : unclosed c.pc = true)
    (hk : c.scanData = some k) (he : e ≠ .fail i) (hs : scannerStep s e = some t) :
    Follows s e t k :=
  step_follows (h.owned i c k hc hk) (unclosed_left h hc hon hk he) hs

/-- A call that fails has its context shut down. -/
theorem fail_closes (hs : scannerStep s (.fail i) = some t) (hd : t.calls i = some d)
    (hk : d.scanData = some k) : (∃ c, s.calls i = some c ∧ c.pc = .failing) ∧ unclosed d.pc = false := by
  obtain ⟨c, hc, rfl⟩ := Option.map_eq_some_iff.mp hs
  obtain ⟨hc, hpc⟩ := callAt_iff.mp hc
  refine ⟨⟨c, hc, hpc⟩, ?_⟩
  unfold scanFail at hd
  split at hd
  · next hnone =>
    obtain rfl := Option.some.inj (hc.symm.trans hd)
    rw [hnone] at hk
    cases hk
  · next l hl =>
    rw [enter_some _ i c hl] at hd
    have hself : Function.update s.calls i (some { c with pc := .shutdown .looking l false }) i =
        some d := hd
    rw [Function.update_self] at hself
    cases hself
    rfl

theorem pending_follows (h : Sound s) (hc : s.calls i = some c) (hp : pending c.pc = true)
    (hk : c.scanData = some k) (hs : scannerStep s e = some t) : Follows s e t k := by
  refine unclosed_follows h hc (pending_unclosed hp) hk (fun he => ?_) hs
  subst he
  obtain ⟨d, hd, _⟩ := Option.map_eq_some_iff.mp hs
  obtain ⟨hd, hpc⟩ := callAt_iff.mp hd
  obtain rfl := Option.some.inj (hc.symm.trans hd)
  rw [hpc] at hp
  cases hp

theorem goes_kept (hgo : Goes s i c e c') : c'.scanData = c.scanData ∧ c'.custom = c.custom ∧
    c'.deviceAddress = c.deviceAddress := by
  cases hgo <;> exact ⟨rfl, rfl, rfl⟩

theorem goes_unclosed (hgo : Goes s i c e c') (hon : unclosed c'.pc = true) :
    unclosed c.pc = true := by
  cases hgo <;> simp_all [unclosed, pending]

theorem goes_checking (hgo : Goes s i c e c') : c'.pc ≠ .checking := by
  cases hgo <;> exact nofun

/-- A scan that has ended does not go on again. -/
theorem goes_pending (hgo : Goes s i c e c') (hp : pending c'.pc = true) : pending c.pc = true := by
  cases hgo <;> simp_all [pending]

theorem goes_shutdown (hgo : Goes s i c e c')
    (h : ∀ p k inCatch, c.pc = .shutdown p k inCatch → c.scanData = some k) {p : ShutdownPc}
    {inCatch : Bool} (hpc : c'.pc = .shutdown p k inCatch) : c.scanData = some k := by
  cases hgo with
  | failed _ hk =>
    cases hpc
    exact hk
  | decided _ hk _ =>
    cases hpc
    exact hk
  | expired _ hk _ =>
    cases hpc
    exact hk
  | shuts hold =>
    cases hpc
    exact h _ _ _ hold
  | caught _ hk =>
    cases hpc
    exact hk
  | _ => cases hpc

/-- A call moves on with its context. -/
theorem sound_updated (h : Sound s) (hs : scannerStep s e = some t) (hc : s.calls i = some c)
    (ht : t.calls = Function.update s.calls i (some c')) (hn : t.nextCall = s.nextCall)
    (hnext : t.contexts.next = s.contexts.next) (hd : t.discoveries = s.discoveries)
    (hdata : c'.scanData = c.scanData) (hp : unclosed c'.pc = true → unclosed c.pc = true)
    (hnew : c'.pc = .checking → c.pc = .checking)
    (hshut : ∀ p k inCatch, c'.pc = .shutdown p k inCatch → c.scanData = some k) : Sound t := by
  have hback : ∀ j d, t.calls j = some d → ∃ d', s.calls j = some d' ∧ d.scanData = d'.scanData ∧
      (unclosed d.pc = true → unclosed d'.pc = true) ∧ (d.pc = .checking → d'.pc = .checking) := by
    intro j d hj
    rw [ht] at hj
    rcases update_some hj with ⟨rfl, rfl⟩ | ⟨_, hj⟩
    · exact ⟨c, hc, hdata, hp, hnew⟩
    · exact ⟨d, hj, rfl, id, id⟩
  refine ⟨?_, ?_, ?_, ?_, ?_, ?_, ?_⟩
  · intro j d hj
    obtain ⟨d', hj, _, _, _⟩ := hback j d hj
    rw [hn]
    exact h.fresh j d' hj
  · intro j d l hj hl
    obtain ⟨d', hj, hdata, _, _⟩ := hback j d hj
    rw [hnext]
    exact h.owned j d' l hj (hdata ▸ hl)
  · intro j m d x l hj hm hl hl'
    obtain ⟨d', hj, hdata, _, _⟩ := hback j d hj
    obtain ⟨x', hm, hdata', _, _⟩ := hback m x hm
    exact h.distinct j m d' x' l hj hm (hdata ▸ hl) (hdata' ▸ hl')
  · intro j d p l inCatch hj hpc
    rw [ht] at hj
    rcases update_some hj with ⟨rfl, rfl⟩ | ⟨_, hj⟩
    · rw [hdata]
      exact hshut p l inCatch hpc
    · exact h.shutdown j d p l inCatch hj hpc
  · intro j d l hj hon hl
    have hfail : e ≠ .fail j := by
      rintro rfl
      rw [(fail_closes hs hj hl).2] at hon
      cases hon
    obtain ⟨d', hj, hdata, hp, _⟩ := hback j d hj
    have hl' : d'.scanData = some l := hdata ▸ hl
    rw [(unclosed_follows h hj (hp hon) hl' hfail hs).alive]
    exact h.alive j d' l hj (hp hon) hl'
  · intro j d hj hpc
    obtain ⟨d', hj, hdata, _, hnew⟩ := hback j d hj
    rw [hdata]
    exact h.unprepared j d' hj (hnew hpc)
  · intro j l new hr
    rw [Reports, hd] at hr
    exact h.reports j l new hr

theorem sound_begun (h : Sound s) (hc : c.scanData = none) (hpc : c.pc = .checking) :
    Sound { setCall s s.nextCall c with nextCall := s.nextCall + 1 } := by
  have hback : ∀ j d, Function.update s.calls s.nextCall (some c) j = some d →
      d = c ∨ s.calls j = some d := by
    intro j d hj
    rcases update_some hj with ⟨_, rfl⟩ | ⟨_, hj⟩
    · exact Or.inl rfl
    · exact Or.inr hj
  refine ⟨?_, ?_, ?_, ?_, ?_, ?_, h.reports⟩
  · intro j d hj
    rcases update_some hj with ⟨rfl, _⟩ | ⟨_, hj⟩
    · exact Nat.lt_succ_self _
    · exact Nat.lt_succ_of_lt (h.fresh j d hj)
  · intro j d l hj hl
    rcases hback j d hj with rfl | hj
    · rw [hc] at hl
      cases hl
    · exact h.owned j d l hj hl
  · intro j m d x l hj hm hl hl'
    rcases hback j d hj with rfl | hj
    · rw [hc] at hl
      cases hl
    · rcases hback m x hm with rfl | hm
      · rw [hc] at hl'
        cases hl'
      · exact h.distinct j m d x l hj hm hl hl'
  · intro j d p l inCatch hj hp
    rcases hback j d hj with rfl | hj
    · rw [hpc] at hp
      cases hp
    · exact h.shutdown j d p l inCatch hj hp
  · intro j d l hj hp hl
    rcases hback j d hj with rfl | hj
    · rw [hpc] at hp
      cases hp
    · exact h.alive j d l hj hp hl
  · intro j d hj hp
    rcases hback j d hj with rfl | hj
    · exact hc
    · exact h.unprepared j d hj hp

theorem sound_allocated {ctx : ScanContext} (h : Sound s) (hc : s.calls i = some c)
    (hdata : c'.scanData = some s.contexts.next) (hpc : ∀ p k inCatch, c'.pc ≠ .shutdown p k inCatch)
    (hnew : c'.pc ≠ .checking) :
    Sound { setCall s i c' with contexts := alloc s.contexts ctx } := by
  have hback : ∀ j d, Function.update s.calls i (some c') j = some d →
      j = i ∧ d = c' ∨ s.calls j = some d := by
    intro j d hj
    rcases update_some hj with ⟨hji, rfl⟩ | ⟨_, hj⟩
    · exact Or.inl ⟨hji, rfl⟩
    · exact Or.inr hj
  have hunused : ∀ {j d}, s.calls j = some d → d.scanData ≠ some s.contexts.next := by
    intro j d hj hl
    exact Nat.lt_irrefl _ (h.owned j d _ hj hl)
  refine ⟨?_, ?_, ?_, ?_, ?_, ?_, h.reports⟩
  · intro j d hj
    rcases hback j d hj with ⟨rfl, _⟩ | hj
    · exact h.fresh j c hc
    · exact h.fresh j d hj
  · intro j d l hj hl
    rcases hback j d hj with ⟨_, rfl⟩ | hj
    · rw [hdata] at hl
      cases hl
      exact Nat.lt_succ_self _
    · exact Nat.lt_succ_of_lt (h.owned j d l hj hl)
  · intro j m d x l hj hm hl hl'
    rcases hback j d hj with ⟨rfl, rfl⟩ | hold
    · rcases hback m x hm with ⟨rfl, _⟩ | hm
      · rfl
      · rw [hdata] at hl
        cases hl
        exact absurd hl' (hunused hm)
    · rcases hback m x hm with ⟨_, rfl⟩ | hm
      · rw [hdata] at hl'
        cases hl'
        exact absurd hl (hunused hold)
      · exact h.distinct j m d x l hold hm hl hl'
  · intro j d p l inCatch hj hp
    rcases hback j d hj with ⟨_, rfl⟩ | hj
    · exact absurd hp (hpc p l inCatch)
    · exact h.shutdown j d p l inCatch hj hp
  · intro j d l hj hp hl
    rcases hback j d hj with ⟨_, rfl⟩ | hj
    · rw [hdata] at hl
      cases hl
      exact congrArg Option.isSome (alloc_self s.contexts ctx)
    · have hcell : (alloc s.contexts ctx).cell l = s.contexts.cell l :=
        alloc_ne s.contexts ctx (Nat.ne_of_lt (h.owned j d l hj hl))
      exact (congrArg Option.isSome hcell).trans (h.alive j d l hj hp hl)
  · intro j d hj hp
    rcases hback j d hj with ⟨_, rfl⟩ | hj
    · exact absurd hp hnew
    · exact h.unprepared j d hj hp

theorem sound_step (h : Sound s) (hs : scannerStep s e = some t) : Sound t := by
  cases step_calls hs with
  | still _ hc hn hnext hd _ =>
    refine ⟨?_, ?_, ?_, ?_, ?_, ?_, ?_⟩
    · rw [hc, hn]
      exact h.fresh
    · rw [hc, hnext]
      exact h.owned
    · rw [hc]
      exact h.distinct
    · rw [hc]
      exact h.shutdown
    · intro i c k hi hon hk
      have hfail : e ≠ .fail i := by
        rintro rfl
        rw [(fail_closes hs hi hk).2] at hon
        cases hon
      rw [hc] at hi
      rw [(unclosed_follows h hi hon hk hfail hs).alive]
      exact h.alive i c k hi hon hk
    · rw [hc]
      exact h.unprepared
    · intro j k new hr
      rcases hd j k new hr with hr | hnew
      · exact h.reports j k new hr
      · exact hnew
  | begun => exact sound_begun h rfl rfl
  | allocated hc _ hc' hpc' =>
    have hdata := congrArg Call.scanData hc'
    rcases hpc' with ⟨hpc', _⟩ | hpc'
    · exact sound_allocated h hc hdata (by simp [hpc']) (by simp [hpc'])
    · exact sound_allocated h hc hdata (by simp [hpc']) (by simp [hpc'])
  | @watched i k c m t hc hk _ ht hn hnext hd _ =>
    exact sound_updated h hs hc ht hn hnext hd rfl id id
      (fun p l inCatch => h.shutdown i c p l inCatch hc)
  | @moved e i c c' t hc hgo ht hn hnext hd _ =>
    exact sound_updated h hs hc ht hn hnext hd (goes_kept hgo).1 (goes_unclosed hgo)
      (fun hpc => absurd hpc (goes_checking hgo))
      (fun p l inCatch => goes_shutdown hgo (fun p l inCatch => h.shutdown i c p l inCatch hc))

theorem next_le (hs : scannerStep s e = some t) : s.contexts.next ≤ t.contexts.next := by
  cases step_calls hs with
  | still _ _ _ hnext _ _ => exact Nat.le_of_eq hnext.symm
  | begun => exact Nat.le_refl _
  | allocated => exact Nat.le_succ _
  | watched _ _ _ _ _ hnext _ _ => exact Nat.le_of_eq hnext.symm
  | moved _ _ _ _ hnext _ _ => exact Nat.le_of_eq hnext.symm

/-- What one step makes of one call. -/
inductive Becomes (s : Impl) (e : ScannerEvent) (t : Impl) (i : Nat) (c : Call) : Call → Prop
  | same : Becomes s e t i c c
  | watched {k : Nat} {m : MonitorPc} (he : e = .monitor i) (hk : c.scanData = some k)
      (hm : Watches s k c.monitor m) : Becomes s e t i c { c with monitor := m }
  | allocated {c' : Call} {o : Prepared} (he : e = .prepare i o) (hpc : c.pc = .preparing)
      (hc' : c' = { c with pc := c'.pc, scanData := some s.contexts.next })
      (hpc' : c'.pc = .launching ∧ stateOf t s.contexts.next = .scanning ∨ c'.pc = .leaving true) :
      Becomes s e t i c c'
  | moved {c' : Call} (hgo : Goes s i c e c') : Becomes s e t i c c'

theorem call_becomes (h : Sound s) (hs : scannerStep s e = some t) (hc : s.calls i = some c) :
    ∃ c', t.calls i = some c' ∧ Becomes s e t i c c' := by
  have hother : ∀ {j : Nat} {d : Call} {f : Nat → Option Call}, i ≠ j →
      f = Function.update s.calls j (some d) → f i = some c := by
    intro j d f hij hf
    rw [hf, Function.update_of_ne hij]
    exact hc
  cases step_calls hs with
  | still _ hcalls _ _ _ _ => exact ⟨c, by rw [hcalls, hc], .same⟩
  | begun => exact ⟨c, hother (Nat.ne_of_lt (h.fresh i c hc)) rfl, .same⟩
  | @allocated j d d' o ctx hd hpc hd' hpc' =>
    by_cases hij : i = j
    · subst hij
      obtain rfl := Option.some.inj (hd.symm.trans hc)
      refine ⟨d', Function.update_self .., .allocated rfl hpc hd' (hpc'.imp_left fun hnew => ?_)⟩
      refine ⟨hnew.1, ?_⟩
      rw [stateOf]
      exact (congrArg (fun x => (x.map ScanContext.state).getD .idle)
        (alloc_self s.contexts ctx)).trans hnew.2
    · exact ⟨c, hother hij rfl, .same⟩
  | @watched j k d m t hd hk hm ht hn hnext hd' _ =>
    by_cases hij : i = j
    · subst hij
      obtain rfl := Option.some.inj (hd.symm.trans hc)
      exact ⟨_, by rw [ht, Function.update_self], .watched rfl hk hm⟩
    · exact ⟨c, hother hij ht, .same⟩
  | @moved e j d d' t hd hgo ht hn hnext hd' _ =>
    by_cases hij : i = j
    · subst hij
      obtain rfl := Option.some.inj (hd.symm.trans hc)
      exact ⟨d', by rw [ht, Function.update_self], .moved hgo⟩
    · exact ⟨c, hother hij ht, .same⟩

/-- The wait of a call is its own step, and ends with it. -/
theorem wait_goes {expired : Bool} (hs : scannerStep s (.wait i expired) = some t) :
    ∃ c c', s.calls i = some c ∧ Goes s i c (.wait i expired) c' ∧ t.calls i = some c' := by
  cases step_calls hs with
  | still he _ _ _ _ _ => exact absurd rfl (he i expired)
  | @moved e j c c' t hc hgo ht hn hnext hd _ =>
    obtain rfl : j = i := by
      cases hgo with
      | decided => rfl
      | expired => rfl
    exact ⟨c, c', hc, hgo, by rw [ht, Function.update_self]⟩

/-- A call that is there after a step has been there before it, or begins with the step. -/
theorem call_origin (h : Sound s) (hs : scannerStep s e = some t) (hd : t.calls i = some d) :
    (∃ c, s.calls i = some c ∧ Becomes s e t i c d) ∨
    s.calls i = none ∧ d.pc = .checking ∧ d.monitor = .absent ∧ d.scanData = none := by
  cases hold : s.calls i with
  | some c =>
    obtain ⟨c', hc', hbecomes⟩ := call_becomes h hs hold
    obtain rfl := Option.some.inj (hc'.symm.trans hd)
    exact Or.inl ⟨c, rfl, hbecomes⟩
  | none =>
    have hnew : ∀ {j : Nat} {c c' : Call}, s.calls j = some c →
        Function.update s.calls j (some c') i ≠ some d := by
      intro j c c' hj hi
      rcases update_some hi with ⟨rfl, _⟩ | ⟨_, hi⟩
      · rw [hold] at hj
        cases hj
      · rw [hold] at hi
        cases hi
    cases step_calls hs with
    | still _ hcalls _ _ _ _ =>
      rw [hcalls, hold] at hd
      cases hd
    | begun =>
      rcases update_some hd with ⟨rfl, rfl⟩ | ⟨_, hd⟩
      · exact Or.inr ⟨rfl, rfl, rfl, rfl⟩
      · rw [hold] at hd
        cases hd
    | allocated hc _ _ _ => exact absurd hd (hnew hc)
    | watched hc _ _ ht _ _ _ _ => exact absurd (ht ▸ hd) (hnew hc)
    | moved hc _ ht _ _ _ _ => exact absurd (ht ▸ hd) (hnew hc)

/-- A scan that is on after a step has been on before it, or its context is new. -/
theorem pending_back (h : Sound s) (hs : scannerStep s e = some t) (hd : t.calls i = some d)
    (hp : pending d.pc = true) (hk : d.scanData = some k) :
    (∃ c, s.calls i = some c ∧ pending c.pc = true ∧ c.scanData = some k ∧ c.custom = d.custom ∧
      c.deviceAddress = d.deviceAddress) ∨
    k = s.contexts.next ∧ d.pc = .launching ∧ stateOf t k = .scanning := by
  rcases call_origin h hs hd with ⟨c, hc, hbecomes⟩ | ⟨_, hpc, _, _⟩
  · cases hbecomes with
    | same => exact Or.inl ⟨_, hc, hp, hk, rfl, rfl⟩
    | watched _ _ _ => exact Or.inl ⟨c, hc, hp, hk, rfl, rfl⟩
    | allocated _ _ hdata hpc' =>
      rcases hpc' with ⟨hpc', hstate⟩ | hpc'
      · obtain rfl : s.contexts.next = k := by
          rw [hdata] at hk
          exact Option.some.inj hk
        exact Or.inr ⟨rfl, hpc', hstate⟩
      · rw [hpc'] at hp
        cases hp
    | moved hgo =>
      obtain ⟨hdata, hcustom, haddress⟩ := goes_kept hgo
      exact Or.inl ⟨c, hc, goes_pending hgo hp, hdata.symm.trans hk, hcustom.symm, haddress.symm⟩
  · rw [hpc] at hp
    cases hp

theorem stored_stores {new : ScanState} (h : stored s k e = some new) :
    stores s e = some (k, new) := by
  rw [stored, Option.ite_none_right_eq_some] at h
  obtain ⟨_, h⟩ := h
  obtain ⟨⟨l, old⟩, hx, rfl⟩ := Option.map_eq_some_iff.mp h
  obtain ⟨hstores, hl⟩ := Option.filter_eq_some_iff.mp hx
  obtain rfl : l = k := by simpa using hl
  exact hstores

/-- A monitor stores ABORTED into the context of its scan, a callback FAILED or SUCCEEDED. -/
theorem store_cases (h : Sound s) {new : ScanState} (hnew : stored s k e = some new) :
    (∃ i c, e = .monitor i ∧ s.calls i = some c ∧ c.scanData = some k ∧ c.monitor = .storing ∧
      new = .aborted) ∨
    ∃ j adapterNull addr garbage, e = .discovery j adapterNull addr garbage ∧
      (new = .failed ∨ new = .succeeded) := by
  have hstores := stored_stores hnew
  cases e with
  | monitor i =>
    obtain ⟨c, hc, hm⟩ := Option.bind_eq_some_iff.mp hstores
    rw [Option.ite_none_right_eq_some] at hm
    obtain ⟨hm, hk⟩ := hm
    obtain ⟨l, hl, hk⟩ := Option.map_eq_some_iff.mp hk
    cases hk
    exact Or.inl ⟨i, c, rfl, hc, hl, hm, rfl⟩
  | discovery j adapterNull addr garbage =>
    obtain ⟨pc, hj, hpc⟩ := Option.bind_eq_some_iff.mp hstores
    split at hpc
    · cases hpc
      exact Or.inr ⟨j, adapterNull, addr, garbage, rfl, h.reports j k new (Or.inr hj)⟩
    · cases hpc
  | _ => cases hstores

theorem stored_finished (h : Sound s) {new : ScanState} (hnew : stored s k e = some new) :
    finished new = true := by
  rcases store_cases h hnew with ⟨_, _, _, _, _, _, rfl⟩ | ⟨_, _, _, _, _, rfl | rfl⟩
  · rfl
  · rfl
  · rfl

theorem requested_step (hs : scannerStep s e = some t) :
    (Requested t ↔ Requested s) ∨ e = .abortCheck ∧ s.scanning = true ∧ Requested t := by
  cases step_calls hs with
  | still _ _ _ _ _ hr => exact hr
  | begun => exact Or.inl Iff.rfl
  | allocated => exact Or.inl Iff.rfl
  | watched _ _ _ _ _ _ _ hr => exact Or.inl hr
  | moved _ _ _ _ _ _ hr => exact Or.inl hr

end

/-- A timed step is a step of the scanner, or the time of a call is up. -/
theorem timed_cases {s t : Timed} {e : TimedEvent} (hs : timedStep s e = some t) :
    (∃ x u, e = .step x ∧ timely s x = true ∧ scannerStep s.impl x = some u ∧
      t = { s with impl := u }) ∨
    ∃ i c, e = .deadline i ∧ s.impl.calls i = some c ∧ c.pc = .waiting ∧
      t = { s with expired := Function.update s.expired i true } := by
  cases e with
  | step x =>
    simp only [timedStep, Option.ite_none_right_eq_some] at hs
    obtain ⟨htime, hs⟩ := hs
    obtain ⟨u, hu, rfl⟩ := Option.map_eq_some_iff.mp hs
    exact Or.inl ⟨x, u, rfl, htime, hu, rfl⟩
  | deadline i =>
    obtain ⟨c, hc, rfl⟩ := Option.map_eq_some_iff.mp hs
    obtain ⟨hc, hpc⟩ := callAt_iff.mp hc
    exact Or.inr ⟨i, c, rfl, hc, hpc, rfl⟩

theorem constructed_sound : Sound {} := by
  refine ⟨?_, ?_, ?_, ?_, ?_, ?_, ?_⟩
  · exact fun _ _ hc => by cases hc
  · exact fun _ _ _ hc => by cases hc
  · exact fun _ _ _ _ _ hc => by cases hc
  · exact fun _ _ _ _ _ hc => by cases hc
  · exact fun _ _ _ hc => by cases hc
  · exact fun _ _ hc => by cases hc
  · rintro _ _ _ (hr | hr)
    · cases hr
    · cases hr

end Gattlib.ScanContexts
