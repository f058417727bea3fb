import Gattlib.NotificationFacts

namespace Gattlib.NotificationKinds

open Library.Memory Library.Resources Library.Transition Gattlib.State Gattlib.Registry
open Gattlib.Connection Gattlib.Adapters Gattlib.Uuids Gattlib.Notifications
open Gattlib.Subscriptions Gattlib.NotificationFacts

/-- A value is due to the handler registered for the kind of its subscription. -/
def Due (s : Notified) (r : Entry Subscription) : Prop :=
  gattlibConnectionIsConnected s.world r.owner = true ∧ Registered s r.owner r.kind.start

instance (s : Notified) (r : Entry Subscription) : Decidable (Due s r) :=
  inferInstanceAs (Decidable (_ ∧ _))

/-- The value waits in a pool of the handler it is due to. -/
def Waits (s : Notified) (v : Value) (c : Nat) (kind : Kind) : Prop :=
  ∃ pool p, s.pools.cell pool = some p ∧ p.connection = c ∧ p.kind = kind ∧ v ∈ p.queue

/-- Exactly one subscription ends, and it is one of this kind and in the list. -/
def Ends (s t : Notified) (c : Nat) (kind : Kind) : Prop :=
  ∃ r, Live s.signals r ∧ r.owner = c ∧ r.kind.start = kind ∧ r.id ∈ recorded s c ∧
    recorded t c = (recorded s c).filter (fun i => i != r.id) ∧
    ∀ r', Live t.signals r' ↔ Live s.signals r' ∧ r' ≠ r

/-- What a step has to do with the two kinds: a value that is due does not trip the
assertion and is queued for its handler, and a stop that succeeds ends a
subscription of its own kind and no other. -/
def Unmixed (s : Notified) : NotifiedEvent → Notified → Prop
  | .valueChanged signal text changed, t => ∀ r ∈ find s.signals signal,
      ∀ data ∈ valueIn r.kind.callback changed, Due s r →
        t.aborted = false ∧ Waits t (argsOf s r text data) r.owner r.kind.start
  | .stop kind c uuid stopNotify, t =>
      (stopOf kind s c uuid stopNotify).1 = gattlibSuccess → Ends s t c kind
  | _, _ => True

/-- No value that was due to one kind of handler has been passed to the other. -/
def PassedOwn (s : Notified) : Prop :=
  ∀ x ∈ s.passed, x.value.registered = true → x.kind = x.value.start

/-- No value is due to an indication handler, and a stop that succeeds takes an entry
of its own kind. -/
def Separate (s : Notified) : NotifiedEvent → Prop
  | .valueChanged signal _ changed => ∀ r ∈ find s.signals signal,
      ∀ _ ∈ valueIn r.kind.callback changed, r.kind.start = .indication → ¬Due s r
  | .stop kind c uuid stopNotify => gattlibConnectionIsConnected s.world c = true →
      stopNotify.isNone = true → ∀ h ∈ notificationHandle s c uuid,
        ∀ r ∈ find s.signals h.signalId, r.kind.start = kind
  | _ => True

/-- Every signal handler has been made by a start. -/
def Tagged (s : Notified) : Prop := ∀ r ∈ s.signals.acquired, Made r.kind.start r.kind

/-- What holds in every run. -/
structure Grounded (s : Notified) : Prop where
  issued : Issued s
  backed : Backed s
  tagged : Tagged s
  pools : PoolsOk s

/-- A value that is due waits for a handler of its kind. -/
def QueuedOwn (s : Notified) : Prop :=
  ∀ pool p, s.pools.cell pool = some p → ∀ v ∈ p.queue, v.registered = true → p.kind = v.start

section

variable {s t : Notified} {r : Entry Subscription} {text data : List UInt8}
variable {changed : List ChangedProperty} {c pool : Nat} {kind : Kind}

/-! Invariants of every run -/

theorem tagged_acquire (h : Tagged s) {k : Subscription} (hk : Made kind k) (c : Nat) :
    Tagged { s with signals := acquire s.signals k c } := by
  intro r hr
  rcases List.mem_cons.mp hr with rfl | hr
  · exact hk.1.symm ▸ hk
  · exact h r hr

theorem tagged_releases (h : Tagged s) (ids : List Nat)
    (hs : t.signals = ids.foldl release s.signals) : Tagged t := by
  intro r hr
  rw [hs, releases_acquired] at hr
  exact h r hr

theorem rebooked_tagged (h : Tagged s) (hs : Rebooked s t) : Tagged t := by
  cases hs with
  | same hsame => exact tagged_releases h [] hsame.signals
  | freed c hsame => exact tagged_releases h (recorded s c) (hsame.signals.trans (signals_dropped s c))
  | acquired hk c => exact tagged_acquire h hk c
  | added hk c hid => exact tagged_acquire h hk c
  | @stopped c uuid handle hf => exact tagged_releases h [handle.signalId] rfl

theorem grounded_step {e : NotifiedEvent} (h : Grounded s) (hs : notifiedStep s e = some t) :
    Grounded t := by
  have hbooks := step_rebooked hs
  exact ⟨rebooked_issued h.issued hbooks, rebooked_backed h.issued h.backed hbooks,
    rebooked_tagged h.tagged hbooks, poolsOk_moved h.pools (step_moved hs)⟩

theorem fresh_grounded (h : Fresh s) : Grounded s := by
  refine ⟨fresh_issued h, exact_backed (fresh_exact h), ?_, fresh_poolsOk h⟩
  cases h
  exact fun r hr => by cases hr

/-! Values -/

theorem args_fresh (h : PoolsOk s) : argsOf s r text data ∉ s.received := by
  intro hm
  have hnumber : (argsOf s r text data).number ∈ s.received.map Value.number :=
    List.mem_map_of_mem hm
  rw [h.numbers, List.mem_range] at hnumber
  exact Nat.lt_irrefl _ hnumber

/-- A value due to a notification handler is taken in. -/
theorem takes_notification (hr : r ∈ s.signals.acquired) (h : Tagged s) (hd : Due s r)
    (hk : r.kind.start = .notification) : Takes s r := by
  obtain ⟨_, hcallback⟩ := h r hr
  obtain ⟨hc, hreg⟩ := hd
  rw [hk] at hcallback hreg
  unfold Takes
  rcases hcallback with hcallback | hcallback
  · rw [hcallback]
    exact ⟨hc, hreg⟩
  · rw [hcallback]
    exact ⟨hc, hreg⟩

/-- What waits in a pool after a value has been queued for the notifications. -/
theorem waits_queued (h : PoolsOk s) (hp : (s.notification r.owner).threadPool = some pool) :
    Waits (queued s pool (argsOf s r text data)) (argsOf s r text data) r.owner kind ↔
      kind = .notification := by
  obtain ⟨p, hcell, hown, hkind⟩ := h.own r.owner .notification pool hp
  constructor
  · rintro ⟨q, p', hcell', _, hkind', hmem⟩
    rw [queued, modify_cell] at hcell'
    split at hcell'
    · rw [hcell, Option.map_some, Option.some.injEq] at hcell'
      subst hcell'
      rw [← hkind']
      exact hkind
    · exact absurd (h.queues q p' hcell' _ hmem).1 (args_fresh h)
  · rintro rfl
    refine ⟨pool, { p with queue := p.queue ++ [argsOf s r text data] }, ?_, hown, hkind,
      List.mem_append_right _ (List.mem_singleton_self _)⟩
    rw [queued, modify_cell, if_pos rfl, hcell]
    rfl

theorem not_waits (h : PoolsOk s) (hp : t.pools = s.pools) :
    ¬Waits t (argsOf s r text data) c kind := by
  rintro ⟨q, p, hcell, _, _, hmem⟩
  rw [hp] at hcell
  exact args_fresh h (h.queues q p hcell _ hmem).1

/-- A value that is due is dealt with as it should be exactly when it is a notification. -/
theorem due_iff (h : Grounded s) (ha : s.aborted = false) (hr : r ∈ s.signals.acquired)
    (hv : valueIn r.kind.callback changed = some data) (hd : Due s r) :
    (dispatch s r text changed).aborted = false ∧
        Waits (dispatch s r text changed) (argsOf s r text data) r.owner r.kind.start ↔
      r.kind.start ≠ .indication := by
  rcases dispatch_cases s r text changed with
    ⟨he, hn⟩ | ⟨data', ht, hv', ⟨hp, he⟩ | ⟨pool, hp, he⟩⟩
  · have hno : ¬Takes s r := hn.resolve_right (fun hnone => by rw [hv] at hnone; cases hnone)
    rw [he]
    refine iff_of_false (fun hw => not_waits h.pools rfl hw.2) (fun hk => ?_)
    have hkind : r.kind.start = .notification := by
      cases hs : r.kind.start with
      | notification => rfl
      | indication => exact absurd hs hk
    exact hno (takes_notification hr h.tagged hd hkind)
  · rw [he]
    refine iff_of_false (fun hw => by cases hw.1) (fun hk => ?_)
    have hready := h.pools.ready r.owner r.kind.start hd.2
    cases hs : r.kind.start with
    | notification =>
      rw [hs] at hready
      have hnone : (handlerOf s r.owner .notification).threadPool = none := hp
      rw [hnone] at hready
      cases hready
    | indication => exact hk hs
  · rw [hv, Option.some.injEq] at hv'
    subst hv'
    rw [he, waits_queued h.pools hp]
    constructor
    · rintro ⟨_, hk⟩
      rw [hk]
      decide
    · intro hk
      refine ⟨ha, ?_⟩
      cases hs : r.kind.start with
      | notification => rfl
      | indication => exact absurd hs hk

/-! Steps -/

theorem ends_iff (hb : Backed s) {uuid : Uuid} {handle : NotificationHandle} {r : Entry Subscription}
    (hf : notificationHandle s c uuid = some handle) (hl : Live s.signals r)
    (hid : r.id = handle.signalId) (hc : r.owner = c) :
    Ends s (stopped s c uuid handle) c kind ↔ r.kind.start = kind := by
  have hlive : ∀ r', Live (stopped s c uuid handle).signals r' ↔ Live s.signals r' ∧ r' ≠ r := by
    intro r'
    have hrelease : Live (release s.signals r.id) r' ↔ Live s.signals r' ∧ r' ≠ r := live_release hl
    rw [hid] at hrelease
    exact hrelease
  constructor
  · rintro ⟨r', hl', _, hkind, _, _, hends⟩
    have he : r' = r := by
      by_contra hne
      exact ((hends r').mp ((hlive r').mpr ⟨hl', hne⟩)).2 rfl
    rw [← he]
    exact hkind
  · intro hkind
    refine ⟨r, hl, hc, hkind, hid ▸ handle_recorded hf, ?_, hlive⟩
    rw [hid]
    exact recorded_stopped hb hf c

theorem stop_iff (hb : Backed s) (uuid : Uuid) (stopNotify : Option GError) :
    Separate s (.stop kind c uuid stopNotify) ↔
      Unmixed s (.stop kind c uuid stopNotify) (stopOf kind s c uuid stopNotify).2 := by
  rw [Separate, Unmixed]
  rcases stop_cases (s := s) kind c uuid stopNotify with
    ⟨hret, _, hnone⟩ | ⟨handle, hc, hf, hstop, hret⟩
  · refine iff_of_true (fun hc _ h hh => ?_) (fun hr => absurd hr hret)
    rw [hnone hc] at hh
    cases hh
  · obtain ⟨k, hlive⟩ := mem_liveIds.mp (hb.live c _ (handle_recorded hf))
    have hfind := live_find hlive
    have hends : Ends s (stopped s c uuid handle) c kind ↔ k.start = kind :=
      ends_iff hb hf hlive rfl rfl
    rw [hstop, hret, hends]
    constructor
    · intro h hn
      exact h hc hn handle hf _ hfind
    · intro h _ hn h' hh r hr
      rw [Option.mem_def, hf, Option.some.injEq] at hh
      rw [Option.mem_def, ← hh, hfind, Option.some.injEq] at hr
      rw [← hr]
      exact h hn

/-- One step of any run. -/
theorem separate_iff {e : NotifiedEvent} (h : Grounded s) (hs : notifiedStep s e = some t) :
    Separate s e ↔ Unmixed s e t := by
  simp only [notifiedStep, Option.ite_none_left_eq_some] at hs
  obtain ⟨ha, hs⟩ := hs
  cases e with
  | library e => exact iff_of_true trivial trivial
  | register kind c handler userData error => exact iff_of_true trivial trivial
  | start kind c uuid o => exact iff_of_true trivial trivial
  | stop kind c uuid stopNotify =>
    cases hs
    exact stop_iff h.backed uuid stopNotify
  | valueChanged signal text changed =>
    obtain ⟨r, hf, rfl⟩ := Option.map_eq_some_iff.mp hs
    have hacquired := (find_live hf).1.1
    have haborted := (Bool.not_eq_true _).mp ha
    rw [Separate, Unmixed]
    constructor
    · intro hsep r' hr' data hv hd
      rw [Option.mem_def, hf, Option.some.injEq] at hr'
      subst hr'
      exact (due_iff h haborted hacquired hv hd).mpr (fun hk => hsep r hf data hv hk hd)
    · intro hun r' hr' data hv hk hd
      have hdue := hun r' hr' data hv hd
      rw [Option.mem_def, hf, Option.some.injEq] at hr'
      subst hr'
      exact (due_iff h haborted hacquired hv hd).mp hdue hk
  | worker pool => exact iff_of_true trivial trivial

theorem queuedOwn_popped (h : QueuedOwn s) {p : Pool} {v : Value} {rest : List Value}
    (hp : s.pools.cell pool = some p) (hq : p.queue = v :: rest) :
    ∀ q p', (popped s pool rest).pools.cell q = some p' → ∀ u ∈ p'.queue,
      u.registered = true → p'.kind = u.start := by
  intro q p' hcell u hu hreg
  rw [popped, modify_cell] at hcell
  split at hcell
  · rw [hp, Option.map_some, Option.some.injEq] at hcell
    subst hcell
    exact h pool p hp u (hq ▸ List.mem_cons_of_mem _ hu) hreg
  · exact h q p' hcell u hu hreg

theorem queuedOwn_moved {e : NotifiedEvent} (hg : Grounded s) (h : QueuedOwn s)
    (hsep : Separate s e) (hm : Moved s e t) : QueuedOwn t := by
  cases hm with
  | quiet hq =>
    intro pool p hcell
    rw [hq.pools] at hcell
    exact h pool p hcell
  | registered kind c handler userData error =>
    intro pool p hcell v hv
    rw [pools_registered] at hcell
    by_cases he : pool = s.pools.next
    · rw [he, alloc_self, Option.some.injEq] at hcell
      subst hcell
      cases hv
    · rw [alloc_ne _ _ he] at hcell
      exact h pool p hcell v hv
  | tripped hf ht hv hp => exact h
  | @queued signal pool text data changed r hf ht hv hp =>
    obtain ⟨p, hcell, _, hkind⟩ := hg.pools.own r.owner .notification pool hp
    intro q p' hcell' v hmem hreg
    rw [queued, modify_cell] at hcell'
    split at hcell'
    · rw [hcell, Option.map_some, Option.some.injEq] at hcell'
      subst hcell'
      rcases List.mem_append.mp hmem with hmem | hmem
      · exact h pool p hcell v hmem hreg
      · rw [List.mem_singleton.mp hmem] at hreg ⊢
        have hd : Due s r := (Bool.and_eq_true _ _).mp hreg
        have hstart : r.kind.start = .notification := by
          cases hs : r.kind.start with
          | notification => rfl
          | indication => exact absurd hd (hsep r hf data hv hs)
        exact hkind.trans hstart.symm
    · exact h q p' hcell' v hmem hreg
  | worked hw =>
    cases hw with
    | dropped hp hq hc => exact queuedOwn_popped h hp hq
    | crashed hp hq hn => exact queuedOwn_popped h hp hq
    | passed hp hq hc hh => exact queuedOwn_popped h hp hq

theorem passedOwn_moved {e : NotifiedEvent} (hq : QueuedOwn s) (h : PassedOwn s)
    (hm : Moved s e t) : PassedOwn t := by
  cases hm with
  | quiet hquiet =>
    intro x hx
    rw [hquiet.passed] at hx
    exact h x hx
  | registered kind c handler userData error =>
    intro x hx
    have hpassed : (registered s kind c handler userData).passed = s.passed := by
      cases kind <;> rfl
    rw [hpassed] at hx
    exact h x hx
  | tripped hf ht hv hp => exact h
  | queued hf ht hv hp => exact h
  | worked hw =>
    cases hw with
    | dropped hp hq hc => exact h
    | crashed hp hq hn => exact h
    | passed hp hqueue hc hh =>
      intro x hx hreg
      rcases List.mem_append.mp hx with hx | hx
      · exact h x hx hreg
      · rw [List.mem_singleton.mp hx] at hreg ⊢
        exact hq _ _ hp _ (hqueue ▸ List.mem_cons_self) hreg

/-- What holds as long as the two kinds are kept apart. -/
structure Apart (s : Notified) : Prop where
  grounded : Grounded s
  queued : QueuedOwn s
  passed : PassedOwn s

theorem apart_preserved : Preserves notifiedStep Separate Apart :=
  fun _ _ _ h hsep hs =>
    ⟨grounded_step h.grounded hs, queuedOwn_moved h.grounded h.queued hsep (step_moved hs),
      passedOwn_moved h.queued h.passed (step_moved hs)⟩

theorem fresh_apart (h : Fresh s) : Apart s := by
  refine ⟨fresh_grounded h, ?_, ?_⟩
  · cases h
    exact fun pool p hcell => by cases hcell
  · cases h
    exact fun x hx => by cases hx

end

/-- The kinds do not mix in a run exactly when no value is due to an indication
handler and every stop that succeeds takes an entry of its own kind. -/
theorem kinds_unmixed {tr : List (Notified × NotifiedEvent × Notified)} {s : Notified}
    (h : Run notifiedStep Fresh tr s) :
    (∀ x ∈ tr, Separate x.1 x.2.1) ↔
      ∀ x ∈ tr, Unmixed x.1 x.2.1 x.2.2 ∧ PassedOwn x.2.2 := by
  constructor
  · intro hall x hx
    obtain ⟨_, hsteps⟩ := run_steps (fun _ => fresh_apart) apart_preserved h hall
    obtain ⟨hapart, hs⟩ := hsteps x hx
    exact ⟨(separate_iff hapart.grounded hs).mp (hall x hx),
      (apart_preserved _ _ _ hapart (hall x hx) hs).passed⟩
  · intro hall x hx
    have hgrounded : Preserves notifiedStep AnyStep Grounded :=
      fun _ _ _ hg _ hs => grounded_step hg hs
    obtain ⟨_, hsteps⟩ := run_steps (fun _ => fresh_grounded) hgrounded h (fun _ _ => trivial)
    obtain ⟨hg, hs⟩ := hsteps x hx
    exact (separate_iff hg hs).mpr (hall x hx).1

/-- An indication handler is registered and no notification handler, and an
indication arrives. -/
theorem indication_trips : ¬∀ (tr : List (Notified × NotifiedEvent × Notified)) (s : Notified),
    Run notifiedStep Fresh tr s →
      ∀ x ∈ tr, Unmixed x.1 x.2.1 x.2.2 ∧ PassedOwn x.2.2 := by
  intro h
  obtain ⟨tr, hconnected, _⟩ := connected_run
  have hregister := Run.next (e := .register .indication 0 (some 9) 0 false) hconnected rfl
  have hstart := Run.next
    (e := .start .indication 0 (.uuid16 0x2A05) ⟨.gatt 1, true, true, none⟩) hregister rfl
  have hrun := Run.next (e := .valueChanged 1 [] [.value [1]]) hstart rfl
  have hdue := (h _ _ hrun _ List.mem_cons_self).1 _ rfl [1] rfl (by decide)
  exact absurd hdue.1 (by decide)

/-- A heart rate value waits for its handler, and its subscription is stopped. -/
theorem kinds_unmixed_notification : ∃ t v u w,
    Waits t v 0 .notification ∧ v.data = [72] ∧ Ends u w 0 .notification := by
  obtain ⟨tr, hconnected, hlibrary⟩ := connected_run
  have hregister := Run.next (e := .register .notification 0 (some 8) 0 false) hconnected rfl
  have hstart := Run.next
    (e := .start .notification 0 (.uuid16 0x2A37) ⟨.gatt 1, true, true, none⟩) hregister rfl
  have hvalue := Run.next (e := .valueChanged 1 [] [.value [72]]) hstart rfl
  have hrun := Run.next (e := .stop .notification 0 (.uuid16 0x2A37) none) hvalue rfl
  have hall := (kinds_unmixed hrun).mp (by
    refine List.forall_mem_cons.mpr ⟨?_, List.forall_mem_cons.mpr ⟨?_, List.forall_mem_cons.mpr
      ⟨trivial, List.forall_mem_cons.mpr ⟨trivial, fun x hx => ?_⟩⟩⟩⟩
    · intro _ _ h hh r hr
      cases hh
      cases hr
      rfl
    · intro r hr data _ hk
      cases hr
      cases hk
    · obtain ⟨e, he⟩ := hlibrary x hx
      rw [he]
      trivial)
  have hstop := (hall _ List.mem_cons_self).1 rfl
  have hwaits := (hall _ (List.mem_cons_of_mem _ List.mem_cons_self)).1 _ rfl [72] rfl (by decide)
  exact ⟨_, _, _, _, hwaits.2, rfl, hstop⟩

end Gattlib.NotificationKinds
