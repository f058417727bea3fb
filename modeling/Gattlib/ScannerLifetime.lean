import Gattlib.Scanner
import Gattlib.Library.Maps
import Gattlib.Library.Transition

namespace Gattlib.ScannerLifetime

open Library.Maps Library.Memory Library.Transition Gattlib.State Gattlib.Scanner

/-- The context that a thread inside `onScanDiscovery` may still lock and write. -/
def holding : DiscoveryPc → Option Nat
  | .checked => none
  | .called h => if h.custom then none else some h.scanData
  | .locking k _ => some k
  | .storing k _ => some k
  | .unlocking k => some k
  | .done => none

/-- The monitor has seen the abort flag and is not done with the context. -/
def busy : MonitorPc → Bool
  | .locking | .storing | .unlocking => true
  | .absent | .polling | .loaded | .done => false

/-- The call is past the deletion of its context. -/
def deleted : CallPc → Bool
  | .shutdown .clearing _ _ => true
  | .leaving false => true
  | .ended => true
  | _ => false

/-- No context is locked or written after its deletion, none is deleted twice, and a
call that has ended has deleted its own. -/
structure ScanDataSafe (s : Impl) : Prop where
  untouched : s.stale = []
  once : ∀ k, s.deletes k ≤ 1
  deleted : ∀ i c k, s.calls i = some c → c.pc = .ended → c.scanData = some k → s.deletes k = 1

/-- Nobody can get at a context any more but the monitor, which has not seen the abort flag. -/
structure LetGo (s : Impl) (c : Call) (k : Nat) : Prop where
  discoveries : ∀ j pc, s.discoveries j = some pc → holding pc ≠ some k
  handler : ∀ h, s.handler = some h → h.custom = false → h.scanData ≠ k
  monitor : busy c.monitor = false

/-- A part of `shutdown` neither returns early nor throws, and the context is let go
of when it is deleted. -/
def GetsThrough (s : Impl) (c : Call) (k : Nat) (o : ShutdownOutcome) : ShutdownPc → Prop
  | .looking => stateOf s k ≠ .shuttingDown
  | .testing => s.scanning = true
  | .stopping => o.stopThrows = false
  | .cleaning => stateOf s k = .shuttingDown
  | .deleting => LetGo s c k
  | .locking | .marking | .disabling | .clearing => True

/-- Every part of a shutdown gets through, and no monitor sees the abort flag when
its context has been deleted. -/
def Joined (s : Impl) : ScannerEvent → Prop
  | .shutdown i o => ∀ c p k inCatch, s.calls i = some c → c.pc = .shutdown p k inCatch →
      GetsThrough s c k o p
  | .monitor i => ∀ c k, s.calls i = some c → c.scanData = some k → c.monitor = .loaded →
      s.abort = true → (s.contexts.cell k).isSome = true
  | _ => True

/-- A call and its context. -/
structure CallOk (s : Impl) (c : Call) : Prop where
  owned : ∀ k, c.scanData = some k → k < s.contexts.next
  alive : ∀ k, c.scanData = some k → deleted c.pc = false →
    (s.contexts.cell k).isSome = true ∧ s.deletes k = 0
  gone : ∀ k, c.scanData = some k → deleted c.pc = true → s.deletes k = 1
  shutdown : ∀ p k inCatch, c.pc = .shutdown p k inCatch → c.scanData = some k
  unprepared : c.pc = .checking ∨ c.pc = .preparing → c.scanData = none
  monitor : busy c.monitor = true → ∀ k, c.scanData = some k → (s.contexts.cell k).isSome = true

structure Kept (s : Impl) : Prop where
  fresh : ∀ i c, s.calls i = some c → i < s.nextCall
  calls : ∀ i c, s.calls i = some c → CallOk s c
  distinct : ∀ i j c d k, s.calls i = some c → s.calls j = some d → c.scanData = some k →
    d.scanData = some k → i = j
  once : ∀ k, s.deletes k ≤ 1
  unborn : ∀ k, s.contexts.next ≤ k → s.deletes k = 0
  discoveries : ∀ j pc k, s.discoveries j = some pc → holding pc = some k →
    (s.contexts.cell k).isSome = true
  handler : ∀ h, s.handler = some h → h.custom = false → (s.contexts.cell h.scanData).isSome = true
  stale : s.stale = []

/-- A step that neither allocates nor deletes a context. -/
structure SameContexts (s t : Impl) : Prop where
  next : t.contexts.next = s.contexts.next
  cells : ∀ k, (t.contexts.cell k).isSome = (s.contexts.cell k).isSome
  deletes : t.deletes = s.deletes
  stale : t.stale = s.stale

section

variable {s t : Impl} {i j k : Nat} {c c' d : Call} {e : ScannerEvent}

theorem sameContexts_refl (s : Impl) : SameContexts s s := ⟨rfl, fun _ => rfl, rfl, rfl⟩

/-- A write to a context that has not been deleted. -/
theorem write_same (hk : (s.contexts.cell k).isSome = true) (f : ScanContext → ScanContext) :
    SameContexts s (writeContext s k f) := by
  refine ⟨rfl, fun j => ?_, rfl, ?_⟩
  · unfold writeContext
    rw [modify_cell]
    split
    · next hj => rw [hj, Option.isSome_map]
    · rfl
  · unfold writeContext
    rw [Option.isNone_eq_false_iff.mpr hk]
    rfl

theorem callOk_same (h : CallOk s c) (hm : SameContexts s t) : CallOk t c := by
  refine ⟨fun k hk => ?_, fun k hk hd => ?_, fun k hk hd => ?_, h.shutdown, h.unprepared,
    fun hb k hk => ?_⟩
  · rw [hm.next]
    exact h.owned k hk
  · rw [hm.cells, hm.deletes]
    exact h.alive k hk hd
  · rw [hm.deletes]
    exact h.gone k hk hd
  · rw [hm.cells]
    exact h.monitor hb k hk

/-- A call moves on to a place on the same side of the deletion. -/
theorem callOk_moved (h : CallOk s c) (hdata : c'.scanData = c.scanData)
    (hdel : deleted c'.pc = deleted c.pc)
    (hshut : ∀ p k inCatch, c'.pc = .shutdown p k inCatch → c.scanData = some k)
    (hun : c'.pc = .checking ∨ c'.pc = .preparing → c.scanData = none)
    (hmon : busy c'.monitor = true → busy c.monitor = true) : CallOk s c' := by
  refine ⟨?_, ?_, ?_, ?_, ?_, ?_⟩
  · rw [hdata]
    exact h.owned
  · rw [hdata, hdel]
    exact h.alive
  · rw [hdata, hdel]
    exact h.gone
  · rw [hdata]
    exact hshut
  · rw [hdata]
    exact hun
  · rw [hdata]
    exact fun hb => h.monitor (hmon hb)

theorem kept_moved (h : Kept s) (hc : s.calls i = some c) (hm : SameContexts s t)
    (ht : t.calls = Function.update s.calls i (some c')) (hn : t.nextCall = s.nextCall)
    (hdata : c'.scanData = c.scanData) (hok : CallOk s c') (hd : t.discoveries = s.discoveries)
    (hh : ∀ x, t.handler = some x → x.custom = false →
      (s.contexts.cell x.scanData).isSome = true) : Kept t := by
  refine ⟨fun j d hj => ?_, fun j d hj => ?_, fun j l d d' k hj hl hk hk' => ?_, ?_, ?_, ?_, ?_, ?_⟩
  · rw [ht] at hj
    rw [hn]
    rcases update_some hj with ⟨rfl, _⟩ | ⟨_, hold⟩
    · exact h.fresh _ c hc
    · exact h.fresh j d hold
  · rw [ht] at hj
    rcases update_some hj with ⟨_, rfl⟩ | ⟨_, hold⟩
    · exact callOk_same hok hm
    · exact callOk_same (h.calls j d hold) hm
  · have hback : ∀ m e, t.calls m = some e → e.scanData = some k →
        ∃ e', s.calls m = some e' ∧ e'.scanData = some k := by
      intro m e hme hek
      rw [ht] at hme
      rcases update_some hme with ⟨rfl, rfl⟩ | ⟨_, hold⟩
      · exact ⟨c, hc, hdata ▸ hek⟩
      · exact ⟨e, hold, hek⟩
    obtain ⟨e, he, hek⟩ := hback j d hj hk
    obtain ⟨e', he', hek'⟩ := hback l d' hl hk'
    exact h.distinct j l e e' k he he' hek hek'
  · rw [hm.deletes]
    exact h.once
  · rw [hm.deletes, hm.next]
    exact h.unborn
  · rw [hd]
    exact fun j pc k hj hk => (hm.cells k).trans (h.discoveries j pc k hj hk)
  · exact fun x hx hcustom => (hm.cells x.scanData).trans (hh x hx hcustom)
  · exact hm.stale.trans h.stale

/-- The calls stay as they are. -/
theorem kept_still (h : Kept s) (hm : SameContexts s t) (ht : t.calls = s.calls)
    (hn : t.nextCall = s.nextCall) (hh : t.handler = s.handler)
    (hd : ∀ j pc k, t.discoveries j = some pc → holding pc = some k →
      (s.contexts.cell k).isSome = true) : Kept t := by
  refine ⟨?_, fun j d hj => ?_, ?_, ?_, ?_, fun j pc k hj hk => ?_, fun x hx hcustom => ?_, ?_⟩
  · rw [ht, hn]
    exact h.fresh
  · rw [ht] at hj
    exact callOk_same (h.calls j d hj) hm
  · rw [ht]
    exact h.distinct
  · rw [hm.deletes]
    exact h.once
  · rw [hm.deletes, hm.next]
    exact h.unborn
  · exact (hm.cells k).trans (hd j pc k hj hk)
  · rw [hh] at hx
    exact (hm.cells x.scanData).trans (h.handler x hx hcustom)
  · exact hm.stale.trans h.stale

/-! The discovered-device threads -/

/-- A thread moves on and has a context that has not been deleted, if it has any. -/
theorem kept_discovery {x : Impl} {pc : DiscoveryPc} (h : Kept s) (hm : SameContexts s x)
    (hc : x.calls = s.calls) (hn : x.nextCall = s.nextCall) (hh : x.handler = s.handler)
    (hd : x.discoveries = s.discoveries)
    (hpc : ∀ k, holding pc = some k → (s.contexts.cell k).isSome = true) :
    Kept (setDiscovery x j pc) := by
  refine kept_still h ⟨hm.next, hm.cells, hm.deletes, hm.stale⟩ hc hn hh (fun l q k hl hk => ?_)
  have hl : Function.update x.discoveries j (some pc) l = some q := hl
  rw [hd] at hl
  rcases update_some hl with ⟨_, rfl⟩ | ⟨_, hold⟩
  · exact hpc k hk
  · exact h.discoveries l q k hold hk

theorem kept_onScanDiscovery (h : Kept s) {x : Installed} (hpc : s.discoveries j = some (.called x))
    (adapterNull : Bool) (addr : Strings.CString) (garbage : Bool) :
    Kept (onScanDiscovery s j x adapterNull addr garbage) := by
  obtain ⟨pc, he, hset⟩ := onScanDiscovery_sets s j x adapterNull addr garbage
  rw [he]
  refine kept_discovery h (sameContexts_refl s) rfl rfl rfl rfl (fun k hk => ?_)
  rcases hset with rfl | ⟨hplain, new, rfl, _⟩
  · cases hk
  · apply h.discoveries j _ k hpc
    rw [holding, hplain, if_neg (by decide)]
    exact hk

theorem kept_discoveryStep (h : Kept s) {pc : DiscoveryPc} (hpc : s.discoveries j = some pc)
    {adapterNull garbage : Bool} {addr : Strings.CString}
    (hs : Scanner.discoveryStep s j adapterNull addr garbage pc = some t) : Kept t := by
  cases pc with
  | checked =>
    cases hs
    unfold callHandler
    split
    · exact kept_discovery h (sameContexts_refl s) rfl rfl rfl rfl (fun k hk => by cases hk)
    · next x hx =>
      refine kept_discovery h (sameContexts_refl s) rfl rfl rfl rfl (fun k hk => ?_)
      simp only [holding, Option.ite_none_left_eq_some, Option.some.injEq] at hk
      obtain ⟨hcustom, rfl⟩ := hk
      exact h.handler x hx ((Bool.not_eq_true _).mp hcustom)
  | called x =>
    cases hs
    exact kept_onScanDiscovery h hpc adapterNull addr garbage
  | locking k new =>
    have hk := h.discoveries j _ k hpc rfl
    simp only [Scanner.discoveryStep, Option.ite_none_right_eq_some] at hs
    obtain ⟨_, hs⟩ := hs
    cases hs
    refine kept_discovery h (write_same hk _) rfl rfl rfl rfl (fun l hl => ?_)
    cases hl
    exact hk
  | storing k new =>
    have hk := h.discoveries j _ k hpc rfl
    cases hs
    refine kept_discovery h (write_same hk _) rfl rfl rfl rfl (fun l hl => ?_)
    cases hl
    exact hk
  | unlocking k =>
    have hk := h.discoveries j _ k hpc rfl
    cases hs
    exact kept_discovery h (write_same hk _) rfl rfl rfl rfl (fun l hl => by cases hl)
  | done => cases hs

/-! The monitor -/

theorem kept_monitor (h : Kept s) (hc : s.calls i = some c) (hk : c.scanData = some k)
    (hjoined : c.monitor = .loaded → s.abort = true → (s.contexts.cell k).isSome = true)
    (hs : monitorStep s i c k c.monitor = some t) : Kept t := by
  have hok := h.calls i c hc
  have hset : ∀ (x : Impl) (m : MonitorPc), SameContexts s x → x.calls = s.calls →
      x.nextCall = s.nextCall → x.discoveries = s.discoveries → x.handler = s.handler →
      (busy m = true → (s.contexts.cell k).isSome = true) →
      Kept (setCall x i { c with monitor := m }) := by
    intro x m hm hx hn hd hh hb
    have hok' : CallOk s { c with monitor := m } := by
      refine ⟨hok.owned, hok.alive, hok.gone, hok.shutdown, hok.unprepared, fun hbm l hl => ?_⟩
      rw [hk] at hl
      cases hl
      exact hb hbm
    refine kept_moved h hc ⟨hm.next, hm.cells, hm.deletes, hm.stale⟩
      (set_calls hx i _) hn rfl hok' hd (fun y hy => ?_)
    exact h.handler y (hh ▸ hy)
  have hfree : ∀ m, busy m = false → busy m = true → (s.contexts.cell k).isSome = true := by
    intro m hf hb
    rw [hf] at hb
    cases hb
  cases hm : c.monitor with
  | absent =>
    rw [hm] at hs
    cases hs
  | polling =>
    rw [hm] at hs
    simp only [monitorStep] at hs
    split at hs
    · cases hs
      exact hset s _ (sameContexts_refl s) rfl rfl rfl rfl (hfree _ rfl)
    · cases hs
      exact hset s _ (sameContexts_refl s) rfl rfl rfl rfl (hfree _ rfl)
  | loaded =>
    rw [hm] at hs
    simp only [monitorStep] at hs
    split at hs
    · next ha =>
      cases hs
      exact hset s _ (sameContexts_refl s) rfl rfl rfl rfl (fun _ => hjoined hm ha)
    · cases hs
      exact hset s _ (sameContexts_refl s) rfl rfl rfl rfl (hfree _ rfl)
  | locking =>
    have halive := hok.monitor (by rw [hm, busy]) k hk
    rw [hm] at hs
    simp only [monitorStep, Option.ite_none_right_eq_some] at hs
    obtain ⟨_, hs⟩ := hs
    cases hs
    exact hset _ _ (write_same halive _) rfl rfl rfl rfl (fun _ => halive)
  | storing =>
    have halive := hok.monitor (by rw [hm, busy]) k hk
    rw [hm] at hs
    cases hs
    exact hset _ _ (write_same halive _) rfl rfl rfl rfl (fun _ => halive)
  | unlocking =>
    have halive := hok.monitor (by rw [hm, busy]) k hk
    rw [hm] at hs
    cases hs
    exact hset _ _ (write_same halive _) rfl rfl rfl rfl (hfree _ rfl)
  | done =>
    rw [hm] at hs
    cases hs

/-! The calls of `scan` -/

theorem kept_begun (h : Kept s) (hdata : c.scanData = none) (hmon : busy c.monitor = false)
    (hpc : c.pc = .checking) :
    Kept { setCall s s.nextCall c with nextCall := s.nextCall + 1 } := by
  have hok : CallOk s c := by
    refine ⟨?_, ?_, ?_, fun p k inCatch hp => ?_, fun _ => hdata, fun hb => ?_⟩
    · rw [hdata]
      exact fun k hk => by cases hk
    · rw [hdata]
      exact fun k hk => by cases hk
    · rw [hdata]
      exact fun k hk => by cases hk
    · rw [hpc] at hp
      cases hp
    · rw [hmon] at hb
      cases hb
  have hold : ∀ m e k, Function.update s.calls s.nextCall (some c) m = some e →
      e.scanData = some k → s.calls m = some e := by
    intro m e k hm hk
    rcases update_some hm with ⟨_, rfl⟩ | ⟨_, hold⟩
    · rw [hdata] at hk
      cases hk
    · exact hold
  refine ⟨fun m e hm => ?_, fun m e hm => ?_, fun m l e e' k hm hl hk hk' => ?_, h.once, h.unborn,
    h.discoveries, h.handler, h.stale⟩
  · rcases update_some hm with ⟨rfl, _⟩ | ⟨_, hold⟩
    · exact Nat.lt_succ_self _
    · exact Nat.lt_succ_of_lt (h.fresh m e hold)
  · rcases update_some hm with ⟨_, rfl⟩ | ⟨_, hold⟩
    · exact callOk_same hok ⟨rfl, fun _ => rfl, rfl, rfl⟩
    · exact callOk_same (h.calls m e hold) ⟨rfl, fun _ => rfl, rfl, rfl⟩
  · exact h.distinct m l e e' k (hold m e k hm hk) (hold l e' k hl hk') hk hk'

/-- A call without a context may go anywhere but into a shutdown. -/
theorem callOk_without (hdata : c.scanData = none)
    (hshut : ∀ p k inCatch, c.pc ≠ .shutdown p k inCatch) : CallOk s c := by
  refine ⟨?_, ?_, ?_, fun p k inCatch hp => absurd hp (hshut p k inCatch), fun _ => hdata, ?_⟩
  all_goals rw [hdata]
  · exact fun k hk => by cases hk
  · exact fun k hk => by cases hk
  · exact fun k hk => by cases hk
  · exact fun _ k hk => by cases hk

theorem kept_check (h : Kept s) (hc : s.calls i = some c) (hpc : c.pc = .checking) :
    Kept (scanCheck s i c) := by
  have hdata := (h.calls i c hc).unprepared (Or.inl hpc)
  unfold scanCheck
  split
  · exact kept_moved h hc ⟨rfl, fun _ => rfl, rfl, rfl⟩ rfl rfl rfl
      (callOk_without hdata (fun _ _ _ hp => CallPc.noConfusion hp)) rfl h.handler
  · split
    · exact kept_moved h hc ⟨rfl, fun _ => rfl, rfl, rfl⟩ rfl rfl rfl
        (callOk_without hdata (fun _ _ _ hp => CallPc.noConfusion hp)) rfl h.handler
    · exact kept_moved h hc ⟨rfl, fun _ => rfl, rfl, rfl⟩ rfl rfl rfl
        (callOk_without hdata (fun _ _ _ hp => CallPc.noConfusion hp)) rfl h.handler

/-- A call allocates its context. -/
theorem kept_allocated (h : Kept s) (hc : s.calls i = some c) (ctx : ScanContext)
    (hdata : c'.scanData = some s.contexts.next) (hdel : deleted c'.pc = false)
    (hshut : ∀ p k inCatch, c'.pc ≠ .shutdown p k inCatch)
    (hun : ¬(c'.pc = .checking ∨ c'.pc = .preparing)) :
    Kept { setCall s i c' with contexts := alloc s.contexts ctx } := by
  have hcell : ∀ k, (s.contexts.cell k).isSome = true →
      ((alloc s.contexts ctx).cell k).isSome = true := by
    intro k hk
    obtain ⟨v, hv⟩ := Option.isSome_iff_exists.mp hk
    rw [alloc_keeps hv]
    rfl
  have hself : ((alloc s.contexts ctx).cell s.contexts.next).isSome = true := by
    rw [alloc_self]
    rfl
  have hone : ∀ j d, s.calls j = some d → d.scanData ≠ some s.contexts.next := by
    intro j d hd hk
    exact Nat.lt_irrefl _ ((h.calls j d hd).owned _ hk)
  refine ⟨fun j d hj => ?_, fun j d hj => ?_, fun j l d d' k hj hl hk hk' => ?_, h.once,
    fun k hk => h.unborn k (Nat.le_of_succ_le hk),
    fun j pc k hj hk => hcell k (h.discoveries j pc k hj hk),
    fun x hx hcustom => hcell _ (h.handler x hx hcustom), h.stale⟩
  · rcases update_some hj with ⟨rfl, _⟩ | ⟨_, hold⟩
    · exact h.fresh _ c hc
    · exact h.fresh j d hold
  · rcases update_some hj with ⟨_, rfl⟩ | ⟨_, hold⟩
    · refine ⟨fun k hk => ?_, fun k hk _ => ?_, fun k _ hd => ?_, fun p k inCatch hp => ?_,
        fun hu => absurd hu hun, fun _ k hk => ?_⟩
      · rw [hdata] at hk
        cases hk
        exact Nat.lt_succ_self _
      · rw [hdata] at hk
        cases hk
        exact ⟨hself, h.unborn _ (Nat.le_refl _)⟩
      · rw [hdel] at hd
        cases hd
      · exact absurd hp (hshut p k inCatch)
      · rw [hdata] at hk
        cases hk
        exact hself
    · have hok := h.calls j d hold
      exact ⟨fun k hk => Nat.lt_succ_of_lt (hok.owned k hk),
        fun k hk hd => ⟨hcell k (hok.alive k hk hd).1, (hok.alive k hk hd).2⟩, hok.gone,
        hok.shutdown, hok.unprepared, fun hb k hk => hcell k (hok.monitor hb k hk)⟩
  · rcases update_some hj with ⟨rfl, rfl⟩ | ⟨_, hjold⟩
    · rcases update_some hl with ⟨rfl, _⟩ | ⟨_, hlold⟩
      · rfl
      · rw [hdata] at hk
        cases hk
        exact absurd hk' (hone l d' hlold)
    · rcases update_some hl with ⟨rfl, rfl⟩ | ⟨_, hlold⟩
      · rw [hdata] at hk'
        cases hk'
        exact absurd hk (hone j d hjold)
      · exact h.distinct j l d d' k hjold hlold hk hk'

theorem kept_prepare (h : Kept s) (hc : s.calls i = some c) (hpc : c.pc = .preparing)
    (o : Prepared) : Kept (scanPrepare s i c o) := by
  have hdata := (h.calls i c hc).unprepared (Or.inr hpc)
  cases o with
  | noMemory =>
    exact kept_moved h hc ⟨rfl, fun _ => rfl, rfl, rfl⟩ rfl rfl rfl
      (callOk_without hdata (fun _ _ _ hp => CallPc.noConfusion hp)) rfl h.handler
  | noFilter =>
    exact kept_allocated h hc _ rfl rfl (fun _ _ _ hp => CallPc.noConfusion hp)
      (fun hu => by rcases hu with hu | hu <;> cases hu)
  | complete =>
    exact kept_allocated h hc _ rfl rfl (fun _ _ _ hp => CallPc.noConfusion hp)
      (fun hu => by rcases hu with hu | hu <;> cases hu)

/-- A call moves on before the deletion, and not into a shutdown. -/
theorem kept_before {x : Impl} (h : Kept s) (hc : s.calls i = some c) (hm : SameContexts s x)
    (hx : x.calls = s.calls) (hn : x.nextCall = s.nextCall) (hd : x.discoveries = s.discoveries)
    (hh : ∀ y, x.handler = some y → y.custom = false →
      (s.contexts.cell y.scanData).isSome = true)
    (hdata : c'.scanData = c.scanData) (hdel : deleted c'.pc = deleted c.pc)
    (hshut : ∀ p k inCatch, c'.pc = .shutdown p k inCatch → c.scanData = some k)
    (hun : ¬(c'.pc = .checking ∨ c'.pc = .preparing))
    (hmon : busy c'.monitor = true → busy c.monitor = true) : Kept (setCall x i c') := by
  have hok := callOk_moved (h.calls i c hc) hdata hdel hshut (fun hu => absurd hu hun) hmon
  exact kept_moved h hc ⟨hm.next, hm.cells, hm.deletes, hm.stale⟩
    (set_calls hx i c') hn hdata hok hd hh

theorem kept_enter {x : Impl} (h : Kept s) (hc : s.calls i = some c) (hm : SameContexts s x)
    (hx : x.calls = s.calls) (hn : x.nextCall = s.nextCall) (hd : x.discoveries = s.discoveries)
    (hh : x.handler = s.handler) (hdata : c'.scanData = c.scanData)
    (hmon : c'.monitor = c.monitor) (hdel : deleted c.pc = false) (inCatch : Bool) :
    Kept (enterShutdown x i c' inCatch) := by
  have hhandler : ∀ y, x.handler = some y → y.custom = false →
      (s.contexts.cell y.scanData).isSome = true := by
    rw [hh]
    exact h.handler
  have hbusy : busy c'.monitor = true → busy c.monitor = true := by
    rw [hmon]
    exact id
  have hsame : SameContexts s x := hm
  unfold enterShutdown
  split
  · next hnone =>
    unfold raise
    split
    · have hok : CallOk s { c' with pc := .ended, result := some .thrown } :=
        callOk_without hnone (fun _ _ _ hp => CallPc.noConfusion hp)
      exact kept_moved h hc ⟨hm.next, hm.cells, hm.deletes, hm.stale⟩ (set_calls hx i _) hn hdata
        hok hd hhandler
    · have hok : CallOk s { c' with pc := .leaving true } :=
        callOk_without hnone (fun _ _ _ hp => CallPc.noConfusion hp)
      exact kept_moved h hc ⟨hm.next, hm.cells, hm.deletes, hm.stale⟩ (set_calls hx i _) hn hdata
        hok hd hhandler
  · next k hk =>
    refine kept_before h hc hsame hx hn hd hhandler hdata hdel.symm (fun p l b hp => ?_) ?_ hbusy
    · cases hp
      exact hdata ▸ hk
    · rintro (hu | hu)
      · cases hu
      · cases hu

theorem kept_fail (h : Kept s) (hc : s.calls i = some c) (hpc : c.pc = .failing) :
    Kept (scanFail s i c) := by
  have hdel : deleted c.pc = false := by
    rw [hpc]
    rfl
  unfold scanFail
  split
  · exact h
  · next k hk =>
    have halive := ((h.calls i c hc).alive k hk hdel).1
    exact kept_enter h hc (write_same halive _) rfl rfl rfl rfl rfl rfl hdel false

theorem kept_wait {expired : Bool} (h : Kept s) (hc : s.calls i = some c) (hpc : c.pc = .waiting)
    (hs : scanWait s i c expired = some t) : Kept t := by
  have hdel : deleted c.pc = false := by
    rw [hpc]
    rfl
  unfold scanWait at hs
  split at hs
  · cases hs
  · simp only [Option.ite_none_right_eq_some] at hs
    obtain ⟨_, hs⟩ := hs
    split at hs
    · cases hs
      apply kept_enter h hc (sameContexts_refl s)
      all_goals first | rfl | exact hdel
    · simp only [Option.ite_none_right_eq_some] at hs
      obtain ⟨_, hs⟩ := hs
      cases hs
      apply kept_enter h hc (sameContexts_refl s)
      all_goals first | rfl | exact hdel

theorem kept_leave {thrown : Bool} (h : Kept s) (hc : s.calls i = some c)
    (hpc : c.pc = .leaving thrown) (hs : scanLeave s i c thrown = some t) : Kept t := by
  simp only [scanLeave, Option.ite_none_right_eq_some] at hs
  obtain ⟨_, hs⟩ := hs
  cases thrown with
  | true =>
    have hdel : deleted c.pc = false := by
      rw [hpc]
      rfl
    cases hs
    exact kept_enter h hc (sameContexts_refl s) rfl rfl rfl rfl rfl rfl hdel true
  | false =>
    cases hs
    refine kept_before h hc (sameContexts_refl s) rfl rfl rfl h.handler rfl ?_
      (fun _ _ _ hp => CallPc.noConfusion hp) ?_ id
    · rw [hpc]
      rfl
    · rintro (hu | hu)
      · cases hu
      · cases hu

/-- A call deletes its context when nobody else can get at it. -/
theorem kept_deleting {inCatch : Bool} (h : Kept s) (hc : s.calls i = some c)
    (hpc : c.pc = .shutdown .deleting k inCatch) (hgo : LetGo s c k) :
    Kept { setCall s i { c with pc := .shutdown .clearing k inCatch } with
      contexts := free s.contexts k
      deletes := Function.update s.deletes k (s.deletes k + 1) } := by
  have hok := h.calls i c hc
  have hdata := hok.shutdown _ _ _ hpc
  have hdel : deleted c.pc = false := by
    rw [hpc]
    rfl
  have hzero := (hok.alive k hdata hdel).2
  have hcell : ∀ l, l ≠ k → (s.contexts.cell l).isSome = true →
      ((free s.contexts k).cell l).isSome = true := by
    intro l hl hs
    rw [free_ne _ hl]
    exact hs
  have hself : Function.update s.deletes k (s.deletes k + 1) k = 1 := by
    rw [Function.update_self, hzero]
  have hother : ∀ l, l ≠ k → Function.update s.deletes k (s.deletes k + 1) l = s.deletes l :=
    fun l hl => Function.update_of_ne hl ..
  have hlt := hok.owned k hdata
  refine ⟨fun j d hj => ?_, fun j d hj => ?_, fun j l d d' m hj hl hm hm' => ?_, fun l => ?_,
    fun l hl => ?_, fun j pc l hj hl => ?_, fun x hx hcustom => ?_, h.stale⟩
  · rcases update_some hj with ⟨rfl, _⟩ | ⟨_, hold⟩
    · exact h.fresh _ c hc
    · exact h.fresh j d hold
  · rcases update_some hj with ⟨_, rfl⟩ | ⟨hne, hold⟩
    · refine ⟨fun l hl => hok.owned l hl, fun l _ hd => ?_, fun l hl _ => ?_,
        fun p l b hp => ?_, fun hu => ?_, fun hb => ?_⟩
      · cases hd
      · have hl : c.scanData = some l := hl
        rw [hdata] at hl
        cases hl
        exact hself
      · cases hp
        exact hdata
      · rcases hu with hu | hu
        · cases hu
        · cases hu
      · have hb : busy c.monitor = true := hb
        rw [hgo.monitor] at hb
        cases hb
    · have hokd := h.calls j d hold
      have hnek : ∀ l, d.scanData = some l → l ≠ k := by
        rintro l hl rfl
        exact hne (h.distinct j i d c l hold hc hl hdata)
      refine ⟨hokd.owned, fun l hl hd => ?_, fun l hl hd => ?_, hokd.shutdown, hokd.unprepared,
        fun hb l hl => hcell l (hnek l hl) (hokd.monitor hb l hl)⟩
      · obtain ⟨hl', hz⟩ := hokd.alive l hl hd
        exact ⟨hcell l (hnek l hl) hl', (hother l (hnek l hl)).trans hz⟩
      · exact (hother l (hnek l hl)).trans (hokd.gone l hl hd)
  · have hback : ∀ q e, Function.update s.calls i (some
        { c with pc := .shutdown .clearing k inCatch }) q = some e → e.scanData = some m →
        ∃ e', s.calls q = some e' ∧ e'.scanData = some m := by
      intro q e hq he
      rcases update_some hq with ⟨rfl, rfl⟩ | ⟨_, hold⟩
      · exact ⟨c, hc, he⟩
      · exact ⟨e, hold, he⟩
    obtain ⟨e, he, hem⟩ := hback j d hj hm
    obtain ⟨e', he', hem'⟩ := hback l d' hl hm'
    exact h.distinct j l e e' m he he' hem hem'
  · by_cases hl : l = k
    · rw [hl]
      exact Nat.le_of_eq hself
    · exact Nat.le_trans (Nat.le_of_eq (hother l hl)) (h.once l)
  · have hne : l ≠ k := Nat.ne_of_gt (Nat.lt_of_lt_of_le hlt hl)
    exact (hother l hne).trans (h.unborn l hl)
  · refine hcell l ?_ (h.discoveries j pc l hj hl)
    rintro rfl
    exact hgo.discoveries j pc hj hl
  · exact hcell _ (hgo.handler x hx hcustom) (h.handler x hx hcustom)

/-- A part of `shutdown` hands over to the next one. -/
theorem kept_part {x : Impl} {p q : ShutdownPc} {inCatch : Bool} (h : Kept s)
    (hc : s.calls i = some c) (hpc : c.pc = .shutdown p k inCatch) (hm : SameContexts s x)
    (hx : x.calls = s.calls) (hn : x.nextCall = s.nextCall) (hd : x.discoveries = s.discoveries)
    (hh : ∀ y, x.handler = some y → y.custom = false →
      (s.contexts.cell y.scanData).isSome = true)
    (hdel : deleted c.pc = deleted (.shutdown q k inCatch)) :
    Kept (setCall x i { c with pc := .shutdown q k inCatch }) := by
  have hdata := (h.calls i c hc).shutdown _ _ _ hpc
  refine kept_before h hc hm hx hn hd hh rfl hdel.symm (fun r l b hp => ?_) ?_ id
  · cases hp
    exact hdata
  · rintro (hu | hu)
    · cases hu
    · cases hu

theorem kept_cleared {inCatch : Bool} (h : Kept s) (hc : s.calls i = some c)
    (hpc : c.pc = .shutdown .clearing k inCatch) :
    Kept (leaveShutdown { s with scanning := false, shutdownMutex := false } i c inCatch) := by
  have hdel : deleted c.pc = true := by
    rw [hpc]
    rfl
  unfold leaveShutdown
  split
  · refine kept_before h hc ⟨rfl, fun _ => rfl, rfl, rfl⟩ rfl rfl rfl h.handler rfl hdel.symm
      (fun _ _ _ hp => CallPc.noConfusion hp) ?_ id
    rintro (hu | hu)
    · cases hu
    · cases hu
  · refine kept_before h hc ⟨rfl, fun _ => rfl, rfl, rfl⟩ rfl rfl rfl h.handler rfl hdel.symm
      (fun _ _ _ hp => CallPc.noConfusion hp) ?_ id
    rintro (hu | hu)
    · cases hu
    · cases hu

theorem kept_shutdown {o : ShutdownOutcome} {p : ShutdownPc} {inCatch : Bool} (h : Kept s)
    (hc : s.calls i = some c) (hpc : c.pc = .shutdown p k inCatch) (hthrough : GetsThrough s c k o p)
    (hs : shutdownStep s i c k inCatch o p = some t) : Kept t := by
  have hdata := (h.calls i c hc).shutdown _ _ _ hpc
  cases p with
  | looking =>
    simp only [shutdownStep, Option.ite_none_right_eq_some] at hs
    obtain ⟨_, hs⟩ := hs
    rw [if_neg hthrough] at hs
    cases hs
    refine kept_part h hc hpc (sameContexts_refl s) rfl rfl rfl h.handler ?_
    rw [hpc]
    rfl
  | locking =>
    simp only [shutdownStep, Option.ite_none_left_eq_some] at hs
    obtain ⟨_, hs⟩ := hs
    cases hs
    let x : Impl := { s with shutdownMutex := true }
    have hm : SameContexts s x := ⟨rfl, fun _ => rfl, rfl, rfl⟩
    refine kept_part h hc hpc hm rfl rfl rfl h.handler ?_
    rw [hpc]
    rfl
  | marking =>
    have hdel : deleted c.pc = false := by
      rw [hpc]
      rfl
    have halive := ((h.calls i c hc).alive k hdata hdel).1
    cases hs
    exact kept_part h hc hpc (write_same halive _) rfl rfl rfl h.handler hdel
  | testing =>
    have hscan : s.scanning = true := hthrough
    simp only [shutdownStep, hscan, if_true] at hs
    cases hs
    refine kept_part h hc hpc (sameContexts_refl s) rfl rfl rfl h.handler ?_
    rw [hpc]
    rfl
  | disabling =>
    cases hs
    let x : Impl := { s with handler := if o.resets then none else s.handler }
    have hm : SameContexts s x := ⟨rfl, fun _ => rfl, rfl, rfl⟩
    refine kept_part h hc hpc hm rfl rfl rfl (fun y hy => ?_) ?_
    · have hy : (if o.resets then none else s.handler) = some y := hy
      split at hy
      · cases hy
      · exact h.handler y hy
    · rw [hpc]
      rfl
  | stopping =>
    have hthrows : o.stopThrows = false := hthrough
    simp only [shutdownStep, hthrows, Bool.false_eq_true, if_false] at hs
    cases hs
    refine kept_part h hc hpc (sameContexts_refl s) rfl rfl rfl h.handler ?_
    rw [hpc]
    rfl
  | cleaning =>
    have hstate : stateOf s k = .shuttingDown := hthrough
    simp only [shutdownStep, hstate, if_true] at hs
    cases hs
    refine kept_part h hc hpc (sameContexts_refl s) rfl rfl rfl h.handler ?_
    rw [hpc]
    rfl
  | deleting =>
    cases hs
    exact kept_deleting h hc hpc hthrough
  | clearing =>
    cases hs
    exact kept_cleared h hc hpc

/-- A call moves on in its try block before its shutdown. -/
theorem kept_on {x : Impl} {pc : CallPc} (pc' : CallPc) (h : Kept s) (hat : callAt s i pc = some c)
    (hm : SameContexts s x) (hx : x.calls = s.calls) (hn : x.nextCall = s.nextCall)
    (hd : x.discoveries = s.discoveries)
    (hh : ∀ y, x.handler = some y → y.custom = false →
      (s.contexts.cell y.scanData).isSome = true)
    (hdel : deleted pc' = deleted pc) (hshut : ∀ p k inCatch, pc' ≠ .shutdown p k inCatch)
    (hun : ¬(pc' = .checking ∨ pc' = .preparing)) (hpc' : c'.pc = pc')
    (hdata : c'.scanData = c.scanData) (hmon : busy c'.monitor = true → busy c.monitor = true) :
    Kept (setCall x i c') := by
  obtain ⟨hc, rfl⟩ := callAt_iff.mp hat
  subst pc'
  exact kept_before h hc hm hx hn hd hh hdata hdel
    (fun p k inCatch hp => absurd hp (hshut p k inCatch)) hun hmon

theorem kept_enable {stores : Bool} (h : Kept s) (hc : callAt s i .enabling = some c) :
    Kept (scanEnable s i c stores) := by
  let x : Impl := { s with
    handler := if stores then c.scanData.map (fun k => ⟨c.custom, k⟩) else s.handler }
  have hm : SameContexts s x := ⟨rfl, fun _ => rfl, rfl, rfl⟩
  refine kept_on (x := x) .enabled h hc hm rfl rfl rfl (fun y hy hcustom => ?_) rfl
    (fun _ _ _ hp => CallPc.noConfusion hp) (by decide) rfl rfl id
  obtain ⟨hc, hpc⟩ := callAt_iff.mp hc
  have hy : (if stores then c.scanData.map (fun k => (⟨c.custom, k⟩ : Installed)) else s.handler) =
      some y := hy
  split at hy
  · obtain ⟨k, hk, rfl⟩ := Option.map_eq_some_iff.mp hy
    refine ((h.calls i c hc).alive k hk ?_).1
    rw [hpc]
    rfl
  · exact h.handler y hy hcustom

theorem kept_step (h : Kept s) (hjoined : Joined s e) (hs : scannerStep s e = some t) : Kept t := by
  cases e with
  | scan timeoutSec address custom =>
    cases hs
    exact kept_begun h rfl rfl rfl
  | check i =>
    obtain ⟨c, hc, rfl⟩ := Option.map_eq_some_iff.mp hs
    obtain ⟨hc, hpc⟩ := callAt_iff.mp hc
    exact kept_check h hc hpc
  | prepare i o =>
    obtain ⟨c, hc, rfl⟩ := Option.map_eq_some_iff.mp hs
    obtain ⟨hc, hpc⟩ := callAt_iff.mp hc
    exact kept_prepare h hc hpc o
  | launch i starts =>
    obtain ⟨c, hc, rfl⟩ := Option.map_eq_some_iff.mp hs
    unfold scanLaunch
    split
    · exact kept_on .announcing h hc (sameContexts_refl s) rfl rfl rfl h.handler rfl
        (fun _ _ _ hp => CallPc.noConfusion hp) (by decide) rfl rfl (fun hb => by cases hb)
    · exact kept_on (.leaving true) h hc (sameContexts_refl s) rfl rfl rfl h.handler rfl
        (fun _ _ _ hp => CallPc.noConfusion hp) (by decide) rfl rfl id
  | announce i =>
    obtain ⟨c, hc, rfl⟩ := Option.map_eq_some_iff.mp hs
    let x : Impl := { s with scanning := true }
    have hm : SameContexts s x := ⟨rfl, fun _ => rfl, rfl, rfl⟩
    exact kept_on (x := x) .enabling h hc hm rfl rfl rfl h.handler rfl
      (fun _ _ _ hp => CallPc.noConfusion hp) (by decide) rfl rfl id
  | enable i stores =>
    obtain ⟨c, hc, rfl⟩ := Option.map_eq_some_iff.mp hs
    exact kept_enable h hc
  | enabled i ret =>
    obtain ⟨c, hc, rfl⟩ := Option.map_eq_some_iff.mp hs
    unfold scanEnabled
    split
    · exact kept_on .failing h hc (sameContexts_refl s) rfl rfl rfl h.handler rfl
        (fun _ _ _ hp => CallPc.noConfusion hp) (by decide) rfl rfl id
    · exact kept_on .waiting h hc (sameContexts_refl s) rfl rfl rfl h.handler rfl
        (fun _ _ _ hp => CallPc.noConfusion hp) (by decide) rfl rfl id
  | fail i =>
    obtain ⟨c, hc, rfl⟩ := Option.map_eq_some_iff.mp hs
    obtain ⟨hc, hpc⟩ := callAt_iff.mp hc
    exact kept_fail h hc hpc
  | wait i expired =>
    obtain ⟨c, hc, hs⟩ := Option.bind_eq_some_iff.mp hs
    obtain ⟨hc, hpc⟩ := callAt_iff.mp hc
    exact kept_wait h hc hpc hs
  | shutdown i o =>
    obtain ⟨c, hc, hs⟩ := Option.bind_eq_some_iff.mp hs
    split at hs
    · next p k inCatch hpc => exact kept_shutdown h hc hpc (hjoined c p k inCatch hc hpc) hs
    · cases hs
  | leave i =>
    obtain ⟨c, hc, hs⟩ := Option.bind_eq_some_iff.mp hs
    split at hs
    · next hpc => exact kept_leave h hc hpc hs
    · cases hs
  | monitor i =>
    obtain ⟨c, hc, hs⟩ := Option.bind_eq_some_iff.mp hs
    obtain ⟨k, hk, hs⟩ := Option.bind_eq_some_iff.mp hs
    exact kept_monitor h hc hk (hjoined c k hc hk) hs
  | abortCheck =>
    cases hs
    split
    · exact kept_still h ⟨rfl, fun _ => rfl, rfl, rfl⟩ rfl rfl rfl h.discoveries
    · exact h
  | abortStore =>
    simp only [scannerStep, Option.ite_none_right_eq_some] at hs
    obtain ⟨_, hs⟩ := hs
    cases hs
    exact kept_still h ⟨rfl, fun _ => rfl, rfl, rfl⟩ rfl rfl rfl h.discoveries
  | discover =>
    simp only [scannerStep, Option.ite_none_right_eq_some] at hs
    obtain ⟨_, hs⟩ := hs
    cases hs
    refine kept_still h ⟨rfl, fun _ => rfl, rfl, rfl⟩ rfl rfl rfl (fun l q k hl hk => ?_)
    rcases update_some hl with ⟨_, rfl⟩ | ⟨_, hold⟩
    · cases hk
    · exact h.discoveries l q k hold hk
  | discovery j adapterNull addr garbage =>
    obtain ⟨pc, hpc, hs⟩ := Option.bind_eq_some_iff.mp hs
    exact kept_discoveryStep h hpc hs

theorem constructed_kept (h : Constructed s) : Kept s := by
  cases h
  refine ⟨?_, ?_, ?_, fun _ => Nat.zero_le 1, fun _ _ => rfl, ?_, ?_, rfl⟩
  · exact fun i c hc => by cases hc
  · exact fun i c hc => by cases hc
  · exact fun i j c d k hc => by cases hc
  · exact fun j pc k hj => by cases hj
  · exact fun x hx => by cases hx

theorem kept_safe (h : Kept s) : ScanDataSafe s := by
  refine ⟨h.stale, h.once, fun i c k hc hpc hk => ?_⟩
  refine (h.calls i c hc).gone k hk ?_
  rw [hpc]
  rfl

end

/-- No thread locks or writes a context after its deletion, and every call that ends
deletes its context exactly once, in every run whose shutdowns get through and let
go of the context before they delete it. -/
theorem scan_data_safe {s : Impl} (h : Reach scannerStep Joined Constructed s) : ScanDataSafe s :=
  kept_safe (reach_invariant Kept (fun _ => constructed_kept)
    (fun _ _ _ hk hj hs => kept_step hk hj hs) h)

def address : Strings.CString := ⟨[68, 52], by decide⟩

/-- A device that matches the filter is discovered as the time expires: its thread is
about to lock the context when the call deletes it. -/
def expiringEvents : List ScannerEvent :=
  [.scan 10 (some address) false, .check 0, .prepare 0 .complete, .launch 0 true, .announce 0,
    .enable 0 true, .discover, .discovery 0 false address false, .enabled 0 gattlibSuccess,
    .discovery 0 false address false, .wait 0 true] ++ List.replicate 8 (.shutdown 0 {}) ++
  [.discovery 0 false address false]

theorem deleted_context_locked : ¬∀ s, Reach scannerStep AnyStep Constructed s → ScanDataSafe s := by
  intro h
  have hsome : (exec scannerStep {} expiringEvents).isSome = true := rfl
  have hexec := (Option.some_get hsome).symm
  have hsafe := h _ (exec_reach rfl expiringEvents hexec)
  have hstale : ((exec scannerStep {} expiringEvents).get hsome).stale = [0] := rfl
  have hempty := hsafe.untouched
  rw [hstale] at hempty
  cases hempty

theorem joined_part {s : Impl} {i : Nat} {c : Call} {p : ShutdownPc} {k : Nat} {inCatch : Bool}
    {o : ShutdownOutcome} (hc : s.calls i = some c) (hpc : c.pc = .shutdown p k inCatch)
    (hthrough : GetsThrough s c k o p) : Joined s (.shutdown i o) := by
  intro c' p' k' inCatch' hc' hpc'
  rw [hc] at hc'
  cases hc'
  rw [hpc] at hpc'
  cases hpc'
  exact hthrough

/-- A scan that expires when its only thread is done. -/
theorem scan_data_safe_expired : ∃ s, Reach scannerStep Joined Constructed s ∧ ScanDataSafe s ∧
    s.deletes 0 = 1 ∧
    (s.calls 0).map Call.result = some (some (.returned gattlibTimeout)) := by
  have hstart : Reach scannerStep Joined Constructed {} := .start rfl
  have hscan := Reach.next (e := ScannerEvent.scan 10 none false) hstart trivial rfl
  have hcheck := Reach.next (e := ScannerEvent.check 0) hscan trivial rfl
  have hprepare := Reach.next (e := ScannerEvent.prepare 0 .complete) hcheck trivial rfl
  have hlaunch := Reach.next (e := ScannerEvent.launch 0 true) hprepare trivial rfl
  have hannounce := Reach.next (e := ScannerEvent.announce 0) hlaunch trivial rfl
  have henable := Reach.next (e := ScannerEvent.enable 0 true) hannounce trivial rfl
  have hdiscover := Reach.next (e := ScannerEvent.discover) henable trivial rfl
  have hcall := Reach.next (e := ScannerEvent.discovery 0 false address false) hdiscover trivial rfl
  have hdone := Reach.next (e := ScannerEvent.discovery 0 false address false) hcall trivial rfl
  have henabled := Reach.next (e := ScannerEvent.enabled 0 gattlibSuccess) hdone trivial rfl
  have hwait := Reach.next (e := ScannerEvent.wait 0 true) henabled trivial rfl
  have hlooking := Reach.next (e := ScannerEvent.shutdown 0 {}) hwait
    (joined_part rfl rfl (by decide : ScanState.scanning ≠ .shuttingDown)) rfl
  have hlocking := Reach.next (e := ScannerEvent.shutdown 0 {}) hlooking
    (joined_part rfl rfl trivial) rfl
  have hmarking := Reach.next (e := ScannerEvent.shutdown 0 {}) hlocking
    (joined_part rfl rfl trivial) rfl
  have htesting := Reach.next (e := ScannerEvent.shutdown 0 {}) hmarking
    (joined_part rfl rfl (rfl : true = true)) rfl
  have hdisabling := Reach.next (e := ScannerEvent.shutdown 0 {}) htesting
    (joined_part rfl rfl trivial) rfl
  have hstopping := Reach.next (e := ScannerEvent.shutdown 0 {}) hdisabling
    (joined_part rfl rfl (rfl : false = false)) rfl
  have hcleaning := Reach.next (e := ScannerEvent.shutdown 0 {}) hstopping
    (joined_part rfl rfl (rfl : ScanState.shuttingDown = .shuttingDown)) rfl
  have hdeleting := Reach.next (e := ScannerEvent.shutdown 0 {}) hcleaning
    (joined_part rfl rfl (by
      refine ⟨fun j pc hj => ?_, fun h hh => (by cases hh), rfl⟩
      cases j with
      | zero =>
        cases hj
        exact fun hk => by cases hk
      | succ j => cases hj)) rfl
  have hclearing := Reach.next (e := ScannerEvent.shutdown 0 {}) hdeleting
    (joined_part rfl rfl trivial) rfl
  have hmonitor := Reach.next (e := ScannerEvent.monitor 0) hclearing
    (fun c k hc _ hm => by
      cases hc
      cases hm) rfl
  have hrun := Reach.next (e := ScannerEvent.leave 0) hmonitor trivial rfl
  exact ⟨_, hrun, scan_data_safe hrun, rfl, rfl⟩

end Gattlib.ScannerLifetime
