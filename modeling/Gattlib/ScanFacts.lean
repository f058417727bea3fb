import Gattlib.SystemInvariants

namespace Gattlib.ScanFacts

open Library.Memory Library.Resources Gattlib.State Gattlib.Registry Gattlib.RegistryFacts
open Gattlib.Connection Gattlib.Events Gattlib.Effects Gattlib.Scan Gattlib.Adapters
open Gattlib.StepOutcomes Gattlib.Frames
open Gattlib.SystemInvariants

/-- A step on one adapter leaves the others alone. -/
structure OnlyAt (a : Nat) (w w' : World) : Prop where
  cells : ∀ b, b ≠ a → w'.adapters.cell b = w.adapters.cell b
  stops : ∀ b, b ≠ a → w'.stopRequests b = w.stopRequests b

/-- The adapter is listed and in memory. -/
structure Live (w : World) (a : Nat) : Prop where
  valid : a ∈ w.adapterList
  cell : ∃ ad, w.adapters.cell a = some ad

section

variable {w w' w'' : World} {a b : Nat}

theorem live_valid (h : Live w a) : gattlibAdapterIsValid w a = true := (valid_iff w a).mpr h.valid

theorem live_of_valid (h : WellFormed w) (hv : gattlibAdapterIsValid w a = true) : Live w a :=
  ⟨(valid_iff w a).mp hv, h.live a ((valid_iff w a).mp hv)⟩

/-- Disconnecting the handlers leaves a valid adapter as it is. -/
theorem live_disconnected (h : WellFormed w)
    (hv : gattlibAdapterIsValid (disconnectSignals w a) a = true) :
    Live (disconnectSignals w a) a := by
  have hl : Live w a := live_of_valid h hv
  exact ⟨hl.valid, hl.cell⟩

theorem live_modify (h : Live w a) (b : Nat) (f : Adapter → Adapter) :
    Live (modifyAdapter w b f) a := by
  refine ⟨h.valid, ?_⟩
  obtain ⟨ad, had⟩ := h.cell
  by_cases hb : a = b
  · subst b
    exact ⟨f ad, by rw [modifyAdapter, modify_self, had, Option.map_some]⟩
  · exact ⟨ad, by rw [modifyAdapter, modify_ne _ _ hb, had]⟩

theorem onlyAt_refl (a : Nat) (w : World) : OnlyAt a w w := ⟨fun _ _ => rfl, fun _ _ => rfl⟩

theorem onlyAt_trans (h : OnlyAt a w w') (h' : OnlyAt a w' w'') : OnlyAt a w w'' :=
  ⟨fun b hb => (h'.cells b hb).trans (h.cells b hb),
    fun b hb => (h'.stops b hb).trans (h.stops b hb)⟩

theorem onlyAt_adapter (w : World) (a : Nat) (f : Adapter → Adapter) :
    OnlyAt a w (modifyAdapter w a f) :=
  ⟨fun _ hb => modify_ne _ _ hb, fun _ _ => rfl⟩

theorem onlyAt_scan (w : World) (a : Nat) (f : BleScan → BleScan) : OnlyAt a w (modifyScan w a f) :=
  onlyAt_adapter w a _

theorem onlyAt_fields (h : OnlyAt a w w') (l : Ledger ScanResource) (n : Nat)
    (ts : Nat → Option ScanThread) (cs : Nat → Option ScanCaller) (fs : List (Nat × Nat)) :
    OnlyAt a w { w' with
      scanLedger := l
      nextThread := n
      scanThreads := ts
      scanCallers := cs
      scanTimersFiring := fs } :=
  ⟨h.cells, h.stops⟩

theorem scanOf_of_cell (h : w'.adapters.cell a = w.adapters.cell a) : scanOf w' a = scanOf w a := by
  unfold scanOf
  rw [h]

theorem callback_of_cell (h : w'.adapters.cell a = w.adapters.cell a) :
    discoveredCallbackOf w' a = discoveredCallbackOf w a := by
  unfold discoveredCallbackOf
  rw [h]

theorem deviceFrame_scan (h : DeviceFrame w w') (a : Nat) : scanOf w' a = scanOf w a := by
  have hscan := congrArg (Option.map Prod.fst) (h.adapters a)
  rw [Option.map_map, Option.map_map] at hscan
  exact congrArg (fun o => Option.getD o {}) hscan

theorem deviceFrame_callback (h : DeviceFrame w w') (a : Nat) :
    discoveredCallbackOf w' a = discoveredCallbackOf w a := by
  have hscan := congrArg (Option.map (fun v => v.2.2.2)) (h.adapters a)
  rw [Option.map_map, Option.map_map] at hscan
  exact congrArg (fun o => Option.getD o {}) hscan

theorem scanOf_modifyScan (h : Live w a) (f : BleScan → BleScan) :
    scanOf (modifyScan w a f) a = f (scanOf w a) := by
  obtain ⟨ad, had⟩ := h.cell
  unfold scanOf modifyScan modifyAdapter
  rw [modify_self, had]
  rfl

theorem callback_modifyScan (w : World) (a : Nat) (f : BleScan → BleScan) :
    discoveredCallbackOf (modifyScan w a f) a = discoveredCallbackOf w a := by
  unfold discoveredCallbackOf modifyScan modifyAdapter
  rw [modify_self, Option.map_map]
  rfl

/-! `gattlib_adapter_scan_disable` -/

/-- The world after the StopDiscovery request. -/
def requested (w : World) (a : Nat) : World :=
  { w with stopRequests := Function.update w.stopRequests a (w.stopRequests a + 1) }

/-- What the call can do on a valid adapter. -/
inductive Disabled (w : World) (a : Nat) (discovering : Bool) (stop : Option GError) : World → Prop
  | skipped (h : discovering = false ∨ (scanOf w a).isScanning = false ∨
      (w.adapters.cell a).all (fun ad => ad.backend.adapterProxy.isNone) = true) :
      Disabled w a discovering stop w
  | unstarted (hs : (scanOf w a).isScanning = true) (hn : noDiscoveryStarted stop = true) :
      Disabled w a discovering stop (requested w a)
  | stopped (hd : discovering = true) (hs : (scanOf w a).isScanning = true)
      (hn : noDiscoveryStarted stop = false) :
      Disabled w a discovering stop (scanStop (requested w a) a)

theorem disable_disabled (h : Live w a) (discovering : Bool) (stop : Option GError) :
    Disabled w a discovering stop (gattlibAdapterScanDisable w a discovering stop).2 := by
  unfold gattlibAdapterScanDisable
  rw [live_valid h, if_neg (by decide)]
  split
  · next hp => exact .skipped (Or.inr (Or.inr hp))
  · split
    · next hd => exact .skipped (Or.inl hd)
    · next hd =>
      split
      · next hs => exact .skipped (Or.inr (Or.inl hs))
      · next hs =>
        have hscan := (Bool.not_eq_false _).mp hs
        dsimp only
        split
        · next hn => exact .unstarted hscan hn
        · next hn =>
          exact .stopped ((Bool.not_eq_false _).mp hd) hscan ((Bool.not_eq_true _).mp hn)

theorem live_requested (h : Live w a) : Live (requested w a) a := ⟨h.valid, h.cell⟩

theorem removeTimer_scan (h : Live w a) :
    scanOf (removeScanTimer w a) a = { scanOf w a with bleScanTimeoutId := 0 } := by
  have hset := scanOf_modifyScan h (fun s => { s with bleScanTimeoutId := 0 })
  unfold removeScanTimer
  split
  · exact hset
  · next hz =>
    have hid : (scanOf w a).bleScanTimeoutId = 0 := not_ne_iff.mp hz
    rw [← hid]

theorem removeTimer_callback (w : World) (a : Nat) :
    discoveredCallbackOf (removeScanTimer w a) a = discoveredCallbackOf w a := by
  have hset := callback_modifyScan w a (fun s => { s with bleScanTimeoutId := 0 })
  unfold removeScanTimer
  split
  · exact hset
  · rfl

theorem scanStop_scan (h : Live w a) :
    scanOf (scanStop w a) a = { scanOf w a with isScanning := false, bleScanTimeoutId := 0 } := by
  have hfree : Live (gattlibHandlerFree w a) a := live_modify h a _
  have hscan : scanOf (gattlibHandlerFree w a) a = scanOf w a := by
    obtain ⟨ad, had⟩ := h.cell
    unfold scanOf gattlibHandlerFree modifyAdapter
    rw [modify_self, had]
    rfl
  have hset : Live (modifyScan (gattlibHandlerFree w a) a (fun s =>
      { s with isScanning := false })) a := live_modify hfree a _
  unfold scanStop
  rw [removeTimer_scan hset, scanOf_modifyScan hfree, hscan]

theorem scanStop_callback (w : World) (a : Nat) :
    (discoveredCallbackOf (scanStop w a) a).callback = none := by
  unfold scanStop
  rw [removeTimer_callback, callback_modifyScan]
  unfold discoveredCallbackOf gattlibHandlerFree modifyAdapter
  rw [modify_self]
  cases w.adapters.cell a with
  | none => rfl
  | some ad => rfl

theorem scanStop_ledger (h : Live w a) :
    (scanStop w a).scanLedger = if (scanOf w a).bleScanTimeoutId ≠ 0 then
      release w.scanLedger (scanOf w a).bleScanTimeoutId else w.scanLedger := by
  have hfree : Live (gattlibHandlerFree w a) a := live_modify h a _
  have hscan : scanOf (gattlibHandlerFree w a) a = scanOf w a := by
    obtain ⟨ad, had⟩ := h.cell
    unfold scanOf gattlibHandlerFree modifyAdapter
    rw [modify_self, had]
    rfl
  unfold scanStop removeScanTimer
  rw [scanOf_modifyScan hfree, hscan]
  split
  · rfl
  · rfl

theorem scanStop_at (w : World) (a : Nat) : OnlyAt a w (scanStop w a) := by
  have hfree : OnlyAt a w (gattlibHandlerFree w a) := onlyAt_adapter w a _
  have hset := onlyAt_trans hfree (onlyAt_scan _ a (fun s => { s with isScanning := false }))
  unfold scanStop removeScanTimer
  split
  · exact onlyAt_fields (onlyAt_trans hset (onlyAt_scan _ a _)) _ _ _ _ _
  · exact hset

/-- The threads of the scans are the same. -/
structure SameThreads (w w' : World) : Prop where
  threads : w'.scanThreads = w.scanThreads
  next : w'.nextThread = w.nextThread

theorem scanStop_threads (w : World) (a : Nat) : SameThreads w (scanStop w a) := by
  unfold scanStop removeScanTimer
  split
  · exact ⟨rfl, rfl⟩
  · exact ⟨rfl, rfl⟩

theorem scanStop_fields (w : World) (a : Nat) :
    (scanStop w a).stopRequests = w.stopRequests ∧
      (scanStop w a).scanTimersFiring = w.scanTimersFiring := by
  unfold scanStop removeScanTimer
  split
  · exact ⟨rfl, rfl⟩
  · exact ⟨rfl, rfl⟩

theorem requested_at (w : World) (a : Nat) : OnlyAt a w (requested w a) :=
  ⟨fun _ _ => rfl, fun _ hb => Function.update_of_ne hb ..⟩

theorem disabled_at {discovering : Bool} {stop : Option GError}
    (h : Disabled w a discovering stop w') : OnlyAt a w w' := by
  cases h with
  | skipped h => exact onlyAt_refl a w
  | unstarted hs hn => exact requested_at w a
  | stopped hd hs hn => exact onlyAt_trans (requested_at w a) (scanStop_at _ a)

/-- The call sets `is_scanning` for no adapter. -/
theorem disabled_scanning {discovering : Bool} {stop : Option GError}
    (hd : Disabled w a discovering stop w') (b : Nat)
    (hs : (scanOf w' b).isScanning = true) : (scanOf w b).isScanning = true := by
  by_cases hb : b = a
  · subst b
    cases hd with
    | skipped hd => exact hs
    | unstarted hscan hn => exact hscan
    | stopped hd hscan hn => exact hscan
  · rw [scanOf_of_cell ((disabled_at hd).cells b hb)] at hs
    exact hs

theorem disable_threads (w : World) (a : Nat) (discovering : Bool) (stop : Option GError) :
    SameThreads w (gattlibAdapterScanDisable w a discovering stop).2 := by
  unfold gattlibAdapterScanDisable
  split
  · exact ⟨rfl, rfl⟩
  · split
    · exact ⟨rfl, rfl⟩
    · split
      · exact ⟨rfl, rfl⟩
      · split
        · exact ⟨rfl, rfl⟩
        · dsimp only
          split
          · exact ⟨rfl, rfl⟩
          · have hstop := scanStop_threads (requested w a) a
            exact ⟨hstop.threads, hstop.next⟩

/-- The call releases the timer of the scan, if anything. -/
theorem disabled_ledger (h : Live w a) {discovering : Bool} {stop : Option GError}
    (hd : Disabled w a discovering stop w') :
    w'.scanLedger = w.scanLedger ∨ (scanOf w a).bleScanTimeoutId ≠ 0 ∧
      w'.scanLedger = release w.scanLedger (scanOf w a).bleScanTimeoutId := by
  cases hd with
  | skipped hd => exact Or.inl rfl
  | unstarted hs hn => exact Or.inl rfl
  | stopped hd hs hn =>
    rw [scanStop_ledger (live_requested h)]
    split
    · next ht => exact Or.inr ⟨ht, rfl⟩
    · exact Or.inl rfl

theorem disabled_firing {discovering : Bool} {stop : Option GError}
    (hd : Disabled w a discovering stop w') : w'.scanTimersFiring = w.scanTimersFiring := by
  cases hd with
  | skipped hd => rfl
  | unstarted hs hn => rfl
  | stopped hd hs hn => exact (scanStop_fields _ a).2

/-! The scan-enable functions -/

theorem prepare_managed {request : ScanRequest} {o : EnableOutcome}
    (h : scanPrepare w a request o = .ok w') : w' = managed w a o.manager := by
  unfold scanPrepare at h
  split at h
  · cases h
  · split at h
    · cases h
    · split at h
      · cases h
      · split at h
        · cases h
        · split at h
          · cases h
          · next heq =>
            cases h
            exact (congrArg Prod.snd heq).symm

theorem prepare_cell {request : ScanRequest} {o : EnableOutcome}
    (h : scanPrepare w a request o = .ok w') : ∃ ad, w.adapters.cell a = some ad := by
  unfold scanPrepare at h
  split at h
  · cases h
  · next ad had => exact ⟨ad, had⟩

/-- The structure a prepared scan-enable function leaves. -/
structure Enabled (w : World) (a : Nat) (w' : World) : Prop where
  cells : OnlyAt a w w'
  added : (scanOf w' a).addedSignalId = w.scanLedger.next
  removed : (scanOf w' a).removedSignalId = w.scanLedger.next + 1
  changed : (scanOf w' a).changedSignalId = w.scanLedger.next + 2
  timer : (scanOf w' a).bleScanTimeoutId = 0
  ledger : w'.scanLedger = acquire (acquire (acquire w.scanLedger .objectAdded a) .objectRemoved a)
    .interfaceProxyPropertiesChanged a
  firing : w'.scanTimersFiring = w.scanTimersFiring
  stops : w'.stopRequests = w.stopRequests
  next : w'.nextThread = w.nextThread
  threads : w'.scanThreads = w.scanThreads

theorem start_enabled (h : Live w a) (request : ScanRequest) (o : EnableOutcome) :
    Enabled w a (scanStart w a request o).2 := by
  have hclear : Live (scanClear w a request) a := live_modify h a _
  have hscan : scanOf (scanConnect (scanClear w a request) a) a =
      { scanOf (scanClear w a request) a with
        addedSignalId := w.scanLedger.next
        removedSignalId := w.scanLedger.next + 1
        changedSignalId := w.scanLedger.next + 2 } := by
    have hset := scanOf_modifyScan hclear (fun s =>
      { s with
        addedSignalId := w.scanLedger.next
        removedSignalId := w.scanLedger.next + 1
        changedSignalId := w.scanLedger.next + 2 })
    exact hset
  have htimer : (scanOf (scanClear w a request) a).bleScanTimeoutId = 0 := by
    obtain ⟨ad, had⟩ := h.cell
    unfold scanOf scanClear modifyAdapter
    rw [modify_self, had]
    rfl
  have hat : OnlyAt a w (scanConnect (scanClear w a request) a) := by
    unfold scanConnect
    exact onlyAt_fields (onlyAt_trans (onlyAt_adapter w a _) (onlyAt_scan _ a _)) _ _ _ _ _
  have hw : Enabled w a (scanConnect (scanClear w a request) a) :=
    ⟨hat, by rw [hscan], by rw [hscan], by rw [hscan], by rw [hscan]; exact htimer, rfl, rfl, rfl,
      rfl, rfl⟩
  unfold scanStart
  cases o.startError with
  | none => exact hw
  | some error => exact hw

theorem enabled_setScanning (h : Live w' a) (he : Enabled w a w') :
    Enabled w a (modifyScan w' a (fun s => { s with isScanning := true })) := by
  have hscan := scanOf_modifyScan h (fun s => { s with isScanning := true })
  refine ⟨onlyAt_trans he.cells (onlyAt_scan w' a _), ?_, ?_, ?_, ?_, he.ledger, he.firing,
    he.stops, he.next, he.threads⟩
  · rw [hscan]
    exact he.added
  · rw [hscan]
    exact he.removed
  · rw [hscan]
    exact he.changed
  · rw [hscan]
    exact he.timer

/-- The thread a scan-enable function creates. -/
def createdThread (w : World) (a : Nat) : ScanThread where
  adapter := a
  pc := .created
  added := w.scanLedger.next
  removed := w.scanLedger.next + 1
  changed := w.scanLedger.next + 2
  stopsBefore := w.stopRequests a

/-- What a scan-enable function can do. -/
inductive EnableResult (w : World) (a : Nat) (request : ScanRequest) (o : EnableOutcome) :
    World → Prop
  | unprepared : EnableResult w a request o w
  | failed {x w' : World} (hp : scanPrepare w a request o = .ok x) (he : Enabled w a w') :
      EnableResult w a request o w'
  | started {x y : World} {cs : Nat → Option ScanCaller} (hp : scanPrepare w a request o = .ok x)
      (he : Enabled w a y) :
      EnableResult w a request o { y with
        nextThread := w.nextThread + 1
        scanThreads := Function.update w.scanThreads w.nextThread (some (createdThread w a))
        scanCallers := cs }

theorem enabled_managed (created : Option Nat)
    (he : Enabled (managed w a created) a w') : Enabled w a w' := by
  obtain ⟨adapters, hm, _, _⟩ := managed_frame w a created
  have hat : OnlyAt a w (managed w a created) := by
    unfold managed getDeviceManagerFromAdapter
    split
    · exact onlyAt_refl a w
    · split
      · exact onlyAt_refl a w
      · split
        · exact onlyAt_refl a w
        · exact onlyAt_adapter w a _
  obtain ⟨hcells, hadded, hremoved, hchanged, htimer, hledger, hfiring, hstops, hnext, hthreads⟩ :=
    he
  have hcells := onlyAt_trans hat hcells
  rw [hm] at hadded hremoved hchanged hledger hfiring hstops hnext hthreads
  exact ⟨hcells, hadded, hremoved, hchanged, htimer, hledger, hfiring, hstops, hnext, hthreads⟩

theorem live_managed (h : Live w a) (b : Nat) (created : Option Nat) :
    Live (managed w b created) a := by
  obtain ⟨adapters, hm, hl, _⟩ := managed_frame w b created
  obtain ⟨ad, had⟩ := h.cell
  rw [hm]
  exact ⟨h.valid, hl a ad had⟩

theorem live_scanStart (h : Live w a) (request : ScanRequest) (o : EnableOutcome) :
    Live (scanStart w a request o).2 a := by
  have hclear : Live (scanClear w a request) a := live_modify h a _
  have hids : Live (modifyScan (scanClear w a request) a (fun s =>
      { s with
        addedSignalId := w.scanLedger.next
        removedSignalId := w.scanLedger.next + 1
        changedSignalId := w.scanLedger.next + 2 })) a := live_modify hclear a _
  unfold scanStart
  cases o.startError with
  | none => exact ⟨hids.valid, hids.cell⟩
  | some error => exact ⟨hids.valid, hids.cell⟩

theorem createThread_result {request : ScanRequest} {o : EnableOutcome} {x : World}
    (hp : scanPrepare w a request o = .ok x) (he : Enabled w a w') (blocking thread : Bool) :
    EnableResult w a request o (scanCreateThread w' a blocking thread).2 := by
  unfold scanCreateThread
  split
  · have hthread : { adapter := a
                     pc := .created
                     added := (scanOf w' a).addedSignalId
                     removed := (scanOf w' a).removedSignalId
                     changed := (scanOf w' a).changedSignalId
                     stopsBefore := w'.stopRequests a } = createdThread w a := by
      rw [he.added, he.removed, he.changed, he.stops]
      rfl
    dsimp only
    rw [hthread, he.next, he.threads]
    exact .started hp he
  · exact .failed hp he

theorem enable_result (h : WellFormed w) (a : Nat) (blocking : Bool) (request : ScanRequest)
    (o : EnableOutcome) :
    EnableResult w a request o
      (gattlibAdapterScanEnableWithFilter w a blocking request o).2 := by
  unfold gattlibAdapterScanEnableWithFilter
  split
  · exact .unprepared
  · next hv =>
    have hl := live_of_valid h ((Bool.not_eq_false _).mp hv)
    split
    · exact .unprepared
    · next x hp =>
      have hx := prepare_managed hp
      have hxl : Live x a := hx ▸ live_managed hl a o.manager
      have he : Enabled w a (scanStart x a request o).2 :=
        enabled_managed o.manager (hx ▸ start_enabled hxl request o)
      dsimp only
      split
      · exact .failed hp he
      · apply createThread_result hp
        split
        · exact enabled_setScanning (live_scanStart hxl request o) he
        · exact he

/-! The loop thread and the timeout -/

theorem onlyAt_arm (w : World) (a : Nat) : OnlyAt a w (armScanTimer w a) := by
  unfold armScanTimer
  exact onlyAt_fields (onlyAt_scan w a _) _ _ _ _ _

theorem onlyAt_pc (h : OnlyAt a w w') (thread : Nat) (th : ScanThread) (pc : ScanPc) :
    OnlyAt a w (setScanPc w' thread th pc) :=
  onlyAt_fields h _ _ _ _ _

theorem loopStart_at (w : World) (thread : Nat) (th : ScanThread) :
    OnlyAt th.adapter w (scanLoopStart w thread th) := by
  have hset := onlyAt_scan w th.adapter (fun s => { s with isScanning := true })
  unfold scanLoopStart
  split
  · exact onlyAt_pc (onlyAt_refl _ w) _ _ _
  · apply onlyAt_pc
    split
    · exact onlyAt_trans hset (onlyAt_arm _ _)
    · exact hset

theorem loopStart_scan {th : ScanThread} (h : Live w th.adapter) (thread : Nat) :
    scanOf (scanLoopStart w thread th) th.adapter = { scanOf w th.adapter with
      isScanning := true
      bleScanTimeoutId := if (scanOf w th.adapter).bleScanTimeout > 0 then w.scanLedger.next
        else (scanOf w th.adapter).bleScanTimeoutId } := by
  have hset := scanOf_modifyScan h (fun s => { s with isScanning := true })
  have hlive : Live (modifyScan w th.adapter (fun s => { s with isScanning := true }))
      th.adapter := live_modify h _ _
  have harm := scanOf_modifyScan hlive (fun s => { s with bleScanTimeoutId := w.scanLedger.next })
  rw [hset] at harm
  unfold scanLoopStart
  rw [live_valid h, if_neg (by decide)]
  dsimp only
  rw [hset]
  dsimp only
  by_cases ht : (scanOf w th.adapter).bleScanTimeout > 0
  · rw [if_pos ht, if_pos ht]
    exact harm
  · rw [if_neg ht, if_neg ht]
    exact hset

theorem loopStart_ledger {th : ScanThread} (h : Live w th.adapter) (thread : Nat) :
    (scanLoopStart w thread th).scanLedger =
      if (scanOf w th.adapter).bleScanTimeout > 0 then acquire w.scanLedger .scanTimer th.adapter
      else w.scanLedger := by
  have hset := scanOf_modifyScan h (fun s => { s with isScanning := true })
  unfold scanLoopStart
  rw [live_valid h, if_neg (by decide)]
  dsimp only
  rw [hset]
  dsimp only
  by_cases ht : (scanOf w th.adapter).bleScanTimeout > 0
  · rw [if_pos ht, if_pos ht]
    rfl
  · rw [if_neg ht, if_neg ht]
    rfl

theorem loopStart_fields (w : World) (thread : Nat) (th : ScanThread) :
    (scanLoopStart w thread th).stopRequests = w.stopRequests ∧
      (scanLoopStart w thread th).scanTimersFiring = w.scanTimersFiring := by
  unfold scanLoopStart
  split
  · exact ⟨rfl, rfl⟩
  · dsimp only
    split
    · exact ⟨rfl, rfl⟩
    · exact ⟨rfl, rfl⟩

theorem loopStart_callback (w : World) (thread : Nat) (th : ScanThread) :
    discoveredCallbackOf (scanLoopStart w thread th) th.adapter =
      discoveredCallbackOf w th.adapter := by
  have hset := callback_modifyScan w th.adapter (fun s => { s with isScanning := true })
  have harm := callback_modifyScan (modifyScan w th.adapter (fun s =>
    { s with isScanning := true })) th.adapter (fun s =>
    { s with bleScanTimeoutId := w.scanLedger.next })
  unfold scanLoopStart
  split
  · rfl
  · dsimp only
    split
    · exact harm.trans hset
    · exact hset

theorem timeout_at (w : World) (a : Nat) : OnlyAt a w (stopScanOnTimeout w a) := by
  unfold stopScanOnTimeout
  split
  · exact onlyAt_refl a w
  · dsimp only
    split
    · exact onlyAt_trans (onlyAt_scan w a _) (onlyAt_scan _ a _)
    · exact onlyAt_scan w a _

theorem timeout_scan (h : Live w a) :
    scanOf (stopScanOnTimeout w a) a =
      { scanOf w a with isScanning := false, bleScanTimeoutId := 0 } := by
  unfold stopScanOnTimeout
  rw [live_valid h, if_neg (by decide)]
  dsimp only
  split
  · have hset : Live (modifyScan w a (fun s => { s with isScanning := false })) a :=
      live_modify h a _
    rw [scanOf_modifyScan hset, scanOf_modifyScan h]
  · next hs =>
    have hscan : (scanOf w a).isScanning = false := (Bool.not_eq_true _).mp hs
    rw [scanOf_modifyScan h, ← hscan]

theorem timeout_callback (w : World) (a : Nat) :
    discoveredCallbackOf (stopScanOnTimeout w a) a = discoveredCallbackOf w a := by
  unfold stopScanOnTimeout
  split
  · rfl
  · dsimp only
    split
    · rw [callback_modifyScan, callback_modifyScan]
    · rw [callback_modifyScan]

theorem timeout_threads (w : World) (a : Nat) : SameThreads w (stopScanOnTimeout w a) := by
  unfold stopScanOnTimeout
  split
  · exact ⟨rfl, rfl⟩
  · dsimp only
    split
    · exact ⟨rfl, rfl⟩
    · exact ⟨rfl, rfl⟩

theorem timeout_fields (w : World) (a : Nat) :
    (stopScanOnTimeout w a).stopRequests = w.stopRequests ∧
      (stopScanOnTimeout w a).scanLedger = w.scanLedger := by
  unfold stopScanOnTimeout
  split
  · exact ⟨rfl, rfl⟩
  · dsimp only
    split
    · exact ⟨rfl, rfl⟩
    · exact ⟨rfl, rfl⟩

/-- What the dispatched source of a scan timer does. -/
structure TimerRun (w : World) (timer a : Nat) (w' : World) : Prop where
  fires : (timer, a) ∈ w.scanTimersFiring
  only : OnlyAt a w w'
  threads : SameThreads w w'
  list : w'.adapterList = w.adapterList
  next : w'.adapters.next = w.adapters.next
  stops : w'.stopRequests = w.stopRequests
  callback : discoveredCallbackOf w' a = discoveredCallbackOf w a
  stale : gattlibAdapterIsValid w a = false → scanOf w' a = scanOf w a
  scan : Live w a →
    scanOf w' a = { scanOf w a with isScanning := false, bleScanTimeoutId := 0 }
  acquired : w'.scanLedger.acquired = w.scanLedger.acquired
  given : w'.scanLedger.next = w.scanLedger.next
  released : ∀ i ∈ w'.scanLedger.released, i ∈ w.scanLedger.released ∨ i = timer
  firing : ∀ p ∈ w'.scanTimersFiring, p ∈ w.scanTimersFiring

theorem timer_run {timer : Nat} (hs : scanTimerRuns w timer a = some w') :
    TimerRun w timer a w' := by
  simp only [scanTimerRuns, Option.ite_none_right_eq_some, Option.some.injEq] at hs
  obtain ⟨hfires, rfl⟩ := hs
  have hat := timeout_at w a
  have hthreads := timeout_threads w a
  have hframe := scanFrame_timeout w a
  have hlist := congrArg World.adapterList hframe.outside
  refine ⟨hfires, onlyAt_fields hat _ _ _ _ _, ⟨hthreads.threads, hthreads.next⟩, hlist,
    hframe.next, (timeout_fields w a).1, timeout_callback w a, fun hv => ?_,
    fun hl => timeout_scan hl, ?_, ?_, fun i hi => ?_, fun p hp => List.mem_of_mem_erase hp⟩
  · have hsame : stopScanOnTimeout w a = w := by
      rw [stopScanOnTimeout, if_pos hv]
    rw [hsame]
    rfl
  · dsimp only
    split
    · rfl
    · rfl
  · dsimp only
    split
    · rfl
    · rfl
  · dsimp only at hi
    split at hi
    · exact Or.inl hi
    · rcases List.mem_cons.mp hi with rfl | hi
      · exact Or.inr rfl
      · exact Or.inl hi

/-- What a step can do to the threads of the scans. -/
inductive ThreadsChange (w : World) : SystemEvent → World → Prop
  | same {e : SystemEvent} {w' : World} (h : SameThreads w w') : ThreadsChange w e w'
  | moved {e : SystemEvent} {t : Nat} {th : ScanThread} {pc : ScanPc} {w' : World}
      (ht : w.scanThreads t = some th) (hpc : pc ≠ .created)
      (hm : w'.scanThreads = Function.update w.scanThreads t (some { th with pc := pc }))
      (hn : w'.nextThread = w.nextThread) : ThreadsChange w e w'
  | created {a : Nat} {blocking : Bool} {request : ScanRequest} {o : EnableOutcome} {w' : World}
      (hm : w'.scanThreads =
        Function.update w.scanThreads w.nextThread (some (createdThread w a)))
      (hn : w'.nextThread = w.nextThread + 1) :
      ThreadsChange w (.scan (.scanEnable a blocking request o)) w'

theorem threadAt_iff {t : Nat} {th : ScanThread} {pc : ScanPc} :
    threadAt w t pc = some th ↔ w.scanThreads t = some th ∧ th.pc = pc := by
  unfold threadAt
  rw [Option.filter_eq_some_iff, decide_eq_true_iff]

theorem enable_threads {blocking : Bool} {request : ScanRequest} {o : EnableOutcome}
    (h : EnableResult w a request o w') :
    ThreadsChange w (.scan (.scanEnable a blocking request o)) w' := by
  cases h with
  | unprepared => exact .same ⟨rfl, rfl⟩
  | failed hp he => exact .same ⟨he.threads, he.next⟩
  | started hp he => exact .created rfl rfl

theorem setPc_threads {e : SystemEvent} {t : Nat} {th : ScanThread} {pc : ScanPc}
    (hs : SameThreads w w') (ht : w.scanThreads t = some th) (hpc : pc ≠ .created) :
    ThreadsChange w e (setScanPc w' t th pc) := by
  apply ThreadsChange.moved ht hpc
  · rw [setScanPc, hs.threads]
  · exact hs.next

theorem loopStart_threads {e : SystemEvent} {t : Nat} {th : ScanThread}
    (ht : w.scanThreads t = some th) : ThreadsChange w e (scanLoopStart w t th) := by
  unfold scanLoopStart
  split
  · exact setPc_threads ⟨rfl, rfl⟩ ht (by decide)
  · apply setPc_threads _ ht (by decide)
    split
    · exact ⟨rfl, rfl⟩
    · exact ⟨rfl, rfl⟩

theorem loopFinish_threads {e : SystemEvent} {t : Nat} {th : ScanThread}
    (ht : w.scanThreads t = some th) (discovering : Bool) (stop : Option GError) :
    ThreadsChange w e (scanLoopFinish w t th discovering stop) := by
  unfold scanLoopFinish
  split
  · exact setPc_threads ⟨rfl, rfl⟩ ht (by decide)
  · have hd := disable_threads (disconnectSignals w th.adapter) th.adapter discovering stop
    exact setPc_threads ⟨hd.threads, hd.next⟩ ht (by decide)

theorem scanStep_threads {e : ScanEvent} (h : WellFormed w) (hs : scanStep w e = some w') :
    ThreadsChange w (.scan e) w' := by
  cases scanStep_outcome hs with
  | stays => exact .same ⟨rfl, rfl⟩
  | enabled adapter blocking request o =>
    exact enable_threads (enable_result h adapter blocking request o)
  | started hth => exact loopStart_threads (threadAt_iff.mp hth).1
  | checked hth hs => exact setPc_threads ⟨rfl, rfl⟩ (threadAt_iff.mp hth).1 (by decide)
  | finished discovering stop hth =>
    exact loopFinish_threads (threadAt_iff.mp hth).1 discovering stop
  | called => exact .same ⟨rfl, rfl⟩
  | fired => exact .same ⟨rfl, rfl⟩
  | timedOut hrun => exact .same (timer_run hrun).threads
  | disabled adapter discovering stop => exact .same (disable_threads w adapter discovering stop)

theorem unref_threads (w : World) (a : Nat) : SameThreads w (gattlibAdapterUnref w a) := by
  unfold gattlibAdapterUnref
  split
  · exact ⟨rfl, rfl⟩
  · split
    · exact ⟨rfl, rfl⟩
    · obtain ⟨devices, he⟩ := adapterFree_frame w a
      rw [he]
      exact ⟨rfl, rfl⟩

theorem effect_threads (he : AdapterEffect w w') : SameThreads w w' := by
  cases he with
  | counted op cl wa le ho dc po nu st => exact ⟨rfl, rfl⟩
  | referenced a => exact ⟨rfl, rfl⟩
  | unreferenced a => exact unref_threads w a
  | disabled a discovering stop hv => exact disable_threads w a discovering stop

theorem effects_threads (h : Relation.ReflTransGen AdapterEffect w w') : SameThreads w w' := by
  induction h with
  | refl => exact ⟨rfl, rfl⟩
  | tail _ he ih =>
    have hsame := effect_threads he
    exact ⟨hsame.threads.trans ih.threads, hsame.next.trans ih.next⟩

theorem adapterStep_threads {e : AdapterEvent} (hs : adapterStep w e = some w') :
    SameThreads w w' := by
  cases adapterStep_outcome hs with
  | appended name proxy => exact ⟨rfl, rfl⟩
  | effects hs => exact effects_threads hs

theorem systemStep_threads {e : SystemEvent} (h : WellFormed w) (hs : systemStep w e = some w') :
    ThreadsChange w e w' := by
  cases e with
  | device e =>
    have hframe := (deviceStep_frame h hs).outside
    have hthreads := congrArg World.scanThreads hframe
    have hnext := congrArg World.nextThread hframe
    exact .same ⟨hthreads, hnext⟩
  | scan e => exact scanStep_threads h hs
  | adapter e => exact .same (adapterStep_threads hs)

theorem timeout_scanning (h : WellFormed w) (a b : Nat)
    (hs : (scanOf (stopScanOnTimeout w a) b).isScanning = true) :
    (scanOf w b).isScanning = true := by
  by_cases hb : b = a
  · subst b
    cases hv : gattlibAdapterIsValid w a with
    | false =>
      rw [stopScanOnTimeout, hv, if_pos rfl] at hs
      exact hs
    | true =>
      rw [timeout_scan (live_of_valid h hv)] at hs
      cases hs
  · rw [scanOf_of_cell ((timeout_at w a).cells b hb)] at hs
    exact hs

/-! Steps that are not about a scan -/

/-- The scans are left alone, or gone with their adapters. -/
structure OutsideScans (w w' : World) : Prop where
  scans : ∀ a, scanOf w' a = {} ∨ scanOf w' a = scanOf w a
  ledger : w'.scanLedger = w.scanLedger
  firing : w'.scanTimersFiring = w.scanTimersFiring

theorem outside_device (h : DeviceFrame w w') : OutsideScans w w' := by
  have hledger := congrArg World.scanLedger h.outside
  have hfiring := congrArg World.scanTimersFiring h.outside
  exact ⟨fun a => Or.inr (deviceFrame_scan h a), hledger, hfiring⟩

theorem scanning_adapter (w : World) (a b : Nat) {f : Adapter → Adapter}
    (hf : ∀ ad, (f ad).backend.bleScan = ad.backend.bleScan) :
    scanOf (modifyAdapter w a f) b = scanOf w b := by
  have hmap : ((modifyAdapter w a f).adapters.cell b).map (fun ad => ad.backend.bleScan) =
      (w.adapters.cell b).map (fun ad => ad.backend.bleScan) := modify_map w.adapters a b hf
  rw [scanOf, hmap, scanOf]

theorem outside_counted (w : World) (a : Nat) (n : Adapter → Nat) :
    OutsideScans w (modifyAdapter w a (fun ad => { ad with referenceCounter := n ad })) :=
  ⟨fun b => Or.inr (scanning_adapter w a b (fun _ => rfl)), rfl, rfl⟩

theorem outside_unref (w : World) (a : Nat) : OutsideScans w (gattlibAdapterUnref w a) := by
  unfold gattlibAdapterUnref
  split
  · exact ⟨fun _ => Or.inr rfl, rfl, rfl⟩
  · split
    · exact outside_counted w a _
    · obtain ⟨devices, he⟩ := adapterFree_frame w a
      refine ⟨fun b => ?_, by rw [he], by rw [he]⟩
      rw [scanOf, adapterFree_cell, scanOf]
      split
      · exact Or.inl rfl
      · exact Or.inr rfl

theorem outside_append (w : World) (name : Strings.CString) (proxy : Nat) :
    OutsideScans w (gattlibAdapterOpenAppend w name proxy) := by
  refine ⟨fun b => ?_, rfl, rfl⟩
  have hcell : (gattlibAdapterOpenAppend w name proxy).adapters.cell b =
      (alloc w.adapters (newAdapter (adapterObjectPath name) name proxy)).cell b := rfl
  rw [scanOf, hcell]
  by_cases hb : b = w.adapters.next
  · rw [hb, alloc_self]
    exact Or.inl rfl
  · rw [alloc_ne _ _ hb]
    exact Or.inr rfl

/-- An effect of opening and closing adapters is outside the scans or stops one. -/
theorem effect_outside (he : AdapterEffect w w') :
    OutsideScans w w' ∨ ∃ a discovering stop, gattlibAdapterIsValid w a = true ∧
      w' = (gattlibAdapterScanDisable w a discovering stop).2 := by
  cases he with
  | counted op cl wa le ho dc po nu st => exact Or.inl ⟨fun _ => Or.inr rfl, rfl, rfl⟩
  | referenced a => exact Or.inl (outside_counted w a _)
  | unreferenced a => exact Or.inl (outside_unref w a)
  | disabled a discovering stop hv => exact Or.inr ⟨a, discovering, stop, hv, rfl⟩

end

end Gattlib.ScanFacts
