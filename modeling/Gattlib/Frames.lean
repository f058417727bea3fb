import Gattlib.Invariants
import Gattlib.StepOutcomes

namespace Gattlib.Frames

open Library.Memory Library.Resources Library.Transition Gattlib.Strings Gattlib.State
open Gattlib.Registry Gattlib.RegistryFacts Gattlib.Connection Gattlib.Events Gattlib.Effects
open Gattlib.Changes Gattlib.Invariants Gattlib.Scan Gattlib.Adapters Gattlib.StepOutcomes

/-- The world without what the steps of a scan change. -/
def outsideScan (w : World) : World :=
  { w with
    adapters := Library.Memory.empty
    scanLedger := Library.Resources.empty
    nextThread := 0
    scanThreads := fun _ => none
    scanCallers := fun _ => none
    scanTimersFiring := []
    stopRequests := fun _ => 0 }

/-- What the device side and the reference counting see of an adapter. -/
def registryPart (ad : Adapter) : CString × CString × List Nat × Nat :=
  (ad.id, ad.name, ad.devices, ad.referenceCounter)

/-- The steps of a scan keep the devices and the references. -/
structure ScanFrame (w w' : World) : Prop where
  outside : outsideScan w' = outsideScan w
  next : w'.adapters.next = w.adapters.next
  adapters : ∀ a, (w'.adapters.cell a).map registryPart = (w.adapters.cell a).map registryPart

/-- What a scan writes into an adapter: nothing that the registry sees, and no thread. -/
structure ScanWrite (ad ad' : Adapter) : Prop where
  registry : registryPart ad' = registryPart ad
  thread : ad'.backend.bleScan.scanLoopThread = ad.backend.bleScan.scanLoopThread ∨
    ad'.backend.bleScan.scanLoopThread = none

/-- What the steps of a scan are made of. -/
inductive ScanEffect (w : World) : World → Prop
  | fields (l : Ledger ScanResource) (n : Nat) (ts : Nat → Option ScanThread)
      (cs : Nat → Option ScanCaller) (fs : List (Nat × Nat)) (rs : Nat → Nat) :
      ScanEffect w { w with
        scanLedger := l
        nextThread := n
        scanThreads := ts
        scanCallers := cs
        scanTimersFiring := fs
        stopRequests := rs }
  | adapter (a : Nat) (f : Adapter → Adapter) (hf : ∀ ad, ScanWrite ad (f ad)) :
      ScanEffect w (modifyAdapter w a f)

def ScanEffects (w w' : World) : Prop := Relation.ReflTransGen ScanEffect w w'

/-- The world without what the steps of the connection side change. -/
def outsideDevices (w : World) : World :=
  { w with
    adapters := Library.Memory.empty
    devices := Library.Memory.empty
    connectionLedger := Library.Resources.empty
    emission := none
    connectedCreated := fun _ => 0
    connectedRunning := fun _ => 0
    discoveredCreated := fun _ => 0
    connectCalls := 0
    attempts := []
    armed := []
    dispatched := [] }

/-- What a scan and the reference counting see of an adapter. -/
def scanPart (ad : Adapter) : BleScan × Option Nat × Nat × Handler :=
  (ad.backend.bleScan, ad.backend.adapterProxy, ad.referenceCounter, ad.discoveredDeviceCallback)

/-- The steps of the connection side keep the scans and the references. -/
structure DeviceFrame (w w' : World) : Prop where
  outside : outsideDevices w' = outsideDevices w
  next : w'.adapters.next = w.adapters.next
  adapters : ∀ a, (w'.adapters.cell a).map scanPart = (w.adapters.cell a).map scanPart

section

variable {w w' w'' : World} {a : Nat}

theorem scanFrame_refl (w : World) : ScanFrame w w := ⟨rfl, rfl, fun _ => rfl⟩

theorem scanFrame_trans (h : ScanFrame w w') (h' : ScanFrame w' w'') : ScanFrame w w'' :=
  ⟨h'.outside.trans h.outside, h'.next.trans h.next,
    fun a => (h'.adapters a).trans (h.adapters a)⟩

theorem scanEffect_frame (h : ScanEffect w w') : ScanFrame w w' := by
  cases h with
  | fields l n ts cs fs rs => exact ⟨rfl, rfl, fun _ => rfl⟩
  | adapter a f hf => exact ⟨rfl, rfl, fun b => modify_map w.adapters a b (fun ad => (hf ad).registry)⟩

theorem scanEffects_frame (h : ScanEffects w w') : ScanFrame w w' := by
  induction h with
  | refl => exact scanFrame_refl w
  | tail _ he ih => exact scanFrame_trans ih (scanEffect_frame he)

theorem effects_scan (w : World) (a : Nat) (f : BleScan → BleScan)
    (hf : ∀ s, (f s).scanLoopThread = s.scanLoopThread) : ScanEffects w (modifyScan w a f) :=
  .single (.adapter a _ (fun _ => ⟨rfl, Or.inl (hf _)⟩))

/-- The fields outside the adapters that a scan keeps to itself. -/
theorem effects_fields (h : ScanEffects w w') (l : Ledger ScanResource) (n : Nat)
    (ts : Nat → Option ScanThread) (cs : Nat → Option ScanCaller) (fs : List (Nat × Nat))
    (rs : Nat → Nat) :
    ScanEffects w { w' with
      scanLedger := l
      nextThread := n
      scanThreads := ts
      scanCallers := cs
      scanTimersFiring := fs
      stopRequests := rs } :=
  h.tail (.fields l n ts cs fs rs)

theorem effects_manager (w : World) (a : Nat) (created : Option Nat) :
    ScanEffects w (getDeviceManagerFromAdapter w a created).2 := by
  unfold getDeviceManagerFromAdapter
  cases w.adapters.cell a with
  | none => exact .refl
  | some ad =>
    dsimp only
    cases ad.backend.deviceManager with
    | some m => exact .refl
    | none =>
      cases created with
      | none => exact .refl
      | some m => exact .single (.adapter a _ (fun _ => ⟨rfl, Or.inl rfl⟩))

theorem effects_prepare {request : ScanRequest} {o : EnableOutcome}
    (h : scanPrepare w a request o = .ok w') : ScanEffects w w' := by
  unfold scanPrepare at h
  split at h
  · cases h
  · split at h
    · cases h
    · split at h
      · cases h
      · split at h
        · cases h
        · have hm := effects_manager w a o.manager
          split at h
          · cases h
          · next heq =>
            cases h
            rw [heq] at hm
            exact hm

theorem effects_start (w : World) (a : Nat) (request : ScanRequest) (o : EnableOutcome) :
    ScanEffects w (scanStart w a request o).2 := by
  have hclear : ScanEffects w (scanClear w a request) :=
    .single (.adapter a _ (fun _ => ⟨rfl, Or.inr rfl⟩))
  have hconnect : ScanEffects w (scanConnect (scanClear w a request) a) := by
    unfold scanConnect
    refine effects_fields (hclear.trans (effects_scan _ a _ ?_)) _ _ _ _ _ _
    exact fun _ => rfl
  unfold scanStart
  cases o.startError with
  | none => exact hconnect
  | some error => exact hconnect

theorem effects_thread (h : ScanEffects w w') (a : Nat) (blocking thread : Bool) :
    ScanEffects w (scanCreateThread w' a blocking thread).2 := by
  unfold scanCreateThread
  split
  · exact effects_fields h _ _ _ _ _ _
  · exact h

theorem effects_enable (w : World) (a : Nat) (blocking : Bool) (request : ScanRequest)
    (o : EnableOutcome) :
    ScanEffects w (gattlibAdapterScanEnableWithFilter w a blocking request o).2 := by
  unfold gattlibAdapterScanEnableWithFilter
  split
  · exact .refl
  · split
    · exact .refl
    · next x hp =>
      have hs := (effects_prepare hp).trans (effects_start x a request o)
      dsimp only
      split
      · exact hs
      · apply effects_thread
        split
        · exact hs.trans (effects_scan _ a (fun s => { s with isScanning := true }) (fun _ => rfl))
        · exact hs

theorem effects_timer (w : World) (a : Nat) : ScanEffects w (removeScanTimer w a) := by
  unfold removeScanTimer
  split
  · refine effects_fields (effects_scan w a _ ?_) _ _ _ _ _ _
    exact fun _ => rfl
  · exact .refl

theorem effects_stop (w : World) (a : Nat) : ScanEffects w (scanStop w a) := by
  have hfree : ScanEffects w (gattlibHandlerFree w a) :=
    .single (.adapter a _ (fun _ => ⟨rfl, Or.inl rfl⟩))
  have hset := effects_scan (gattlibHandlerFree w a) a (fun s => { s with isScanning := false })
    (fun _ => rfl)
  exact (hfree.trans hset).trans (effects_timer _ a)

theorem effects_disable (w : World) (a : Nat) (discovering : Bool) (stop : Option GError) :
    ScanEffects w (gattlibAdapterScanDisable w a discovering stop).2 := by
  have hrequest : ScanEffects w { w with
      stopRequests := Function.update w.stopRequests a (w.stopRequests a + 1) } :=
    effects_fields .refl _ _ _ _ _ _
  unfold gattlibAdapterScanDisable
  split
  · exact .refl
  · split
    · exact .refl
    · split
      · exact .refl
      · split
        · exact .refl
        · dsimp only
          split
          · exact hrequest
          · exact hrequest.trans (effects_stop _ a)

theorem effects_pc (h : ScanEffects w w') (thread : Nat) (th : ScanThread) (pc : ScanPc) :
    ScanEffects w (setScanPc w' thread th pc) :=
  effects_fields h _ _ _ _ _ _

theorem effects_arm (w : World) (a : Nat) : ScanEffects w (armScanTimer w a) := by
  unfold armScanTimer
  refine effects_fields (effects_scan w a _ ?_) _ _ _ _ _ _
  exact fun _ => rfl

theorem effects_loopStart (w : World) (thread : Nat) (th : ScanThread) :
    ScanEffects w (scanLoopStart w thread th) := by
  unfold scanLoopStart
  split
  · exact effects_pc .refl _ _ _
  · have hset := effects_scan w th.adapter (fun s => { s with isScanning := true })
      (fun _ => rfl)
    apply effects_pc
    split
    · exact hset.trans (effects_arm _ th.adapter)
    · exact hset

theorem effects_loopFinish (w : World) (thread : Nat) (th : ScanThread) (discovering : Bool)
    (stop : Option GError) : ScanEffects w (scanLoopFinish w thread th discovering stop) := by
  unfold scanLoopFinish
  split
  · exact effects_pc .refl _ _ _
  · have hsignals : ScanEffects w (disconnectSignals w th.adapter) :=
      effects_fields .refl _ _ _ _ _ _
    exact effects_pc (hsignals.trans (effects_disable _ _ _ _)) _ _ _

theorem effects_timeout (w : World) (a : Nat) : ScanEffects w (stopScanOnTimeout w a) := by
  unfold stopScanOnTimeout
  split
  · exact .refl
  · dsimp only
    split
    · have hset := effects_scan w a (fun s => { s with isScanning := false }) (fun _ => rfl)
      exact hset.trans (effects_scan _ a (fun s => { s with bleScanTimeoutId := 0 }) (fun _ => rfl))
    · exact effects_scan w a (fun s => { s with bleScanTimeoutId := 0 }) (fun _ => rfl)

theorem scanStep_effects {e : ScanEvent} (hs : scanStep w e = some w') : ScanEffects w w' := by
  cases scanStep_outcome hs with
  | stays => exact .refl
  | enabled adapter blocking request o => exact effects_enable w adapter blocking request o
  | @started thread th _ => exact effects_loopStart w thread th
  | checked => exact effects_pc .refl _ _ _
  | @finished thread th discovering stop _ =>
    exact effects_loopFinish w thread th discovering stop
  | called => exact effects_fields .refl _ _ _ _ _ _
  | fired => exact effects_fields .refl _ _ _ _ _ _
  | @timedOut timer adapter _ hrun =>
    simp only [scanTimerRuns, Option.ite_none_right_eq_some, Option.some.injEq] at hrun
    obtain ⟨_, rfl⟩ := hrun
    exact effects_fields (effects_timeout w adapter) _ _ _ _ _ _
  | disabled adapter discovering stop => exact effects_disable w adapter discovering stop

theorem scanStep_frame {e : ScanEvent} (hs : scanStep w e = some w') : ScanFrame w w' :=
  scanEffects_frame (scanStep_effects hs)

theorem scanFrame_enable (w : World) (a : Nat) (blocking : Bool) (request : ScanRequest)
    (o : EnableOutcome) :
    ScanFrame w (gattlibAdapterScanEnableWithFilter w a blocking request o).2 :=
  scanEffects_frame (effects_enable w a blocking request o)

theorem scanFrame_disable (h : ScanFrame w w') (a : Nat) (discovering : Bool)
    (stop : Option GError) :
    ScanFrame w (gattlibAdapterScanDisable w' a discovering stop).2 :=
  scanFrame_trans h (scanEffects_frame (effects_disable w' a discovering stop))

theorem scanFrame_loopStart (w : World) (thread : Nat) (th : ScanThread) :
    ScanFrame w (scanLoopStart w thread th) :=
  scanEffects_frame (effects_loopStart w thread th)

theorem scanFrame_loopFinish (w : World) (thread : Nat) (th : ScanThread) (discovering : Bool)
    (stop : Option GError) : ScanFrame w (scanLoopFinish w thread th discovering stop) :=
  scanEffects_frame (effects_loopFinish w thread th discovering stop)

theorem scanFrame_timeout (w : World) (a : Nat) : ScanFrame w (stopScanOnTimeout w a) :=
  scanEffects_frame (effects_timeout w a)

theorem scanFrame_devicesOf (h : ScanFrame w w') (a : Nat) : devicesOf w' a = devicesOf w a := by
  have hv := congrArg (Option.map (fun v => v.2.2.1)) (h.adapters a)
  rw [Option.map_map, Option.map_map] at hv
  exact congrArg (Option.getD · []) hv

theorem live_of_map {β : Type} {view : Adapter → β}
    (hv : (w'.adapters.cell a).map view = (w.adapters.cell a).map view) :
    (∃ ad, w'.adapters.cell a = some ad) ↔ ∃ ad, w.adapters.cell a = some ad := by
  have hs := congrArg Option.isSome hv
  rw [Option.isSome_map, Option.isSome_map] at hs
  rw [← Option.isSome_iff_exists, ← Option.isSome_iff_exists, hs]

theorem scanFrame_sound (h : ScanFrame w w') (hsound : Sound w) : Sound w' := by
  have hlive : ∀ a ∈ w.adapterList, ∃ ad, w'.adapters.cell a = some ad := by
    intro a ha
    rw [live_of_map (h.adapters a)]
    exact hsound.wellFormed.live a ha
  apply sound_congr hsound _ hlive (scanFrame_devicesOf h)
  · have hdevices := congrArg World.devices h.outside
    exact hdevices
  · have hrunning := congrArg World.connectedRunning h.outside
    exact hrunning
  · have hlist := congrArg World.adapterList h.outside
    exact hlist

theorem deviceFrame_refl (w : World) : DeviceFrame w w := ⟨rfl, rfl, fun _ => rfl⟩

theorem deviceFrame_trans (h : DeviceFrame w w') (h' : DeviceFrame w' w'') : DeviceFrame w w'' :=
  ⟨h'.outside.trans h.outside, h'.next.trans h.next,
    fun a => (h'.adapters a).trans (h.adapters a)⟩

theorem deviceFrame_adapter (w : World) (a : Nat) {f : Adapter → Adapter}
    (hf : ∀ ad, scanPart (f ad) = scanPart ad) : DeviceFrame w (modifyAdapter w a f) :=
  ⟨rfl, rfl, fun b => modify_map w.adapters a b hf⟩

theorem deviceFrame_store (h : DeviceFrame w w') (c : Nat) (d : Device)
    (l : Ledger ConnectionResource) : DeviceFrame w (store w' c d l) :=
  ⟨h.outside, h.next, h.adapters⟩

theorem deviceFrame_unref (h : DeviceFrame w w') (c : Nat) :
    DeviceFrame w (gattlibDeviceUnref w' c) := by
  obtain ⟨devices, he⟩ := unref_frame w' c
  rw [he]
  exact ⟨h.outside, h.next, h.adapters⟩

theorem deviceFrame_managed (w : World) (a : Nat) (created : Option Nat) :
    DeviceFrame w (managed w a created) := by
  unfold managed getDeviceManagerFromAdapter
  cases w.adapters.cell a with
  | none => exact deviceFrame_refl w
  | some ad =>
    dsimp only
    cases ad.backend.deviceManager with
    | some m => exact deviceFrame_refl w
    | none =>
      cases created with
      | none => exact deviceFrame_refl w
      | some m => exact deviceFrame_adapter w a (fun _ => rfl)

theorem change_frame {e : DeviceEvent} (hx : Change w e w') : DeviceFrame w w' := by
  have hr := deviceFrame_refl w
  cases hx with
  | nothing e => exact hr
  | @appended e a id he ha hf =>
    have halloc : DeviceFrame w { w with devices := alloc w.devices (newDevice w a id
        .disconnected) } := ⟨rfl, rfl, fun _ => rfl⟩
    exact deviceFrame_trans halloc (deviceFrame_adapter _ a (fun _ => rfl))
  | rediscovered hk hid hp => exact deviceFrame_store hr _ _ _
  | @removed c d id hk hid hs =>
    apply deviceFrame_unref
    exact deviceFrame_adapter w d.adapter (fun _ => rfl)
  | failed hret => exact ⟨rfl, rfl, fun _ => rfl⟩
  | @attempted c d id cb data o hk hid hs =>
    cases o with
    | noProxy error => exact ⟨rfl, rfl, fun _ => rfl⟩
    | refused proxy error => exact ⟨rfl, rfl, fun _ => rfl⟩
    | accepted proxy => exact ⟨rfl, rfl, fun _ => rfl⟩
  | unmanaged hk he hm => exact deviceFrame_store hr _ _ _
  | @resolved c d rest o hk he hm =>
    have hmanaged := deviceFrame_managed w d.adapter o.manager
    exact ⟨hmanaged.outside, hmanaged.next, hmanaged.adapters⟩
  | dropped hk he => exact deviceFrame_store hr _ _ _
  | expired hk hl => exact deviceFrame_store hr _ _ _
  | expiredStale hv hl => exact ⟨rfl, rfl, fun _ => rfl⟩
  | disconnecting hk hs => exact deviceFrame_store hr _ _ _
  | referenced hk => exact ⟨rfl, rfl, fun _ => rfl⟩
  | @dereferenced c hrun =>
    have hunref := deviceFrame_unref hr c
    exact ⟨hunref.outside, hunref.next, hunref.adapters⟩
  | registered hk => exact deviceFrame_store hr _ _ _

theorem deviceStep_frame {e : DeviceEvent} (h : WellFormed w) (hs : deviceStep w e = some w') :
    DeviceFrame w w' := by
  obtain ⟨x, em, cc, dc, hx, rfl⟩ := deviceStep_outcome h hs
  have hframe := change_frame hx
  exact ⟨hframe.outside, hframe.next, hframe.adapters⟩

end

end Gattlib.Frames
