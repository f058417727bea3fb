import Gattlib.Discoveries
import Gattlib.ScanFacts

namespace Gattlib.HandlerFrames

open Library.Memory Library.Transition Gattlib.State Gattlib.Registry Gattlib.RegistryFacts
open Gattlib.Connection Gattlib.Events Gattlib.Scan Gattlib.Adapters
open Gattlib.StepOutcomes Gattlib.Frames Gattlib.SystemInvariants Gattlib.ScanFacts Gattlib.Discoveries

/-- A handler is kept or reset. Its user data stays in both cases. -/
def KeptOrReset (h h' : Handler) : Prop := h' = h ∨ h' = { h with callback := none }

/-- A step that stores no callback in an adapter and does not open it. -/
structure HandlerFrame (a : Nat) (w w' : World) : Prop where
  next : w.adapters.next ≤ w'.adapters.next
  listed : a < w.adapters.next → a ∈ w'.adapterList → a ∈ w.adapterList
  handler : a < w.adapters.next → a ∈ w'.adapterList →
    KeptOrReset (discoveredCallbackOf w a) (discoveredCallbackOf w' a)

section

variable {w w' w'' : World} {a b : Nat} {h h' h'' : Handler}

theorem keptOrReset_trans (h₁ : KeptOrReset h h') (h₂ : KeptOrReset h' h'') : KeptOrReset h h'' := by
  rcases h₁ with rfl | rfl
  · exact h₂
  · rcases h₂ with rfl | rfl
    · exact Or.inr rfl
    · exact Or.inr rfl

theorem keptOrReset_userData (hk : KeptOrReset h h') : h'.userData = h.userData := by
  rcases hk with rfl | rfl
  · rfl
  · rfl

theorem handlerFrame_same (hl : w'.adapterList = w.adapterList)
    (hn : w'.adapters.next = w.adapters.next)
    (hh : KeptOrReset (discoveredCallbackOf w a) (discoveredCallbackOf w' a)) :
    HandlerFrame a w w' :=
  ⟨Nat.le_of_eq hn.symm, fun _ hm => hl ▸ hm, fun _ _ => hh⟩

theorem handlerFrame_refl (a : Nat) (w : World) : HandlerFrame a w w :=
  handlerFrame_same rfl rfl (Or.inl rfl)

theorem handlerFrame_trans (h : HandlerFrame a w w') (h' : HandlerFrame a w' w'') :
    HandlerFrame a w w'' := by
  refine ⟨Nat.le_trans h.next h'.next, fun ha hm => ?_, fun ha hm => ?_⟩
  · exact h.listed ha (h'.listed (Nat.lt_of_lt_of_le ha h.next) hm)
  · have ha' := Nat.lt_of_lt_of_le ha h.next
    exact keptOrReset_trans (h.handler ha (h'.listed ha' hm)) (h'.handler ha' hm)

/-- The counters outside the adapters do not matter. -/
theorem handlerFrame_fields (h : HandlerFrame a w w') (hl : w''.adapterList = w'.adapterList)
    (ha : w''.adapters = w'.adapters) : HandlerFrame a w w'' := by
  refine handlerFrame_trans h (handlerFrame_same hl (by rw [ha]) (Or.inl ?_))
  rw [discoveredCallbackOf, ha, discoveredCallbackOf]

/-- A step of a scan, which is about one adapter. -/
theorem handlerFrame_scan (hf : ScanFrame w w') (hat : OnlyAt b w w')
    (hh : a = b → KeptOrReset (discoveredCallbackOf w a) (discoveredCallbackOf w' a)) :
    HandlerFrame a w w' := by
  have hlist := congrArg World.adapterList hf.outside
  refine handlerFrame_same hlist hf.next ?_
  by_cases hb : a = b
  · exact hh hb
  · exact Or.inl (callback_of_cell (hat.cells a hb))

theorem scanStop_handler (w : World) (a : Nat) :
    discoveredCallbackOf (scanStop w a) a = { discoveredCallbackOf w a with callback := none } := by
  unfold scanStop
  rw [removeTimer_callback, callback_modifyScan]
  unfold discoveredCallbackOf gattlibHandlerFree modifyAdapter
  rw [modify_self]
  cases w.adapters.cell a with
  | none => rfl
  | some ad => rfl

theorem disabled_handler {discovering : Bool} {stop : Option GError}
    (hd : Disabled w a discovering stop w') :
    KeptOrReset (discoveredCallbackOf w a) (discoveredCallbackOf w' a) := by
  cases hd with
  | skipped hd => exact Or.inl rfl
  | unstarted hs hn => exact Or.inl rfl
  | stopped hd hs hn => exact Or.inr (scanStop_handler _ a)

theorem disable_handler {b : Nat} (hl : gattlibAdapterIsValid w b = true → Live w b)
    (discovering : Bool) (stop : Option GError) :
    HandlerFrame a w (gattlibAdapterScanDisable w b discovering stop).2 := by
  cases hv : gattlibAdapterIsValid w b with
  | false =>
    have hsame : (gattlibAdapterScanDisable w b discovering stop).2 = w := by
      rw [gattlibAdapterScanDisable, if_pos hv]
    rw [hsame]
    exact handlerFrame_refl a w
  | true =>
    have hd := disable_disabled (hl hv) discovering stop
    have hf := scanFrame_disable (scanFrame_refl w) b discovering stop
    refine handlerFrame_scan hf (disabled_at hd) ?_
    rintro rfl
    exact disabled_handler hd

theorem handlerFrame_scanStep (h : WellFormed w) {e : ScanEvent}
    (hne : ∀ blocking request o, e ≠ .scanEnable a blocking request o)
    (hs : scanStep w e = some w') : HandlerFrame a w w' := by
  have hf := scanStep_frame hs
  cases scanStep_outcome hs with
  | stays => exact handlerFrame_refl a w
  | checked | called | fired => exact handlerFrame_fields (handlerFrame_refl a w) rfl rfl
  | enabled adapter blocking request o =>
    have hne' : a ≠ adapter := by
      rintro rfl
      exact hne blocking request o rfl
    have hat : OnlyAt adapter w (gattlibAdapterScanEnableWithFilter w adapter blocking request o).2 := by
      have hr := enable_result h adapter blocking request o
      generalize (gattlibAdapterScanEnableWithFilter w adapter blocking request o).2 = x at hr ⊢
      cases hr with
      | unprepared => exact onlyAt_refl adapter w
      | failed hp he => exact he.cells
      | started hp he => exact ⟨he.cells.cells, he.cells.stops⟩
    exact handlerFrame_scan hf hat (fun he => absurd he hne')
  | @started thread th _ =>
    refine handlerFrame_scan hf (loopStart_at w thread th) ?_
    rintro rfl
    exact Or.inl (loopStart_callback w thread th)
  | @finished thread th discovering stop _ =>
    unfold scanLoopFinish
    split
    · exact handlerFrame_fields (handlerFrame_refl a w) rfl rfl
    · have hdisc : HandlerFrame a w (disconnectSignals w th.adapter) :=
        handlerFrame_fields (handlerFrame_refl a w) rfl rfl
      have hdisable := disable_handler (a := a) (b := th.adapter) (live_disconnected h)
        discovering stop
      exact handlerFrame_fields (handlerFrame_trans hdisc hdisable) rfl rfl
  | timedOut hrun =>
    have hr := timer_run hrun
    refine handlerFrame_scan hf hr.only ?_
    rintro rfl
    exact Or.inl hr.callback
  | disabled adapter discovering stop => exact disable_handler (live_of_valid h) discovering stop

/-- The reference counter of an adapter may change. -/
theorem handlerFrame_count (w : World) (a b : Nat) {f : Adapter → Adapter}
    (hf : ∀ ad, (f ad).discoveredDeviceCallback = ad.discoveredDeviceCallback) :
    HandlerFrame a w (modifyAdapter w b f) := by
  have hmap : ((modifyAdapter w b f).adapters.cell a).map Adapter.discoveredDeviceCallback =
      (w.adapters.cell a).map Adapter.discoveredDeviceCallback := modify_map w.adapters b a hf
  refine handlerFrame_same rfl rfl (Or.inl ?_)
  rw [discoveredCallbackOf, hmap, discoveredCallbackOf]

theorem handlerFrame_unref (hn : w.adapterList.Nodup) (a b : Nat) :
    HandlerFrame a w (gattlibAdapterUnref w b) := by
  unfold gattlibAdapterUnref
  split
  · exact handlerFrame_fields (handlerFrame_refl a w) rfl rfl
  · split
    · exact handlerFrame_count w a b (fun _ => rfl)
    · obtain ⟨devices, he⟩ := adapterFree_frame w b
      have hcell := adapterFree_cell w b a
      refine ⟨?_, fun _ hm => ?_, fun _ hm => ?_⟩
      · exact Nat.le_of_eq (congrArg (fun v => v.adapters.next) he).symm
      · rw [adapterFree_list] at hm
        exact List.mem_of_mem_erase hm
      · rw [adapterFree_list] at hm
        have hne := ((List.Nodup.mem_erase_iff hn).mp hm).1
        rw [if_neg hne] at hcell
        exact Or.inl (callback_of_cell hcell)

theorem handlerFrame_append (w : World) (a : Nat) (name : Strings.CString) (proxy : Nat) :
    HandlerFrame a w (gattlibAdapterOpenAppend w name proxy) := by
  refine ⟨Nat.le_succ _, fun ha hm => ?_, fun ha _ => ?_⟩
  · rcases List.mem_append.mp hm with hm | hm
    · exact hm
    · exact absurd (List.mem_singleton.mp hm) (Nat.ne_of_lt ha)
  · have hcell : (gattlibAdapterOpenAppend w name proxy).adapters.cell a = w.adapters.cell a :=
      alloc_ne _ _ (Nat.ne_of_lt ha)
    exact Or.inl (callback_of_cell hcell)

theorem handlerFrame_effect (h : SystemSound w) (he : AdapterEffect w w') :
    HandlerFrame a w w' := by
  cases he with
  | counted op cl wa le ho dc po nu st =>
    exact handlerFrame_fields (handlerFrame_refl a w) rfl rfl
  | referenced b => exact handlerFrame_count w a b (fun _ => rfl)
  | unreferenced b => exact handlerFrame_unref h.sound.wellFormed.nodup a b
  | disabled b discovering stop hv =>
    exact disable_handler (live_of_valid h.sound.wellFormed) discovering stop

theorem handlerFrame_adapterStep (h : SystemSound w) {e : AdapterEvent}
    (hs : adapterStep w e = some w') : HandlerFrame a w w' := by
  cases adapterStep_outcome hs with
  | appended name proxy => exact handlerFrame_append w a name proxy
  | effects hs =>
    exact (effects_related h hs systemSound_effect (handlerFrame_refl a) handlerFrame_trans
      handlerFrame_effect).2

/-- Only a scan-enable function stores a callback. -/
theorem handlerFrame_step (h : SystemSound w) {e : SystemEvent}
    (hne : enables (.library e) ≠ some a) (hs : systemStep w e = some w') :
    HandlerFrame a w w' := by
  cases e with
  | device e =>
    have hf := deviceStep_frame h.sound.wellFormed hs
    have hlist := congrArg World.adapterList hf.outside
    exact handlerFrame_same hlist hf.next (Or.inl (deviceFrame_callback hf a))
  | scan e =>
    refine handlerFrame_scanStep h.sound.wellFormed (fun blocking request o he => ?_) hs
    subst e
    exact hne rfl
  | adapter e => exact handlerFrame_adapterStep h hs

/-! A scan-enable function on its own adapter -/

theorem enable_unstored {request : ScanRequest} {o : EnableOutcome}
    (hs : stores w a request o = false) (blocking : Bool) :
    (gattlibAdapterScanEnableWithFilter w a blocking request o).2 = w := by
  unfold gattlibAdapterScanEnableWithFilter
  unfold stores at hs
  cases hv : gattlibAdapterIsValid w a with
  | false => rfl
  | true =>
    rw [hv, Bool.true_and] at hs
    rw [if_neg (by decide)]
    cases hp : scanPrepare w a request o with
    | error ret => rfl
    | ok x =>
      rw [hp] at hs
      cases hs

theorem clear_handler (h : Live w a) (request : ScanRequest) :
    discoveredCallbackOf (scanClear w a request) a =
      ⟨request.discoveredDeviceCb, request.userData⟩ := by
  obtain ⟨ad, had⟩ := h.cell
  unfold discoveredCallbackOf scanClear modifyAdapter
  rw [modify_self, had]
  rfl

theorem start_handler (h : Live w a) (request : ScanRequest) (o : EnableOutcome) :
    discoveredCallbackOf (scanStart w a request o).2 a =
      ⟨request.discoveredDeviceCb, request.userData⟩ := by
  have hconnect : discoveredCallbackOf (scanConnect (scanClear w a request) a) a =
      discoveredCallbackOf (scanClear w a request) a :=
    callback_modifyScan (scanClear w a request) a (fun s =>
      { s with
        addedSignalId := w.scanLedger.next
        removedSignalId := w.scanLedger.next + 1
        changedSignalId := w.scanLedger.next + 2 })
  unfold scanStart
  cases o.startError with
  | none => exact hconnect.trans (clear_handler h request)
  | some error => exact hconnect.trans (clear_handler h request)

theorem createThread_handler (w : World) (a : Nat) (blocking thread : Bool) :
    discoveredCallbackOf (scanCreateThread w a blocking thread).2 a = discoveredCallbackOf w a := by
  unfold scanCreateThread
  split
  · rfl
  · rfl

theorem enable_stored (h : WellFormed w) {request : ScanRequest} {o : EnableOutcome}
    (hs : stores w a request o = true) (blocking : Bool) :
    discoveredCallbackOf (gattlibAdapterScanEnableWithFilter w a blocking request o).2 a =
      ⟨request.discoveredDeviceCb, request.userData⟩ := by
  unfold stores at hs
  rw [Bool.and_eq_true] at hs
  have hl := live_of_valid h hs.1
  unfold gattlibAdapterScanEnableWithFilter
  rw [hs.1, if_neg (by decide)]
  cases hp : scanPrepare w a request o with
  | error ret =>
    rw [hp] at hs
    cases hs.2
  | ok x =>
    have hx := prepare_managed hp
    have hxl : Live x a := hx ▸ live_managed hl a o.manager
    have hstart := start_handler hxl request o
    dsimp only
    split
    · exact hstart
    · rw [createThread_handler]
      split
      · exact (callback_modifyScan _ a _).trans hstart
      · exact hstart

end

end Gattlib.HandlerFrames
