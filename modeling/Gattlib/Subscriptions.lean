import Gattlib.Notifications
import Gattlib.Library.Transition

namespace Gattlib.Subscriptions

open Library.Memory Library.Resources Library.Transition Gattlib.State Gattlib.Registry
open Gattlib.Adapters Gattlib.Uuids Gattlib.Notifications

/-- The ids in the list of a connection. -/
def recorded (s : Notified) (connection : Nat) : List Nat :=
  (s.notifiedCharacteristics connection).map NotificationHandle.signalId

/-- The live signal handlers of every connection are those in its list. -/
def Exact (s : Notified) : Prop := ∀ c, liveIds s.signals c = (recorded s c).reverse

/-- What a step has to do to the books: a start that fails changes nothing, one that
succeeds adds one handler and its entry, and a disconnection leaves none. -/
def Bookkeeping (s : Notified) : NotifiedEvent → Notified → Prop
  | .start kind c uuid o, t =>
    if (startOf kind s c uuid o).1 = gattlibSuccess then
      ∃ h, t.notifiedCharacteristics c = s.notifiedCharacteristics c ++ [h] ∧
        liveIds t.signals c = h.signalId :: liveIds s.signals c
    else t.notifiedCharacteristics = s.notifiedCharacteristics ∧ t.signals = s.signals
  | .library e, t => ∀ c, freedConnection s.world e = some c →
      t.notifiedCharacteristics c = [] ∧ liveIds t.signals c = []
  | _, _ => True

/-- The start finds no battery level, and once its signal handler is connected
neither the allocation nor StartNotify fails. -/
def Plain (o : StartOutcome) : Prop :=
  match o.characteristic with
  | .none => True
  | .batteryLevel _ => False
  | .gatt _ => o.signal = true → o.calloc = true ∧ o.startNotify.isNone

/-- Every start on a CONNECTED device is a plain one. -/
def Recordable (s : Notified) : NotifiedEvent → Prop
  | .start _ c _ o => gattlibConnectionIsConnected s.world c = true → Plain o
  | _ => True

/-- Ids that are released or in a list have been given out. -/
structure Issued (s : Notified) : Prop where
  released : ∀ id ∈ s.signals.released, id < s.signals.next
  listed : ∀ c, ∀ id ∈ recorded s c, id < s.signals.next

/-- The signal handlers a start of some kind connects. -/
def Made (kind : Kind) (k : Subscription) : Prop :=
  k.start = kind ∧
    (k.callback = callbackOf kind ∨ k.callback = .onHandleBatteryLevelPropertyChange)

/-- What a start can do, with the answers that lead to it. -/
inductive StartChange (s : Notified) (kind : Kind) (c : Nat) (o : StartOutcome) :
    Ret → Notified → Prop
  | refused {r : Ret} (hr : r ≠ gattlibSuccess)
      (hp : gattlibConnectionIsConnected s.world c = true → Plain o) : StartChange s kind c o r s
  | unnoticed (hc : gattlibConnectionIsConnected s.world c = true) (hp : ¬Plain o) :
      StartChange s kind c o gattlibSuccess s
  | unrecorded (r : Ret) {k : Subscription} (hk : Made kind k)
      (hc : gattlibConnectionIsConnected s.world c = true) (hp : ¬Plain o) :
      StartChange s kind c o r { s with signals := acquire s.signals k c }
  | unannounced {r : Ret} (hr : r ≠ gattlibSuccess) {k : Subscription} (hk : Made kind k)
      {h : NotificationHandle} (hid : h.signalId = s.signals.next)
      (hc : gattlibConnectionIsConnected s.world c = true) (hp : ¬Plain o) :
      StartChange s kind c o r (addHandle { s with signals := acquire s.signals k c } c h)
  | recorded {k : Subscription} (hk : Made kind k) {h : NotificationHandle}
      (hid : h.signalId = s.signals.next) (hp : Plain o) :
      StartChange s kind c o gattlibSuccess
        (addHandle { s with signals := acquire s.signals k c } c h)

/-- Every entry of a list is a live signal handler of its connection, in it once. -/
structure Backed (s : Notified) : Prop where
  once : ∀ c, (recorded s c).Nodup
  live : ∀ c, ∀ id ∈ recorded s c, id ∈ liveIds s.signals c

section

variable {s t : Notified} {c : Nat}

/-! What is recorded -/

theorem recorded_add (h : NotificationHandle) (b : Nat) :
    recorded (addHandle s c h) b =
      if b = c then recorded s c ++ [h.signalId] else recorded s b := by
  unfold recorded addHandle
  dsimp only
  by_cases hb : b = c
  · subst hb
    rw [Function.update_self, List.map_append, if_pos rfl]
    rfl
  · rw [Function.update_of_ne hb, if_neg hb]

theorem dbus_ne_success : gattlibErrorDbus ≠ gattlibSuccess := by decide

/-! Starts -/

theorem start_change (kind : Kind) (c : Nat) (uuid : Uuid) (o : StartOutcome) :
    StartChange s kind c o (startOf kind s c uuid o).1 (startOf kind s c uuid o).2 := by
  have hstart : startOf kind s c uuid o = connectSignalToCharacteristicUuid s c uuid kind o := by
    cases kind <;> rfl
  obtain ⟨characteristic, signal, calloc, startNotify⟩ := o
  rw [hstart, connectSignalToCharacteristicUuid]
  by_cases hc : gattlibConnectionIsConnected s.world c = false
  · rw [if_pos hc]
    exact .refused invalidParameter_ne_success (fun h => absurd h (by rw [hc]; decide))
  · rw [if_neg hc]
    have hc := (Bool.not_eq_false _).mp hc
    cases characteristic with
    | none => exact .refused notFound_ne_success (fun _ => trivial)
    | batteryLevel proxy =>
      cases signal with
      | true => exact .unrecorded _ ⟨rfl, Or.inr rfl⟩ hc id
      | false => exact .unnoticed hc id
    | gatt proxy =>
      have hk : Made kind ⟨callbackOf kind, kind⟩ := ⟨rfl, Or.inl rfl⟩
      cases signal with
      | false => exact .refused dbus_ne_success (fun _ h => by cases h)
      | true =>
        cases calloc with
        | false => exact .unrecorded _ hk hc (fun h => Bool.false_ne_true (h rfl).1)
        | true =>
          cases startNotify with
          | some error =>
            exact .unannounced (dbusError_ne_success error) hk rfl hc
              (fun h => absurd (h rfl).2 (by simp))
          | none => exact .recorded hk rfl (fun _ => ⟨rfl, rfl⟩)

theorem exact_add (hi : Issued s) (he : Exact s) (k : Subscription) {h : NotificationHandle}
    (hid : h.signalId = s.signals.next) :
    Exact (addHandle { s with signals := acquire s.signals k c } c h) := by
  intro b
  have hlive := liveIds_acquire hi.released k c b
  have hrec := recorded_add (s := { s with signals := acquire s.signals k c }) (c := c) h b
  rw [hrec]
  refine hlive.trans ?_
  by_cases hb : b = c
  · subst hb
    have hold : recorded { s with signals := acquire s.signals k b } b = recorded s b := rfl
    rw [if_pos rfl, if_pos rfl, he b, hid, hold, List.reverse_append]
    rfl
  · rw [if_neg hb, if_neg (fun hc => hb hc.symm)]
    exact he b

theorem start_iff (hi : Issued s) (he : Exact s) (kind : Kind) (c : Nat) (uuid : Uuid)
    (o : StartOutcome) :
    Recordable s (.start kind c uuid o) ↔ Exact (startOf kind s c uuid o).2 ∧
      Bookkeeping s (.start kind c uuid o) (startOf kind s c uuid o).2 := by
  have hchange := start_change (s := s) kind c uuid o
  rw [Recordable, Bookkeeping]
  generalize (startOf kind s c uuid o).1 = r at hchange ⊢
  generalize (startOf kind s c uuid o).2 = t at hchange ⊢
  cases hchange with
  | refused hr hp =>
    rw [if_neg hr]
    exact iff_of_true hp ⟨he, rfl, rfl⟩
  | unnoticed hc hp =>
    refine iff_of_false (fun h => hp (h hc)) ?_
    rintro ⟨_, hbook⟩
    rw [if_pos rfl] at hbook
    obtain ⟨h, hlist, _⟩ := hbook
    have hlength := congrArg List.length hlist
    rw [List.length_append, List.length_singleton] at hlength
    omega
  | @unrecorded r k _ hc hp =>
    refine iff_of_false (fun h => hp (h hc)) ?_
    rintro ⟨hexact, _⟩
    have hlive := liveIds_acquire hi.released k c c
    have hlength := congrArg List.length ((hexact c).symm.trans hlive)
    have hold : recorded { s with signals := acquire s.signals k c } c = recorded s c := rfl
    rw [if_pos rfl, he c, hold, List.length_cons] at hlength
    omega
  | unannounced hr _ hid hc hp =>
    refine iff_of_false (fun h => hp (h hc)) ?_
    rintro ⟨_, hbook⟩
    rw [if_neg hr] at hbook
    have hlength := congrArg (fun f => (f c).length) hbook.1
    simp [addHandle] at hlength
  | @recorded k _ h hid hp =>
    rw [if_pos rfl]
    refine iff_of_true (fun _ => hp) ⟨exact_add hi he k hid, h, ?_, ?_⟩
    · exact Function.update_self ..
    · have hlive := liveIds_acquire hi.released k c c
      rw [if_pos rfl, ← hid] at hlive
      exact hlive

/-! Stops -/

/-- Without repetitions, erasing the first match erases its image. -/
theorem map_eraseP {α : Type} {f : α → Nat} {p : α → Bool} {l : List α} {x : α}
    (hn : (l.map f).Nodup) (hx : l.find? p = some x) :
    (l.eraseP p).map f = (l.map f).filter (fun i => i != f x) := by
  induction l with
  | nil => cases hx
  | cons y l ih =>
    rw [List.map_cons, List.nodup_cons] at hn
    cases hp : p y with
    | true =>
      rw [List.find?_cons_of_pos hp, Option.some.injEq] at hx
      subst hx
      rw [List.eraseP_cons_of_pos hp, List.map_cons, List.filter_cons_of_neg (by simp)]
      refine (List.filter_eq_self.mpr fun i hi => ?_).symm
      rw [bne_iff_ne]
      exact fun he => hn.1 (he ▸ hi)
    | false =>
      have hneg : ¬p y = true := by rw [hp]; decide
      rw [List.find?_cons_of_neg hneg] at hx
      have hne : f y ≠ f x := by
        intro he
        exact hn.1 (he ▸ List.mem_map_of_mem (List.mem_of_find?_eq_some hx))
      rw [List.eraseP_cons_of_neg hneg, List.map_cons, List.map_cons,
        List.filter_cons_of_pos (by simpa using hne), ih hn.2 hx]

/-- The state after a stop that has found its entry. -/
def stopped (s : Notified) (c : Nat) (uuid : Uuid) (handle : NotificationHandle) : Notified :=
  { s with
    notifiedCharacteristics := Function.update s.notifiedCharacteristics c
      ((s.notifiedCharacteristics c).eraseP (fun h => gattlibUuidCmp h.uuid uuid == 0))
    signals := release s.signals handle.signalId }

theorem stop_cases (kind : Kind) (c : Nat) (uuid : Uuid) (stopNotify : Option GError) :
    (stopOf kind s c uuid stopNotify).1 ≠ gattlibSuccess ∧
        (stopOf kind s c uuid stopNotify).2 = s ∧
        (gattlibConnectionIsConnected s.world c = true → notificationHandle s c uuid = none) ∨
      ∃ handle, gattlibConnectionIsConnected s.world c = true ∧
        notificationHandle s c uuid = some handle ∧
        (stopOf kind s c uuid stopNotify).2 = stopped s c uuid handle ∧
        ((stopOf kind s c uuid stopNotify).1 = gattlibSuccess ↔ stopNotify.isNone = true) := by
  have hstop : stopOf kind s c uuid stopNotify =
      disconnectSignalToCharacteristicUuid s c uuid (callbackOf kind) stopNotify := by
    cases kind <;> rfl
  rw [hstop, disconnectSignalToCharacteristicUuid]
  split
  · next hc =>
    refine Or.inl ⟨invalidParameter_ne_success, rfl, fun h => ?_⟩
    rw [hc] at h
    cases h
  · next hc =>
    split
    · next hf => exact Or.inl ⟨notFound_ne_success, rfl, fun _ => hf⟩
    · next handle hf =>
      refine Or.inr ⟨handle, (Bool.not_eq_false _).mp hc, hf, ?_⟩
      cases stopNotify with
      | none => exact ⟨rfl, iff_of_true rfl rfl⟩
      | some error => exact ⟨rfl, iff_of_false notFound_ne_success (by simp)⟩

theorem exact_backed (he : Exact s) : Backed s := by
  refine ⟨fun c => ?_, fun c id hid => ?_⟩
  · have hn := liveIds_nodup s.signals c
    rw [he c] at hn
    exact List.nodup_reverse.mp hn
  · rw [he c, List.mem_reverse]
    exact hid

theorem handle_recorded {uuid : Uuid} {handle : NotificationHandle}
    (hf : notificationHandle s c uuid = some handle) : handle.signalId ∈ recorded s c :=
  List.mem_map_of_mem (List.mem_of_find?_eq_some hf)

theorem recorded_stopped (hb : Backed s) {uuid : Uuid} {handle : NotificationHandle}
    (hf : notificationHandle s c uuid = some handle) (b : Nat) :
    recorded (stopped s c uuid handle) b =
      (recorded s b).filter (fun i => i != handle.signalId) := by
  have hlive := hb.live c _ (handle_recorded hf)
  unfold recorded stopped
  dsimp only
  by_cases hbc : b = c
  · subst hbc
    rw [Function.update_self]
    exact map_eraseP (hb.once b) hf
  · rw [Function.update_of_ne hbc]
    refine (List.filter_eq_self.mpr fun i hi => ?_).symm
    rw [bne_iff_ne]
    exact fun hid => hbc (liveIds_owner (hb.live b i hi) (hid ▸ hlive))

theorem exact_stopped (he : Exact s) {uuid : Uuid} {handle : NotificationHandle}
    (hf : notificationHandle s c uuid = some handle) : Exact (stopped s c uuid handle) := by
  intro b
  rw [recorded_stopped (exact_backed he) hf]
  have hlive := liveIds_release s.signals handle.signalId b
  rw [he b] at hlive
  exact hlive.trans (List.filter_reverse ..)

/-! Disconnections -/

theorem signals_dropped (s : Notified) (c : Nat) :
    (disconnectAllNotifications s c).signals = (recorded s c).foldl release s.signals := by
  rw [recorded, List.foldl_map]
  rfl

theorem recorded_dropped (s : Notified) (c b : Nat) :
    recorded (disconnectAllNotifications s c) b = if b = c then [] else recorded s b := by
  unfold recorded disconnectAllNotifications
  dsimp only
  by_cases hb : b = c
  · subst hb
    rw [Function.update_self, if_pos rfl]
    rfl
  · rw [Function.update_of_ne hb, if_neg hb]

theorem exact_dropped (he : Exact s) (c : Nat) : Exact (disconnectAllNotifications s c) := by
  intro b
  rw [signals_dropped, liveIds_releases, he b, recorded_dropped]
  by_cases hb : b = c
  · subst hb
    rw [if_pos rfl, List.reverse_nil, List.filter_eq_nil_iff]
    intro i hi
    simp [List.mem_reverse.mp hi]
  · rw [if_neg hb, List.filter_eq_self]
    intro i hi
    rw [Bool.not_eq_true', List.contains_eq_mem, decide_eq_false_iff_not]
    intro hm
    rw [← he b] at hi
    rw [← List.mem_reverse, ← he c] at hm
    exact hb (liveIds_owner hi hm)

/-! Steps and runs -/

theorem issued_congr (h : Issued s) (hn : t.notifiedCharacteristics = s.notifiedCharacteristics)
    (hs : t.signals = s.signals) : Issued t := by
  refine ⟨?_, fun c id hid => ?_⟩
  · rw [hs]
    exact h.released
  · rw [recorded, hn] at hid
    rw [hs]
    exact h.listed c id hid

theorem exact_congr (h : Exact s) (hn : t.notifiedCharacteristics = s.notifiedCharacteristics)
    (hs : t.signals = s.signals) : Exact t := by
  intro c
  rw [recorded, hn, hs]
  exact h c

theorem issued_acquire (h : Issued s) (k : Subscription) (c : Nat) :
    Issued { s with signals := acquire s.signals k c } :=
  ⟨fun id hid => Nat.lt_succ_of_lt (h.released id hid),
    fun b id hid => Nat.lt_succ_of_lt (h.listed b id hid)⟩

theorem issued_add (h : Issued s) {handle : NotificationHandle}
    (hid : handle.signalId < s.signals.next) : Issued (addHandle s c handle) := by
  refine ⟨h.released, fun b id hm => ?_⟩
  rw [recorded_add] at hm
  split at hm
  · rcases List.mem_append.mp hm with hm | hm
    · exact h.listed c id hm
    · rw [List.mem_singleton.mp hm]
      exact hid
  · exact h.listed b id hm

/-- Releasing ids of a list and taking entries out of the lists. -/
theorem issued_release (h : Issued s) {ids : List Nat} (hids : ∀ id ∈ ids, id < s.signals.next)
    (hs : t.signals = ids.foldl release s.signals)
    (hl : ∀ c, ∀ id ∈ recorded t c, id ∈ recorded s c) : Issued t := by
  obtain ⟨hreleased, hnext⟩ := releases_known ids s.signals h.released hids
  refine ⟨?_, fun c id hid => ?_⟩
  · rw [hs, hnext]
    exact hreleased
  · rw [hs, hnext]
    exact h.listed c id (hl c id hid)

theorem issued_stopped (h : Issued s) {uuid : Uuid} {handle : NotificationHandle}
    (hf : notificationHandle s c uuid = some handle) : Issued (stopped s c uuid handle) := by
  have hmem := handle_recorded hf
  have hids : ∀ id ∈ [handle.signalId], id < s.signals.next := by
    intro id hid
    rw [List.mem_singleton.mp hid]
    exact h.listed c _ hmem
  refine issued_release h hids rfl (fun b id hid => ?_)
  unfold recorded stopped at hid
  dsimp only at hid
  by_cases hb : b = c
  · subst hb
    rw [Function.update_self] at hid
    obtain ⟨x, hx, rfl⟩ := List.mem_map.mp hid
    exact List.mem_map_of_mem (List.mem_of_mem_eraseP hx)
  · rw [Function.update_of_ne hb] at hid
    exact hid

theorem issued_dropped (h : Issued s) (c : Nat) : Issued (disconnectAllNotifications s c) := by
  refine issued_release h (h.listed c) (signals_dropped s c) (fun b id hid => ?_)
  rw [recorded_dropped] at hid
  split at hid
  · cases hid
  · exact hid

/-- A step leaves the subscriptions alone. -/
structure Unsubscribing (s t : Notified) : Prop where
  listed : t.notifiedCharacteristics = s.notifiedCharacteristics
  signals : t.signals = s.signals

theorem unsubscribing_register (kind : Kind) (c : Nat) (handler : Option Nat) (userData : Nat)
    (error : Bool) : Unsubscribing s (registerOf kind s c handler userData error).2 := by
  have hregister : registerOf kind s c handler userData error =
      registerHandler s kind c handler userData error := by
    cases kind <;> rfl
  rw [hregister, registerHandler]
  split
  · exact ⟨rfl, rfl⟩
  · cases error <;> cases kind <;> exact ⟨rfl, rfl⟩

theorem unsubscribing_received (s : Notified) (c : Nat) (v : Value) :
    Unsubscribing s (gattlibOnGattNotification s c v) := by
  unfold gattlibOnGattNotification
  split
  · exact ⟨rfl, rfl⟩
  · exact ⟨rfl, rfl⟩

theorem unsubscribing_dispatch (s : Notified) (r : Entry Subscription) (text : List UInt8)
    (changed : List ChangedProperty) : Unsubscribing s (dispatch s r text changed) := by
  have hsame : Unsubscribing s s := ⟨rfl, rfl⟩
  unfold dispatch
  split
  · unfold onHandleCharacteristicPropertyChange
    split
    · exact hsame
    · split
      · split
        · exact hsame
        · exact unsubscribing_received ..
      · exact hsame
  · unfold onHandleCharacteristicIndication
    split
    · split
      · exact hsame
      · exact unsubscribing_received ..
    · exact hsame
  · unfold onHandleBatteryLevelPropertyChange
    split
    · exact hsame
    · split
      · split
        · exact hsame
        · exact unsubscribing_received ..
      · exact hsame

theorem unsubscribing_worker {pool : Nat} (hs : poolWorker s pool = some t) :
    Unsubscribing s t := by
  unfold poolWorker at hs
  split at hs
  · cases hs
  · split at hs
    · cases hs
    · rw [Option.some.injEq] at hs
      subst hs
      unfold gattlibNotificationDeviceThread
      split
      · exact ⟨rfl, rfl⟩
      · dsimp only
        split
        · exact ⟨rfl, rfl⟩
        · exact ⟨rfl, rfl⟩

/-- A step of the library frees a connection or leaves the subscriptions alone. -/
theorem follow_subscriptions (s : Notified) (e : SystemEvent) (w : World) :
    Unsubscribing (match freedConnection s.world e with
      | none => s
      | some c => disconnectAllNotifications s c) (follow s e w) :=
  ⟨rfl, rfl⟩

/-- What a step can do to the subscriptions. -/
inductive Rebooked (s : Notified) : Notified → Prop
  | same {t : Notified} (h : Unsubscribing s t) : Rebooked s t
  | freed {t : Notified} (c : Nat) (h : Unsubscribing (disconnectAllNotifications s c) t) :
      Rebooked s t
  | acquired {kind : Kind} {k : Subscription} (hk : Made kind k) (c : Nat) :
      Rebooked s { s with signals := acquire s.signals k c }
  | added {kind : Kind} {k : Subscription} (hk : Made kind k) (c : Nat)
      {handle : NotificationHandle} (hid : handle.signalId = s.signals.next) :
      Rebooked s (addHandle { s with signals := acquire s.signals k c } c handle)
  | stopped {c : Nat} {uuid : Uuid} {handle : NotificationHandle}
      (hf : notificationHandle s c uuid = some handle) : Rebooked s (stopped s c uuid handle)

theorem rebooked_start (kind : Kind) (c : Nat) (uuid : Uuid) (o : StartOutcome) :
    Rebooked s (startOf kind s c uuid o).2 := by
  have hchange := start_change (s := s) kind c uuid o
  generalize (startOf kind s c uuid o).1 = r at hchange
  generalize (startOf kind s c uuid o).2 = t at hchange ⊢
  cases hchange with
  | refused hr hp => exact .same ⟨rfl, rfl⟩
  | unnoticed hc hp => exact .same ⟨rfl, rfl⟩
  | unrecorded r hk hc hp => exact .acquired hk c
  | unannounced hr hk hid hc hp => exact .added hk c hid
  | recorded hk hid hp => exact .added hk c hid

theorem rebooked_stop (kind : Kind) (c : Nat) (uuid : Uuid) (stopNotify : Option GError) :
    Rebooked s (stopOf kind s c uuid stopNotify).2 := by
  rcases stop_cases (s := s) kind c uuid stopNotify with ⟨_, he, _⟩ | ⟨handle, _, hf, he, _⟩
  · rw [he]
    exact .same ⟨rfl, rfl⟩
  · rw [he]
    exact .stopped hf

theorem step_rebooked {e : NotifiedEvent} (hs : notifiedStep s e = some t) : Rebooked s t := by
  simp only [notifiedStep, Option.ite_none_left_eq_some] at hs
  obtain ⟨_, hs⟩ := hs
  cases e with
  | library e =>
    obtain ⟨w, _, rfl⟩ := Option.map_eq_some_iff.mp hs
    have hfollow := follow_subscriptions s e w
    split at hfollow
    · exact .same hfollow
    · next c _ => exact .freed c hfollow
  | register kind c handler userData error =>
    cases hs
    exact .same (unsubscribing_register kind c handler userData error)
  | start kind c uuid o =>
    cases hs
    exact rebooked_start kind c uuid o
  | stop kind c uuid stopNotify =>
    cases hs
    exact rebooked_stop kind c uuid stopNotify
  | valueChanged signal text changed =>
    obtain ⟨r, _, rfl⟩ := Option.map_eq_some_iff.mp hs
    exact .same (unsubscribing_dispatch s r text changed)
  | worker pool => exact .same (unsubscribing_worker hs)

theorem rebooked_issued (h : Issued s) (hs : Rebooked s t) : Issued t := by
  cases hs with
  | same hsame => exact issued_congr h hsame.listed hsame.signals
  | freed c hsame => exact issued_congr (issued_dropped h c) hsame.listed hsame.signals
  | acquired hk c => exact issued_acquire h _ c
  | added hk c hid => exact issued_add (issued_acquire h _ c) (hid ▸ Nat.lt_succ_self _)
  | stopped hf => exact issued_stopped h hf

theorem bookkeeping_library {e : SystemEvent} (he : Exact s) (w : World) :
    Exact (follow s e w) ∧ Bookkeeping s (.library e) (follow s e w) := by
  have hfollow := follow_subscriptions s e w
  rw [Bookkeeping]
  split at hfollow
  · next hnone =>
    refine ⟨exact_congr he hfollow.listed hfollow.signals, fun c hc => ?_⟩
    rw [hnone] at hc
    cases hc
  · next c hsome =>
    have hdropped := exact_dropped he c
    refine ⟨exact_congr hdropped hfollow.listed hfollow.signals, fun b hb => ?_⟩
    rw [hsome, Option.some.injEq] at hb
    subst hb
    rw [hfollow.listed, hfollow.signals, hdropped c, recorded_dropped, if_pos rfl]
    exact ⟨Function.update_self .., rfl⟩

/-- One step, from a state whose books are exact. -/
theorem recordable_iff {e : NotifiedEvent} (hi : Issued s) (he : Exact s)
    (hs : notifiedStep s e = some t) : Recordable s e ↔ Exact t ∧ Bookkeeping s e t := by
  simp only [notifiedStep, Option.ite_none_left_eq_some] at hs
  obtain ⟨_, hs⟩ := hs
  cases e with
  | library e =>
    obtain ⟨w, _, rfl⟩ := Option.map_eq_some_iff.mp hs
    exact iff_of_true trivial (bookkeeping_library he w)
  | register kind c handler userData error =>
    cases hs
    have hsame := unsubscribing_register (s := s) kind c handler userData error
    exact iff_of_true trivial ⟨exact_congr he hsame.listed hsame.signals, trivial⟩
  | start kind c uuid o =>
    cases hs
    exact start_iff hi he kind c uuid o
  | stop kind c uuid stopNotify =>
    cases hs
    refine iff_of_true trivial ⟨?_, trivial⟩
    rcases stop_cases (s := s) kind c uuid stopNotify with
      ⟨_, hstop, _⟩ | ⟨handle, _, hf, hstop, _⟩
    · rw [hstop]
      exact he
    · rw [hstop]
      exact exact_stopped he hf
  | valueChanged signal text changed =>
    obtain ⟨r, _, rfl⟩ := Option.map_eq_some_iff.mp hs
    have hsame := unsubscribing_dispatch s r text changed
    exact iff_of_true trivial ⟨exact_congr he hsame.listed hsame.signals, trivial⟩
  | worker pool =>
    have hsame := unsubscribing_worker hs
    exact iff_of_true trivial ⟨exact_congr he hsame.listed hsame.signals, trivial⟩

theorem backed_congr (h : Backed s) (hn : t.notifiedCharacteristics = s.notifiedCharacteristics)
    (hs : t.signals = s.signals) : Backed t := by
  have hrec : ∀ c, recorded t c = recorded s c := fun c => by rw [recorded, hn, recorded]
  refine ⟨fun c => ?_, fun c id hid => ?_⟩
  · rw [hrec]
    exact h.once c
  · rw [hrec] at hid
    rw [hs]
    exact h.live c id hid

theorem backed_acquire (hi : Issued s) (h : Backed s) (k : Subscription) (c : Nat) :
    Backed { s with signals := acquire s.signals k c } := by
  refine ⟨h.once, fun b id hid => ?_⟩
  have hlive := liveIds_acquire hi.released k c b
  refine hlive ▸ ?_
  split
  · exact List.mem_cons_of_mem _ (h.live b id hid)
  · exact h.live b id hid

theorem backed_add (hi : Issued s) (h : Backed s) (k : Subscription) {handle : NotificationHandle}
    (hid : handle.signalId = s.signals.next) :
    Backed (addHandle { s with signals := acquire s.signals k c } c handle) := by
  have hacquire := backed_acquire hi h k c
  refine ⟨fun b => ?_, fun b id hm => ?_⟩
  · rw [recorded_add]
    split
    · refine List.nodup_append.mpr ⟨h.once c, List.nodup_singleton _, fun i hm j hj he => ?_⟩
      rw [List.mem_singleton.mp hj, hid] at he
      exact Nat.lt_irrefl _ (he ▸ hi.listed c i hm)
    · exact h.once b
  · rw [recorded_add] at hm
    split at hm
    · next hb =>
      subst hb
      rcases List.mem_append.mp hm with hm | hm
      · exact hacquire.live b id hm
      · have hlive := liveIds_acquire hi.released k b b
        rw [if_pos rfl] at hlive
        rw [List.mem_singleton.mp hm, hid]
        exact hlive ▸ List.mem_cons_self
    · exact hacquire.live b id hm

theorem backed_stopped (h : Backed s) {uuid : Uuid} {handle : NotificationHandle}
    (hf : notificationHandle s c uuid = some handle) : Backed (stopped s c uuid handle) := by
  refine ⟨fun b => ?_, fun b id hid => ?_⟩
  · rw [recorded_stopped h hf]
    exact (h.once b).filter _
  · rw [recorded_stopped h hf, List.mem_filter] at hid
    have hlive := liveIds_release s.signals handle.signalId b
    have hmem : id ∈ (liveIds s.signals b).filter (fun i => i != handle.signalId) :=
      List.mem_filter.mpr ⟨h.live b id hid.1, hid.2⟩
    exact hlive ▸ hmem

theorem backed_dropped (h : Backed s) (c : Nat) : Backed (disconnectAllNotifications s c) := by
  refine ⟨fun b => ?_, fun b id hid => ?_⟩
  · rw [recorded_dropped]
    split
    · exact List.nodup_nil
    · exact h.once b
  · rw [recorded_dropped] at hid
    split at hid
    · cases hid
    · next hb =>
      rw [signals_dropped, liveIds_releases, List.mem_filter, Bool.not_eq_true',
        List.contains_eq_mem, decide_eq_false_iff_not]
      exact ⟨h.live b id hid, fun hm => hb (liveIds_owner (h.live b id hid) (h.live c id hm))⟩

theorem rebooked_backed (hi : Issued s) (h : Backed s) (hs : Rebooked s t) : Backed t := by
  cases hs with
  | same hsame => exact backed_congr h hsame.listed hsame.signals
  | freed c hsame => exact backed_congr (backed_dropped h c) hsame.listed hsame.signals
  | acquired hk c => exact backed_acquire hi h _ c
  | added hk c hid => exact backed_add hi h _ hid
  | stopped hf => exact backed_stopped h hf

theorem fresh_issued (h : Fresh s) : Issued s := by
  cases h
  exact ⟨fun id hid => (by cases hid), fun c id hid => (by cases hid)⟩

theorem fresh_exact (h : Fresh s) : Exact s := by
  cases h
  exact fun c => rfl

theorem run_exact {tr : List (Notified × NotifiedEvent × Notified)}
    (h : Run notifiedStep Fresh tr s) (hall : ∀ x ∈ tr, Exact x.2.2 ∧ Bookkeeping x.1 x.2.1 x.2.2) :
    Exact s := by
  cases h with
  | start h => exact fresh_exact h
  | next h hs => exact (hall _ List.mem_cons_self).1

end

/-- The books of a run are right exactly when all its starts are plain ones. -/
theorem subscriptions_recorded {tr : List (Notified × NotifiedEvent × Notified)} {s : Notified}
    (h : Run notifiedStep Fresh tr s) :
    (∀ x ∈ tr, Recordable x.1 x.2.1) ↔
      ∀ x ∈ tr, Exact x.2.2 ∧ Bookkeeping x.1 x.2.1 x.2.2 := by
  induction h with
  | start _ => simp
  | next h hs ih =>
    have hreach : Reach notifiedStep AnyStep Fresh _ := run_reach h (fun _ _ => trivial)
    have hissued := reach_invariant Issued (fun _ => fresh_issued)
      (fun _ _ _ hi _ hs => rebooked_issued hi (step_rebooked hs)) hreach
    rw [List.forall_mem_cons, List.forall_mem_cons, ih]
    exact and_congr_left (fun hall => recordable_iff hissued (run_exact h hall) hs)

/-- The handler of a battery level is connected and not recorded. -/
theorem battery_unrecorded : ¬∀ (tr : List (Notified × NotifiedEvent × Notified)) (s : Notified),
    Run notifiedStep Fresh tr s → ∀ x ∈ tr, Exact x.2.2 ∧ Bookkeeping x.1 x.2.1 x.2.2 := by
  intro h
  obtain ⟨tr, hconnected, _⟩ := connected_run
  have hrun := Run.next
    (e := .start .notification 0 mBatteryLevelUuid ⟨.batteryLevel 1, true, true, none⟩)
    hconnected rfl
  have hexact := (h _ _ hrun _ List.mem_cons_self).1 0
  exact absurd hexact (by decide)

/-- A heart rate subscription is recorded, and gone after the disconnection. -/
theorem subscriptions_recorded_round : ∃ s t, Exact s ∧ recorded s 0 = [1] ∧
    Exact t ∧ liveIds t.signals 0 = [] := by
  obtain ⟨tr, hconnected, hlibrary⟩ := connected_run
  have hstart := Run.next
    (e := .start .notification 0 (.uuid16 0x2A37) ⟨.gatt 1, true, true, none⟩) hconnected rfl
  have hemit := Run.next (e := .library (.device (.emit 2 (.connected false) []))) hstart rfl
  have hrun := Run.next (e := .library (.device (.propertyChange ⟨none, false, true⟩))) hemit rfl
  have hall := (subscriptions_recorded hrun).mp (by
    refine List.forall_mem_cons.mpr ⟨trivial, List.forall_mem_cons.mpr ⟨trivial,
      List.forall_mem_cons.mpr ⟨fun _ _ => ⟨rfl, rfl⟩, fun x hx => ?_⟩⟩⟩
    obtain ⟨e, he⟩ := hlibrary x hx
    rw [he]
    trivial)
  have hfirst := hall _ (List.mem_cons_of_mem _ (List.mem_cons_of_mem _ List.mem_cons_self))
  have hlast := hall _ List.mem_cons_self
  exact ⟨_, _, hfirst.1, rfl, hlast.1, (hlast.2 0 rfl).2⟩

end Gattlib.Subscriptions
