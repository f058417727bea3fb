import Gattlib.StateMachine

namespace Gattlib.WaitingDisconnect

open Library.Memory Library.Resources Library.Transition Gattlib.Strings Gattlib.State
open Gattlib.Registry Gattlib.RegistryFacts Gattlib.Connection Gattlib.Events Gattlib.Effects
open Gattlib.Changes Gattlib.Invariants Gattlib.StateMachine

/-- Where a call of `gattlib_disconnect` is that waits for the disconnection. -/
inductive WaitPc
  | checking | waiting | returned (ret : Ret)
  deriving DecidableEq

/-- A call past its critical section. `freed` tells whether `gattlib_connection_free` has run
for its connection since then and before the call returned. -/
structure DisconnectCall where
  connection : Nat
  pc : WaitPc := .checking
  freed : Bool := false
  deriving DecidableEq

/-- The library and the calls that wait, in the order in which they began. -/
structure Waiting where
  core : World
  calls : List DisconnectCall := []

/-- The steps of the connection side and those of the waiting calls: a call begins, looks at
the state of its connection, is woken up, or meets its deadline. -/
inductive WaitEvent
  | device (e : DeviceEvent)
  | disconnect (connection : Nat)
  | check (call : Nat)
  | wake (call : Nat)
  | expire (call : Nat)

def isReturned (call : DisconnectCall) : Bool :=
  match call.pc with
  | .returned _ => true
  | .checking | .waiting => false

/-- The connection that a step of the main loop hands to `gattlib_connection_free`. -/
def frees (w : World) : DeviceEvent → Option Nat
  | .propertyChange _ =>
    match w.emission with
    | some ⟨connection, .connected false, _⟩ =>
      if gattlibConnectionIsValid w connection then some connection else none
    | _ => none
  | _ => none

def noteFreed (connection : Option Nat) (call : DisconnectCall) : DisconnectCall :=
  if connection = some call.connection ∧ isReturned call = false then { call with freed := true }
  else call

/-- The steps of a call that wait with `m_gattlib_signal.mutex` held in between. The broadcast
of any thread may wake it, and so may nothing at all. -/
def callStep (w : World) (call : DisconnectCall) : WaitEvent → Option WaitPc
  | .check _ =>
    if call.pc = .checking then
      some (if gattlibConnectionIsConnected w call.connection then .waiting
        else .returned gattlibSuccess)
    else none
  | .wake _ => if call.pc = .waiting then some .checking else none
  | .expire _ => if call.pc = .waiting then some (.returned gattlibTimeout) else none
  | .device _ | .disconnect _ => none

def stepCall (s : Waiting) (i : Nat) (e : WaitEvent) : Option Waiting :=
  s.calls[i]?.bind (fun call => (callStep s.core call e).map (fun pc =>
    { s with calls := s.calls.set i { call with pc := pc } }))

def waitStep (s : Waiting) : WaitEvent → Option Waiting
  | .device e => (deviceStep s.core e).map (fun core =>
      { core := core, calls := s.calls.map (noteFreed (frees s.core e)) })
  | .disconnect connection =>
    let r := gattlibDisconnect s.core connection
    if r.1 = gattlibSuccess then
      some { core := r.2, calls := s.calls ++ [{ connection := connection }] }
    else some { s with core := r.2 }
  | .check i => stepCall s i (.check i)
  | .wake i => stepCall s i (.wake i)
  | .expire i => stepCall s i (.expire i)

def Started (s : Waiting) : Prop := Opened s.core ∧ s.calls = []

/-- Success means that the connection has been freed, and is reported on nothing else. -/
structure WaitsFor (tr : List (Waiting × WaitEvent × Waiting)) (s : Waiting) : Prop where
  success : ∀ call ∈ s.calls, call.pc = .returned gattlibSuccess → call.freed = true
  timeout : ∀ call ∈ s.calls, ∀ ret, call.pc = .returned ret → call.freed = false →
    ret = gattlibTimeout
  disconnected : ∀ x ∈ tr, ∀ e c, x.2.1 = .device e → frees x.1.core e = some c →
    stateOf x.2.2.core c = .disconnected

/-- No call looks at its device while it is DISCONNECTING and nothing has freed it, and no
device that a call waits for is reported as added. -/
def Undisturbed (s : Waiting) : WaitEvent → Prop
  | .check i => ∀ call ∈ s.calls[i]?, call.freed = false →
      stateOf s.core call.connection ≠ .disconnecting
  | .device (.objectAdded a path o) => (o.proxy && o.address) = true →
      gattlibAdapterIsValid s.core a = true → ∀ call ∈ s.calls, isReturned call = false →
        call.freed = false → findDeviceWithDeviceId s.core a path ≠ some call.connection
  | _ => True

instance (s : Waiting) : (e : WaitEvent) → Decidable (Undisturbed s e)
  | .check i => inferInstanceAs (Decidable (∀ call ∈ s.calls[i]?, _ → _))
  | .device (.objectAdded _ _ _) =>
      inferInstanceAs (Decidable (_ → _ → ∀ call ∈ s.calls, _ → _ → _))
  | .device (.objectRemoved _ _) | .device (.propertiesChanged _ _ _ _ _)
  | .device (.connect _ _ _ _ _) | .device (.emit _ _ _) | .device (.propertyChange _)
  | .device (.stopConnect _) | .device (.disconnect _) | .device (.connectedThread _)
  | .device (.connectedReturns _) | .device (.registerOnDisconnect _ _)
  | .disconnect _ | .wake _ | .expire _ => instDecidableTrue

/-! A connection that has not been freed is CONNECTED or DISCONNECTING. -/

def Linked (w : World) (p : Nat) : Prop :=
  gattlibConnectionIsValid w p = true ∧ (stateOf w p = .connected ∨ stateOf w p = .disconnecting)

section

variable {w x u : World} {e : DeviceEvent} {c p : Nat} {d d' : Device}
  {l : Ledger ConnectionResource}

theorem linked_congr (hp : Linked w p) (hl : x.adapterList = w.adapterList)
    (hd : ∀ a, devicesOf x a = devicesOf w a) (hs : stateOf x p = stateOf w p) : Linked x p := by
  refine ⟨(valid_congr hl hd p).trans hp.1, ?_⟩
  rw [hs]
  exact hp.2

/-- A device is rewritten, in a world that has the same devices. -/
theorem linked_store (hp : Linked w p) (hl : u.adapterList = w.adapterList)
    (hd : ∀ a, devicesOf u a = devicesOf w a) (hm : u.devices = w.devices)
    (hk : w.devices.cell c = some d)
    (hs : p = c → d'.state = .connected ∨ d'.state = .disconnecting) :
    Linked (store u c d' l) p := by
  have hcell : (store u c d' l).devices.cell p = if p = c then some d' else u.devices.cell p :=
    store_cell (hm ▸ hk) p
  refine ⟨(valid_congr hl hd p).trans hp.1, ?_⟩
  unfold stateOf
  rw [hcell]
  by_cases hpc : p = c
  · rw [if_pos hpc]
    exact hs hpc
  · rw [if_neg hpc, hm]
    exact hp.2

theorem linked_known (hp : Linked w p) (hk : w.devices.cell p = some d) :
    d.state = .connected ∨ d.state = .disconnecting := by
  have hs := hp.2
  rw [stateOf, hk] at hs
  exact hs

/-- A DISCONNECTED device is another one. -/
theorem linked_ne (hp : Linked w p) (hk : w.devices.cell c = some d) (hs : d.state = .disconnected) :
    p ≠ c := by
  rintro rfl
  have hstate := linked_known hp hk
  rw [hs] at hstate
  rcases hstate with h | h
  · cases h
  · cases h

theorem linked_append (h : Sound w) (hp : Linked w p) {a : Nat} (ha : a ∈ w.adapterList) :
    Linked (appendDevice w a d) p := by
  obtain ⟨f, hf⟩ := valid_known h.wellFormed hp.1
  have hne : p ≠ w.devices.next := Nat.ne_of_lt (lt_next hf.cell)
  have hcell : (appendDevice w a d).devices.cell p = w.devices.cell p := alloc_ne _ _ hne
  refine ⟨(valid_append (h.wellFormed.live a ha) d hne).trans hp.1, ?_⟩
  unfold stateOf
  rw [hcell]
  exact hp.2

theorem linked_drop (hp : Linked w p) {a : Nat} (hne : p ≠ c) : Linked (dropDevice w a c) p := by
  refine ⟨(valid_drop_ne hne).trans hp.1, ?_⟩
  unfold stateOf
  rw [cell_drop_ne hne]
  exact hp.2

/-- A listed device outlives the threads that run its handler. -/
theorem linked_returns (h : Sound w) (hp : Linked w p) (hr : 0 < w.connectedRunning c) :
    Linked (connectedHandlerReturns w c) p := by
  obtain ⟨d, hd⟩ := alive_of_running h hr
  refine linked_congr hp (returns_list w c) (returns_devicesOf w c) ?_
  show stateOf (gattlibDeviceUnref w c) p = stateOf w p
  unfold stateOf
  by_cases hpc : p = c
  · subst p
    have hcount := h.counted c d hd
    rw [hp.1, if_pos rfl] at hcount
    rw [unref_cell hd, if_pos (by omega), hd]
    rfl
  · rw [unref_cell_ne w hpc]

theorem linked_attempted (hp : Linked w p) (hk : Known w c d) (hs : d.state = .disconnected)
    (connectCb userData : Nat) (o : ConnectOutcome) :
    Linked (attempted w c d connectCb userData o) p := by
  have hne := linked_ne hp hk.cell hs
  cases o with
  | noProxy error =>
    exact linked_store hp rfl (fun _ => rfl) rfl hk.cell (fun he => absurd he hne)
  | refused proxy error =>
    exact linked_store hp rfl (fun _ => rfl) rfl hk.cell (fun he => absurd he hne)
  | accepted proxy =>
    exact linked_store hp rfl (fun _ => rfl) rfl hk.cell (fun he => absurd he hne)

/-- A device event that leaves a connection alone. -/
def Spares (w : World) (p : Nat) : DeviceEvent → Prop
  | .objectAdded a path o => (o.proxy && o.address) = true → gattlibAdapterIsValid w a = true →
      findDeviceWithDeviceId w a path ≠ some p
  | _ => True

theorem frees_dropped {o : ResolveOutcome} {rest : List Property} (hk : Known w c d)
    (he : w.emission = some ⟨c, .connected false, rest⟩) :
    frees w (.propertyChange o) = some c := by
  simp only [frees, he, known_valid hk, if_true]

theorem linked_change (h : Sound w) (hp : Linked w p) (hx : Change w e x) (hs : Spares w p e)
    (hf : frees w e ≠ some p) : Linked x p := by
  have hsame : ∀ {c d d' l}, Known w c d → d'.state = d.state → Linked (store w c d' l) p := by
    intro c d d' l hk hstate
    refine linked_store hp rfl (fun _ => rfl) rfl hk.cell (fun he => ?_)
    rw [hstate]
    exact linked_known (he ▸ hp) hk.cell
  cases hx with
  | nothing e => exact hp
  | appended he ha hn => exact linked_append h hp ha
  | @rediscovered c d id o hk hid ho =>
    have hfind := known_found h.wellFormed hk hid
    refine linked_store hp rfl (fun _ => rfl) rfl hk.cell (fun he => ?_)
    exact absurd (he ▸ hfind) (hs ho (known_adapterValid hk))
  | removed hk hid hd => exact linked_drop hp (linked_ne hp hk.cell hd)
  | failed hr => exact linked_congr hp rfl (fun _ => rfl) rfl
  | attempted hk hid hd => exact linked_attempted hp hk hd _ _ _
  | unmanaged hk he hm => exact hsame hk rfl
  | @resolved c d rest o hk he hm =>
    obtain ⟨adapters, hframe, _, hd⟩ := managed_frame w d.adapter o.manager
    refine linked_store hp ?_ hd ?_ hk.cell (fun _ => Or.inl rfl)
    · rw [hframe]
    · rw [hframe]
  | @dropped c d rest o hk he =>
    refine linked_store hp rfl (fun _ => rfl) rfl hk.cell (fun hpc => ?_)
    exact absurd (hpc ▸ frees_dropped hk he) hf
  | expired hk hl => exact hsame hk rfl
  | expiredStale hv hl => exact linked_congr hp rfl (fun _ => rfl) rfl
  | disconnecting hk hd =>
    exact linked_store hp rfl (fun _ => rfl) rfl hk.cell (fun _ => Or.inr rfl)
  | @referenced c d hk =>
    have hstored : Linked (store w c (referenced d) w.connectionLedger) p := hsame hk rfl
    exact hstored
  | dereferenced hr => exact linked_returns h hp hr
  | registered hk => exact hsame hk rfl

theorem linked_step {w' : World} (h : Sound w) (hp : Linked w p) (hs : deviceStep w e = some w')
    (hspare : Spares w p e) (hf : frees w e ≠ some p) : Linked w' p := by
  obtain ⟨x, em, cc, dc, hx, rfl⟩ := deviceStep_outcome h.wellFormed hs
  have hx' : Linked x p := linked_change h hp hx hspare hf
  exact hx'

/-- `gattlib_connection_free` leaves its device DISCONNECTED. -/
theorem frees_disconnected {w' : World} (h : Sound w) (hs : deviceStep w e = some w')
    (hf : frees w e = some c) : stateOf w' c = .disconnected := by
  cases e with
  | propertyChange o =>
    simp only [frees] at hf
    split at hf
    · next c' rest he =>
      obtain ⟨hv, hc⟩ := Option.ite_none_right_eq_some.mp hf
      cases hc
      obtain ⟨d, hk⟩ := valid_known h.wellFormed hv
      obtain ⟨em, hem, rfl⟩ := Option.map_eq_some_iff.mp hs
      rw [he] at hem
      cases hem
      show stateOf (gattlibOnDisconnectedDevice w c) c = .disconnected
      rw [onDisconnected_known h.wellFormed hk, stateOf, store_cell hk.cell, if_pos rfl]
      rfl
    · cases hf
  | objectAdded _ _ _ | objectRemoved _ _ | propertiesChanged _ _ _ _ _ | connect _ _ _ _ _
  | emit _ _ _ | stopConnect _ | disconnect _ | connectedThread _ | connectedReturns _
  | registerOnDisconnect _ _ => cases hf

end

/-! The calls that wait -/

/-- What is known of every call, in a run of undisturbed steps. -/
structure Watched (s : Waiting) : Prop where
  sound : Sound s.core
  linked : ∀ call ∈ s.calls, isReturned call = false → call.freed = false →
    Linked s.core call.connection
  answered : ∀ call ∈ s.calls, ∀ ret, call.pc = .returned ret → call.freed = false →
    ret = gattlibTimeout

section

variable {s s' : Waiting} {call : DisconnectCall} {o : Option Nat} {pc : WaitPc} {e : WaitEvent}

/-- A call that is not marked is as it was, and its connection has been left alone. -/
theorem noteFreed_kept (h : (noteFreed o call).freed = false) :
    noteFreed o call = call ∧ (isReturned call = false → o ≠ some call.connection) := by
  unfold noteFreed at h ⊢
  split at h
  · cases h
  · next hn =>
    rw [if_neg hn]
    exact ⟨rfl, fun hr ho => hn ⟨ho, hr⟩⟩

theorem callStep_running {w : World} (h : callStep w call e = some pc) : isReturned call = false := by
  unfold isReturned
  cases hpc : call.pc with
  | checking | waiting => rfl
  | returned ret =>
    cases e with
    | device e | disconnect c => cases h
    | check i | wake i | expire i =>
      simp only [callStep, hpc, reduceCtorEq, if_false] at h

/-- What a call answers when it returns. -/
theorem callStep_returned {w : World} {ret : Ret} (h : callStep w call e = some (.returned ret)) :
    ret = gattlibTimeout ∨
      gattlibConnectionIsConnected w call.connection = false ∧ ∃ i, e = .check i := by
  cases e with
  | device e | disconnect c => cases h
  | check i =>
    obtain ⟨_, h⟩ := Option.ite_none_right_eq_some.mp h
    cases hc : gattlibConnectionIsConnected w call.connection with
    | true =>
      rw [hc] at h
      cases h
    | false => exact Or.inr ⟨rfl, i, rfl⟩
  | wake i =>
    obtain ⟨_, h⟩ := Option.ite_none_right_eq_some.mp h
    cases h
  | expire i =>
    obtain ⟨_, h⟩ := Option.ite_none_right_eq_some.mp h
    cases h
    exact Or.inl rfl

theorem watched_call (h : Watched s) {i : Nat} (hs : stepCall s i e = some s')
    (hok : ∀ call ∈ s.calls[i]?, (∃ i, e = .check i) → call.freed = false →
      stateOf s.core call.connection ≠ .disconnecting) : Watched s' := by
  obtain ⟨call, hcall, hs⟩ := Option.bind_eq_some_iff.mp hs
  obtain ⟨pc, hpc, rfl⟩ := Option.map_eq_some_iff.mp hs
  have hm : call ∈ s.calls := List.mem_of_getElem? hcall
  have hrunning := callStep_running hpc
  refine ⟨h.sound, fun other ho hr hf => ?_, fun other ho ret hret hf => ?_⟩
  · rcases List.mem_or_eq_of_mem_set ho with ho | rfl
    · exact h.linked other ho hr hf
    · exact h.linked call hm hrunning hf
  · rcases List.mem_or_eq_of_mem_set ho with ho | rfl
    · exact h.answered other ho ret hret hf
    · have hret : pc = .returned ret := hret
      rw [hret] at hpc
      obtain htimeout | ⟨hc, hcheck⟩ := callStep_returned hpc
      · exact htimeout
      · obtain ⟨hv, hconnected | hdisconnecting⟩ := h.linked call hm hrunning hf
        · rw [(connected_iff _ _).mpr ⟨hv, hconnected⟩] at hc
          cases hc
        · exact absurd hdisconnecting (hok call hcall hcheck hf)

theorem watched_device (h : Watched s) {e : DeviceEvent} (hs : waitStep s (.device e) = some s')
    (hok : Undisturbed s (.device e)) : Watched s' := by
  obtain ⟨core, hcore, rfl⟩ := Option.map_eq_some_iff.mp hs
  refine ⟨deviceStep_sound h.sound hcore, fun other ho hr hf => ?_, fun other ho ret hret hf => ?_⟩
  · obtain ⟨call, hm, rfl⟩ := List.mem_map.mp ho
    obtain ⟨hsame, hleft⟩ := noteFreed_kept hf
    rw [hsame] at hr hf ⊢
    have hspare : Spares s.core call.connection e := by
      cases e with
      | objectAdded a path o => exact fun ho ha => hok ho ha call hm hr hf
      | objectRemoved _ _ | propertiesChanged _ _ _ _ _ | connect _ _ _ _ _ | emit _ _ _
      | propertyChange _ | stopConnect _ | disconnect _ | connectedThread _ | connectedReturns _
      | registerOnDisconnect _ _ => exact trivial
    exact linked_step h.sound (h.linked call hm hr hf) hcore hspare (hleft hr)
  · obtain ⟨call, hm, rfl⟩ := List.mem_map.mp ho
    obtain ⟨hsame, _⟩ := noteFreed_kept hf
    rw [hsame] at hret hf
    exact h.answered call hm ret hret hf

theorem watched_disconnect (h : Watched s) {c : Nat} (hs : waitStep s (.disconnect c) = some s') :
    Watched s' := by
  have hcore : deviceStep s.core (.disconnect c) = some (gattlibDisconnect s.core c).2 := rfl
  have hsound := deviceStep_sound h.sound hcore
  have hlinked : ∀ call ∈ s.calls, isReturned call = false → call.freed = false →
      Linked (gattlibDisconnect s.core c).2 call.connection := by
    intro call hm hr hf
    exact linked_step h.sound (h.linked call hm hr hf) hcore trivial (fun he => by cases he)
  unfold waitStep at hs
  dsimp only at hs
  split at hs
  · next hsuccess =>
    cases hs
    refine ⟨hsound, fun other ho hr hf => ?_, fun other ho ret hret hf => ?_⟩
    · rcases List.mem_append.mp ho with ho | ho
      · exact hlinked other ho hr hf
      · cases List.mem_singleton.mp ho
        cases hc : gattlibConnectionIsConnected s.core c with
        | false =>
          unfold gattlibDisconnect at hsuccess
          rw [hc] at hsuccess
          exact absurd hsuccess (show gattlibBusy ≠ gattlibSuccess by decide)
        | true =>
          obtain ⟨d, hk, _⟩ := connected_known h.sound.wellFormed hc
          show Linked (gattlibDisconnect s.core c).2 c
          rw [disconnect_known h.sound.wellFormed hk hc]
          refine ⟨known_valid (known_store hk rfl), Or.inr ?_⟩
          rw [stateOf, store_cell hk.cell, if_pos rfl]
          rfl
    · rcases List.mem_append.mp ho with ho | ho
      · exact h.answered other ho ret hret hf
      · cases List.mem_singleton.mp ho
        cases hret
  · cases hs
    exact ⟨hsound, hlinked, h.answered⟩

theorem watched_step (h : Watched s) (hok : Undisturbed s e) (hs : waitStep s e = some s') :
    Watched s' := by
  cases e with
  | device e => exact watched_device h hs hok
  | disconnect c => exact watched_disconnect h hs
  | check i => exact watched_call h hs (fun call hc _ => hok call hc)
  | wake i | expire i =>
    refine watched_call h hs (fun call _ he => ?_)
    obtain ⟨j, hj⟩ := he
    cases hj

theorem started_watched (h : Started s) : Watched s := by
  refine ⟨opened_sound h.1, fun call hm => ?_, fun call hm => ?_⟩
  · rw [h.2] at hm
    cases hm
  · rw [h.2] at hm
    cases hm

end

/-- In every undisturbed run, success means that the connection has been freed, and what is
not freed in time is reported as a timeout. -/
theorem waits_for {tr : List (Waiting × WaitEvent × Waiting)} {s : Waiting}
    (h : Run waitStep Started tr s) (hok : ∀ x ∈ tr, Undisturbed x.1 x.2.1) : WaitsFor tr s := by
  have hpres : Preserves waitStep Undisturbed Watched := fun _ _ _ hw ho hs => watched_step hw ho hs
  obtain ⟨hend, hsteps⟩ := run_steps (fun _ h => started_watched h) hpres h hok
  refine ⟨fun call hm hret => ?_, hend.answered, fun x hx e c he hf => ?_⟩
  · by_contra hfreed
    have hanswer := hend.answered call hm _ hret (Bool.eq_false_iff.mpr hfreed)
    exact absurd hanswer (by decide)
  · obtain ⟨hw, hs⟩ := hsteps x hx
    rw [he] at hs
    obtain ⟨core, hcore, hx'⟩ := Option.map_eq_some_iff.mp hs
    rw [← hx']
    exact frees_disconnected hw.sound hcore hf

def connectedEvents : List WaitEvent :=
  [.device (.objectAdded 0 devicePath answered),
    .device (.connect 0 devicePath 1 0 (.accepted 2)),
    .device (.emit 2 (.servicesResolved true) []),
    .device (.propertyChange ⟨some 1, true, true⟩),
    .disconnect 0]

def start : Waiting := { core := opened }

theorem start_started : Started start := ⟨opened_opened, rfl⟩

/-- The call looks at the state that it has just written. -/
theorem returns_early : ¬∀ (tr : List (Waiting × WaitEvent × Waiting)) (s : Waiting),
    Run waitStep Started tr s → WaitsFor tr s := by
  intro h
  have hstart : Run waitStep Started [] start := .start start_started
  have hexec : exec waitStep start (connectedEvents ++ [.check 0]) = some _ := rfl
  obtain ⟨tr, hrun, _⟩ := exec_run_from hstart hexec
  have hfreed := (h _ _ hrun).success _ List.mem_cons_self rfl
  cases hfreed

/-- The disconnection is signalled before the call looks at its device. -/
theorem waits_for_signal : ∃ tr s, WaitsFor tr s ∧
    s.calls = [⟨0, .returned gattlibSuccess, true⟩] := by
  have hstart : Run (guarded waitStep Undisturbed) Started [] start := .start start_started
  have hexec : exec (guarded waitStep Undisturbed) start (connectedEvents ++
      [.device (.emit 2 (.connected false) []), .device (.propertyChange ⟨none, false, false⟩),
        .check 0]) = some _ := rfl
  obtain ⟨tr, hrun, _⟩ := exec_run_from hstart hexec
  obtain ⟨hrun, hok⟩ := guarded_run hrun
  exact ⟨_, _, waits_for hrun hok, rfl⟩

end Gattlib.WaitingDisconnect
