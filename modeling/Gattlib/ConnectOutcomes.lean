import Gattlib.ClientDiscovery
import Gattlib.ConnectedContexts
import Gattlib.CustomScans

namespace Gattlib.ConnectOutcomes

open Library.Maps Library.Transition Gattlib.Strings Gattlib.State
open Gattlib.Client (ApiCall Answer CallResult ClientEvent clientStep finish setCall isConnected)
open Gattlib.Scanner (Installed ScannerEvent scannerStep)
open Gattlib.ClientDiscovery (Impl Request Event Constructed timeoutSec scanEnded callStep
  callDiscovered scannerPart stepWith start start_constructed)
open Gattlib.ClientContexts (step_stepped)
open Gattlib.ConnectedContexts (answerOf call_moved)
open Gattlib.CustomScans (Custom custom_scan_fruitless)

/-- The call of `connect` whose scan has allocated the context that a callback is given. -/
def requestOf (s : Impl) (h : Installed) : Option Request :=
  s.requests.find? (fun q => (s.scanner.calls q.scan).any (fun c => c.scanData = some h.scanData))

/-- `onDeviceDiscoverConnect` where it is given the context of the call. -/
def onDeviceDiscoverConnect (s : Impl) (h : Installed) (adapterNull : Bool) (_addr : CString) : Impl :=
  match requestOf s h with
  | none => s
  | some q =>
    { s with client := Client.beginCallback s.client (.discovered q.context adapterNull) }

/-- The client and its scanner, with every callback of a discovery given the context of the
call whose scan it belongs to. -/
def step : Impl → Event → Option Impl := stepWith onDeviceDiscoverConnect

/-- The scan of a call has been enabled, and its wait is not over. -/
def WindowOpen (s : Impl) (q : Request) : Prop :=
  ∃ c, s.scanner.calls q.scan = some c ∧ (c.pc = .enabled ∨ c.pc = .waiting)

/-- The callback is called for the device that the call has asked for. -/
def Discovered (x : Impl × Event × Impl) (q : Request) : Prop :=
  ∃ j h garbage, x.2.1 = .scanner (.discovery j false q.address garbage) ∧
    x.1.scanner.discoveries j = some (.called h) ∧ h.custom = true ∧ requestOf x.1 h = some q

/-- `functions->connect` returns GATTLIB_SUCCESS. -/
def Accepted (x : Impl × Event × Impl) (q : Request) : Prop :=
  ∃ j, x.2.1 = .client (.callback j gattlibSuccess) ∧
    x.1.client.callbacks j = some (.connecting q.context)

/-- An `onDeviceConnect` that has succeeded stores its connection. -/
def Answered (x : Impl × Event × Impl) (q : Request) : Prop :=
  ∃ e connection, x.2.1 = .client e ∧
    answerOf x.1.client e = some ⟨q.context, some connection, false⟩

/-- All that a call waits for has happened within its scan. -/
structure Established (tr : List (Impl × Event × Impl)) (q : Request) : Prop where
  discovered : ∃ x ∈ tr, WindowOpen x.1 q ∧ Discovered x q
  accepted : ∃ x ∈ tr, WindowOpen x.1 q ∧ Accepted x q
  answered : ∃ x ∈ tr, WindowOpen x.1 q ∧ Answered x q

/-- A step in which a call of `connect` with a timeout greater than zero returns or throws. -/
def ConnectEnds (x : Impl × Event × Impl) (i : Nat) (r : CallResult) : Prop :=
  ∃ c c' timeout address, x.1.client.calls i = some c ∧ c.result = none ∧
    x.2.2.client.calls i = some c' ∧ c'.api = .connect timeout address ∧ 0 < timeout ∧
    c'.result = some r

/-- A call that ends reports that it has connected if it has, and does not if no
`onDeviceConnect` has succeeded. -/
structure ReportsRight (tr : List (Impl × Event × Impl)) (x : Impl × Event × Impl) : Prop where
  connected : ∀ i r q, ConnectEnds x i r → q ∈ x.1.requests → q.call = i → Established tr q →
    r = .returned gattlibSuccess ∧ isConnected x.2.2.client = true
  unanswered : ∀ i r, ConnectEnds x i r →
    (∀ q ∈ x.1.requests, q.call = i → ∀ y ∈ tr, ¬Answered y q) → r ≠ .returned gattlibSuccess

/-- No call ends whose connection has been established within its scan. -/
def Unestablished (tr : List (Impl × Event × Impl)) (x : Impl × Event × Impl) : Prop :=
  ∀ i r q, ConnectEnds x i r → q ∈ x.1.requests → q.call = i → ¬Established tr q

/-- A call of `connect` has not got past its scan and has not returned GATTLIB_SUCCESS. -/
def Unsuccessful (c : Client.Call) : Prop :=
  ∀ timeout address, c.api = .connect timeout address → (c.pc = .checking ∨ c.pc = .allocating ∨
    c.pc = .scanning ∨ c.pc = .ended) ∧ c.result ≠ some (.returned gattlibSuccess)

/-- The scanner is one whose scans are all given a callback, and the client's calls show it. -/
structure Fruitless (s : Impl) : Prop where
  calls : ∀ i c, s.client.calls i = some c → Unsuccessful c
  scanner : Reach scannerStep Custom Scanner.Constructed s.scanner

section

variable {s t : Impl} {u v : Client.Impl} {i : Nat} {c c' : Client.Call} {a : Answer} {e : Event}
variable {tr : List (Impl × Event × Impl)}

/-! The calls of the client -/

theorem finish_unsuccessful {r : CallResult} (hv : v.calls = u.calls)
    (hr : r ≠ .returned gattlibSuccess) :
    ∃ c', (finish v i c r).calls = Function.update u.calls i (some c') ∧ Unsuccessful c' := by
  rw [finish]
  split
  · next hapi =>
    refine ⟨_, congrArg (Function.update · i _) hv, fun timeout address h => ?_⟩
    cases hapi.symm.trans h
  · refine ⟨_, congrArg (Function.update · i _) hv, fun _ _ _ => ⟨.inr (.inr (.inr rfl)), ?_⟩⟩
    exact fun h => hr (Option.some.inj h)
  · next hapi =>
    refine ⟨_, congrArg (Function.update · i _) hv, fun timeout address h => ?_⟩
    cases hapi.symm.trans h

theorem set_unsuccessful {pc : Client.CallPc} (hc : Unsuccessful c) (hv : v.calls = u.calls)
    (hpc : pc = .allocating ∨ pc = .scanning) :
    ∃ c', (setCall v i { c with pc := pc }).calls = Function.update u.calls i (some c') ∧
      Unsuccessful c' := by
  refine ⟨_, congrArg (Function.update · i _) hv, fun timeout address h => ⟨?_, ?_⟩⟩
  · rcases hpc with rfl | rfl
    · exact .inr (.inl rfl)
    · exact .inr (.inr (.inl rfl))
  · exact (hc timeout address h).2

theorem check_unsuccessful (hc : Unsuccessful c) :
    ∃ c', (Client.connectCheck u i c).calls = Function.update u.calls i (some c') ∧
      Unsuccessful c' := by
  rw [Client.connectCheck]
  split
  · exact finish_unsuccessful rfl (by decide)
  · split
    · exact finish_unsuccessful rfl (by decide)
    · exact set_unsuccessful hc rfl (.inl rfl)

theorem allocate_unsuccessful (hc : Unsuccessful c) (o : Client.Allocated) :
    ∃ c', (Client.connectAllocate u i c o).calls = Function.update u.calls i (some c') ∧
      Unsuccessful c' := by
  cases o with
  | noMemory => exact finish_unsuccessful rfl (by decide)
  | noAddress => exact finish_unsuccessful rfl (by decide)
  | complete => exact set_unsuccessful hc rfl (.inr rfl)

/-- The wait for the connection is never reached. -/
theorem scanned_unsuccessful {r : Scanner.ScanResult} (hr : r ≠ .returned gattlibSuccess) :
    ∃ c', (Client.connectScanned u i c r).calls = Function.update u.calls i (some c') ∧
      Unsuccessful c' := by
  cases r with
  | returned ret =>
    have hret : ret ≠ gattlibSuccess := fun h => hr (congrArg _ h)
    rw [Client.connectScanned, if_neg hret]
    exact finish_unsuccessful rfl (fun h => hret (CallResult.returned.inj h))
  | thrown => exact finish_unsuccessful rfl (fun h => CallResult.noConfusion h)

theorem call_unsuccessful (hc : Unsuccessful c)
    (hscan : c.pc = .scanning → a.scan ≠ .returned gattlibSuccess)
    (hs : Client.callStep u i c a c.pc = some v) :
    ∃ c', v.calls = Function.update u.calls i (some c') ∧ Unsuccessful c' := by
  cases hapi : c.api with
  | connect timeout address =>
    rcases (hc timeout address hapi).1 with hpc | hpc | hpc | hpc
    · rw [hpc] at hs
      cases hs
      exact check_unsuccessful hc
    · rw [hpc] at hs
      cases hs
      exact allocate_unsuccessful hc a.allocated
    · rw [hpc] at hs
      cases hs
      exact scanned_unsuccessful (hscan hpc)
    · rw [hpc] at hs
      cases hs
  | disconnect | shutdown =>
    obtain ⟨c', hv, hapi'⟩ := (call_moved hs).calls
    refine ⟨c', hv, fun timeout address h => ?_⟩
    rw [hapi', hapi] at h
    cases h

/-! The client and its scanner -/

theorem kept_calls (h : Fruitless s) (ht : t.client.calls = s.client.calls)
    (hscanner : Reach scannerStep Custom Scanner.Constructed t.scanner) : Fruitless t := by
  refine ⟨?_, hscanner⟩
  rw [ht]
  exact h.calls

theorem moved_calls (h : Fruitless s)
    (hscanner : Reach scannerStep Custom Scanner.Constructed t.scanner)
    (hc : ∃ c', t.client.calls = Function.update s.client.calls i (some c') ∧ Unsuccessful c') :
    Fruitless t := by
  obtain ⟨c', ht, hc'⟩ := hc
  refine ⟨fun j d hj => ?_, hscanner⟩
  rw [ht] at hj
  rcases update_some hj with ⟨_, rfl⟩ | ⟨_, hold⟩
  · exact hc'
  · exact h.calls j d hold

theorem scanEnded_unsuccessful (h : Fruitless s) {r : Scanner.ScanResult}
    (hr : scanEnded s i r = true) : r ≠ .returned gattlibSuccess := by
  rintro rfl
  obtain ⟨q, _, hq⟩ := List.any_eq_true.mp hr
  obtain ⟨_, hscan⟩ := Bool.and_eq_true_iff.mp hq
  obtain ⟨d, hd, hresult⟩ := (Option.any_eq_true ..).mp hscan
  exact custom_scan_fruitless h.scanner hd (of_decide_eq_true hresult)

theorem call_fruitless (h : Fruitless s) (hi : s.client.calls i = some c)
    (hs : callStep s i a c = some t) : Fruitless t := by
  obtain ⟨v, hv, hs⟩ := Option.bind_eq_some_iff.mp hs
  obtain ⟨d, hd, hv⟩ := Option.bind_eq_some_iff.mp hv
  rw [hi] at hd
  cases hd
  have hc := h.calls i c hi
  split at hs
  · next hpc =>
    have hcalls := call_unsuccessful hc (fun hpc' => by rw [hpc] at hpc'; cases hpc') hv
    split at hs
    · obtain ⟨x, hx, rfl⟩ := Option.map_eq_some_iff.mp hs
      have hok : Custom s.scanner
          (.scan (timeoutSec c.api) (some (Client.addressArg c.api)) true) := rfl
      exact moved_calls h (.next h.scanner hok hx) hcalls
    · cases hs
      exact moved_calls h h.scanner hcalls
  · next hpc =>
    obtain ⟨hended, hs⟩ := Option.ite_none_right_eq_some.mp hs
    cases hs
    exact moved_calls h h.scanner
      (call_unsuccessful hc (fun _ => scanEnded_unsuccessful h hended) hv)
  · next hpc =>
    cases hs
    exact moved_calls h h.scanner (call_unsuccessful hc (fun hpc' => absurd hpc' hpc) hv)

theorem begin_fruitless (h : Fruitless s) (api : ApiCall) :
    Fruitless { s with client := Client.beginCall s.client api } := by
  refine moved_calls h h.scanner (i := s.client.nextCall) ⟨_, rfl, fun timeout address hapi => ?_⟩
  have hapi : api = .connect timeout address := hapi
  subst hapi
  exact ⟨.inl rfl, fun hresult => by cases hresult⟩

theorem callDiscovered_calls (s : Impl) (e : ScannerEvent) :
    (callDiscovered onDeviceDiscoverConnect s e).client.calls = s.client.calls := by
  cases e with
  | discovery j adapterNull addr garbage =>
    rw [callDiscovered]
    split
    · split
      · rw [onDeviceDiscoverConnect]
        split
        · rfl
        · rfl
      · rfl
    · rfl
  | scan | check | prepare | launch | announce | enable | enabled | fail | wait | shutdown | leave
  | monitor | abortCheck | abortStore | discover => rfl

theorem client_fruitless (h : Fruitless s) {e : ClientEvent}
    (hs : step s (.client e) = some t) : Fruitless t := by
  cases e with
  | api api =>
    cases hs
    exact begin_fruitless h api
  | call i a =>
    obtain ⟨c, hi, hs⟩ := Option.bind_eq_some_iff.mp hs
    exact call_fruitless h hi hs
  | discoverConnect => cases hs
  | deviceConnect | callback | mainLoop | core =>
    obtain ⟨v, hv, rfl⟩ := Option.map_eq_some_iff.mp hs
    cases step_stepped hv with
    | outside hc _ _ _ _ => exact kept_calls h hc h.scanner

theorem scannerPart_some {e : ScannerEvent} (hs : scannerPart onDeviceDiscoverConnect s e = some t) :
    Custom s.scanner e ∧ ∃ x, scannerStep s.scanner e = some x ∧
      t = { callDiscovered onDeviceDiscoverConnect s e with scanner := x } := by
  cases e with
  | scan => cases hs
  | check | prepare | launch | announce | enable | enabled | fail | wait | shutdown | leave
  | monitor | abortCheck | abortStore | discover | discovery =>
    simp only [scannerPart, Option.map_eq_some_iff] at hs
    obtain ⟨x, hx, rfl⟩ := hs
    exact ⟨trivial, x, hx, rfl⟩

theorem scanner_fruitless (h : Fruitless s) {e : ScannerEvent}
    (hs : scannerPart onDeviceDiscoverConnect s e = some t) : Fruitless t := by
  obtain ⟨hok, x, hx, rfl⟩ := scannerPart_some hs
  exact kept_calls h (callDiscovered_calls s e) (.next h.scanner hok hx)

theorem step_fruitless (h : Fruitless s) (hs : step s e = some t) : Fruitless t := by
  cases e with
  | client e => exact client_fruitless h hs
  | scanner e => exact scanner_fruitless h hs

theorem constructed_fruitless (h : Constructed s) : Fruitless s := by
  obtain ⟨_, ⟨core, adapter, _, _, rfl⟩, rfl⟩ := h
  refine ⟨fun i c hc => ?_, .start rfl⟩
  cases hc

/-- No call of `connect` ends with GATTLIB_SUCCESS. -/
theorem ends_unsuccessful (h : Fruitless t) {i : Nat} {r : CallResult}
    (hends : ConnectEnds (s, e, t) i r) : r ≠ .returned gattlibSuccess := by
  obtain ⟨_, c', timeout, address, _, _, hc', hapi, _, hresult⟩ := hends
  rintro rfl
  exact (h.calls i c' hc' timeout address hapi).2 hresult

/-- Nothing is established while no callback takes a step. -/
theorem unestablished_throughout (h : ∀ x ∈ tr, ∀ j ret, x.2.1 ≠ .client (.callback j ret)) :
    Throughout Unestablished tr := by
  induction tr with
  | nil => trivial
  | cons x tr ih =>
    obtain ⟨_, h⟩ := List.forall_mem_cons.mp h
    refine ⟨fun i r q _ _ _ hestablished => ?_, ih h⟩
    obtain ⟨y, hy, _, j, hj, _⟩ := hestablished.accepted
    exact h y hy j _ hj

end

/-- The calls of `connect` of a run report right exactly if none of them ends whose connection
has been established within its scan. -/
theorem reports_right {tr : List (Impl × Event × Impl)} {s : Impl}
    (h : Run step Constructed tr s) : Throughout ReportsRight tr ↔ Throughout Unestablished tr := by
  refine (throughout_iff (I := fun _ => Fruitless) (fun _ => constructed_fruitless)
    (fun _ _ _ _ hheld _ hs => step_fruitless hheld hs) (fun tr s e t hheld hs => ?_) h).1
  have ht := step_fruitless hheld hs
  constructor
  · intro hright i r q hends hq hi hestablished
    exact ends_unsuccessful ht hends (hright.connected i r q hends hq hi hestablished).1
  · intro hun
    refine ⟨fun i r q hends hq hi hestablished => ?_, fun i r hends _ => ?_⟩
    · exact absurd hestablished (hun i r q hends hq hi)
    · exact ends_unsuccessful ht hends

/-- A call of `connect` whose scan waits. -/
def waitingEvents : List Event :=
  [.client (.api (.connect 10 ClientReconnect.remote)), .client (.call 0 {}), .client (.call 0 {}),
    .scanner (.check 0), .scanner (.prepare 0 .complete), .scanner (.launch 0 true),
    .scanner (.announce 0), .scanner (.enable 0 true), .scanner (.enabled 0 gattlibSuccess)]

/-- The scan waits till its time is over. -/
def expiringEvents : List Event :=
  [.scanner (.wait 0 true), .scanner (.shutdown 0 {}), .scanner (.shutdown 0 {}),
    .scanner (.shutdown 0 {}), .scanner (.shutdown 0 {}), .scanner (.shutdown 0 {}),
    .scanner (.shutdown 0 {}), .scanner (.shutdown 0 {}), .scanner (.shutdown 0 {}),
    .scanner (.shutdown 0 {}), .scanner (.monitor 0), .scanner (.leave 0)]

/-- The client connects to the device while its scan waits, and `connect` returns the timeout
of the scan. -/
theorem connected_timeout : ¬∀ (tr : List (Impl × Event × Impl)) (s : Impl),
    Run step Constructed tr s → Throughout ReportsRight tr := by
  intro h
  have hstart : Run step Constructed [] start := .start start_constructed
  obtain ⟨_, hwaiting, _⟩ := run_exec hstart (waitingEvents ++
    [.scanner .discover, .scanner (.discovery 0 false ClientReconnect.remote false)]) rfl
  have hdiscovered := Run.next
    (e := .scanner (.discovery 0 false ClientReconnect.remote false)) hwaiting rfl
  have hlocked := Run.next (e := .client (.callback 0 gattlibSuccess)) hdiscovered rfl
  have haccepted := Run.next (e := .client (.callback 0 gattlibSuccess)) hlocked rfl
  have hcalled := Run.next (e := .client (.deviceConnect (Client.contextPtr 0)
    { dst := ClientReconnect.remote, connection := some 0 } ClientReconnect.remote)) haccepted rfl
  have hanswered := Run.next (e := .client (.callback 1 gattlibSuccess)) hcalled rfl
  have hregistered := Run.next (e := .client (.callback 1 gattlibSuccess)) hanswered rfl
  obtain ⟨tr', hexpired, _⟩ := run_exec hregistered expiringEvents rfl
  have hended := Run.next
    (e := .client (.call 0 { scan := .returned gattlibTimeout })) hexpired rfl
  have hreport := (h _ _ hended).1.connected 0 (.returned gattlibTimeout)
    ⟨0, ClientReconnect.remote, 0, 0⟩
    ⟨_, _, 10, ClientReconnect.remote, rfl, rfl, rfl, rfl, by decide, rfl⟩ List.mem_cons_self rfl
  refine absurd (hreport ⟨?_, ?_, ?_⟩).1 (by decide)
  · exact ⟨_, List.mem_append_right tr' (.tail _ (.tail _ (.tail _ (.tail _ (.tail _ (.head _)))))),
      ⟨_, rfl, .inr rfl⟩, ⟨0, _, false, rfl, rfl, rfl, rfl⟩⟩
  · exact ⟨_, List.mem_append_right tr' (.tail _ (.tail _ (.tail _ (.head _)))),
      ⟨_, rfl, .inr rfl⟩, ⟨0, rfl, rfl⟩⟩
  · exact ⟨_, List.mem_append_right tr' (.tail _ (.head _)), ⟨_, rfl, .inr rfl⟩, ⟨_, 0, rfl, rfl⟩⟩

/-- The device is not discovered. -/
theorem undiscovered_timeout : ∃ tr s, Run step Constructed tr s ∧ Throughout ReportsRight tr ∧
    (s.client.calls 0).bind Client.Call.result = some (.returned gattlibTimeout) := by
  have hstart : Run step Constructed [] start := .start start_constructed
  obtain ⟨tr, hended, hevents⟩ := run_exec hstart (waitingEvents ++ expiringEvents ++
    [.client (.call 0 { scan := .returned gattlibTimeout })]) rfl
  refine ⟨_, _, hended, (reports_right hended).mpr (unestablished_throughout ?_), rfl⟩
  intro x hx j ret he
  rw [List.append_nil] at hx
  have hmem := List.mem_reverse.mpr (List.mem_map_of_mem (f := fun x => x.2.1) hx)
  rw [hevents, he] at hmem
  simp [waitingEvents, expiringEvents] at hmem

end Gattlib.ConnectOutcomes
