import Gattlib.ClientReconnect

namespace Gattlib.ClientDiscovery

open Library.Transition Gattlib.Strings Gattlib.State
open Gattlib.Client (ApiCall ConnectionContext Answer ClientEvent clientStep timeoutArg addressArg)
open Gattlib.Scanner (ScannerEvent Installed scannerStep)

/-- What a discovery callback is given: a pointer to the context of a scan or to the
context of a connection. -/
inductive UserData
  | scanContext (k : Nat)
  | connectionContext (k : Nat)
  deriving DecidableEq

/-- A call of `functions->connect`, with the address of the event that it answers. -/
structure ConnectCall where
  addr : CString
  userData : UserData

/-- A call of `connect` that has begun its scan, with the context it has allocated. -/
structure Request where
  call : Nat
  address : CString
  context : Nat
  scan : Nat

/-- A client with the scanner it owns. -/
structure Impl where
  client : Client.Impl
  /-- `m_scanner` -/
  scanner : Scanner.Impl := {}
  requests : List Request := []
  connects : List ConnectCall := []

/-- The conversion of an `int32_t` to the `uint32_t` of `scan`. -/
def timeoutSec (api : ApiCall) : Nat := (timeoutArg api % 0x100000000).toNat

/-- `m_scanner->scan(timeout, address, onDeviceDiscoverConnect)` -/
def beginScan (s : Impl) (i : Nat) (c : Client.Call) (client : Client.Impl) : Option Impl :=
  (scannerStep s.scanner (.scan (timeoutSec c.api) (some (addressArg c.api)) true)).map (fun t =>
    { s with
      client := client
      scanner := t
      requests := ⟨i, addressArg c.api, s.client.contexts.next, s.scanner.nextCall⟩ :: s.requests })

/-- What the scan of a call of `connect` has returned or thrown. -/
def scanEnded (s : Impl) (i : Nat) (r : Scanner.ScanResult) : Bool :=
  s.requests.any (fun q => q.call = i && (s.scanner.calls q.scan).any (fun c => c.result = some r))

def callStep (s : Impl) (i : Nat) (a : Answer) (c : Client.Call) : Option Impl :=
  (clientStep s.client (.call i a)).bind (fun client =>
    match c.pc with
    | .allocating =>
      if a.allocated = .complete then beginScan s i c client else some { s with client := client }
    | .scanning => if scanEnded s i a.scan then some { s with client := client } else none
    | _ => some { s with client := client })

/-- `scan` passes its own context to the callback, whichever callback that is. -/
def userDataOf (h : Installed) : UserData := .scanContext h.scanData

/-- What the client does when the callback that it has installed is called, with whether the adapter is
NULL, and the address. -/
abbrev OnDiscover := Impl → Installed → Bool → CString → Impl

/-- `onDeviceDiscoverConnect` takes its user data for a context of a connection and calls
`connect` through the pointer it reads there, with the same user data. -/
def onDeviceDiscoverConnect (s : Impl) (h : Installed) (adapterNull : Bool) (addr : CString) : Impl :=
  if adapterNull then s else { s with connects := ⟨addr, userDataOf h⟩ :: s.connects }

/-- A thread that has got to its callback calls it. -/
def callDiscovered (onDiscover : OnDiscover) (s : Impl) : ScannerEvent → Impl
  | .discovery j adapterNull addr _ =>
    match s.scanner.discoveries j with
    | some (.called h) => if h.custom then onDiscover s h adapterNull addr else s
    | _ => s
  | _ => s

def scannerPart (onDiscover : OnDiscover) (s : Impl) : ScannerEvent → Option Impl
  | .scan _ _ _ => none
  | e => (scannerStep s.scanner e).map (fun t => { callDiscovered onDiscover s e with scanner := t })

inductive Event
  | client (e : ClientEvent)
  | scanner (e : ScannerEvent)

/-- Only `connect` begins a scan, and only the scanner calls the callback. -/
def stepWith (onDiscover : OnDiscover) (s : Impl) : Event → Option Impl
  | .client (.call i a) => (s.client.calls i).bind (callStep s i a)
  | .client (.discoverConnect _ _) => none
  | .client e => (clientStep s.client e).map (fun client => { s with client := client })
  | .scanner e => scannerPart onDiscover s e

def step : Impl → Event → Option Impl := stepWith onDeviceDiscoverConnect

def Constructed (s : Impl) : Prop :=
  ∃ client, Client.Constructed client ∧ s = { client := client }

/-- Every connection answers an event of a device that was asked for, with the context
allocated for it, and no two connections are made for one context. -/
structure ConnectsRight (s : Impl) : Prop where
  asked : ∀ call ∈ s.connects, ∃ q ∈ s.requests,
    call.addr = q.address ∧ call.userData = .connectionContext q.context
  once : ∀ k, (s.connects.filter (fun call => call.userData = .connectionContext k)).length ≤ 1

/-- The event is not delivered to `onDeviceDiscoverConnect`, or without an adapter. -/
def Undelivered (s : Impl) : Event → Prop
  | .scanner (.discovery j adapterNull _ _) =>
    ∀ h, s.scanner.discoveries j = some (.called h) → h.custom = true → adapterNull = true
  | _ => True

section

variable {s t : Impl} {e : Event} {tr : List (Impl × Event × Impl)}

theorem connects_callDiscovered (s : Impl) (e : ScannerEvent) :
    (callDiscovered onDeviceDiscoverConnect s e).connects = s.connects ∧ Undelivered s (.scanner e) ∨
      ∃ addr h, (callDiscovered onDeviceDiscoverConnect s e).connects = ⟨addr, userDataOf h⟩ :: s.connects ∧
        ¬Undelivered s (.scanner e) := by
  cases e with
  | discovery j adapterNull addr garbage =>
    simp only [callDiscovered, onDeviceDiscoverConnect]
    split
    · next h hj =>
      split
      · next hcustom =>
        cases adapterNull with
        | true => exact Or.inl ⟨rfl, fun _ _ _ => rfl⟩
        | false => exact Or.inr ⟨addr, h, rfl, fun hu => by cases hu h hj hcustom⟩
      · next hcustom =>
        refine Or.inl ⟨rfl, fun h' hj' hcustom' => ?_⟩
        rw [hj] at hj'
        cases hj'
        exact absurd hcustom' hcustom
    · next hnone => exact Or.inl ⟨rfl, fun h hj => absurd hj (hnone h)⟩
  | scan | check | prepare | launch | announce | enable | enabled | fail | wait | shutdown | leave
  | monitor | abortCheck | abortStore | discover => exact Or.inl ⟨rfl, trivial⟩

theorem connects_callStep {i : Nat} {a : Answer} {c : Client.Call}
    (hs : callStep s i a c = some t) : t.connects = s.connects := by
  obtain ⟨client, _, hs⟩ := Option.bind_eq_some_iff.mp hs
  split at hs
  · split at hs
    · obtain ⟨u, _, rfl⟩ := Option.map_eq_some_iff.mp hs
      rfl
    · cases hs
      rfl
  · simp only [Option.ite_none_right_eq_some] at hs
    obtain ⟨_, hs⟩ := hs
    cases hs
    rfl
  · cases hs
    rfl

/-- A step adds a connection exactly if it delivers an event. -/
theorem connects_step (hs : step s e = some t) :
    t.connects = s.connects ∧ Undelivered s e ∨
      ∃ addr h, t.connects = ⟨addr, userDataOf h⟩ :: s.connects ∧ ¬Undelivered s e := by
  cases e with
  | client e =>
    refine Or.inl ⟨?_, trivial⟩
    cases e with
    | call i a =>
      obtain ⟨c, _, hs⟩ := Option.bind_eq_some_iff.mp hs
      exact connects_callStep hs
    | discoverConnect => cases hs
    | api | deviceConnect | callback | mainLoop | core =>
      simp only [step, stepWith, Option.map_eq_some_iff] at hs
      obtain ⟨client, _, rfl⟩ := hs
      rfl
  | scanner e =>
    have hpart : ∃ u, t = { callDiscovered onDeviceDiscoverConnect s e with scanner := u } := by
      cases e with
      | scan => cases hs
      | check | prepare | launch | announce | enable | enabled | fail | wait | shutdown | leave
      | monitor | abortCheck | abortStore | discover | discovery =>
        simp only [step, stepWith, scannerPart, Option.map_eq_some_iff] at hs
        obtain ⟨u, _, rfl⟩ := hs
        exact ⟨u, rfl⟩
    obtain ⟨u, rfl⟩ := hpart
    exact connects_callDiscovered s e

/-- The connections of a run are made with contexts of scans. -/
theorem run_connects (h : Run step Constructed tr s) :
    (∀ call ∈ s.connects, ∃ k, call.userData = .scanContext k) ∧
      (s.connects = [] ↔ ∀ x ∈ tr, Undelivered x.1 x.2.1) := by
  induction h with
  | start h =>
    obtain ⟨client, _, rfl⟩ := h
    exact ⟨fun call hcall => absurd hcall List.not_mem_nil,
      fun _ x hx => absurd hx List.not_mem_nil, fun _ => rfl⟩
  | next _ hs ih =>
    rw [List.forall_mem_cons]
    obtain ⟨hmade, hnone⟩ := ih
    rcases connects_step hs with ⟨hsame, hun⟩ | ⟨addr, h, hnew, hdelivered⟩
    · rw [hsame]
      exact ⟨hmade, fun hn => ⟨hun, hnone.mp hn⟩, fun hall => hnone.mpr hall.2⟩
    · rw [hnew]
      refine ⟨List.forall_mem_cons.mpr ⟨⟨h.scanData, rfl⟩, hmade⟩, fun hn => ?_, fun hall => ?_⟩
      · cases hn
      · exact absurd hall.1 hdelivered

end

/-- The connections that `connect` makes are right exactly if it makes none: no event with
an adapter is delivered to its callback. -/
theorem connects_right {tr : List (Impl × Event × Impl)} {s : Impl}
    (h : Run step Constructed tr s) :
    ConnectsRight s ↔ ∀ x ∈ tr, Undelivered x.1 x.2.1 := by
  obtain ⟨hmade, hnone⟩ := run_connects h
  rw [← hnone]
  constructor
  · intro hright
    by_contra hne
    obtain ⟨call, hcall⟩ := List.exists_mem_of_ne_nil _ hne
    obtain ⟨q, _, _, hdata⟩ := hright.asked call hcall
    obtain ⟨k, hk⟩ := hmade call hcall
    rw [hk] at hdata
    cases hdata
  · intro hn
    constructor
    · rw [hn]
      exact fun call hcall => absurd hcall List.not_mem_nil
    · rw [hn]
      exact fun k => Nat.zero_le 1

def start : Impl := { client := ClientReconnect.start }

theorem start_constructed : Constructed start :=
  ⟨_, ClientReconnect.start_constructed, rfl⟩

/-- The address of a device that nobody has asked for. -/
def other : CString := ⟨[66, 48], by decide⟩

/-- A call of `connect` whose scan is enabled when a device is discovered. -/
def discovering (addr : CString) : List Event :=
  [.client (.api (.connect 10 ClientReconnect.remote)), .client (.call 0 {}), .client (.call 0 {}),
    .scanner (.check 0), .scanner (.prepare 0 .complete), .scanner (.launch 0 true),
    .scanner (.announce 0), .scanner (.enable 0 true), .scanner .discover,
    .scanner (.discovery 0 false addr false), .scanner (.discovery 0 false addr false)]

/-- The device that is discovered is not the one asked for, and is connected. -/
theorem other_connected : ¬∀ (tr : List (Impl × Event × Impl)) (s : Impl),
    Run step Constructed tr s → ConnectsRight s := by
  intro h
  have hstart : Run step Constructed [] start :=
    .start start_constructed
  obtain ⟨tr, hrun, _⟩ := run_exec hstart (discovering other) rfl
  obtain ⟨q, hq, haddr, _⟩ := (h _ _ hrun).asked _ List.mem_cons_self
  obtain rfl := List.mem_singleton.mp hq
  exact absurd haddr (by decide : other ≠ ClientReconnect.remote)

/-- An event without an adapter fails the connection attempt. -/
theorem connects_right_failed : ∃ tr s, Run step Constructed tr s ∧ ConnectsRight s ∧
    (s.scanner.calls 0).map Scanner.Call.pc = some .enabled := by
  have hstart : Run step Constructed [] start ∧ ∀ x ∈ ([] : List (Impl × Event × Impl)),
      Undelivered x.1 x.2.1 :=
    ⟨.start start_constructed, fun x hx => absurd hx List.not_mem_nil⟩
  have hbegun := run_next
    (e := Event.client (.api (.connect 10 ClientReconnect.remote))) hstart trivial rfl
  have hchecked := run_next (e := Event.client (.call 0 {})) hbegun trivial rfl
  have hscan := run_next (e := Event.client (.call 0 {})) hchecked trivial rfl
  have hcheck := run_next (e := Event.scanner (.check 0)) hscan trivial rfl
  have hprepare := run_next (e := Event.scanner (.prepare 0 .complete)) hcheck trivial rfl
  have hlaunch := run_next (e := Event.scanner (.launch 0 true)) hprepare trivial rfl
  have hannounce := run_next (e := Event.scanner (.announce 0)) hlaunch trivial rfl
  have henable := run_next (e := Event.scanner (.enable 0 true)) hannounce trivial rfl
  have hdiscover := run_next (e := Event.scanner .discover) henable trivial rfl
  have hcalled := run_next (e := Event.scanner (.discovery 0 true other false)) hdiscover
    (fun _ _ _ => rfl) rfl
  have hrun := run_next (e := Event.scanner (.discovery 0 true other false)) hcalled
    (fun _ _ _ => rfl) rfl
  exact ⟨_, _, hrun.1, (connects_right hrun.1).mpr hrun.2, rfl⟩

end Gattlib.ClientDiscovery
