import Gattlib.Subscriptions

namespace Gattlib.NotificationFacts

open Library.Memory Library.Resources Library.Transition Gattlib.State Gattlib.Registry
open Gattlib.Connection Gattlib.Adapters Gattlib.Uuids Gattlib.Notifications
open Gattlib.Subscriptions

/-- A handler of this kind is registered. -/
def Registered (s : Notified) (c : Nat) (kind : Kind) : Prop :=
  gattlibHasValidHandler (handlerOf s c kind).toHandler = true

instance (s : Notified) (c : Nat) (kind : Kind) : Decidable (Registered s c kind) :=
  inferInstanceAs (Decidable (_ = true))

/-- The checks a connected function makes before it looks for a value. -/
def Takes (s : Notified) (r : Entry Subscription) : Prop :=
  match r.kind.callback with
  | .onHandleCharacteristicIndication => Registered s r.owner .indication
  | _ => gattlibConnectionIsConnected s.world r.owner = true ∧ Registered s r.owner .notification

/-- The value a connected function finds in the changed properties. -/
def valueIn (callback : Callback) (changed : List ChangedProperty) : Option (List UInt8) :=
  match callback with
  | .onHandleBatteryLevelPropertyChange => (percentageOf changed).map (fun byte => [byte])
  | _ => valueOf changed

def uuidIn (callback : Callback) (text : List UInt8) : Option Uuid :=
  match callback with
  | .onHandleBatteryLevelPropertyChange => some mBatteryLevelUuid
  | _ => uuidOfText text

/-- The arguments a connected function makes of a value. -/
def argsOf (s : Notified) (r : Entry Subscription) (text data : List UInt8) : Value :=
  notificationDeviceThreadArgs s r.owner r.kind.start (uuidIn r.kind.callback text) data

/-- The value is queued in a pool. -/
def queued (s : Notified) (pool : Nat) (v : Value) : Notified :=
  { s with
    pools := modify s.pools pool (fun p => { p with queue := p.queue ++ [v] })
    received := s.received ++ [v] }

/-- The first of a queue has been taken. -/
def popped (s : Notified) (pool : Nat) (rest : List Value) : Notified :=
  { s with pools := modify s.pools pool (fun p => { p with queue := rest }) }

/-- The call of a handler by the worker of a pool. -/
def passOf (s : Notified) (p : Pool) (v : Value) (callback : Nat) : Pass where
  value := v
  kind := p.kind
  callback := callback
  userData := (handlerOf s p.connection p.kind).userData
  round := s.rounds v.connection

/-- What the worker of a pool does with the first of its queue. -/
inductive Worked (s : Notified) (pool : Nat) : Notified → Prop
  | dropped {p : Pool} {v : Value} {rest : List Value} (hp : s.pools.cell pool = some p)
      (hq : p.queue = v :: rest) (hc : gattlibConnectionIsConnected s.world v.connection = false) :
      Worked s pool (popped s pool rest)
  | crashed {p : Pool} {v : Value} {rest : List Value} (hp : s.pools.cell pool = some p)
      (hq : p.queue = v :: rest) (hn : ¬Registered s p.connection p.kind) :
      Worked s pool { popped s pool rest with aborted := true }
  | passed {p : Pool} {v : Value} {rest : List Value} {callback : Nat}
      (hp : s.pools.cell pool = some p) (hq : p.queue = v :: rest)
      (hc : gattlibConnectionIsConnected s.world v.connection = true)
      (hh : (handlerOf s p.connection p.kind).callback = some callback) :
      Worked s pool { popped s pool rest with passed := s.passed ++ [passOf s p v callback] }

/-- A step leaves the handlers, the queues and what has been passed alone. -/
structure Quiet (s t : Notified) : Prop where
  handlers : ∀ c kind, handlerOf t c kind = handlerOf s c kind
  pools : t.pools = s.pools
  received : t.received = s.received
  passed : t.passed = s.passed
  aborted : t.aborted = s.aborted

/-- Registered handlers have a pool of their own, and what is queued has been received. -/
structure PoolsOk (s : Notified) : Prop where
  ready : ∀ c kind, Registered s c kind → (handlerOf s c kind).threadPool.isSome = true
  own : ∀ c kind pool, (handlerOf s c kind).threadPool = some pool →
    ∃ p, s.pools.cell pool = some p ∧ p.connection = c ∧ p.kind = kind
  queues : ∀ pool p, s.pools.cell pool = some p → ∀ v ∈ p.queue,
    v ∈ s.received ∧ v.connection = p.connection
  numbers : s.received.map Value.number = List.range s.received.length

/-- The state after a registration that has passed its check. -/
def registered (s : Notified) (kind : Kind) (c : Nat) (handler : Option Nat) (userData : Nat) :
    Notified :=
  setHandler { s with pools := alloc s.pools { connection := c, kind } } c
    { callback := handler, userData, threadPool := some s.pools.next } kind

/-- All that a step can do to the handlers and to the queues. -/
inductive Moved (s : Notified) : NotifiedEvent → Notified → Prop
  | quiet {e : NotifiedEvent} {t : Notified} (h : Quiet s t) : Moved s e t
  | registered (kind : Kind) (c : Nat) (handler : Option Nat) (userData : Nat) (error : Bool) :
      Moved s (.register kind c handler userData error) (registered s kind c handler userData)
  | tripped {signal : Nat} {text data : List UInt8} {changed : List ChangedProperty}
      {r : Entry Subscription} (hf : find s.signals signal = some r) (ht : Takes s r)
      (hv : valueIn r.kind.callback changed = some data)
      (hp : (s.notification r.owner).threadPool = none) :
      Moved s (.valueChanged signal text changed) { s with aborted := true }
  | queued {signal pool : Nat} {text data : List UInt8} {changed : List ChangedProperty}
      {r : Entry Subscription} (hf : find s.signals signal = some r) (ht : Takes s r)
      (hv : valueIn r.kind.callback changed = some data)
      (hp : (s.notification r.owner).threadPool = some pool) :
      Moved s (.valueChanged signal text changed) (queued s pool (argsOf s r text data))
  | worked {pool : Nat} {t : Notified} (h : Worked s pool t) : Moved s (.worker pool) t

section

variable {s t : Notified} {r : Entry Subscription} {text data : List UInt8}
variable {changed : List ChangedProperty} {c pool : Nat}

theorem dispatch_ignored (h : ¬Takes s r ∨ valueIn r.kind.callback changed = none) :
    dispatch s r text changed = s := by
  obtain ⟨id, ⟨callback, start⟩, owner⟩ := r
  unfold dispatch
  cases callback with
  | onHandleCharacteristicPropertyChange =>
    dsimp only
    unfold onHandleCharacteristicPropertyChange
    split
    · rfl
    · next hc =>
      split
      · next hv =>
        have hvalue : valueOf changed = none :=
          h.resolve_left (fun hn => hn ⟨(Bool.not_eq_false _).mp hc, hv⟩)
        rw [hvalue]
      · rfl
  | onHandleCharacteristicIndication =>
    dsimp only
    unfold onHandleCharacteristicIndication
    split
    · next hv =>
      have hvalue : valueOf changed = none := h.resolve_left (fun hn => hn hv)
      rw [hvalue]
    · rfl
  | onHandleBatteryLevelPropertyChange =>
    dsimp only
    unfold onHandleBatteryLevelPropertyChange
    split
    · rfl
    · next hc =>
      split
      · next hv =>
        have hnone := h.resolve_left (fun hn => hn ⟨(Bool.not_eq_false _).mp hc, hv⟩)
        rw [Option.map_eq_none_iff.mp hnone]
      · rfl

theorem dispatch_taken (h : Takes s r) (hv : valueIn r.kind.callback changed = some data) :
    dispatch s r text changed = gattlibOnGattNotification s r.owner (argsOf s r text data) := by
  obtain ⟨id, ⟨callback, start⟩, owner⟩ := r
  unfold dispatch
  cases callback with
  | onHandleCharacteristicPropertyChange =>
    obtain ⟨hc, hv'⟩ := h
    have hvalue : valueOf changed = some data := hv
    have hvalid : gattlibHasValidHandler (s.notification owner).toHandler = true := hv'
    dsimp only at hc ⊢
    unfold onHandleCharacteristicPropertyChange
    rw [if_neg (by rw [hc]; decide), if_pos hvalid, hvalue]
    rfl
  | onHandleCharacteristicIndication =>
    have hvalue : valueOf changed = some data := hv
    have hvalid : gattlibHasValidHandler (s.indication owner).toHandler = true := h
    dsimp only
    unfold onHandleCharacteristicIndication
    rw [if_pos hvalid, hvalue]
    rfl
  | onHandleBatteryLevelPropertyChange =>
    obtain ⟨hc, hv'⟩ := h
    obtain ⟨byte, hbyte, rfl⟩ := Option.map_eq_some_iff.mp hv
    have hvalid : gattlibHasValidHandler (s.notification owner).toHandler = true := hv'
    dsimp only at hc ⊢
    unfold onHandleBatteryLevelPropertyChange
    rw [if_neg (by rw [hc]; decide), if_pos hvalid, hbyte]
    rfl

/-- A dispatched signal is ignored, trips the assertion, or has its value queued. -/
theorem dispatch_cases (s : Notified) (r : Entry Subscription) (text : List UInt8)
    (changed : List ChangedProperty) :
    dispatch s r text changed = s ∧ (¬Takes s r ∨ valueIn r.kind.callback changed = none) ∨
    ∃ data, Takes s r ∧ valueIn r.kind.callback changed = some data ∧
      ((s.notification r.owner).threadPool = none ∧
          dispatch s r text changed = { s with aborted := true } ∨
        ∃ pool, (s.notification r.owner).threadPool = some pool ∧
          dispatch s r text changed = queued s pool (argsOf s r text data)) := by
  by_cases ht : Takes s r
  · cases hv : valueIn r.kind.callback changed with
    | none => exact Or.inl ⟨dispatch_ignored (Or.inr hv), Or.inr rfl⟩
    | some data =>
      refine Or.inr ⟨data, ht, rfl, ?_⟩
      rw [dispatch_taken ht hv, gattlibOnGattNotification]
      cases hp : (s.notification r.owner).threadPool with
      | none => exact Or.inl ⟨rfl, rfl⟩
      | some pool => exact Or.inr ⟨pool, rfl, rfl⟩
  · exact Or.inl ⟨dispatch_ignored (Or.inl ht), Or.inl ht⟩

theorem worker_worked (hs : poolWorker s pool = some t) : Worked s pool t := by
  unfold poolWorker at hs
  split at hs
  · cases hs
  · next p hp =>
    split at hs
    · cases hs
    · next v rest hq =>
      rw [Option.some.injEq] at hs
      subst hs
      unfold gattlibNotificationDeviceThread
      split
      · next hc => exact .dropped hp hq hc
      · next hc =>
        dsimp only
        split
        · next hn =>
          refine .crashed hp hq (fun hr => ?_)
          have hnone : (handlerOf s p.connection p.kind).callback = none := by
            cases hk : p.kind <;> rw [hk] at hn <;> exact hn
          rw [Registered, gattlibHasValidHandler, hnone] at hr
          cases hr
        · next callback hh =>
          have hsome : (handlerOf s p.connection p.kind).callback = some callback := by
            cases hk : p.kind <;> rw [hk] at hh <;> exact hh
          have hpass := Worked.passed hp hq ((Bool.not_eq_false _).mp hc) hsome
          have huser : (handlerOf (popped s pool rest) p.connection p.kind).userData =
              (handlerOf s p.connection p.kind).userData := by
            cases p.kind <;> rfl
          rw [passOf, ← huser] at hpass
          exact hpass

/-! Registrations -/

theorem register_cases (kind : Kind) (c : Nat) (handler : Option Nat) (userData : Nat)
    (error : Bool) :
    (registerOf kind s c handler userData error).2 = s ∨
      (registerOf kind s c handler userData error).2 = registered s kind c handler userData := by
  have hregister : registerOf kind s c handler userData error =
      registerHandler s kind c handler userData error := by
    cases kind <;> rfl
  rw [hregister, registerHandler]
  split
  · exact Or.inl rfl
  · cases error <;> exact Or.inr rfl

theorem handlerOf_registered (kind : Kind) (c : Nat) (handler : Option Nat) (userData b : Nat)
    (k : Kind) :
    handlerOf (registered s kind c handler userData) b k =
      if b = c ∧ k = kind then { callback := handler, userData, threadPool := some s.pools.next }
      else handlerOf s b k := by
  by_cases hb : b = c
  · subst hb
    cases kind <;> cases k <;> simp [registered, setHandler, handlerOf]
  · cases kind <;> cases k <;> simp [registered, setHandler, handlerOf, hb]

theorem pools_registered (kind : Kind) (c : Nat) (handler : Option Nat) (userData : Nat) :
    (registered s kind c handler userData).pools = alloc s.pools { connection := c, kind } := by
  cases kind <;> rfl

theorem received_registered (kind : Kind) (c : Nat) (handler : Option Nat) (userData : Nat) :
    (registered s kind c handler userData).received = s.received := by
  cases kind <;> rfl

/-! The pools along a run -/

theorem poolsOk_congr (h : PoolsOk s) (hh : ∀ c kind, handlerOf t c kind = handlerOf s c kind)
    (hp : t.pools = s.pools) (hr : t.received = s.received) : PoolsOk t := by
  refine ⟨fun c kind hreg => ?_, fun c kind pool hpool => ?_, fun pool p hcell v hv => ?_, ?_⟩
  · rw [Registered, hh] at hreg
    rw [hh]
    exact h.ready c kind hreg
  · rw [hh] at hpool
    rw [hp]
    exact h.own c kind pool hpool
  · rw [hp] at hcell
    rw [hr]
    exact h.queues pool p hcell v hv
  · rw [hr]
    exact h.numbers

theorem poolsOk_registered (h : PoolsOk s) (kind : Kind) (c : Nat) (handler : Option Nat)
    (userData : Nat) : PoolsOk (registered s kind c handler userData) := by
  refine ⟨fun b k hreg => ?_, fun b k pool hpool => ?_, fun pool p hcell v hv => ?_, ?_⟩
  · rw [Registered, handlerOf_registered] at hreg
    rw [handlerOf_registered]
    split
    · rfl
    · next hne =>
      rw [if_neg hne] at hreg
      exact h.ready b k hreg
  · rw [handlerOf_registered] at hpool
    rw [pools_registered]
    split at hpool
    · next he =>
      obtain ⟨rfl, rfl⟩ := he
      rw [← Option.some.inj hpool]
      exact ⟨_, alloc_self .., rfl, rfl⟩
    · obtain ⟨p, hcell, hown⟩ := h.own b k pool hpool
      exact ⟨p, alloc_keeps hcell, hown⟩
  · rw [pools_registered] at hcell
    rw [received_registered]
    by_cases he : pool = s.pools.next
    · rw [he, alloc_self, Option.some.injEq] at hcell
      subst hcell
      cases hv
    · rw [alloc_ne _ _ he] at hcell
      exact h.queues pool p hcell v hv
  · rw [received_registered]
    exact h.numbers

/-- Queues of known pools are replaced, by lists of received values. -/
theorem poolsOk_queues (h : PoolsOk s) (hh : ∀ c kind, handlerOf t c kind = handlerOf s c kind)
    {f : Pool → List Value} (hp : t.pools = modify s.pools pool (fun p => { p with queue := f p }))
    (hmem : ∀ v ∈ s.received, v ∈ t.received) (hn : t.received.map Value.number =
      List.range t.received.length)
    (hf : ∀ p, s.pools.cell pool = some p → ∀ v ∈ f p,
      v ∈ t.received ∧ v.connection = p.connection) : PoolsOk t := by
  refine ⟨fun c kind hreg => ?_, fun c kind q hpool => ?_, fun q p hcell v hv => ?_, hn⟩
  · rw [Registered, hh] at hreg
    rw [hh]
    exact h.ready c kind hreg
  · rw [hh] at hpool
    obtain ⟨p, hcell, hown⟩ := h.own c kind q hpool
    rw [hp, modify_cell]
    split
    · next he =>
      rw [← he, hcell]
      exact ⟨_, rfl, hown⟩
    · exact ⟨p, hcell, hown⟩
  · rw [hp, modify_cell] at hcell
    split at hcell
    · obtain ⟨p', hp', rfl⟩ := Option.map_eq_some_iff.mp hcell
      exact hf p' hp' v hv
    · obtain ⟨hm, hc⟩ := h.queues q p hcell v hv
      exact ⟨hmem v hm, hc⟩

theorem poolsOk_queued (h : PoolsOk s) (hpool : (s.notification r.owner).threadPool = some pool) :
    PoolsOk (queued s pool (argsOf s r text data)) := by
  obtain ⟨p, hcell, hown, _⟩ := h.own r.owner .notification pool hpool
  refine poolsOk_queues h (fun c kind => ?_) rfl (fun v hv => List.mem_append_left _ hv) ?_ ?_
  · cases kind <;> rfl
  · have hnumber : (argsOf s r text data).number = s.received.length := rfl
    rw [queued, List.map_append, h.numbers, List.map_singleton, hnumber, List.length_append,
      List.length_singleton, List.range_succ]
  · intro p' hp' v hv
    rw [hcell, Option.some.injEq] at hp'
    subst hp'
    rcases List.mem_append.mp hv with hv | hv
    · obtain ⟨hm, hc⟩ := h.queues pool p hcell v hv
      exact ⟨List.mem_append_left _ hm, hc⟩
    · have hown' : (argsOf s r text data).connection = p.connection := hown.symm
      rw [List.mem_singleton.mp hv]
      exact ⟨List.mem_append_right _ (List.mem_singleton_self _), hown'⟩

theorem poolsOk_popped (h : PoolsOk s) {p : Pool} {v : Value} {rest : List Value}
    (hp : s.pools.cell pool = some p) (hq : p.queue = v :: rest) : PoolsOk (popped s pool rest) := by
  refine poolsOk_queues h (fun c kind => ?_) rfl (fun v hv => hv) h.numbers ?_
  · cases kind <;> rfl
  · intro p' hp' u hu
    rw [hp, Option.some.injEq] at hp'
    subst hp'
    exact h.queues pool p hp u (hq ▸ List.mem_cons_of_mem _ hu)

/-! Steps -/

theorem quiet_refl (s : Notified) : Quiet s s := ⟨fun _ _ => rfl, rfl, rfl, rfl, rfl⟩

theorem quiet_start (kind : Kind) (c : Nat) (uuid : Uuid) (o : StartOutcome) :
    Quiet s (startOf kind s c uuid o).2 := by
  have hchange := start_change (s := s) kind c uuid o
  generalize (startOf kind s c uuid o).1 = r at hchange
  generalize (startOf kind s c uuid o).2 = t at hchange ⊢
  cases hchange with
  | refused hr hp => exact quiet_refl s
  | unnoticed hc hp => exact quiet_refl s
  | unrecorded r hk hc hp => exact ⟨fun _ kind => by cases kind <;> rfl, rfl, rfl, rfl, rfl⟩
  | unannounced hr hk hid hc hp => exact ⟨fun _ kind => by cases kind <;> rfl, rfl, rfl, rfl, rfl⟩
  | recorded hk hid hp => exact ⟨fun _ kind => by cases kind <;> rfl, rfl, rfl, rfl, rfl⟩

theorem quiet_stop (kind : Kind) (c : Nat) (uuid : Uuid) (stopNotify : Option GError) :
    Quiet s (stopOf kind s c uuid stopNotify).2 := by
  rcases stop_cases (s := s) kind c uuid stopNotify with
    ⟨_, he, _⟩ | ⟨handle, _, _, he, _⟩
  · rw [he]
    exact quiet_refl s
  · rw [he]
    exact ⟨fun _ kind => by cases kind <;> rfl, rfl, rfl, rfl, rfl⟩

theorem quiet_follow (s : Notified) (e : SystemEvent) (w : World) : Quiet s (follow s e w) := by
  unfold follow
  cases freedConnection s.world e with
  | none => exact ⟨fun _ kind => by cases kind <;> rfl, rfl, rfl, rfl, rfl⟩
  | some c => exact ⟨fun _ kind => by cases kind <;> rfl, rfl, rfl, rfl, rfl⟩

theorem step_moved {e : NotifiedEvent} (hs : notifiedStep s e = some t) : Moved s e t := by
  simp only [notifiedStep, Option.ite_none_left_eq_some] at hs
  obtain ⟨_, hs⟩ := hs
  cases e with
  | library e =>
    obtain ⟨w, _, rfl⟩ := Option.map_eq_some_iff.mp hs
    exact .quiet (quiet_follow s e w)
  | register kind c handler userData error =>
    cases hs
    rcases register_cases (s := s) kind c handler userData error with he | he
    · rw [he]
      exact .quiet (quiet_refl s)
    · rw [he]
      exact .registered kind c handler userData error
  | start kind c uuid o =>
    cases hs
    exact .quiet (quiet_start kind c uuid o)
  | stop kind c uuid stopNotify =>
    cases hs
    exact .quiet (quiet_stop kind c uuid stopNotify)
  | valueChanged signal text changed =>
    obtain ⟨r, hf, rfl⟩ := Option.map_eq_some_iff.mp hs
    rcases dispatch_cases s r text changed with ⟨he, _⟩ | ⟨data, ht, hv, ⟨hp, he⟩ | ⟨pool, hp, he⟩⟩
    · rw [he]
      exact .quiet (quiet_refl s)
    · rw [he]
      exact .tripped hf ht hv hp
    · rw [he]
      exact .queued hf ht hv hp
  | worker pool => exact .worked (worker_worked hs)

theorem poolsOk_moved {e : NotifiedEvent} (h : PoolsOk s) (hm : Moved s e t) : PoolsOk t := by
  cases hm with
  | quiet hq => exact poolsOk_congr h hq.handlers hq.pools hq.received
  | registered kind c handler userData error => exact poolsOk_registered h kind c handler userData
  | tripped hf ht hv hp => exact poolsOk_congr h (fun _ kind => by cases kind <;> rfl) rfl rfl
  | queued hf ht hv hp => exact poolsOk_queued h hp
  | worked hw =>
    cases hw with
    | dropped hp hq hc => exact poolsOk_popped h hp hq
    | crashed hp hq hn =>
      exact poolsOk_congr (poolsOk_popped h hp hq) (fun _ kind => by cases kind <;> rfl) rfl rfl
    | passed hp hq hc hh =>
      exact poolsOk_congr (poolsOk_popped h hp hq) (fun _ kind => by cases kind <;> rfl) rfl rfl

theorem fresh_poolsOk (h : Fresh s) : PoolsOk s := by
  cases h
  refine ⟨fun c kind hreg => ?_, fun c kind pool hpool => ?_, fun pool p hcell => ?_, rfl⟩
  · cases kind <;> cases hreg
  · cases kind <;> cases hpool
  · cases hcell

end

end Gattlib.NotificationFacts
