import Gattlib.NotificationFacts
import Mathlib.Data.List.Perm.Subperm
import Mathlib.Data.List.Sort

namespace Gattlib.NotificationOrder

open Library.Memory Library.Resources Library.Transition Gattlib.State Gattlib.Registry
open Gattlib.Connection Gattlib.Adapters Gattlib.Uuids Gattlib.Notifications
open Gattlib.NotificationFacts

/-- The values passed to the notification handlers of a connection, in that order. -/
def passedTo (s : Notified) (c : Nat) : List Value :=
  (s.passed.filter (fun x => x.kind == .notification && x.value.connection == c)).map Pass.value

/-- The values received from a connection, in that order. -/
def receivedFrom (s : Notified) (c : Nat) : List Value :=
  s.received.filter (fun v => v.connection == c)

/-- What has been passed is in the order of reception, has been passed once, and has
been passed in the round it was received in. -/
structure InOrder (s : Notified) : Prop where
  order : ∀ c, (passedTo s c).Sublist (receivedFrom s c)
  once : ∀ c, (passedTo s c).Nodup
  fresh : ∀ x ∈ s.passed, x.kind = .notification → x.value.round = x.round

/-- A step passes nothing, or one value of a device that is CONNECTED. -/
def PassesConnected (s t : Notified) : Prop :=
  t.passed = s.passed ∨ ∃ x, t.passed = s.passed ++ [x] ∧
    gattlibConnectionIsConnected s.world x.value.connection = true

/-- A pool whose device is CONNECTED is served only when the first of its queue was
received in this round and the other pools of the connection hold younger values. -/
def Orderly (s : Notified) : NotifiedEvent → Prop
  | .worker pool => ∀ p ∈ s.pools.cell pool, ∀ v ∈ p.queue.head?,
      gattlibConnectionIsConnected s.world v.connection = true →
        v.round = s.rounds v.connection ∧ ∀ q p', s.pools.cell q = some p' → q ≠ pool →
          p'.connection = p.connection → ∀ u ∈ p'.queue, v.number < u.number
  | _ => True

def Earlier (u v : Value) : Prop := u.number < v.number

instance : Std.Antisymm Earlier := ⟨fun _ _ h h' => absurd h (Nat.lt_asymm h')⟩

/-- All that has been passed to a connection is older than all that waits for it. -/
structure Lined (s : Notified) : Prop where
  pools : PoolsOk s
  queues : ∀ pool p, s.pools.cell pool = some p → p.queue.Pairwise Earlier
  passed : ∀ c, (passedTo s c).Pairwise Earlier
  ahead : ∀ x ∈ s.passed, ∀ pool p, s.pools.cell pool = some p → ∀ u ∈ p.queue,
    u.connection = x.value.connection → Earlier x.value u
  received : ∀ x ∈ s.passed, x.value ∈ s.received
  fresh : ∀ x ∈ s.passed, x.value.round = x.round

section

variable {s t : Notified} {c pool : Nat} {p : Pool} {u v : Value} {rest : List Value}

theorem received_lt (h : PoolsOk s) (hv : v ∈ s.received) : v.number < s.received.length := by
  have hnumber : v.number ∈ s.received.map Value.number := List.mem_map_of_mem hv
  rw [h.numbers] at hnumber
  exact List.mem_range.mp hnumber

theorem received_sorted (h : PoolsOk s) : s.received.Pairwise Earlier := by
  have hsorted := List.pairwise_lt_range (n := s.received.length)
  rw [← h.numbers, List.pairwise_map] at hsorted
  exact hsorted

theorem passed_connection (hv : v ∈ passedTo s c) :
    v.connection = c ∧ ∃ x ∈ s.passed, x.value = v := by
  obtain ⟨x, hx, rfl⟩ := List.mem_map.mp hv
  obtain ⟨hm, hx⟩ := List.mem_filter.mp hx
  simp only [Bool.and_eq_true, beq_iff_eq] at hx
  exact ⟨hx.2, x, hm, rfl⟩

theorem lined_inOrder (h : Lined s) : InOrder s := by
  have hnodup : ∀ c, (passedTo s c).Nodup := fun c =>
    (h.passed c).imp (fun {u v} (hlt : u.number < v.number) he => Nat.lt_irrefl _ (he ▸ hlt))
  refine ⟨fun c => ?_, hnodup, fun x hx _ => h.fresh x hx⟩
  have hsubset : passedTo s c ⊆ receivedFrom s c := by
    intro v hv
    obtain ⟨hc, x, hx, rfl⟩ := passed_connection hv
    exact List.mem_filter.mpr ⟨h.received x hx, by rw [hc]; exact beq_self_eq_true c⟩
  exact List.sublist_of_subperm_of_pairwise (List.Nodup.subperm (hnodup c) hsubset) (h.passed c)
    ((received_sorted h.pools).filter _)

/-! Steps -/

theorem lined_quiet (h : Lined s) (hq : Quiet s t) : Lined t := by
  have hpassed : ∀ c, passedTo t c = passedTo s c := fun c => by rw [passedTo, hq.passed, passedTo]
  refine ⟨poolsOk_congr h.pools hq.handlers hq.pools hq.received, fun q p hp => ?_, fun c => ?_,
    fun x hx q p hp => ?_, fun x hx => ?_, fun x hx => ?_⟩
  · rw [hq.pools] at hp
    exact h.queues q p hp
  · rw [hpassed]
    exact h.passed c
  · rw [hq.passed] at hx
    rw [hq.pools] at hp
    exact h.ahead x hx q p hp
  · rw [hq.passed] at hx
    rw [hq.received]
    exact h.received x hx
  · rw [hq.passed] at hx
    exact h.fresh x hx

theorem lined_registered (h : Lined s) (kind : Kind) (c : Nat) (handler : Option Nat)
    (userData : Nat) : Lined (registered s kind c handler userData) := by
  have hpassed : (registered s kind c handler userData).passed = s.passed := by
    cases kind <;> rfl
  have hpassedTo : ∀ b, passedTo (registered s kind c handler userData) b = passedTo s b :=
    fun b => by rw [passedTo, hpassed, passedTo]
  have hcell : ∀ q p, (registered s kind c handler userData).pools.cell q = some p →
      p.queue = [] ∨ s.pools.cell q = some p := by
    intro q p hp
    rw [pools_registered] at hp
    by_cases he : q = s.pools.next
    · rw [he, alloc_self, Option.some.injEq] at hp
      exact Or.inl (hp ▸ rfl)
    · rw [alloc_ne _ _ he] at hp
      exact Or.inr hp
  refine ⟨poolsOk_registered h.pools kind c handler userData, fun q p hp => ?_, fun b => ?_,
    fun x hx q p hp u hu => ?_, fun x hx => ?_, fun x hx => ?_⟩
  · rcases hcell q p hp with hempty | hp
    · rw [hempty]
      exact List.Pairwise.nil
    · exact h.queues q p hp
  · rw [hpassedTo]
    exact h.passed b
  · rw [hpassed] at hx
    rcases hcell q p hp with hempty | hp
    · rw [hempty] at hu
      cases hu
    · exact h.ahead x hx q p hp u hu
  · rw [hpassed] at hx
    rw [received_registered]
    exact h.received x hx
  · rw [hpassed] at hx
    exact h.fresh x hx

/-- A value is queued behind everything received so far. -/
theorem lined_queued (h : Lined s) {r : Entry Subscription} {text data : List UInt8}
    (hp : (s.notification r.owner).threadPool = some pool) :
    Lined (queued s pool (argsOf s r text data)) := by
  have hlast : ∀ u ∈ s.received, Earlier u (argsOf s r text data) :=
    fun u hu => received_lt h.pools hu
  refine ⟨poolsOk_queued h.pools hp, fun q p hq => ?_, h.passed, fun x hx q p hq u hu hc => ?_,
    fun x hx => List.mem_append_left _ (h.received x hx), h.fresh⟩
  · rw [queued, modify_cell] at hq
    split at hq
    · obtain ⟨p', hp', rfl⟩ := Option.map_eq_some_iff.mp hq
      refine List.pairwise_append.mpr ⟨h.queues pool p' hp', List.pairwise_singleton _ _, ?_⟩
      intro u hu w hw
      rw [List.mem_singleton.mp hw]
      exact hlast u (h.pools.queues pool p' hp' u hu).1
    · exact h.queues q p hq
  · rw [queued, modify_cell] at hq
    split at hq
    · obtain ⟨p', hp', rfl⟩ := Option.map_eq_some_iff.mp hq
      rcases List.mem_append.mp hu with hu | hu
      · exact h.ahead x hx pool p' hp' u hu hc
      · rw [List.mem_singleton.mp hu]
        exact hlast _ (h.received x hx)
    · exact h.ahead x hx q p hq u hu hc

/-- What is in a queue after its first has been taken was in it before. -/
theorem popped_cell (hp : s.pools.cell pool = some p) {q : Nat} {p' : Pool}
    (hcell : (popped s pool rest).pools.cell q = some p') :
    q = pool ∧ p' = { p with queue := rest } ∨ q ≠ pool ∧ s.pools.cell q = some p' := by
  rw [popped, modify_cell] at hcell
  split at hcell
  · next he =>
    rw [hp, Option.map_some, Option.some.injEq] at hcell
    exact Or.inl ⟨he, hcell.symm⟩
  · next he => exact Or.inr ⟨he, hcell⟩

theorem lined_popped (h : Lined s) (hp : s.pools.cell pool = some p) (hq : p.queue = v :: rest) :
    Lined (popped s pool rest) := by
  have hsorted := h.queues pool p hp
  rw [hq] at hsorted
  refine ⟨poolsOk_popped h.pools hp hq, fun q p' hcell => ?_, h.passed,
    fun x hx q p' hcell u hu hc => ?_, h.received, h.fresh⟩
  · rcases popped_cell hp hcell with ⟨_, rfl⟩ | ⟨_, hcell⟩
    · exact hsorted.of_cons
    · exact h.queues q p' hcell
  · rcases popped_cell hp hcell with ⟨_, rfl⟩ | ⟨_, hcell⟩
    · exact h.ahead x hx pool p hp u (hq ▸ List.mem_cons_of_mem _ hu) hc
    · exact h.ahead x hx q p' hcell u hu hc

theorem passedTo_append (s : Notified) (x : Pass) (l : Heap Pool) (c : Nat) :
    passedTo { s with pools := l, passed := s.passed ++ [x] } c =
      if x.kind = .notification ∧ x.value.connection = c then passedTo s c ++ [x.value]
      else passedTo s c := by
  unfold passedTo
  rw [List.filter_append, List.map_append]
  by_cases hx : x.kind = .notification ∧ x.value.connection = c
  · simp [hx]
  · have hfalse : (x.kind == .notification && x.value.connection == c) = false := by
      rw [Bool.eq_false_iff]
      intro ht
      simp only [Bool.and_eq_true, beq_iff_eq] at ht
      exact hx ht
    rw [if_neg hx, List.filter_cons, hfalse]
    simp

/-- The first of a queue is passed in its turn. -/
theorem lined_passed (h : Lined s) (hp : s.pools.cell pool = some p) (hq : p.queue = v :: rest)
    {callback : Nat} (hround : v.round = s.rounds v.connection)
    (hyounger : ∀ q p', s.pools.cell q = some p' → q ≠ pool → p'.connection = p.connection →
      ∀ u ∈ p'.queue, Earlier v u) :
    Lined { popped s pool rest with passed := s.passed ++ [passOf s p v callback] } := by
  have hpopped := lined_popped h hp hq
  have hsorted := h.queues pool p hp
  rw [hq] at hsorted
  have hmem : v ∈ p.queue := hq ▸ List.mem_cons_self
  obtain ⟨hreceived, hown⟩ := h.pools.queues pool p hp v hmem
  have hpools := poolsOk_congr (t := { popped s pool rest with
    passed := s.passed ++ [passOf s p v callback] }) hpopped.pools
    (fun _ kind => by cases kind <;> rfl) rfl rfl
  refine ⟨hpools, hpopped.queues, fun c => ?_, fun x hx q p' hcell u hu hc => ?_, fun x hx => ?_,
    fun x hx => ?_⟩
  · have happend := passedTo_append s (passOf s p v callback) (popped s pool rest).pools c
    refine happend ▸ ?_
    split
    · next hc =>
      refine List.pairwise_append.mpr ⟨h.passed c, List.pairwise_singleton _ _, ?_⟩
      intro u hu w hw
      obtain ⟨huc, x, hx, rfl⟩ := passed_connection hu
      rw [List.mem_singleton.mp hw]
      exact h.ahead x hx pool p hp v hmem (hc.2.trans huc.symm)
    · exact h.passed c
  · rcases List.mem_append.mp hx with hx | hx
    · exact hpopped.ahead x hx q p' hcell u hu hc
    · rw [List.mem_singleton.mp hx] at hc ⊢
      rcases popped_cell hp hcell with ⟨_, rfl⟩ | ⟨hne, hcell⟩
      · exact (List.pairwise_cons.mp hsorted).1 u hu
      · have huown := (h.pools.queues q p' hcell u hu).2
        exact hyounger q p' hcell hne (huown.symm.trans (hc.trans hown)) u hu
  · rcases List.mem_append.mp hx with hx | hx
    · exact h.received x hx
    · rw [List.mem_singleton.mp hx]
      exact hreceived
  · rcases List.mem_append.mp hx with hx | hx
    · exact h.fresh x hx
    · rw [List.mem_singleton.mp hx]
      exact hround

theorem lined_moved {e : NotifiedEvent} (h : Lined s) (ho : Orderly s e) (hm : Moved s e t) :
    Lined t := by
  cases hm with
  | quiet hq => exact lined_quiet h hq
  | registered kind c handler userData error => exact lined_registered h kind c handler userData
  | tripped hf ht hv hp =>
    have hpools := poolsOk_congr (t := { s with aborted := true }) h.pools
      (fun _ kind => by cases kind <;> rfl) rfl rfl
    exact ⟨hpools, h.queues, h.passed, h.ahead, h.received, h.fresh⟩
  | queued hf ht hv hp => exact lined_queued h hp
  | @worked pool t hw =>
    cases hw with
    | dropped hp hq hc => exact lined_popped h hp hq
    | @crashed p v rest hp hq hn =>
      have hpopped := lined_popped h hp hq
      have hpools := poolsOk_congr (t := { popped s pool rest with aborted := true })
        hpopped.pools (fun _ kind => by cases kind <;> rfl) rfl rfl
      exact ⟨hpools, hpopped.queues, hpopped.passed, hpopped.ahead, hpopped.received,
        hpopped.fresh⟩
    | passed hp hq hc hh =>
      obtain ⟨hround, hyounger⟩ := ho _ hp _ (by rw [hq]; rfl) hc
      exact lined_passed h hp hq hround hyounger

theorem passesConnected_moved {e : NotifiedEvent} (hm : Moved s e t) : PassesConnected s t := by
  cases hm with
  | quiet hq => exact Or.inl hq.passed
  | registered kind c handler userData error =>
    refine Or.inl ?_
    cases kind <;> rfl
  | tripped hf ht hv hp => exact Or.inl rfl
  | queued hf ht hv hp => exact Or.inl rfl
  | worked hw =>
    cases hw with
    | dropped hp hq hc => exact Or.inl rfl
    | crashed hp hq hn => exact Or.inl rfl
    | passed hp hq hc hh => exact Or.inr ⟨_, rfl, hc⟩

theorem fresh_lined (h : Fresh s) : Lined s := by
  have hpools := fresh_poolsOk h
  cases h
  exact ⟨hpools, fun q p hp => (by cases hp), fun c => List.Pairwise.nil,
    fun x hx => (by cases hx), fun x hx => (by cases hx), fun x hx => (by cases hx)⟩

theorem lined_preserved : Preserves notifiedStep Orderly Lined :=
  fun _ _ _ h ho hs => lined_moved h ho (step_moved hs)

end

/-- In a run whose pools are served in the order of reception and within the round,
so are the handlers. -/
theorem notifications_in_order {tr : List (Notified × NotifiedEvent × Notified)} {s : Notified}
    (h : Run notifiedStep Fresh tr s) (ho : ∀ x ∈ tr, Orderly x.1 x.2.1) :
    ∀ x ∈ tr, InOrder x.2.2 ∧ PassesConnected x.1 x.2.2 := by
  obtain ⟨_, hsteps⟩ := run_steps (fun _ => fresh_lined) lined_preserved h ho
  intro x hx
  obtain ⟨hlined, hs⟩ := hsteps x hx
  exact ⟨lined_inOrder (lined_preserved _ _ _ hlined (ho x hx) hs),
    passesConnected_moved (step_moved hs)⟩

/-- A second registration makes a second pool, and the younger value is passed first. -/
theorem notifications_overtake : ¬∀ (tr : List (Notified × NotifiedEvent × Notified))
    (s : Notified), Run notifiedStep Fresh tr s →
      ∀ x ∈ tr, InOrder x.2.2 ∧ PassesConnected x.1 x.2.2 := by
  intro h
  obtain ⟨tr, hconnected, _⟩ := connected_run
  have hregister := Run.next (e := .register .notification 0 (some 8) 0 false) hconnected rfl
  have hstart := Run.next
    (e := .start .notification 0 (.uuid16 0x2A37) ⟨.gatt 1, true, true, none⟩) hregister rfl
  have hfirst := Run.next (e := .valueChanged 1 [] [.value [1]]) hstart rfl
  have hagain := Run.next (e := .register .notification 0 (some 8) 0 false) hfirst rfl
  have hsecond := Run.next (e := .valueChanged 1 [] [.value [2]]) hagain rfl
  have hyoung := Run.next (e := .worker 1) hsecond rfl
  have hrun := Run.next (e := .worker 0) hyoung rfl
  have horder := (h _ _ hrun _ List.mem_cons_self).1.order 0
  exact absurd horder (by decide)

/-- Two heart rate values are passed one after the other. -/
theorem notifications_in_order_heart : ∃ s, InOrder s ∧
    (passedTo s 0).map Value.data = [[72], [73]] := by
  obtain ⟨tr, hconnected, hlibrary⟩ := connected_run
  have hregister := Run.next (e := .register .notification 0 (some 8) 0 false) hconnected rfl
  have hstart := Run.next
    (e := .start .notification 0 (.uuid16 0x2A37) ⟨.gatt 1, true, true, none⟩) hregister rfl
  have hfirst := Run.next (e := .valueChanged 1 [] [.value [72]]) hstart rfl
  have hsecond := Run.next (e := .valueChanged 1 [] [.value [73]]) hfirst rfl
  have hpass := Run.next (e := .worker 0) hsecond rfl
  have hrun := Run.next (e := .worker 0) hpass rfl
  have hall := notifications_in_order hrun (by
    refine List.forall_mem_cons.mpr ⟨?_, List.forall_mem_cons.mpr ⟨?_, List.forall_mem_cons.mpr
      ⟨trivial, List.forall_mem_cons.mpr ⟨trivial, List.forall_mem_cons.mpr ⟨trivial,
        List.forall_mem_cons.mpr ⟨trivial, fun x hx => ?_⟩⟩⟩⟩⟩⟩
    · intro p hp v hv _
      cases hp
      cases hv
      exact ⟨rfl, fun q p' hcell hne => absurd (Nat.lt_one_iff.mp (lt_next hcell)) hne⟩
    · intro p hp v hv _
      cases hp
      cases hv
      exact ⟨rfl, fun q p' hcell hne => absurd (Nat.lt_one_iff.mp (lt_next hcell)) hne⟩
    · obtain ⟨e, he⟩ := hlibrary x hx
      rw [he]
      trivial)
  exact ⟨_, (hall _ List.mem_cons_self).1, rfl⟩

end Gattlib.NotificationOrder
