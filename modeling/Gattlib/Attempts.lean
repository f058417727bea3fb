import Gattlib.ConnectionResources

namespace Gattlib.Attempts

open Library.Memory Library.Resources Library.Transition Gattlib.Strings Gattlib.State
open Gattlib.Registry Gattlib.RegistryFacts Gattlib.Connection Gattlib.Events Gattlib.Effects
open Gattlib.Changes Gattlib.Invariants Gattlib.StateMachine Gattlib.ConnectionSlots
open Gattlib.ConnectionResources

/-- How often the handler of a call of `gattlib_connect` has been dispatched. -/
def reports (w : World) (call : Nat) : Nat := (w.dispatched.map Prod.fst).count call

/-- A device that is CONNECTING on behalf of a call. -/
def Pending (w : World) (call c : Nat) : Prop :=
  stateOf w c = .connecting ∧ attemptOf w c = call

/-- The timer of an attempt has expired, was removed or was never armed. -/
def Settled (w : World) (call : Nat) : Prop :=
  ∀ t, (call, t) ∈ w.armed → t ∈ w.connectionLedger.released

/-- No call and no handler is in progress. -/
structure Idle (w : World) : Prop where
  emission : w.emission = none
  created : ∀ c, w.connectedCreated c = 0
  running : ∀ c, w.connectedRunning c = 0

/-- Every attempt is answered at most once, and exactly once when it is over. -/
def OneOutcome (w : World) : Prop :=
  ∀ x ∈ w.attempts, reports w x.1 ≤ 1 ∧
    (Idle w → Settled w x.1 → ¬Pending w x.1 x.2 ∧ reports w x.1 = 1)

/-- Whether a resolution of the services ends in a dispatch of the handler. -/
def dispatches (w : World) (c : Nat) (o : ResolveOutcome) : Bool :=
  hasManager w (adapterOf w c) o.manager && gattlibHasValidHandler (onConnectionOf w c) && o.thread

/-- Every attempt gets a proxy, no timer expires and no link is lost while its
device is CONNECTING, services are resolved with a report in CONNECTING and
without one otherwise, and no CONNECTING device is reported as added. -/
def Prompt (w : World) : DeviceEvent → Prop
  | .connect a path _ _ (.noProxy _) => gattlibAdapterIsValid w a = true →
      gattlibDeviceGetState w a path ≠ .disconnected
  | .propertyChange o => ∀ em ∈ w.emission, gattlibConnectionIsValid w em.connection = true →
      (em.property = .connected false → stateOf w em.connection ≠ .connecting) ∧
      (em.property = .servicesResolved true →
        (stateOf w em.connection = .connecting ↔ dispatches w em.connection o = true))
  | .stopConnect t => ∀ r ∈ liveOfKind w t .connectionTimer, stateOf w r.owner ≠ .connecting
  | .objectAdded a path o => (o.proxy && o.address) = true → gattlibAdapterIsValid w a = true →
      gattlibDeviceGetState w a path ≠ .connecting
  | _ => True

instance (w : World) : (e : DeviceEvent) → Decidable (Prompt w e)
  | .connect _ _ _ _ (.noProxy _) => inferInstanceAs (Decidable (_ → _ ≠ _))
  | .propertyChange _ =>
      inferInstanceAs (Decidable (∀ em ∈ w.emission, _ → (_ → _ ≠ _) ∧ (_ → (_ ↔ _))))
  | .stopConnect t =>
      inferInstanceAs (Decidable (∀ r ∈ liveOfKind w t .connectionTimer, _ ≠ _))
  | .objectAdded _ _ _ => inferInstanceAs (Decidable (_ → _ → _ ≠ _))
  | .objectRemoved _ _ | .propertiesChanged _ _ _ _ _ | .connect _ _ _ _ (.refused _ _)
  | .connect _ _ _ _ (.accepted _) | .emit _ _ _ | .disconnect _
  | .connectedThread _ | .connectedReturns _ | .registerOnDisconnect _ _ => instDecidableTrue

/-- What a CONNECTING device waits with: an unanswered call and a live timer. -/
structure Waiting (w : World) (c : Nat) (d : Device) : Prop where
  valid : gattlibConnectionIsValid w c = true
  attempt : (d.connection.attempt, c) ∈ w.attempts
  silent : reports w d.connection.attempt = 0
  timer : ∃ t, held d.connection.backend .connectionTimer = some t ∧
    (d.connection.attempt, t) ∈ w.armed ∧ t ∉ w.connectionLedger.released

structure Answering (w : World) : Prop where
  numbered : ∀ r ∈ w.dispatched, r.1 < w.connectCalls
  ordered : ∀ x ∈ w.attempts, x.1 < w.connectCalls
  keys : (w.attempts.map Prod.fst).Nodup
  waiting : ∀ c d, w.devices.cell c = some d → d.state = .connecting → Waiting w c d
  answered : ∀ x ∈ w.attempts, reports w x.1 = 1 ∨ Pending w x.1 x.2

section

variable {w w' x W : World} {e : DeviceEvent} {c p : Nat} {d d' : Device}
  {l : Ledger ConnectionResource}

theorem pending_cell (hk : w.devices.cell c = some d) (call : Nat) :
    Pending w call c ↔ d.state = .connecting ∧ d.connection.attempt = call := by
  rw [Pending, stateOf, attemptOf, hk]
  rfl

theorem reports_cons (call : Nat) (r : Nat × Ret) (h : w'.dispatched = r :: w.dispatched) :
    reports w' call = reports w call + if r.1 = call then 1 else 0 := by
  rw [reports, reports, h, List.map_cons, List.count_cons]
  simp only [beq_iff_eq]

theorem reports_fresh (h : Answering w) {call : Nat} (hc : w.connectCalls ≤ call) :
    reports w call = 0 := by
  rw [reports, List.count_eq_zero]
  intro hm
  obtain ⟨r, hr, rfl⟩ := List.mem_map.mp hm
  exact Nat.lt_irrefl _ (Nat.lt_of_lt_of_le (h.numbered r hr) hc)

/-- An answer closes an attempt once and for all. -/
theorem reports_le (h : Answering w) (a : Nat × Nat) (ha : a ∈ w.attempts) :
    reports w a.1 ≤ 1 := by
  rcases h.answered a ha with hr | hp
  · exact Nat.le_of_eq hr
  · cases hc : w.devices.cell a.2 with
    | none =>
      rw [Pending, stateOf, hc] at hp
      cases hp.1
    | some d =>
      obtain ⟨hs, hatt⟩ := (pending_cell hc a.1).mp hp
      have hz := (h.waiting a.2 d hc hs).silent
      rw [hatt] at hz
      omega

theorem answering_oneOutcome (h : Answering w) : OneOutcome w := by
  intro a ha
  refine ⟨reports_le h a ha, fun _ hsettled => ?_⟩
  have hnot : ¬Pending w a.1 a.2 := by
    intro hp
    cases hc : w.devices.cell a.2 with
    | none =>
      rw [Pending, stateOf, hc] at hp
      cases hp.1
    | some d =>
      obtain ⟨hs, hatt⟩ := (pending_cell hc a.1).mp hp
      obtain ⟨t, _, harmed, hlive⟩ := (h.waiting a.2 d hc hs).timer
      rw [hatt] at harmed
      exact hlive (hsettled t harmed)
  exact ⟨hnot, (h.answered a ha).resolve_right hnot⟩

theorem attempt_unique (h : Answering w) {call c c' : Nat} (hc : (call, c) ∈ w.attempts)
    (hc' : (call, c') ∈ w.attempts) : c = c' :=
  congrArg Prod.snd (List.inj_on_of_nodup_map h.keys hc hc' rfl)

/-- A number that was acquired for one connection is not the timer of another. -/
theorem timer_ne (ho : Owned w.connectionLedger (slotsOf w)) (hp : p ≠ c)
    (hd : w.devices.cell p = some d) {t : Nat}
    (ht : held d.connection.backend .connectionTimer = some t) {k : ConnectionResource} {id : Nat}
    (hid : ⟨id, k, c⟩ ∈ w.connectionLedger.acquired) : t ≠ id := by
  rintro rfl
  have hmine := ho.held p .connectionTimer t (by rw [slotsOf_known hd, ht])
  exact hp (Entry.mk.inj (entry_ext hmine hid rfl)).2.2

/-- A step on one connection leaves the other CONNECTING devices waiting. -/
theorem waiting_others (h : Answering w) (ho : Owned w.connectionLedger (slotsOf w))
    (hk : Known W c d) (hdev : W.devices = w.devices)
    (hv : ∀ p, gattlibConnectionIsValid W p = gattlibConnectionIsValid w p)
    (hat : w.attempts ⊆ W.attempts) (har : w.armed ⊆ W.armed)
    (hrep : ∀ p f, p ≠ c → w.devices.cell p = some f → f.state = .connecting →
      reports W f.connection.attempt = reports w f.connection.attempt)
    (hrel : ∀ id ∈ l.released, id ∈ w.connectionLedger.released ∨
      (∃ k, ⟨id, k, c⟩ ∈ w.connectionLedger.acquired) ∨ w.connectionLedger.next ≤ id) :
    ∀ p f, p ≠ c → (store W c d' l).devices.cell p = some f → f.state = .connecting →
      Waiting (store W c d' l) p f := by
  intro p f hp hf hs
  rw [store_cell hk.cell, if_neg hp, hdev] at hf
  have hw := h.waiting p f hf hs
  obtain ⟨t, ht, harmed, hlive⟩ := hw.timer
  refine ⟨(hv p).trans hw.valid, hat hw.attempt, (hrep p f hp hf hs).trans hw.silent, t, ht,
    har harmed, fun hm => ?_⟩
  rcases hrel t hm with hm | ⟨k, hm⟩ | hm
  · exact hlive hm
  · exact timer_ne ho hp hf ht hm rfl
  · have hlt := owned_lt ho (o := p) (k := .connectionTimer) (by rw [slotsOf_known hf, ht])
    omega

theorem pending_others (hk : Known W c d) (hdev : W.devices = w.devices) {call : Nat} (hp : p ≠ c)
    (h : Pending w call p) : Pending (store W c d' l) call p := by
  rw [Pending, stateOf, attemptOf, store_cell hk.cell, if_neg hp, hdev]
  exact h

theorem pending_store (hk : Known W c d) (call : Nat) :
    Pending (store W c d' l) call c ↔ d'.state = .connecting ∧ d'.connection.attempt = call :=
  pending_cell (by rw [store_cell hk.cell, if_pos rfl]) call

/-- A step on a device that is not CONNECTING and does not become so. -/
theorem answering_silent (h : Answering w) (ho : Owned w.connectionLedger (slotsOf w))
    (hk : Known w c d) (hs : d.state ≠ .connecting) (hs' : d'.state ≠ .connecting)
    (hrel : ∀ id ∈ l.released, id ∈ w.connectionLedger.released ∨
      ∃ k, ⟨id, k, c⟩ ∈ w.connectionLedger.acquired) : Answering (store w c d' l) := by
  refine ⟨h.numbered, h.ordered, h.keys, fun p f hf hst => ?_, fun a ha => ?_⟩
  · by_cases hp : p = c
    · subst p
      rw [store_cell hk.cell, if_pos rfl, Option.some.injEq] at hf
      subst f
      exact absurd hst hs'
    · exact waiting_others h ho hk rfl (fun _ => rfl) (List.Subset.refl _) (List.Subset.refl _)
        (fun _ _ _ _ _ => rfl) (fun id hid => (hrel id hid).imp_right Or.inl) p f hp hf hst
  · rcases h.answered a ha with hr | hp
    · exact Or.inl hr
    · by_cases hac : a.2 = c
      · rw [hac, pending_cell hk.cell] at hp
        exact absurd hp.1 hs
      · exact Or.inr (pending_others hk rfl hac hp)

theorem answering_congr (h : Answering w) (hd : w'.devices = w.devices)
    (hv : ∀ p, gattlibConnectionIsValid w' p = gattlibConnectionIsValid w p)
    (hl : w'.connectionLedger = w.connectionLedger) (hat : w'.attempts = w.attempts)
    (har : w'.armed = w.armed) (hdi : w'.dispatched = w.dispatched)
    (hc : w.connectCalls ≤ w'.connectCalls) : Answering w' := by
  have hr : ∀ call, reports w' call = reports w call := fun call => by rw [reports, reports, hdi]
  refine ⟨fun r hr => ?_, fun a ha => ?_, hat ▸ h.keys, fun p f hf hst => ?_, fun a ha => ?_⟩
  · exact Nat.lt_of_lt_of_le (h.numbered r (hdi ▸ hr)) hc
  · exact Nat.lt_of_lt_of_le (h.ordered a (hat ▸ ha)) hc
  · rw [hd] at hf
    have hw := h.waiting p f hf hst
    obtain ⟨t, ht, harmed, hlive⟩ := hw.timer
    refine ⟨(hv p).trans hw.valid, hat ▸ hw.attempt, (hr _).trans hw.silent, t, ht, ?_, ?_⟩
    · rw [har]
      exact harmed
    · rw [hl]
      exact hlive
  · rw [hr, Pending, stateOf, attemptOf, hd]
    exact h.answered a (hat ▸ ha)

/-- A rewrite of a record that the attempts do not notice. -/
theorem answering_same (h : Answering w) (ho : Owned w.connectionLedger (slotsOf w))
    (hk : Known w c d) (hs : d'.state = d.state)
    (ha : d'.connection.attempt = d.connection.attempt)
    (hb : d'.connection.backend = d.connection.backend) :
    Answering (store w c d' w.connectionLedger) := by
  refine ⟨h.numbered, h.ordered, h.keys, fun p f hf hst => ?_, fun a hmem => ?_⟩
  · by_cases hp : p = c
    · subst p
      rw [store_cell hk.cell, if_pos rfl, Option.some.injEq] at hf
      subst f
      have hw := h.waiting c d hk.cell (hs ▸ hst)
      refine ⟨hw.valid, ha ▸ hw.attempt, ?_, ?_⟩
      · rw [ha]
        exact hw.silent
      · rw [ha, hb]
        exact hw.timer
    · exact waiting_others h ho hk rfl (fun _ => rfl) (List.Subset.refl _) (List.Subset.refl _)
        (fun _ _ _ _ _ => rfl) (fun id hid => Or.inl hid) p f hp hf hst
  · rcases h.answered a hmem with hr | hp
    · exact Or.inl hr
    · by_cases hac : a.2 = c
      · right
        rw [hac, pending_cell hk.cell] at hp
        rw [hac, pending_store hk, hs, ha]
        exact hp
      · exact Or.inr (pending_others hk rfl hac hp)

theorem answering_failed (h : Answering w) (r : Ret) :
    Answering { w with
      connectCalls := w.connectCalls + 1
      dispatched := (w.connectCalls, r) :: w.dispatched } := by
  have hr : ∀ a ∈ w.attempts, reports { w with
      connectCalls := w.connectCalls + 1
      dispatched := (w.connectCalls, r) :: w.dispatched } a.1 = reports w a.1 := by
    intro a ha
    rw [reports_cons (w := w) a.1 (w.connectCalls, r) rfl,
      if_neg (Nat.ne_of_gt (h.ordered a ha))]
    rfl
  refine ⟨fun q hq => ?_, fun a ha => ?_, h.keys, fun p f hf hst => ?_, fun a ha => ?_⟩
  · rcases List.mem_cons.mp hq with rfl | hq
    · exact Nat.lt_succ_self _
    · exact Nat.lt_succ_of_lt (h.numbered q hq)
  · exact Nat.lt_succ_of_lt (h.ordered a ha)
  · have hw := h.waiting p f hf hst
    exact ⟨hw.valid, hw.attempt, (hr _ hw.attempt).trans hw.silent, hw.timer⟩
  · rw [hr a ha]
    exact h.answered a ha

/-- A new attempt on a DISCONNECTED device, ending in `d'` and `l`. -/
theorem answering_attempt (h : Answering w) (ho : Owned w.connectionLedger (slotsOf w))
    (hk : Known W c d) (hs : d.state = .disconnected) (hdev : W.devices = w.devices)
    (hv : ∀ p, gattlibConnectionIsValid W p = gattlibConnectionIsValid w p)
    (hcalls : W.connectCalls = w.connectCalls + 1)
    (hat : W.attempts = (w.connectCalls, c) :: w.attempts) (har : w.armed ⊆ W.armed)
    (hdi : ∀ r ∈ W.dispatched, r.1 < W.connectCalls)
    (hrep : ∀ call, call < w.connectCalls → reports W call = reports w call)
    (hrel : ∀ id ∈ l.released, id ∈ w.connectionLedger.released ∨
      (∃ k, ⟨id, k, c⟩ ∈ w.connectionLedger.acquired) ∨ w.connectionLedger.next ≤ id)
    (hself : d'.state = .connecting → Waiting (store W c d' l) c d')
    (hnew : reports W w.connectCalls = 1 ∨
      d'.state = .connecting ∧ d'.connection.attempt = w.connectCalls) :
    Answering (store W c d' l) := by
  have hcell : w.devices.cell c = some d := hdev ▸ hk.cell
  refine ⟨hdi, fun a ha => ?_, ?_, fun p f hf hst => ?_, fun a ha => ?_⟩
  · rw [show (store W c d' l).attempts = W.attempts from rfl, hat] at ha
    show a.1 < W.connectCalls
    rw [hcalls]
    rcases List.mem_cons.mp ha with rfl | ha
    · exact Nat.lt_succ_self _
    · exact Nat.lt_succ_of_lt (h.ordered a ha)
  · rw [show (store W c d' l).attempts = W.attempts from rfl, hat, List.map_cons,
      List.nodup_cons]
    refine ⟨fun hm => ?_, h.keys⟩
    obtain ⟨a, ha, heq⟩ := List.mem_map.mp hm
    exact Nat.lt_irrefl _ (heq ▸ h.ordered a ha)
  · by_cases hp : p = c
    · subst p
      rw [store_cell hk.cell, if_pos rfl, Option.some.injEq] at hf
      subst f
      exact hself hst
    · refine waiting_others h ho hk hdev hv ?_ har ?_ hrel p f hp hf hst
      · rw [hat]
        exact List.subset_cons_self _ _
      · intro q f _ hf hst
        exact hrep _ (h.ordered _ (h.waiting q f hf hst).attempt)
  · rw [show (store W c d' l).attempts = W.attempts from rfl, hat] at ha
    rcases List.mem_cons.mp ha with rfl | ha
    · refine hnew.imp_right (fun hn => ?_)
      rw [pending_store hk]
      exact hn
    · rcases h.answered a ha with hr | hp
      · exact Or.inl ((hrep a.1 (h.ordered a ha)).trans hr)
      · by_cases hac : a.2 = c
        · rw [hac, pending_cell hcell, hs] at hp
          cases hp.1
        · exact Or.inr (pending_others hk hdev hac hp)

theorem answering_refused (h : Answering w) (ho : Owned w.connectionLedger (slotsOf w))
    (hk : Known w c d) (hs : d.state = .disconnected) (connectCb userData proxy : Nat)
    (error : GError) : Answering (attempted w c d connectCb userData (.refused proxy error)) := by
  refine answering_attempt h ho ⟨hk.cell, hk.owner, hk.mem⟩ hs rfl (fun _ => rfl) rfl rfl
    (List.Subset.refl _) (fun r hr => ?_) (fun call hcall => ?_) (fun id hid => ?_)
    (fun hd => by cases hd) (Or.inl ?_)
  · rcases List.mem_cons.mp hr with rfl | hr
    · exact Nat.lt_succ_self _
    · exact Nat.lt_succ_of_lt (h.numbered r hr)
  · rw [reports_cons (w := w) call (w.connectCalls, connectErrorCode error) rfl,
      if_neg (Nat.ne_of_gt hcall)]
    rfl
  · rcases mem_releaseSlot.mp hid with hid | hid
    · exact Or.inl hid
    · exact Or.inr (Or.inr (Nat.le_of_eq (Option.some.inj hid)))
  · rw [reports_cons (w := w) w.connectCalls (w.connectCalls, connectErrorCode error) rfl,
      reports_fresh h (Nat.le_refl _), if_pos rfl]

theorem answering_accepted (h : Answering w) (ho : Owned w.connectionLedger (slotsOf w))
    (hk : Known w c d) (hs : d.state = .disconnected) (connectCb userData proxy : Nat) :
    Answering (attempted w c d connectCb userData (.accepted proxy)) := by
  refine answering_attempt h ho ⟨hk.cell, hk.owner, hk.mem⟩ hs rfl (fun _ => rfl) rfl rfl
    (List.subset_cons_self _ _) (fun r hr => Nat.lt_succ_of_lt (h.numbered r hr))
    (fun call hcall => rfl) (fun id hid => Or.inl hid) (fun _ => ?_) (Or.inr ⟨rfl, rfl⟩)
  have hvalid := known_valid hk
  refine ⟨hvalid, List.mem_cons_self, reports_fresh h (Nat.le_refl _),
    w.connectionLedger.next + 2, rfl, List.mem_cons_self, fun hm => ?_⟩
  have hlt := ho.known _ hm
  omega

theorem mem_freedLedger {id : Nat} (hid : id ∈ (freedLedger d l).released) :
    id ∈ l.released ∨ ∃ k, held d.connection.backend k = some id := by
  unfold freedLedger at hid
  simp only [List.foldl_cons, List.foldl_nil, mem_releaseSlot] at hid
  rcases hid with (((hid | hid) | hid) | hid) | hid
  · exact Or.inl hid
  · exact Or.inr ⟨_, hid⟩
  · exact Or.inr ⟨_, hid⟩
  · exact Or.inr ⟨_, hid⟩
  · exact Or.inr ⟨_, hid⟩

theorem owned_known (ho : Owned w.connectionLedger (slotsOf w)) (hk : w.devices.cell c = some d)
    {k : ConnectionResource} {id : Nat} (hid : held d.connection.backend k = some id) :
    ⟨id, k, c⟩ ∈ w.connectionLedger.acquired :=
  ho.held c k id (by rw [slotsOf_known hk, hid])

theorem mem_untimed {id : Nat} (ho : Owned w.connectionLedger (slotsOf w))
    (hk : w.devices.cell c = some d) (hid : id ∈ (untimed d w.connectionLedger).released) :
    id ∈ w.connectionLedger.released ∨ ∃ k, ⟨id, k, c⟩ ∈ w.connectionLedger.acquired := by
  rcases mem_releaseSlot.mp hid with hid | hid
  · exact Or.inl hid
  · exact Or.inr ⟨_, owned_known ho hk hid⟩

theorem mem_resolvedLedger {id : Nat} {objects : Bool}
    (hid : id ∈ (resolvedLedger c objects l).released) : id ∈ l.released := by
  cases objects with
  | true => exact hid
  | false => exact hid

/-- The services of a CONNECTING device are resolved and its handler is dispatched. -/
theorem answering_resolved (h : Answering w) (ho : Owned w.connectionLedger (slotsOf w))
    (hk : Known W c d) (hs : d.state = .connecting) (hs' : d'.state ≠ .connecting)
    (hdev : W.devices = w.devices)
    (hv : ∀ p, gattlibConnectionIsValid W p = gattlibConnectionIsValid w p)
    (hcalls : W.connectCalls = w.connectCalls) (hat : W.attempts = w.attempts)
    (har : W.armed = w.armed) {r : Ret}
    (hdi : W.dispatched = (d.connection.attempt, r) :: w.dispatched)
    (hrel : ∀ id ∈ l.released, id ∈ w.connectionLedger.released ∨
      ∃ k, ⟨id, k, c⟩ ∈ w.connectionLedger.acquired) : Answering (store W c d' l) := by
  have hcell : w.devices.cell c = some d := hdev ▸ hk.cell
  have hmine := h.waiting c d hcell hs
  have hr : ∀ call, reports W call = reports w call +
      if d.connection.attempt = call then 1 else 0 := fun call => reports_cons call _ hdi
  have hattempts : (store W c d' l).attempts = w.attempts := hat
  refine ⟨fun q hq => ?_, fun a ha => ?_, hattempts ▸ h.keys, fun p f hf hst => ?_,
    fun a ha => ?_⟩
  · rw [show (store W c d' l).dispatched = W.dispatched from rfl, hdi] at hq
    show q.1 < W.connectCalls
    rw [hcalls]
    rcases List.mem_cons.mp hq with rfl | hq
    · exact h.ordered _ hmine.attempt
    · exact h.numbered q hq
  · show a.1 < W.connectCalls
    rw [hcalls]
    exact h.ordered a (hattempts ▸ ha)
  · by_cases hp : p = c
    · subst p
      rw [store_cell hk.cell, if_pos rfl, Option.some.injEq] at hf
      subst f
      exact absurd hst hs'
    · refine waiting_others h ho hk hdev hv (by rw [hat]; exact List.Subset.refl _)
        (by rw [har]; exact List.Subset.refl _) ?_
        (fun id hid => (hrel id hid).imp_right Or.inl) p f hp hf hst
      intro q f hq hf hst
      have hne : d.connection.attempt ≠ f.connection.attempt := by
        intro heq
        have hatt := (h.waiting q f hf hst).attempt
        rw [← heq] at hatt
        exact hq (attempt_unique h hatt hmine.attempt)
      rw [hr, if_neg hne]
      rfl
  · rw [hattempts] at ha
    show reports W a.1 = 1 ∨ Pending (store W c d' l) a.1 a.2
    rw [hr]
    by_cases hac : a.1 = d.connection.attempt
    · left
      rw [hac, hmine.silent, if_pos rfl]
    · rw [if_neg (Ne.symm hac)]
      rcases h.answered a ha with hone | hp
      · exact Or.inl hone
      · right
        by_cases hc : a.2 = c
        · rw [hc, pending_cell hcell] at hp
          exact absurd hp.2.symm hac
        · exact pending_others hk hdev hc hp

/-- A step that only removes devices that are not CONNECTING. -/
theorem answering_fewer (h : Answering w)
    (hcell : ∀ p f, x.devices.cell p = some f → f.state = .connecting →
      ∃ g, w.devices.cell p = some g ∧ g.state = .connecting ∧
        g.connection.attempt = f.connection.attempt ∧
        g.connection.backend = f.connection.backend)
    (hkeep : ∀ p f, w.devices.cell p = some f → f.state = .connecting →
      ∃ g, x.devices.cell p = some g ∧ g.state = .connecting ∧
        g.connection.attempt = f.connection.attempt)
    (hv : ∀ p, gattlibConnectionIsValid w p = true → (∃ f, x.devices.cell p = some f ∧
      f.state = .connecting) → gattlibConnectionIsValid x p = true)
    (hl : x.connectionLedger = w.connectionLedger) (hat : x.attempts = w.attempts)
    (har : x.armed = w.armed) (hdi : x.dispatched = w.dispatched)
    (hc : x.connectCalls = w.connectCalls) : Answering x := by
  have hr : ∀ call, reports x call = reports w call := fun call => by rw [reports, reports, hdi]
  refine ⟨fun r hr => ?_, fun a ha => ?_, hat ▸ h.keys, fun p f hf hst => ?_, fun a ha => ?_⟩
  · rw [hc]
    exact h.numbered r (hdi ▸ hr)
  · rw [hc]
    exact h.ordered a (hat ▸ ha)
  · obtain ⟨g, hg, hgs, hga, hgb⟩ := hcell p f hf hst
    have hw := h.waiting p g hg hgs
    refine ⟨hv p hw.valid ⟨f, hf, hst⟩, ?_, ?_, ?_⟩
    · rw [← hga, hat]
      exact hw.attempt
    · rw [hr, ← hga]
      exact hw.silent
    · rw [← hga, ← hgb, har, hl]
      exact hw.timer
  · rw [hr]
    refine (h.answered a (hat ▸ ha)).imp_right (fun hp => ?_)
    cases hcase : w.devices.cell a.2 with
    | none =>
      rw [Pending, stateOf, hcase] at hp
      cases hp.1
    | some f =>
      obtain ⟨hs, hatt⟩ := (pending_cell hcase a.1).mp hp
      obtain ⟨g, hg, hgs, hga⟩ := hkeep a.2 f hcase hs
      exact (pending_cell hg a.1).mpr ⟨hgs, hga.trans hatt⟩

theorem answering_append {a : Nat} {id : CString} (h : Answering w) (hw : WellFormed w)
    (ha : a ∈ w.adapterList) :
    Answering (appendDevice w a (newDevice w a id .disconnected)) := by
  have hold : ∀ p, p ≠ w.devices.next →
      (appendDevice w a (newDevice w a id .disconnected)).devices.cell p = w.devices.cell p :=
    fun p hp => alloc_ne _ _ hp
  have hnew : ∀ p f, (appendDevice w a (newDevice w a id .disconnected)).devices.cell p = some f →
      f.state = .connecting → p ≠ w.devices.next := by
    rintro p f hf hst rfl
    have heq := Option.some.inj (hf.symm.trans (alloc_self _ _))
    rw [heq] at hst
    cases hst
  apply answering_fewer h
  · intro p f hf hst
    rw [hold p (hnew p f hf hst)] at hf
    exact ⟨f, hf, hst, rfl, rfl⟩
  · intro p f hf hst
    have hp : p ≠ w.devices.next := Nat.ne_of_lt (lt_next hf)
    exact ⟨f, (hold p hp).trans hf, hst, rfl⟩
  · rintro p hv ⟨f, hf, hst⟩
    rw [valid_append (hw.live a ha) _ (hnew p f hf hst)]
    exact hv
  · rfl
  · rfl
  · rfl
  · rfl
  · rfl

theorem answering_drop (h : Answering w) (hk : Known w c d) (hs : d.state = .disconnected) :
    Answering (dropDevice w d.adapter c) := by
  obtain ⟨devices, he⟩ := unref_frame (removeDevice w d.adapter c) c
  have hne : ∀ p f, (dropDevice w d.adapter c).devices.cell p = some f →
      f.state = .connecting → p ≠ c := by
    rintro p f hf hst rfl
    have hself := (unref_cell (w := removeDevice w d.adapter p) hk.cell).symm.trans hf
    split at hself
    · cases hself
      rw [hs] at hst
      cases hst
    · cases hself
  apply answering_fewer h
  · intro p f hf hst
    rw [cell_drop_ne (hne p f hf hst)] at hf
    exact ⟨f, hf, hst, rfl, rfl⟩
  · intro p f hf hst
    have hp : p ≠ c := by
      rintro rfl
      rw [hk.cell, Option.some.injEq] at hf
      rw [← hf, hs] at hst
      cases hst
    exact ⟨f, by rw [cell_drop_ne hp, hf], hst, rfl⟩
  · rintro p hv ⟨f, hf, hst⟩
    rw [valid_drop_ne (hne p f hf hst)]
    exact hv
  all_goals
    rw [dropDevice, he]
    rfl

/-- A CONNECTING device is in its list, so a returning handler does not free it. -/
theorem answering_returns (h : Answering w) (hsound : Sound w) (hr : 0 < w.connectedRunning c) :
    Answering (connectedHandlerReturns w c) := by
  obtain ⟨d, hd⟩ := alive_of_running hsound hr
  obtain ⟨devices, he⟩ := unref_frame w c
  have hne : ∀ p, p ≠ c → (connectedHandlerReturns w c).devices.cell p = w.devices.cell p :=
    fun p hp => unref_cell_ne w hp
  have hself := unref_cell hd
  apply answering_fewer h
  · intro p f hf hst
    by_cases hp : p = c
    · subst p
      have hf' := hself.symm.trans hf
      split at hf'
      · cases hf'
        exact ⟨d, hd, hst, rfl, rfl⟩
      · cases hf'
    · rw [hne p hp] at hf
      exact ⟨f, hf, hst, rfl, rfl⟩
  · intro p f hf hst
    by_cases hp : p = c
    · subst p
      rw [hd, Option.some.injEq] at hf
      subst f
      have hcount := hsound.counted c d hd
      rw [(h.waiting c d hd hst).valid, if_pos rfl] at hcount
      rw [if_pos (by omega)] at hself
      exact ⟨_, hself, hst, rfl⟩
    · exact ⟨f, (hne p hp).trans hf, hst, rfl⟩
  · rintro p hv _
    rw [connectedHandlerReturns, he]
    exact hv
  all_goals
    rw [connectedHandlerReturns, he]

theorem answering_release (h : Answering w) {t : Nat}
    (hne : ∀ p f s, w.devices.cell p = some f → f.state = .connecting →
      held f.connection.backend .connectionTimer = some s → s ≠ t) :
    Answering { w with connectionLedger := release w.connectionLedger t } := by
  refine ⟨h.numbered, h.ordered, h.keys, fun p f hf hst => ?_, h.answered⟩
  have hw := h.waiting p f hf hst
  obtain ⟨s, hs, harmed, hlive⟩ := hw.timer
  refine ⟨hw.valid, hw.attempt, hw.silent, s, hs, harmed, fun hm => ?_⟩
  rcases List.mem_cons.mp hm with heq | hm
  · exact hne p f s hf hst hs heq
  · exact hlive hm

/-- A live timer is found under its number. -/
theorem liveOfKind_of_live {t : Nat} (hl : Live w.connectionLedger ⟨t, .connectionTimer, c⟩) :
    liveOfKind w t .connectionTimer = some ⟨t, .connectionTimer, c⟩ := by
  have hfind : find w.connectionLedger t = some ⟨t, .connectionTimer, c⟩ := by
    cases hf : find w.connectionLedger t with
    | none =>
      have hn := List.find?_eq_none.mp hf _ hl.1
      simp [hl.2] at hn
    | some r =>
      obtain ⟨hr, hid⟩ := find_live hf
      exact congrArg some (entry_ext hr.1 hl.1 hid)
  rw [liveOfKind, hfind]
  rfl

theorem dispatches_known (hk : Known w c d) (o : ResolveOutcome) :
    dispatches w c o = (hasManager w d.adapter o.manager &&
      gattlibHasValidHandler d.connection.onConnection && o.thread) := by
  rw [dispatches, adapterOf_known hk, onConnectionOf, hk.cell]
  rfl

theorem change_resolved (h : Answering w) (ho : Owned w.connectionLedger (slotsOf w))
    {rest : List Property} {o : ResolveOutcome} (hk : Known w c d)
    (he : w.emission = some ⟨c, .servicesResolved true, rest⟩)
    (hm : hasManager w d.adapter o.manager = true) (ht : Prompt w (.propertyChange o)) :
    Answering (store { managed w d.adapter o.manager with
        dispatched := dispatchedBy w d o.thread } c
      (resolved d o.objects (untimed d w.connectionLedger))
      (resolvedLedger c o.objects (untimed d w.connectionLedger))) := by
  have hiff := (ht _ he (known_valid hk)).2 rfl
  rw [stateOf_known hk, dispatches_known hk, hm, Bool.true_and] at hiff
  have hk' := known_managed hk d.adapter o.manager
  obtain ⟨adapters, hw, _, hdev⟩ := managed_frame w d.adapter o.manager
  have hv : ∀ p, gattlibConnectionIsValid (managed w d.adapter o.manager) p =
      gattlibConnectionIsValid w p := valid_congr (by rw [hw]) hdev
  have hrel : ∀ id ∈ (resolvedLedger c o.objects (untimed d w.connectionLedger)).released,
      id ∈ w.connectionLedger.released ∨ ∃ k, ⟨id, k, c⟩ ∈ w.connectionLedger.acquired :=
    fun id hid => mem_untimed ho hk.cell (mem_resolvedLedger hid)
  by_cases hs : d.state = .connecting
  · have hd := hiff.mp hs
    refine answering_resolved (r := gattlibSuccess) h ho ⟨hk'.cell, hk'.owner, hk'.mem⟩ hs
      (fun hd => by cases hd) (by rw [hw]) hv (by rw [hw]) (by rw [hw]) (by rw [hw]) ?_ hrel
    rw [dispatchedBy, if_pos hd]
  · have hd : dispatchedBy w d o.thread = w.dispatched := by
      rw [dispatchedBy, if_neg (fun hc => hs (hiff.mpr hc))]
    have ha : Answering { managed w d.adapter o.manager with dispatched := w.dispatched } := by
      refine answering_congr h (by rw [hw]) hv (by rw [hw]) (by rw [hw]) (by rw [hw]) rfl ?_
      rw [hw]
    have hl : Owned { managed w d.adapter o.manager with
        dispatched := w.dispatched }.connectionLedger (slotsOf { managed w d.adapter o.manager with
        dispatched := w.dispatched }) := by
      rw [hw]
      exact ho
    rw [hd]
    refine answering_silent ha hl ⟨hk'.cell, hk'.owner, hk'.mem⟩ hs (fun hd => by cases hd) ?_
    rw [hw]
    exact hrel

/-- A prompt step keeps the attempts accounted for. -/
theorem change_answering (h : Answering w) (hsound : Sound w)
    (ho : Owned w.connectionLedger (slotsOf w)) (hx : Change w e x) (ht : Prompt w e) :
    Answering x := by
  cases hx with
  | nothing e => exact h
  | appended he ha hf => exact answering_append h hsound.wellFormed ha
  | @rediscovered c d id o hk hid hp =>
    have hfind := known_found hsound.wellFormed hk hid
    have hs := ht hp (known_adapterValid hk)
    rw [getState_own hk hfind] at hs
    exact answering_silent h ho hk hs (fun hd => by cases hd) (fun id hid => Or.inl hid)
  | removed hk hid hs => exact answering_drop h hk hs
  | @failed a id cb data o r hr => exact answering_failed h r
  | @attempted c d id cb data o hk hid hs =>
    cases o with
    | noProxy error =>
      have hfind := known_found hsound.wellFormed hk hid
      exact absurd ((getState_own hk hfind).trans hs) (ht (known_adapterValid hk))
    | refused proxy error => exact answering_refused h ho hk hs cb data proxy error
    | accepted proxy => exact answering_accepted h ho hk hs cb data proxy
  | @unmanaged c d rest o hk he hm =>
    have hiff := (ht _ he (known_valid hk)).2 rfl
    rw [stateOf_known hk, dispatches_known hk, hm] at hiff
    have hs : d.state ≠ .connecting := fun hs => by cases hiff.mp hs
    exact answering_silent h ho hk hs hs (fun id hid => mem_untimed ho hk.cell hid)
  | resolved hk he hm => exact change_resolved h ho hk he hm ht
  | @dropped c d rest o hk he =>
    have hs := (ht _ he (known_valid hk)).1 rfl
    rw [stateOf_known hk] at hs
    refine answering_silent h ho hk hs (fun hd => by cases hd) (fun id hid => ?_)
    rcases mem_freedLedger hid with hid | ⟨k, hid⟩
    · exact Or.inl hid
    · exact Or.inr ⟨k, owned_known ho hk.cell hid⟩
  | @expired c d t hk hl =>
    have hs := ht _ (liveOfKind_of_live hl)
    rw [stateOf_known hk] at hs
    refine answering_silent h ho hk hs hs (fun id hid => ?_)
    rcases List.mem_cons.mp hid with rfl | hid
    · exact Or.inr ⟨_, hl.1⟩
    · exact Or.inl hid
  | @expiredStale c t hv hl =>
    have hs := ht _ (liveOfKind_of_live hl)
    refine answering_release h (fun p f s hf hst hheld => ?_)
    have hp : p ≠ c := by
      rintro rfl
      rw [stateOf, hf] at hs
      exact hs hst
    exact timer_ne ho hp hf hheld hl.1
  | @disconnecting c d hk hs =>
    have hne : d.state ≠ .connecting := by
      rw [hs]
      decide
    exact answering_silent h ho hk hne (fun hd => by cases hd) (fun id hid => Or.inl hid)
  | @referenced c d hk =>
    have ha : Answering (store w c (referenced d) w.connectionLedger) :=
      answering_same h ho hk rfl rfl rfl
    exact answering_congr ha rfl (fun _ => rfl) rfl rfl rfl rfl (Nat.le_refl _)
  | dereferenced hr => exact answering_returns h hsound hr
  | registered hk => exact answering_same h ho hk rfl rfl rfl

theorem opened_answering (h : Opened w) : Answering w := by
  refine ⟨fun r hr => ?_, fun a ha => ?_, ?_, fun c d hc => ?_, fun a ha => ?_⟩
  · rw [h.dispatched] at hr
    cases hr
  · rw [h.attempts] at ha
    cases ha
  · rw [h.attempts]
    exact List.nodup_nil
  · rw [h.devices c] at hc
    cases hc
  · rw [h.attempts] at ha
    cases ha

end

theorem prompt_answering : Preserves deviceStep Prompt (fun w =>
    Sound w ∧ Owned w.connectionLedger (slotsOf w) ∧ Answering w) := by
  rintro w e w' ⟨hsound, ho, h⟩ ht hs
  have hs' := deviceStep_sound hsound hs
  obtain ⟨x, em, cc, dc, hx, rfl⟩ := deviceStep_outcome hsound.wellFormed hs
  have ho' := owned_change ho hx
  exact ⟨hs', ho', answering_congr (change_answering h hsound ho hx ht) rfl (fun _ => rfl)
    rfl rfl rfl rfl (Nat.le_refl _)⟩

/-- Each connection attempt has exactly one outcome in every run of prompt steps. -/
theorem attempts_answered_once {w : World} (h : Reach deviceStep Prompt Opened w) :
    OneOutcome w := by
  have hi := reach_invariant
    (fun w => Sound w ∧ Owned w.connectionLedger (slotsOf w) ∧ Answering w)
    (fun _ ho => ⟨opened_sound ho, opened_owned ho, opened_answering ho⟩) prompt_answering h
  exact answering_oneOutcome hi.2.2

/-- An attempt whose timer expires before anything else happens. -/
theorem attempt_unanswered : ¬∀ w, Reach deviceStep AnyStep Opened w → OneOutcome w := by
  intro h
  have hreach : Reach deviceStep AnyStep Opened _ := exec_reach opened_opened
    [.objectAdded 0 devicePath answered, .connect 0 devicePath 1 0 (.accepted 2),
      .stopConnect 3] rfl
  have hone := (h _ hreach (0, 0) (by decide)).2 ⟨rfl, fun _ => rfl, fun _ => rfl⟩
    (by intro t ht; cases ht with
      | head => decide
      | tail _ ht => cases ht)
  exact absurd hone.2 (by decide)

theorem attempts_answered_once_round :
    ∃ w, OneOutcome w ∧ w.attempts = [(0, 0)] ∧ reports w 0 = 1 := by
  have hreach : Reach (guarded deviceStep Prompt) AnyStep Opened _ := exec_reach opened_opened
    [.objectAdded 0 devicePath answered, .connect 0 devicePath 1 0 (.accepted 2),
      .emit 2 (.servicesResolved true) [], .propertyChange ⟨some 1, true, true⟩] rfl
  exact ⟨_, attempts_answered_once (guarded_reach hreach), by decide, by decide⟩

end Gattlib.Attempts
