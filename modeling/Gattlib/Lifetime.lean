import Gattlib.ScanFacts
import Gattlib.StateMachine

namespace Gattlib.Lifetime

open Library.Memory Library.Resources Library.Transition Gattlib.Strings Gattlib.State
open Gattlib.Registry Gattlib.RegistryFacts Gattlib.Connection Gattlib.Events Gattlib.Effects
open Gattlib.Changes Gattlib.Invariants Gattlib.StateMachine Gattlib.Scan Gattlib.Adapters
open Gattlib.Frames Gattlib.SystemInvariants

def counterOf (w : World) (a : Nat) : Nat :=
  ((w.adapters.cell a).map Adapter.referenceCounter).getD 0

/-- The references on the adapters. Every open that is not closed holds one, and so
does every close that has not come to its end and every running callback. `pending`
are the references that the running step still has to drop. -/
structure Accounts (pending : Nat → Nat) (w : World) : Prop where
  balance : ∀ a, counterOf w a + w.closes a =
    w.opens a + w.closeWaiting a + w.closeLeaving a + w.discoveredHolding a + pending a
  matched : ∀ a, w.closes a ≤ w.opens a
  counted : ∀ a ad, w.adapters.cell a = some ad → 0 < ad.referenceCounter
  freed : ∀ a ∈ w.freedAdapters, w.adapters.cell a = none ∧ a < w.adapters.next
  once : w.freedAdapters.Nodup
  fresh : w.staleUnrefs = 0

def nobody : Nat → Nat := fun _ => 0

def one (a : Nat) : Nat → Nat := Function.update nobody a 1

/-- The devices of an adapter without an open are DISCONNECTED. -/
def Settled (w : World) : Prop :=
  ∀ c d, Known w c d → w.closes d.adapter = w.opens d.adapter → d.state = .disconnected

structure Governed (w : World) : Prop where
  sound : SystemSound w
  accounts : Accounts nobody w
  settled : Settled w

/-- What an adapter may ask of a step: it is freed once, when it leaves the list, with
no callback that holds it and with all its devices DISCONNECTED. -/
structure LetGo (s t : World) : Prop where
  removed : ∀ a ∈ s.adapterList, a ∉ t.adapterList → a ∈ t.freedAdapters ∧ a ∉ s.freedAdapters
  idle : ∀ a ∈ t.freedAdapters, a ∉ s.freedAdapters →
    t.discoveredHolding a = 0 ∧ gattlibDevicesAreDisconnected s a = true

structure FreedOnce (w : World) : Prop where
  once : w.freedAdapters.Nodup
  gone : ∀ a ∈ w.freedAdapters, a ∉ w.adapterList
  fresh : w.staleUnrefs = 0

/-- An open of the adapter that is not closed yet. -/
def InUse (w : World) (a : Nat) : Prop := w.closes a < w.opens a

instance (w : World) (a : Nat) : Decidable (InUse w a) := inferInstanceAs (Decidable (_ < _))

/-- An adapter is closed past the busy check, a connection is attempted on it without
being refused, or one is resolved from DISCONNECTED, only while an open of it is not
closed. -/
def Matched (w : World) : SystemEvent → Prop
  | .device (.connect _ _ _ _ (.refused _ _)) => True
  | .device (.connect a path _ _ _) => gattlibAdapterIsValid w a = true →
      gattlibDeviceGetState w a path = .disconnected → InUse w a
  | .device (.propertyChange o) => ∀ em ∈ w.emission, em.property = .servicesResolved true →
      gattlibConnectionIsValid w em.connection = true →
      hasManager w (adapterOf w em.connection) o.manager = true →
      stateOf w em.connection = .disconnected → InUse w (adapterOf w em.connection)
  | .adapter (.close a _ _) => gattlibAdapterIsValid w a = true →
      gattlibDevicesAreDisconnected w a = true → InUse w a
  | _ => True

instance (w : World) : (e : SystemEvent) → Decidable (Matched w e)
  | .device (.connect _ _ _ _ (.noProxy _)) | .device (.connect _ _ _ _ (.accepted _))
  | .adapter (.close _ _ _) => inferInstanceAs (Decidable (_ → _ → _))
  | .device (.propertyChange _) =>
      inferInstanceAs (Decidable (∀ em ∈ w.emission, _ → _ → _ → _ → _))
  | .device (.connect _ _ _ _ (.refused _ _)) | .device (.objectAdded _ _ _)
  | .device (.objectRemoved _ _) | .device (.propertiesChanged _ _ _ _ _)
  | .device (.emit _ _ _) | .device (.stopConnect _) | .device (.disconnect _)
  | .device (.connectedThread _) | .device (.connectedReturns _)
  | .device (.registerOnDisconnect _ _) | .scan _ | .adapter (.openLookup _)
  | .adapter (.openFails _) | .adapter (.openAppend _ _) | .adapter (.closeCheck _)
  | .adapter (.closeFinish _) | .adapter (.discoveredThread _)
  | .adapter (.discoveredReturns _) => instDecidableTrue

section

variable {w w' x : World} {a b c : Nat} {ad : Adapter} {d : Device} {p : Nat → Nat}
  {o : Bool} {s : Option GError}

theorem one_self (a : Nat) : one a a = 1 := Function.update_self ..

theorem one_ne (h : b ≠ a) : one a b = 0 := Function.update_of_ne h ..

theorem counterOf_cell (h : w.adapters.cell a = some ad) : counterOf w a = ad.referenceCounter := by
  rw [counterOf, h]
  rfl

theorem counterOf_none (h : w.adapters.cell a = none) : counterOf w a = 0 := by
  rw [counterOf, h]
  rfl

/-- The references and what is counted for them are the same. -/
structure SameCounts (w w' : World) : Prop where
  counters : ∀ a, (w'.adapters.cell a).map Adapter.referenceCounter =
    (w.adapters.cell a).map Adapter.referenceCounter
  next : w'.adapters.next = w.adapters.next
  list : w'.adapterList = w.adapterList
  opens : w'.opens = w.opens
  closes : w'.closes = w.closes
  waiting : w'.closeWaiting = w.closeWaiting
  leaving : w'.closeLeaving = w.closeLeaving
  holding : w'.discoveredHolding = w.discoveredHolding
  freed : w'.freedAdapters = w.freedAdapters
  stale : w'.staleUnrefs = w.staleUnrefs

theorem accounts_same (h : Accounts p w) (hs : SameCounts w w') : Accounts p w' := by
  refine ⟨fun a => ?_, fun a => ?_, fun a ad had => ?_, fun a ha => ?_, ?_, ?_⟩
  · rw [counterOf, hs.counters, hs.closes, hs.opens, hs.waiting, hs.leaving, hs.holding]
    exact h.balance a
  · rw [hs.closes, hs.opens]
    exact h.matched a
  · have hc := hs.counters a
    rw [had, Option.map_some, eq_comm, Option.map_eq_some_iff] at hc
    obtain ⟨ad', had', he⟩ := hc
    rw [← he]
    exact h.counted a ad' had'
  · rw [hs.freed] at ha
    obtain ⟨hn, hlt⟩ := h.freed a ha
    refine ⟨?_, by rw [hs.next]; exact hlt⟩
    have hc := hs.counters a
    rw [hn] at hc
    exact Option.map_eq_none_iff.mp hc
  · rw [hs.freed]
    exact h.once
  · rw [hs.stale]
    exact h.fresh

/-- The part of a world that counts opens, closes and callbacks. -/
def countedPart (w : World) : World where
  adapterList := w.adapterList
  opens := w.opens
  closes := w.closes
  closeWaiting := w.closeWaiting
  closeLeaving := w.closeLeaving
  discoveredHolding := w.discoveredHolding
  freedAdapters := w.freedAdapters
  staleUnrefs := w.staleUnrefs

theorem sameCounts_part (hc : ∀ a, (w'.adapters.cell a).map Adapter.referenceCounter =
      (w.adapters.cell a).map Adapter.referenceCounter)
    (hn : w'.adapters.next = w.adapters.next) (h : countedPart w' = countedPart w) :
    SameCounts w w' := by
  have hlist := congrArg World.adapterList h
  have hopens := congrArg World.opens h
  have hcloses := congrArg World.closes h
  have hwaiting := congrArg World.closeWaiting h
  have hleaving := congrArg World.closeLeaving h
  have hholding := congrArg World.discoveredHolding h
  have hfreed := congrArg World.freedAdapters h
  have hstale := congrArg World.staleUnrefs h
  exact ⟨hc, hn, hlist, hopens, hcloses, hwaiting, hleaving, hholding, hfreed, hstale⟩

theorem sameCounts_scan (h : ScanFrame w w') : SameCounts w w' := by
  have hpart := congrArg countedPart h.outside
  refine sameCounts_part (fun a => ?_) h.next hpart
  have hc := congrArg (Option.map (fun v => v.2.2.2)) (h.adapters a)
  rw [Option.map_map, Option.map_map] at hc
  exact hc

theorem sameCounts_device (h : DeviceFrame w w') : SameCounts w w' := by
  have hpart := congrArg countedPart h.outside
  refine sameCounts_part (fun a => ?_) h.next hpart
  have hc := congrArg (Option.map (fun v => v.2.2.1)) (h.adapters a)
  rw [Option.map_map, Option.map_map] at hc
  exact hc

theorem letGo_same (hs : SameCounts w w') : LetGo w w' := by
  refine ⟨fun a ha hn => ?_, fun a ha hn => ?_⟩
  · rw [hs.list] at hn
    exact absurd ha hn
  · rw [hs.freed] at ha
    exact absurd ha hn

theorem disconnected_iff (h : WellFormed w) (ha : a ∈ w.adapterList) :
    gattlibDevicesAreDisconnected w a = true ↔
      ∀ c d, Known w c d → d.adapter = a → d.state = .disconnected := by
  unfold gattlibDevicesAreDisconnected
  rw [List.all_eq_true]
  constructor
  · rintro hall c d hk rfl
    have hs : stateOf w c = .disconnected := by simpa using hall c hk.mem
    rw [stateOf_known hk] at hs
    exact hs
  · intro hall c hc
    obtain ⟨d, hd⟩ := (h.ok a ha).listed c hc
    have hk : Known w c d := ⟨hd.cell, hd.adapter.symm ▸ ha, hd.adapter.symm ▸ hc⟩
    rw [stateOf_known hk, hall c d hk hd.adapter]
    rfl

theorem settled_known (h : Settled w) (hc : w'.closes = w.closes) (ho : w'.opens = w.opens)
    (hk : ∀ c d, Known w' c d → Known w c d) : Settled w' := by
  intro c d hd he
  rw [hc, ho] at he
  exact h c d (hk c d hd) he

theorem known_free (h : WellFormed w) (ha : a ∈ w.adapterList)
    (hk : Known (adapterFree w a) c d) : Known w c d := by
  have howner := hk.owner
  rw [adapterFree_list] at howner
  obtain ⟨hne, howner⟩ := (List.Nodup.mem_erase_iff h.nodup).mp howner
  have hmem := hk.mem
  rw [devicesOf_freed hne] at hmem
  have hcell := hk.cell
  have hsame : (adapterFree w a).devices.cell c = w.devices.cell c :=
    devicesFree_cell_ne (devicesOf_disjoint h ha howner hne hmem) w
  rw [hsame] at hcell
  exact ⟨hcell, howner, hmem⟩

theorem known_adapter {f : Adapter → Adapter} (hk : Known (modifyAdapter w a f) c d)
    (hf : ∀ ad, (f ad).devices = ad.devices) : Known w c d := by
  have hmap : ((modifyAdapter w a f).adapters.cell d.adapter).map Adapter.devices =
      (w.adapters.cell d.adapter).map Adapter.devices := modify_map w.adapters a d.adapter hf
  have hmem := hk.mem
  rw [devicesOf, hmap] at hmem
  exact ⟨hk.cell, hk.owner, hmem⟩

/-! A reference is dropped. -/

/-- What follows when a step drops the last reference it owes. -/
structure Dropped (w w' : World) : Prop where
  accounts : Accounts nobody w'
  settled : Settled w'
  letGo : LetGo w w'

theorem dropped_keep (h : Accounts (one a) w) (hs : Settled w)
    (had : w.adapters.cell a = some ad) (hpos : ad.referenceCounter - 1 > 0) :
    Dropped w (modifyAdapter w a (fun ad =>
      { ad with referenceCounter := ad.referenceCounter - 1 })) := by
  have hcell : (modifyAdapter w a (fun ad =>
      { ad with referenceCounter := ad.referenceCounter - 1 })).adapters.cell a =
      some { ad with referenceCounter := ad.referenceCounter - 1 } := by
    rw [modifyAdapter, modify_self, had, Option.map_some]
  have hother : ∀ b, b ≠ a → (modifyAdapter w a (fun ad =>
      { ad with referenceCounter := ad.referenceCounter - 1 })).adapters.cell b =
      w.adapters.cell b := fun b hb => modify_ne _ _ hb
  refine ⟨⟨fun b => ?_, h.matched, fun b bd hbd => ?_, fun b hb => ?_, h.once, h.fresh⟩, ?_, ?_⟩
  · have hbal := h.balance b
    by_cases hb : b = a
    · subst b
      rw [counterOf_cell had, one_self] at hbal
      rw [counterOf_cell hcell]
      simp only [modifyAdapter, nobody]
      omega
    · rw [one_ne hb] at hbal
      rw [counterOf, hother b hb]
      exact hbal
  · by_cases hb : b = a
    · subst b
      rw [hcell, Option.some.injEq] at hbd
      subst hbd
      exact hpos
    · rw [hother b hb] at hbd
      exact h.counted b bd hbd
  · obtain ⟨hn, hlt⟩ := h.freed b hb
    have hne : b ≠ a := by
      rintro rfl
      rw [had] at hn
      cases hn
    exact ⟨(hother b hne).trans hn, hlt⟩
  · exact fun c d hk he => hs c d (known_adapter hk (fun _ => rfl)) he
  · exact ⟨fun b hb hn => absurd hb hn, fun b hb hn => absurd hb hn⟩

theorem dropped_free (hsound : SystemSound w) (h : Accounts (one a) w) (hs : Settled w)
    (had : w.adapters.cell a = some ad) (hlast : ¬ad.referenceCounter - 1 > 0) :
    Dropped w (adapterFree w a) := by
  have hw := hsound.sound.wellFormed
  have hlisted := hsound.listed a ad had
  have hcount := h.counted a ad had
  have hbal := h.balance a
  have hmatched := h.matched a
  rw [counterOf_cell had, one_self] at hbal
  have hzero : w.discoveredHolding a = 0 ∧ w.closes a = w.opens a := by omega
  obtain ⟨devices, he⟩ := adapterFree_frame w a
  have hfreed : (adapterFree w a).freedAdapters = a :: w.freedAdapters := by rw [he]
  have hnext : (adapterFree w a).adapters.next = w.adapters.next := by rw [he]; rfl
  have hnew : a ∉ w.freedAdapters := by
    intro hm
    rw [(h.freed a hm).1] at had
    cases had
  refine ⟨⟨fun b => ?_, fun b => ?_, fun b bd hbd => ?_, fun b hb => ?_, ?_, ?_⟩, ?_, ?_, ?_⟩
  · have hb' := h.balance b
    rw [counterOf, adapterFree_cell, he]
    by_cases hb : b = a
    · subst b
      rw [if_pos rfl]
      simp only [Option.map_none, Option.getD_none, nobody]
      omega
    · rw [if_neg hb]
      rw [one_ne hb] at hb'
      exact hb'
  · rw [he]
    exact h.matched b
  · rw [adapterFree_cell] at hbd
    by_cases hb : b = a
    · rw [if_pos hb] at hbd
      cases hbd
    · rw [if_neg hb] at hbd
      exact h.counted b bd hbd
  · rw [hfreed] at hb
    rw [adapterFree_cell, hnext]
    by_cases hba : b = a
    · rw [if_pos hba, hba]
      exact ⟨rfl, lt_next had⟩
    · rw [if_neg hba]
      exact h.freed b ((List.mem_cons.mp hb).resolve_left hba)
  · rw [hfreed]
    exact List.nodup_cons.mpr ⟨hnew, h.once⟩
  · rw [he]
    exact h.fresh
  · apply settled_known hs
    · rw [he]
    · rw [he]
    · exact fun c d hk => known_free hw hlisted hk
  · intro b hb hn
    rw [adapterFree_list] at hn
    have hba : b = a := by
      by_contra hne
      exact hn ((List.Nodup.mem_erase_iff hw.nodup).mpr ⟨hne, hb⟩)
    subst b
    rw [hfreed]
    exact ⟨List.mem_cons_self, hnew⟩
  · intro b hb hn
    rw [hfreed] at hb
    have hba := (List.mem_cons.mp hb).resolve_right hn
    subst b
    refine ⟨by rw [he]; exact hzero.1, ?_⟩
    rw [disconnected_iff hw hlisted]
    rintro c d hk rfl
    exact hs c d hk hzero.2

theorem dropped_unref (hsound : SystemSound w) (h : Accounts (one a) w) (hs : Settled w) :
    Dropped w (gattlibAdapterUnref w a) := by
  unfold gattlibAdapterUnref
  split
  · next hn =>
    have hbal := h.balance a
    have hmatched := h.matched a
    rw [counterOf_none hn, one_self] at hbal
    omega
  · next ad had =>
    split
    · next hpos => exact dropped_keep h hs had hpos
    · next hlast => exact dropped_free hsound h hs had hlast

/-! The steps of opening and closing -/

theorem accounts_noteClose (h : Accounts nobody w) (hu : InUse w a) :
    Accounts (one a) (noteClose w a) := by
  refine ⟨fun b => ?_, fun b => ?_, h.counted, h.freed, h.once, h.fresh⟩
  · have hbal := h.balance b
    by_cases hb : b = a
    · subst b
      simp only [noteClose, Function.update_self, one_self, nobody] at hbal ⊢
      have hc : counterOf (noteClose w a) a = counterOf w a := rfl
      simp only [noteClose] at hc
      omega
    · simp only [noteClose, Function.update_of_ne hb, one_ne hb]
      exact hbal
  · by_cases hb : b = a
    · subst b
      simp only [noteClose, Function.update_self]
      exact hu
    · simp only [noteClose, Function.update_of_ne hb]
      exact h.matched b

theorem settled_noteClose (hw : WellFormed w) (h : Settled w) (ha : a ∈ w.adapterList)
    (hd : gattlibDevicesAreDisconnected w a = true) : Settled (noteClose w a) := by
  intro c d hk he
  have hk' : Known w c d := ⟨hk.cell, hk.owner, hk.mem⟩
  by_cases hda : d.adapter = a
  · exact (disconnected_iff hw ha).mp hd c d hk' hda
  · simp only [noteClose, Function.update_of_ne hda] at he
    exact h c d hk' he

theorem known_scan (h : ScanFrame w w') (hk : Known w' c d) : Known w c d := by
  have hlist := congrArg World.adapterList h.outside
  have hdevices := congrArg World.devices h.outside
  have hlist : w'.adapterList = w.adapterList := hlist
  have hdevices : w'.devices = w.devices := hdevices
  refine ⟨?_, ?_, ?_⟩
  · rw [← hdevices]
    exact hk.cell
  · rw [← hlist]
    exact hk.owner
  · rw [← scanFrame_devicesOf h]
    exact hk.mem

theorem accounts_disabled (h : Accounts (one a) w) (hs : SameCounts w x) :
    Accounts nobody { x with
      nullThreadUses := x.nullThreadUses + 1
      closeWaiting := Function.update x.closeWaiting a (x.closeWaiting a + 1) } := by
  have hx := accounts_same h hs
  refine ⟨fun b => ?_, hx.matched, hx.counted, hx.freed, hx.once, hx.fresh⟩
  have hbal := hx.balance b
  by_cases hb : b = a
  · subst b
    rw [one_self] at hbal
    simp only [Function.update_self, nobody]
    have hc : counterOf { x with
      nullThreadUses := x.nullThreadUses + 1
      closeWaiting := Function.update x.closeWaiting a (x.closeWaiting a + 1) } a =
      counterOf x a := rfl
    rw [hc]
    omega
  · rw [one_ne hb] at hbal
    simp only [Function.update_of_ne hb]
    exact hbal

theorem dropped_close (hg : Governed w) (hm : Matched w (.adapter (.close a o s))) : Dropped w (gattlibAdapterCloseBegin w a o s).2 := by
  have hw := hg.sound.sound.wellFormed
  have hsame : Dropped w w :=
    ⟨hg.accounts, hg.settled, ⟨fun _ h hn => absurd h hn, fun _ h hn => absurd h hn⟩⟩
  unfold gattlibAdapterCloseBegin
  split
  · exact hsame
  · next hv =>
    split
    · exact hsame
    · next hd =>
      have hv := (Bool.not_eq_false _).mp hv
      have hd := (Bool.not_eq_false _).mp hd
      have hu := hm hv hd
      have hacc := accounts_noteClose hg.accounts hu
      have hset := settled_noteClose hw hg.settled ((valid_iff w a).mp hv) hd
      have hsound : SystemSound (noteClose w a) := systemSound_counts hg.sound _ _ _ _ _ _ _ _ _
      split
      · have hframe := scanFrame_disable (scanFrame_refl (noteClose w a)) a o s
        have hsame := sameCounts_scan hframe
        have hkeep := letGo_same hsame
        refine ⟨accounts_disabled hacc hsame, ?_, hkeep.removed, hkeep.idle⟩
        intro c d hk he
        have hcloses := hsame.closes
        have hopens := hsame.opens
        have hk' : Known (noteClose w a) c d := known_scan hframe ⟨hk.cell, hk.owner, hk.mem⟩
        dsimp only at he
        rw [hcloses, hopens] at he
        exact hset c d hk' he
      · have hdrop := dropped_unref hsound hacc hset
        exact ⟨hdrop.accounts, hdrop.settled, ⟨hdrop.letGo.removed, hdrop.letGo.idle⟩⟩

theorem counterOf_ref (had : w.adapters.cell a = some ad) (b : Nat) :
    counterOf (gattlibAdapterRef w a) b = counterOf w b + one a b := by
  by_cases hb : b = a
  · subst b
    rw [one_self, counterOf_cell had, counterOf, gattlibAdapterRef, modifyAdapter, modify_self, had]
    rfl
  · rw [one_ne hb, counterOf, gattlibAdapterRef, modifyAdapter, modify_ne _ _ hb, counterOf,
      Nat.add_zero]

theorem accounts_ref (h : Accounts nobody w) (had : w.adapters.cell a = some ad) :
    Accounts (one a) (gattlibAdapterRef w a) := by
  have hother : ∀ b, b ≠ a → (gattlibAdapterRef w a).adapters.cell b = w.adapters.cell b :=
    fun b hb => modify_ne _ _ hb
  have hcell : (gattlibAdapterRef w a).adapters.cell a =
      some { ad with referenceCounter := ad.referenceCounter + 1 } := by
    rw [gattlibAdapterRef, modifyAdapter, modify_self, had, Option.map_some]
  refine ⟨fun b => ?_, h.matched, fun b bd hbd => ?_, fun b hb => ?_, h.once, h.fresh⟩
  · have hbal := h.balance b
    rw [counterOf_ref had]
    simp only [gattlibAdapterRef, modifyAdapter, nobody] at hbal ⊢
    omega
  · by_cases hne : b = a
    · subst b
      rw [hcell, Option.some.injEq] at hbd
      subst hbd
      exact Nat.succ_pos _
    · rw [hother b hne] at hbd
      exact h.counted b bd hbd
  · obtain ⟨hn, hlt⟩ := h.freed b hb
    have hne : b ≠ a := by
      rintro rfl
      rw [had] at hn
      cases hn
    exact ⟨(hother b hne).trans hn, hlt⟩

theorem update_succ (f : Nat → Nat) (a b : Nat) :
    Function.update f a (f a + 1) b = f b + one a b := by
  by_cases hb : b = a
  · subst b
    rw [Function.update_self, one_self]
  · rw [Function.update_of_ne hb, one_ne hb, Nat.add_zero]

theorem update_pred {f : Nat → Nat} (hpos : 0 < f a) (b : Nat) :
    Function.update f a (f a - 1) b + one a b = f b := by
  by_cases hb : b = a
  · subst b
    rw [Function.update_self, one_self]
    omega
  · rw [Function.update_of_ne hb, one_ne hb, Nat.add_zero]

/-- The new reference is the one of an open. -/
theorem accounts_noteOpen (h : Accounts (one a) w) : Accounts nobody (noteOpen w a) := by
  refine ⟨fun b => ?_, fun b => ?_, h.counted, h.freed, h.once, h.fresh⟩
  · have hbal := h.balance b
    have hopens : (noteOpen w a).opens b = w.opens b + one a b := update_succ w.opens a b
    have hcounter : counterOf (noteOpen w a) b = counterOf w b := rfl
    rw [hopens, hcounter]
    simp only [noteOpen, nobody]
    omega
  · have hopens : (noteOpen w a).opens b = w.opens b + one a b := update_succ w.opens a b
    rw [hopens]
    exact Nat.le_add_right_of_le (h.matched b)

/-- The new reference is the one of a callback. -/
theorem accounts_hold (h : Accounts (one a) w) : Accounts nobody { w with
    discoveredHolding := Function.update w.discoveredHolding a (w.discoveredHolding a + 1) } := by
  refine ⟨fun b => ?_, h.matched, h.counted, h.freed, h.once, h.fresh⟩
  have hbal := h.balance b
  have hholding := update_succ w.discoveredHolding a b
  dsimp only
  rw [hholding, nobody]
  have hcounter : counterOf { w with
    discoveredHolding := Function.update w.discoveredHolding a (w.discoveredHolding a + 1) } b =
    counterOf w b := rfl
  rw [hcounter]
  omega

theorem accounts_returns (h : Accounts nobody w) (hpos : 0 < w.discoveredHolding a) :
    Accounts (one a) { w with
      discoveredHolding := Function.update w.discoveredHolding a (w.discoveredHolding a - 1) } := by
  refine ⟨fun b => ?_, h.matched, h.counted, h.freed, h.once, h.fresh⟩
  have hbal := h.balance b
  have hholding := update_pred hpos b
  have hcounter : counterOf { w with
    discoveredHolding := Function.update w.discoveredHolding a (w.discoveredHolding a - 1) } b =
    counterOf w b := rfl
  rw [hcounter]
  simp only [nobody] at hbal ⊢
  omega

theorem accounts_finish (h : Accounts nobody w) (hpos : 0 < w.closeLeaving a) :
    Accounts (one a) { w with
      nullThreadUses := w.nullThreadUses + 1
      closeLeaving := Function.update w.closeLeaving a (w.closeLeaving a - 1) } := by
  refine ⟨fun b => ?_, h.matched, h.counted, h.freed, h.once, h.fresh⟩
  have hbal := h.balance b
  have hleaving := update_pred hpos b
  have hcounter : counterOf { w with
    nullThreadUses := w.nullThreadUses + 1
    closeLeaving := Function.update w.closeLeaving a (w.closeLeaving a - 1) } b =
    counterOf w b := rfl
  rw [hcounter]
  simp only [nobody] at hbal ⊢
  omega

theorem accounts_check (h : Accounts nobody w) (hpos : 0 < w.closeWaiting a) :
    Accounts nobody (closeCheck w a) := by
  unfold closeCheck
  split
  · exact h
  · refine ⟨fun b => ?_, h.matched, h.counted, h.freed, h.once, h.fresh⟩
    have hbal := h.balance b
    have hwaiting := update_pred hpos b
    have hleaving := update_succ w.closeLeaving a b
    have hcounter : counterOf { w with
      closeWaiting := Function.update w.closeWaiting a (w.closeWaiting a - 1)
      closeLeaving := Function.update w.closeLeaving a (w.closeLeaving a + 1) } b =
      counterOf w b := rfl
    rw [hcounter]
    simp only [nobody] at hbal ⊢
    omega

theorem accounts_append (h : Accounts nobody w) (hn : ad.referenceCounter = 1)
    (hl : List Nat) : Accounts (one w.adapters.next) { w with
      adapters := alloc w.adapters ad
      adapterList := hl } := by
  have hother : ∀ b, b ≠ w.adapters.next → (alloc w.adapters ad).cell b = w.adapters.cell b :=
    fun b hb => alloc_ne _ _ hb
  have hself : (alloc w.adapters ad).cell w.adapters.next = some ad := alloc_self _ _
  refine ⟨fun b => ?_, h.matched, fun b bd hbd => ?_, fun b hb => ?_, h.once, h.fresh⟩
  · have hbal := h.balance b
    by_cases hne : b = w.adapters.next
    · subst b
      rw [counterOf_none (cell_next _)] at hbal
      rw [one_self, counterOf, hself]
      simp only [Option.map_some, Option.getD_some, nobody] at hbal ⊢
      omega
    · rw [one_ne hne, counterOf, hother b hne]
      exact hbal
  · by_cases hne : b = w.adapters.next
    · subst b
      rw [hself, Option.some.injEq] at hbd
      subst hbd
      omega
    · rw [hother b hne] at hbd
      exact h.counted b bd hbd
  · obtain ⟨hnone, hlt⟩ := h.freed b hb
    have hne : b ≠ w.adapters.next := Nat.ne_of_lt hlt
    exact ⟨(hother b hne).trans hnone, Nat.lt_succ_of_lt hlt⟩

/-- One more open unsettles nothing. -/
theorem settled_noteOpen (ha : Accounts nobody w) (h : Settled w)
    (hk : ∀ c d, Known x c d → Known w c d) (hc : x.closes = w.closes) (ho : x.opens = w.opens) :
    Settled (noteOpen x a) := by
  intro c d hd he
  have hd' : Known x c d := ⟨hd.cell, hd.owner, hd.mem⟩
  have hmatched := ha.matched d.adapter
  have hopens : (noteOpen x a).opens d.adapter = x.opens d.adapter + one a d.adapter :=
    update_succ x.opens a d.adapter
  have hcloses : (noteOpen x a).closes d.adapter = x.closes d.adapter := rfl
  rw [hopens, hcloses, hc, ho] at he
  apply h c d (hk c d hd')
  omega

theorem known_open (hd : ad.devices = []) (hk : Known { w with
      adapters := alloc w.adapters ad
      adapterList := w.adapterList ++ [w.adapters.next] } c d) : Known w c d := by
  have hmem := hk.mem
  rw [devicesOf_open hd] at hmem
  refine ⟨hk.cell, ?_, hmem⟩
  rcases List.mem_append.mp hk.owner with ho | ho
  · exact ho
  · rw [List.mem_singleton.mp ho, devicesOf, cell_next] at hmem
    cases hmem

theorem letGo_keep (hl : ∀ a ∈ w.adapterList, a ∈ w'.adapterList)
    (hf : w'.freedAdapters = w.freedAdapters) : LetGo w w' := by
  refine ⟨fun a ha hn => absurd (hl a ha) hn, fun a ha hn => ?_⟩
  rw [hf] at ha
  exact absurd ha hn

theorem fromId_cell {id : CString} (h : gattlibAdapterFromId w id = some a) :
    ∃ ad, w.adapters.cell a = some ad := by
  have hp := List.find?_some h
  cases hc : w.adapters.cell a with
  | none =>
    rw [hc] at hp
    cases hp
  | some ad => exact ⟨ad, rfl⟩

/-- A step that only touches the opens that are pending and the threads that are created. -/
theorem dropped_pending (hg : Governed w) (po : List CString) (dc : Nat → Nat) :
    Dropped w { w with
      pendingOpens := po
      discoveredCreated := dc } := by
  have ha := hg.accounts
  exact ⟨⟨ha.balance, ha.matched, ha.counted, ha.freed, ha.once, ha.fresh⟩,
    fun c d hk he => hg.settled c d ⟨hk.cell, hk.owner, hk.mem⟩ he,
    letGo_keep (fun _ h => h) rfl⟩

theorem dropped_append (hg : Governed w) (name : CString) (proxy : Nat) :
    Dropped w (gattlibAdapterOpenAppend w name proxy) := by
  have hnew : (newAdapter (adapterObjectPath name) name proxy).devices = [] := rfl
  have hone : (newAdapter (adapterObjectPath name) name proxy).referenceCounter = 1 := rfl
  have hacc := accounts_append hg.accounts hone (w.adapterList ++ [w.adapters.next])
  refine ⟨accounts_noteOpen ⟨hacc.balance, hacc.matched, hacc.counted, hacc.freed, hacc.once,
    hacc.fresh⟩, ?_, letGo_keep (fun _ h => List.mem_append_left _ h) rfl⟩
  have hk : ∀ c d, Known { w with
      pendingOpens := w.pendingOpens.erase name
      adapters := alloc w.adapters (newAdapter (adapterObjectPath name) name proxy)
      adapterList := w.adapterList ++ [w.adapters.next] } c d → Known w c d :=
    fun c d hk => known_open hnew ⟨hk.cell, hk.owner, hk.mem⟩
  exact settled_noteOpen hg.accounts hg.settled hk rfl rfl

/-- The thread of a discovery takes a reference if the adapter is listed. -/
theorem dropped_thread (hg : Governed w) (a : Nat) :
    Dropped w (gattlibDiscoveredDeviceThread w a) := by
  have hplain := dropped_pending hg w.pendingOpens
    (Function.update w.discoveredCreated a (w.discoveredCreated a - 1))
  unfold gattlibDiscoveredDeviceThread
  dsimp only
  split
  · exact hplain
  · next hv =>
    split
    · exact hplain
    · have hlisted := (valid_iff _ _).mp ((Bool.not_eq_false _).mp hv)
      obtain ⟨ad, had⟩ := hg.sound.sound.wellFormed.live a hlisted
      have href := accounts_ref hplain.accounts had
      refine ⟨accounts_hold href, fun c d hk he => ?_, letGo_keep (fun _ h => h) rfl⟩
      have hk' : Known (gattlibAdapterRef w a) c d := ⟨hk.cell, hk.owner, hk.mem⟩
      exact hg.settled c d (known_adapter hk' (fun _ => rfl)) he

theorem dropped_adapterStep {e : AdapterEvent} (hg : Governed w)
    (hm : Matched w (.adapter e)) (hs : adapterStep w e = some w') : Dropped w w' := by
  cases e with
  | openLookup name =>
    cases hs
    unfold gattlibAdapterOpenLookup
    split
    · next a hf =>
      obtain ⟨ad, had⟩ := fromId_cell hf
      refine ⟨accounts_noteOpen (accounts_ref hg.accounts had), ?_, letGo_keep (fun _ h => h) rfl⟩
      exact settled_noteOpen hg.accounts hg.settled
        (fun c d hk => known_adapter hk (fun _ => rfl)) rfl rfl
    · exact dropped_pending hg _ w.discoveredCreated
  | openFails name =>
    simp only [adapterStep, Option.ite_none_right_eq_some, Option.some.injEq] at hs
    obtain ⟨_, rfl⟩ := hs
    exact dropped_pending hg _ w.discoveredCreated
  | openAppend name adapterProxy =>
    simp only [adapterStep, Option.ite_none_right_eq_some, Option.some.injEq] at hs
    obtain ⟨_, rfl⟩ := hs
    exact dropped_append hg name adapterProxy
  | close adapter discovering stop =>
    cases hs
    exact dropped_close hg hm
  | closeCheck adapter =>
    simp only [adapterStep, Option.ite_none_right_eq_some, Option.some.injEq] at hs
    obtain ⟨hpos, rfl⟩ := hs
    refine ⟨accounts_check hg.accounts hpos, ?_, ?_⟩
    · unfold closeCheck
      split
      · exact hg.settled
      · exact fun c d hk he => hg.settled c d ⟨hk.cell, hk.owner, hk.mem⟩ he
    · unfold closeCheck
      split
      · exact letGo_keep (fun _ h => h) rfl
      · exact letGo_keep (fun _ h => h) rfl
  | closeFinish adapter =>
    simp only [adapterStep, Option.ite_none_right_eq_some, Option.some.injEq] at hs
    obtain ⟨hpos, rfl⟩ := hs
    have hdrop := dropped_unref (systemSound_counts hg.sound _ _ _ _ _ _ _ _ _)
      (accounts_finish hg.accounts hpos)
      (fun c d hk he => hg.settled c d ⟨hk.cell, hk.owner, hk.mem⟩ he)
    exact ⟨hdrop.accounts, hdrop.settled, ⟨hdrop.letGo.removed, hdrop.letGo.idle⟩⟩
  | discoveredThread adapter =>
    simp only [adapterStep, Option.ite_none_right_eq_some, Option.some.injEq] at hs
    obtain ⟨_, rfl⟩ := hs
    exact dropped_thread hg adapter
  | discoveredReturns adapter =>
    simp only [adapterStep, Option.ite_none_right_eq_some, Option.some.injEq] at hs
    obtain ⟨hpos, rfl⟩ := hs
    have hdrop := dropped_unref (systemSound_counts hg.sound _ _ _ _ _ _ _ _ _)
      (accounts_returns hg.accounts hpos)
      (fun c d hk he => hg.settled c d ⟨hk.cell, hk.owner, hk.mem⟩ he)
    exact ⟨hdrop.accounts, hdrop.settled, ⟨hdrop.letGo.removed, hdrop.letGo.idle⟩⟩

/-! The steps of the connection side -/

/-- A step keeps the devices of an adapter without an open DISCONNECTED. -/
def Settles (w x : World) : Prop :=
  ∀ c e, Known x c e → e.state ≠ .disconnected →
    InUse w e.adapter ∨ ∃ d, Known w c d ∧ d.adapter = e.adapter ∧ d.state ≠ .disconnected

theorem settles_known (h : ∀ c e, Known x c e → Known w c e) : Settles w x :=
  fun c e hk hs => Or.inr ⟨e, h c e hk, rfl, hs⟩

theorem settled_settles (hs : Settles w x) (h : Settled w) (hc : x.closes = w.closes)
    (ho : x.opens = w.opens) : Settled x := by
  intro c e hk he
  rw [hc, ho] at he
  by_contra hne
  rcases hs c e hk hne with hu | ⟨d, hd, ha, hd'⟩
  · exact Nat.ne_of_lt hu he
  · rw [← ha] at he
    exact hd' (h c d hd he)

/-- The record of one device is rewritten. -/
theorem settles_record {e : Device} (hk : Known w c d)
    (hcell : ∀ p, x.devices.cell p = if p = c then some e else w.devices.cell p)
    (hl : x.adapterList = w.adapterList) (hd : ∀ b, devicesOf x b = devicesOf w b)
    (ha : e.adapter = d.adapter)
    (hs : e.state ≠ .disconnected → InUse w d.adapter ∨ d.state ≠ .disconnected) :
    Settles w x := by
  intro p e' hp hne
  have hc := hp.cell
  rw [hcell] at hc
  by_cases hpc : p = c
  · rw [if_pos hpc, Option.some.injEq] at hc
    subst hc
    rw [ha]
    rcases hs hne with hu | hd'
    · exact Or.inl hu
    · exact Or.inr ⟨d, hpc ▸ hk, rfl, hd'⟩
  · rw [if_neg hpc] at hc
    exact Or.inr ⟨e', ⟨hc, hl ▸ hp.owner, hd e'.adapter ▸ hp.mem⟩, rfl, hne⟩

theorem settles_store {e : Device} {l : Ledger ConnectionResource} (hk : Known w c d)
    (ha : e.adapter = d.adapter)
    (hs : e.state ≠ .disconnected → InUse w d.adapter ∨ d.state ≠ .disconnected) :
    Settles w (store w c e l) :=
  settles_record hk (store_cell hk.cell) rfl (fun _ => rfl) ha hs

theorem settles_append (hw : WellFormed w) (ha : a ∈ w.adapterList) (id : CString) :
    Settles w (appendDevice w a (newDevice w a id .disconnected)) := by
  intro p e hp hne
  have hcell := hp.cell
  have hnew : (appendDevice w a (newDevice w a id .disconnected)).devices.cell w.devices.next =
      some (newDevice w a id .disconnected) := alloc_self _ _
  by_cases hpn : p = w.devices.next
  · subst p
    rw [hnew, Option.some.injEq] at hcell
    subst hcell
    exact absurd rfl hne
  · have hmem := hp.mem
    have hold : (appendDevice w a (newDevice w a id .disconnected)).devices.cell p =
        w.devices.cell p := alloc_ne _ _ hpn
    rw [hold] at hcell
    refine Or.inr ⟨e, ⟨hcell, hp.owner, ?_⟩, rfl, hne⟩
    by_cases hea : e.adapter = a
    · rw [hea, devicesOf_append (hw.live a ha), List.mem_append, List.mem_singleton] at hmem
      rw [hea]
      exact hmem.resolve_right hpn
    · rw [devicesOf_append_ne hea] at hmem
      exact hmem

theorem settles_drop (hw : WellFormed w) (hk : Known w c d) :
    Settles w (dropDevice w d.adapter c) := by
  apply settles_known
  intro p e hp
  have hlist : (dropDevice w d.adapter c).adapterList = w.adapterList := by
    obtain ⟨devices, he⟩ := unref_frame (removeDevice w d.adapter c) c
    rw [dropDevice, he]
    rfl
  have howner := hp.owner
  rw [hlist] at howner
  have hpc : p ≠ c := by
    rintro rfl
    have hv := known_valid hp
    rw [valid_drop_self hw hk] at hv
    cases hv
  have hcell := hp.cell
  rw [cell_drop_ne hpc] at hcell
  refine ⟨hcell, howner, ?_⟩
  have hmem := hp.mem
  by_cases hea : e.adapter = d.adapter
  · rw [hea, devicesOf_drop] at hmem
    rw [hea]
    exact List.mem_of_mem_erase hmem
  · rw [devicesOf_drop_ne hea] at hmem
    exact hmem

theorem settles_returns (h : Sound w) (hr : 0 < w.connectedRunning c) :
    Settles w (connectedHandlerReturns w c) := by
  obtain ⟨d, hd⟩ := alive_of_running h hr
  intro p e hp hne
  have howner := hp.owner
  have hmem := hp.mem
  have hcell := hp.cell
  rw [returns_list] at howner
  rw [returns_devicesOf] at hmem
  by_cases hpc : p = c
  · subst p
    have hself : (connectedHandlerReturns w c).devices.cell c = _ := unref_cell hd
    rw [hself, Option.ite_none_right_eq_some, Option.some.injEq] at hcell
    obtain ⟨_, rfl⟩ := hcell
    exact Or.inr ⟨d, ⟨hd, howner, hmem⟩, rfl, hne⟩
  · have hother : (connectedHandlerReturns w c).devices.cell p = w.devices.cell p :=
      unref_cell_ne w hpc
    rw [hother] at hcell
    exact Or.inr ⟨e, ⟨hcell, howner, hmem⟩, rfl, hne⟩

theorem settles_attempted (hw : WellFormed w) (hk : Known w c d) {id : CString}
    (hid : fold d.deviceId = fold id) (hs : d.state = .disconnected) {cb data : Nat}
    {co : ConnectOutcome} (hm : Matched w (.device (.connect d.adapter id cb data co))) :
    Settles w (attempted w c d cb data co) := by
  have hf := known_found hw hk hid
  have hstate : gattlibDeviceGetState w d.adapter id = .disconnected := by
    rw [getState_own hk hf, hs]
  cases co with
  | noProxy error =>
    have hu := hm (known_adapterValid hk) hstate
    exact settles_record hk (store_cell hk.cell) rfl (fun _ => rfl) rfl (fun _ => Or.inl hu)
  | refused proxy error =>
    exact settles_record hk (store_cell hk.cell) rfl (fun _ => rfl) rfl
      (fun hne => absurd rfl hne)
  | accepted proxy =>
    have hu := hm (known_adapterValid hk) hstate
    exact settles_record hk (store_cell hk.cell) rfl (fun _ => rfl) rfl (fun _ => Or.inl hu)

theorem change_settles {e : DeviceEvent} (hsound : Sound w) (hx : Change w e x)
    (hm : Matched w (.device e)) : Settles w x := by
  have hw := hsound.wellFormed
  cases hx with
  | nothing e => exact settles_known (fun _ _ hk => hk)
  | appended he ha hf => exact settles_append hw ha _
  | rediscovered hk hid hp => exact settles_store hk rfl (fun hne => absurd rfl hne)
  | removed hk hid hs => exact settles_drop hw hk
  | failed hr => exact settles_known (fun _ _ hk => ⟨hk.cell, hk.owner, hk.mem⟩)
  | attempted hk hid hs => exact settles_attempted hw hk hid hs hm
  | unmanaged hk he hc => exact settles_store hk rfl (fun hne => Or.inr hne)
  | @resolved c d rest o hk he hc =>
    obtain ⟨adapters, hx, _, hd⟩ := managed_frame w d.adapter o.manager
    refine settles_record (e := resolved d o.objects (untimed d w.connectionLedger)) hk
      (fun p => ?_) ?_ hd rfl (fun _ => ?_)
    · rw [hx]
      exact store_cell (l := w.connectionLedger) hk.cell p
    · rw [hx]
      rfl
    · by_cases hs : d.state = .disconnected
      · left
        have hu := hm _ he rfl (known_valid hk) (by rw [adapterOf_known hk]; exact hc)
          (by rw [stateOf_known hk]; exact hs)
        rw [adapterOf_known hk] at hu
        exact hu
      · exact Or.inr hs
  | dropped hk he => exact settles_store hk rfl (fun hne => absurd rfl hne)
  | expired hk hl => exact settles_store hk rfl (fun hne => Or.inr hne)
  | expiredStale hv hl => exact settles_known (fun _ _ hk => ⟨hk.cell, hk.owner, hk.mem⟩)
  | disconnecting hk hs =>
    refine settles_store hk rfl (fun _ => Or.inr ?_)
    rw [hs]
    decide
  | @referenced c d hk =>
    have hstore : Settles w (store w c (referenced d) w.connectionLedger) :=
      settles_store hk rfl (fun hne => Or.inr hne)
    exact fun p e hp => hstore p e ⟨hp.cell, hp.owner, hp.mem⟩
  | dereferenced hr => exact settles_returns hsound hr
  | registered hk => exact settles_store hk rfl (fun hne => Or.inr hne)

theorem settled_same (h : Settled w) (hs : SameCounts w x) (hk : Settles w x) : Settled x :=
  settled_settles hk h hs.closes hs.opens

/-- What a step does to the references, whoever takes it. -/
theorem dropped_step {e : SystemEvent} (hg : Governed w) (hm : Matched w e)
    (hs : systemStep w e = some w') : Dropped w w' := by
  cases e with
  | device e =>
    have hw := hg.sound.sound.wellFormed
    have hsame := sameCounts_device (deviceStep_frame hw hs)
    obtain ⟨x, em, cc, dc, hx, rfl⟩ := deviceStep_outcome hw hs
    have hsettles := change_settles hg.sound.sound hx hm
    refine ⟨accounts_same hg.accounts hsame, ?_, letGo_same hsame⟩
    exact settled_same hg.settled hsame
      (fun c e hk => hsettles c e ⟨hk.cell, hk.owner, hk.mem⟩)
  | scan e =>
    have hframe := scanStep_frame hs
    have hsame := sameCounts_scan hframe
    refine ⟨accounts_same hg.accounts hsame, ?_, letGo_same hsame⟩
    exact settled_same hg.settled hsame (settles_known (fun c e hk => known_scan hframe hk))
  | adapter e => exact dropped_adapterStep hg hm hs

theorem governed_step {e : SystemEvent} (hg : Governed w) (hm : Matched w e)
    (hs : systemStep w e = some w') : Governed w' :=
  have hd := dropped_step hg hm hs
  ⟨systemStep_sound hg.sound hs, hd.accounts, hd.settled⟩

theorem governed_freedOnce (hg : Governed w) : FreedOnce w := by
  refine ⟨hg.accounts.once, fun a ha hl => ?_, hg.accounts.fresh⟩
  obtain ⟨ad, had⟩ := hg.sound.sound.wellFormed.live a hl
  rw [(hg.accounts.freed a ha).1] at had
  cases had

theorem started_governed (h : Started w) : Governed w := by
  refine ⟨started_sound h, ?_, ?_⟩
  · cases h
    exact ⟨fun _ => rfl, fun _ => Nat.le_refl _, fun _ _ h => (by cases h),
      fun _ h => (by cases h), List.nodup_nil, rfl⟩
  · cases h
    exact fun c d hk => by cases hk.cell

end

theorem governed_preserved : Preserves systemStep Matched Governed :=
  fun _ _ _ hg hm hs => governed_step hg hm hs

/-- In a run that keeps its closes and its connections within the opens, an adapter
is let go once, by nobody's leave but its last user's. -/
theorem adapters_freed_once {tr : List (World × SystemEvent × World)} {w : World}
    (h : Run systemStep Started tr w) (hm : ∀ x ∈ tr, Matched x.1 x.2.1) :
    ∀ x ∈ tr, LetGo x.1 x.2.2 ∧ FreedOnce x.2.2 := by
  obtain ⟨_, hsteps⟩ := run_steps (fun _ => started_governed) governed_preserved h hm
  intro x hx
  obtain ⟨hg, hs⟩ := hsteps x hx
  exact ⟨(dropped_step hg (hm x hx) hs).letGo, governed_freedOnce (governed_step hg (hm x hx) hs)⟩

/-- A callback runs while the adapter, opened once, is closed twice. -/
theorem adapter_freed_in_use : ¬∀ (tr : List (World × SystemEvent × World)) (w : World),
    Run systemStep Started tr w → ∀ x ∈ tr, LetGo x.1 x.2.2 ∧ FreedOnce x.2.2 := by
  intro h
  have hscan := Run.next (e := .scan (.scanEnable 0 false scanRequest scanAnswer)) opened_run rfl
  have hadded := Run.next (e := .device (.objectAdded 0 devicePath answered)) hscan rfl
  have hthread := Run.next (e := .adapter (.discoveredThread 0)) hadded rfl
  have hclose := Run.next (e := .adapter (.close 0 false none)) hthread rfl
  have hrun := Run.next (e := .adapter (.close 0 false none)) hclose rfl
  have hidle := (h _ _ hrun _ List.mem_cons_self).1.idle 0 (by decide) (by decide)
  exact absurd hidle.1 (by decide)

/-- Closed while a callback runs, the adapter is freed by the callback's thread. -/
theorem adapters_freed_once_callback : ∃ w, FreedOnce w ∧ w.freedAdapters = [0] := by
  have hscan := Run.next (e := .scan (.scanEnable 0 false scanRequest scanAnswer)) opened_run rfl
  have hadded := Run.next (e := .device (.objectAdded 0 devicePath answered)) hscan rfl
  have hthread := Run.next (e := .adapter (.discoveredThread 0)) hadded rfl
  have hclose := Run.next (e := .adapter (.close 0 false none)) hthread rfl
  have hrun := Run.next (e := .adapter (.discoveredReturns 0)) hclose rfl
  have honce := adapters_freed_once hrun (by decide)
  exact ⟨_, (honce _ List.mem_cons_self).2, rfl⟩

end Gattlib.Lifetime
