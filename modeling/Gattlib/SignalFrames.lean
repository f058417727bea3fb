import Gattlib.HandlerFrames
import Gattlib.StateMachine

namespace Gattlib.SignalFrames

open Library.Memory Library.Resources Library.Transition Gattlib.Strings Gattlib.State
open Gattlib.Registry Gattlib.RegistryFacts Gattlib.Connection Gattlib.Events Gattlib.Effects
open Gattlib.Changes Gattlib.Invariants Gattlib.Scan Gattlib.Adapters Gattlib.StateMachine
open Gattlib.StepOutcomes Gattlib.Frames Gattlib.SystemInvariants Gattlib.ScanFacts
open Gattlib.Discoveries

/-- No handler for a signal of an adapter is acquired. -/
def AcquiresNone (a : Nat) (l l' : Ledger ScanResource) : Prop :=
  ∀ r, r.owner = a → r.kind ≠ .scanTimer → Library.Resources.Live l' r →
    Library.Resources.Live l r

/-- A step that connects no handler to a signal of an adapter. -/
def ConnectsNone (a : Nat) (w w' : World) : Prop := AcquiresNone a w.scanLedger w'.scanLedger

section

variable {w w' x : World} {a b c t : Nat} {d d' : Device} {l l' l'' : Ledger ScanResource}

/-! The handlers of an adapter -/

theorem acquiresNone_trans (h : AcquiresNone a l l') (h' : AcquiresNone a l' l'') :
    AcquiresNone a l l'' :=
  fun r ho hk hl => h r ho hk (h' r ho hk hl)

theorem connectsNone_trans (h : ConnectsNone a w x) (h' : ConnectsNone a x w') :
    ConnectsNone a w w' :=
  acquiresNone_trans h h'

end

end Gattlib.SignalFrames
