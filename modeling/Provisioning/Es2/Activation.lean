import Provisioning.Es2.Client
/-!
# Activation

A profile is taken from available over allocated to released, as far as its state allows.

* `ActivationStep` : where a profile stands; `ActivationStep.next?` is the function that it needs;
* `Client.activate` : asks for the profile, orders and confirms it as needed, and asks again.
-/

namespace Provisioning.Es2

inductive ActivationStep
  | needsDownload
  | needsConfirm
  /-- The profile has an activation code. -/
  | provisioned
  /-- No profile, or one in a state that activation has no part in. -/
  | unknown
  deriving DecidableEq, Repr

namespace ActivationStep

/-- An activation code wins over any state. -/
def of : Option ProfileStatus → ActivationStep
  | none => unknown
  | some p =>
    if p.activationCode?.isSome then provisioned
    else
      match p.state with
      | .available => needsDownload
      | .allocated => needsConfirm
      | _ => unknown

def next? : ActivationStep → Option Command
  | needsDownload => some .downloadOrder
  | needsConfirm => some .confirmOrder
  | provisioned | unknown => none

def name : ActivationStep → String
  | needsDownload => "NeedsDownload"
  | needsConfirm => "NeedsConfirm"
  | provisioned => "Provisioned"
  | unknown => "Unknown"

end ActivationStep

def isAllocated (p : Option ProfileStatus) : Bool := p.any (·.state == .allocated)

def flagText (b : Bool) : String := if b then "true" else "false"

def startedEvent (iccid : String) (step : ActivationStep) : Event :=
  { level := .info, message := "activation started",
    fields := [("iccid", iccid), ("step", step.name)] }

def orderedEvent (iccid : String) (allocated : Bool) : Event :=
  { level := .info, message := "download order issued",
    fields := [("iccid", iccid), ("allocated", flagText allocated)] }

def confirmedEvent (iccid : String) : Event :=
  { level := .info, message := "confirm order issued", fields := [("iccid", iccid)] }

def finishedEvent (iccid : String) (p : Option ProfileStatus) : Event :=
  { level := .info, message := "activation finished",
    fields := [("iccid", iccid), ("state", optionText (p.map (·.state.name)))] }

namespace Client

variable {σ : Type}

/-- Orders a profile if its step asks for that, and tells whether it has to be confirmed. After an
order, an activation code no longer keeps an allocated profile from being confirmed. -/
def orderIfNeeded (c : Client σ) (iccid : String) : ActivationStep → Call σ Bool
  | .needsDownload => do
    let _ ← c.downloadOrder iccid
    let allocated := isAllocated (← c.getStatus iccid)
    emit (orderedEvent iccid allocated)
    return allocated
  | .needsConfirm => return true
  | .provisioned | .unknown => return false

/-- Any failure ends the activation. -/
def activate (c : Client σ) (iccid : String) : Call σ (Option ProfileStatus) := do
  let step := ActivationStep.of (← c.getStatus iccid)
  emit (startedEvent iccid step)
  if ← c.orderIfNeeded iccid step then
    let _ ← c.confirmOrder iccid
    emit (confirmedEvent iccid)
  let last ← c.getStatus iccid
  emit (finishedEvent iccid last)
  return last

end Client

end Provisioning.Es2
