import Evdi.Model.Framebuffer
import Evdi.Model.System

/-!
# The connector, and what the desktop knows of it

A connect and a disconnect let go of the painter's lock, and then have the DRM core look at the connector
(`drm_helper_hpd_irq_event`); a change is announced.  The desktop answers an announcement with a probe,
which asks for the status and, when that is connected, for the modes and the EDID.  A probe and a look of
the core hold `mode_config.mutex`, and nothing else writes the status or the property `EDID`; calls of
clients and threads of the driver do not take it.

* `evdiDetect`: the status;
* `Hotplug.Step`: a device with its clients and threads, the looks of the core and the probes, in any
  order, until the device is removed;
* `Hotplug.OrderlyStep`: nobody connects while the connector still counts as connected, and the desktop
  gets the EDID that it asks for;
* `Hotplug.CoreStep`: the core and the desktop alone, which probes in answer to an announcement.
-/

namespace Evdi

/-- `enum drm_connector_status`. -/
inductive ConnectorStatus
  | connected
  | disconnected
  | unknown
  deriving DecidableEq

/-- What the DRM core keeps of the connector: its status, and the property `EDID`. -/
structure Connector where
  status : ConnectorStatus
  edid : Option (List UInt8)
  deriving DecidableEq

/-- `evdi_painter_is_connected`. -/
def painterIsConnected (d : Device) : Bool := d.painter.any (·.isConnected)

/-- `evdi_detect`. -/
def evdiDetect (d : Device) : ConnectorStatus :=
  if painterIsConnected d then .connected else .disconnected

/-- `drm_connector_update_edid_property`, which answers `ret`. -/
def Connector.updateEdidProperty (ret : ℤ) (edid : Option (List UInt8)) (c : Connector) : Connector :=
  if ret = 0 then { c with edid := edid } else c

/-- A system with its connector. `hpds` counts the calls that have still to look at the connector,
`probing` is a probe that has found it connected and has still to ask for the modes, and `announced` a
change that no probe has answered. -/
structure Hotplug extends System where
  connector : Connector
  hpds : ℕ
  probing : Bool
  announced : Bool

namespace Hotplug

/-- What may happen. -/
inductive Action
  | system (a : System.Action)
  | hpdIrqEvent
  | probe
  | getModes (kmalloc : Bool) (updateEdidProperty addEdidModes : ℤ)

/-- The call ends with a look at the connector: it has connected or disconnected, or closed the file of
the owner. -/
def looks (d : Device) : System.Action → Bool
  | .client (.connect _ _ ret) => ret = 0
  | .client (.close file) => d.painter.bind (·.drmFilp) = some file
  | _ => false

/-- The status is asked for, and a change is announced. -/
def detect (s : Hotplug) : Hotplug :=
  { s with
    connector := { s.connector with status := evdiDetect s.device }
    announced := s.announced || s.connector.status != evdiDetect s.device }

/-- The first half of a probe, which ends it when the connector is not connected. -/
def probe (s : Hotplug) : Hotplug :=
  let s := { s with announced := false }.detect
  if s.connector.status = .connected then { s with probing := true }
  else { s with connector := s.connector.updateEdidProperty 0 none }

/-- The second half of a probe: `evdi_get_modes`. -/
def getModes (kmalloc : Bool) (updateEdidProperty addEdidModes : ℤ) (s : Hotplug) : Hotplug :=
  { s with
    connector := s.connector.updateEdidProperty updateEdidProperty
      (Evdi.getModes kmalloc updateEdidProperty addEdidModes s.device).2.head?.join
    probing := false }

/-- One step. -/
inductive Step : Hotplug → Action → Hotplug → Prop
  | system {s : Hotplug} {t : System} {a : System.Action} : a ≠ .cleanup →
      System.Step s.toSystem a t → Step s (.system a)
        { s with toSystem := t, hpds := if looks s.device a then s.hpds + 1 else s.hpds }
  | hpdIrqEvent {s : Hotplug} : s.probing = false → 0 < s.hpds →
      Step s .hpdIrqEvent { s.detect with hpds := s.hpds - 1 }
  | probe {s : Hotplug} : s.probing = false → Step s .probe s.probe
  | getModes {s : Hotplug} (kmalloc : Bool) (updateEdidProperty addEdidModes : ℤ) : s.probing = true →
      Step s (.getModes kmalloc updateEdidProperty addEdidModes)
        (s.getModes kmalloc updateEdidProperty addEdidModes)

/-- Whoever connects does so while the connector does not count as connected, the EDID can be copied, and
the property can be set. -/
def Orderly (s : Hotplug) : Action → Prop
  | .system (.client (.connect cmd _ ret)) =>
      cmd.connected ≠ 0 → ret = 0 → s.connector.status ≠ .connected
  | .getModes kmalloc updateEdidProperty _ => kmalloc = true ∧ updateEdidProperty = 0
  | _ => True

/-- A step in a run where nobody takes the place of another client. -/
def OrderlyStep (s : Hotplug) (a : Action) (t : Hotplug) : Prop := Step s a t ∧ s.Orderly a

/-- A step of the core or of the desktop, which probes when a change was announced. -/
def CoreStep (s : Hotplug) (a : Action) (t : Hotplug) : Prop :=
  Step s a t ∧ (∀ b, a ≠ .system b) ∧ (a = .probe → s.announced = true)

/-- No call has still to look at the connector, no probe is under way, and every change that was
announced has been answered. -/
def Quiet (s : Hotplug) : Prop := s.hpds = 0 ∧ s.probing = false ∧ s.announced = false

/-- A fresh device, whose connector was never looked at. -/
def init (fgConsole : ℤ) (drm : DrmCore) : Hotplug where
  toSystem := System.init fgConsole drm
  connector := ⟨.unknown, none⟩
  hpds := 0
  probing := false
  announced := false

end Hotplug

end Evdi
